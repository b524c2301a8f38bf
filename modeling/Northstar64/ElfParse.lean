import Northstar64.Elf
import Northstar64.Library.Results

namespace Northstar64
open Results

theorem rejectIf_eq_ok {condition : Bool} {what : Text} {value : Unit} :
    rejectIf condition what = .ok value ↔ condition = false := by
  cases condition <;> simp [rejectIf]

theorem requireRange_eq_ok {bytes : List Byte} {offset size : BitVec 64} {description : Text}
    {value : Unit} :
    requireRange bytes offset size description = .ok value ↔
      offset.toNat + size.toNat ≤ bytes.length := by
  rw [requireRange, rejectIf_eq_ok]
  simp only [gt_iff_lt, Bool.or_eq_false_iff, decide_eq_false_iff_not, Nat.not_lt]
  omega

def InFile (bytes : List Byte) (segment : ElfSegment) : Prop :=
  segment.fileOffset.toNat + segment.fileSize.toNat ≤ bytes.length

theorem checkFields_inFile {bytes : List Byte} {fields : SegmentFields} {segment : ElfSegment}
    (h : checkFields bytes fields = .ok segment) : InFile bytes segment := by
  unfold checkFields at h
  split_ifs at h
  all_goals
    obtain ⟨_, hrange, h⟩ := bind_eq_ok.mp h
    obtain ⟨_, -, h⟩ := bind_eq_ok.mp h
    cases h
  exact requireRange_eq_ok.mp hrange

theorem readSegment_inFile {bytes : List Byte} {offset : BitVec 64} {segment : ElfSegment}
    (h : readSegment bytes offset = .ok (some segment)) : InFile bytes segment := by
  obtain ⟨type, -, h⟩ := bind_eq_ok.mp h
  split_ifs at h
  · cases h
  · obtain ⟨fields, -, h⟩ := bind_eq_ok.mp h
    obtain ⟨checked, hchecked, h⟩ := bind_eq_ok.mp h
    cases h
    exact checkFields_inFile hchecked

theorem readSegments_forall {P : ElfSegment → Prop} {bytes : List Byte}
    {programOffset entrySize : BitVec 64} {remaining index : Nat} {before segments : List ElfSegment}
    (hread : ∀ offset segment, readSegment bytes offset = .ok (some segment) → P segment)
    (hbefore : ∀ segment ∈ before, P segment)
    (h : readSegments bytes programOffset entrySize remaining index before = .ok segments) :
    ∀ segment ∈ segments, P segment := by
  induction remaining generalizing index before with
  | zero =>
    cases h
    exact hbefore
  | succ remaining ih =>
    obtain ⟨found, hfound, h⟩ := bind_eq_ok.mp h
    refine ih (fun segment hmem => ?_) h
    rw [List.mem_append, Option.mem_toList] at hmem
    rcases hmem with hmem | hmem
    · exact hbefore segment hmem
    · rw [hmem] at hfound
      exact hread _ segment hfound

variable {sorting : SegmentSort} {bytes : List Byte} {image : ElfImage}

theorem acceptSegments_eq_ok {entry : Address} {segments : List ElfSegment} :
    acceptSegments sorting entry segments = .ok image ↔
      segments ≠ [] ∧ segmentsOverlap (sorting.sort segments) = false ∧
        entryIsExecutable entry (sorting.sort segments) = true ∧
        image = ⟨entry, sorting.sort segments⟩ := by
  simp only [acceptSegments, bind_eq_ok, rejectIf_eq_ok, pure, Except.pure, Except.ok.injEq,
    exists_and_left, exists_const, List.isEmpty_eq_false_iff, Bool.not_eq_false', ne_eq]
  constructor
  · rintro ⟨hne, hoverlap, hentry, rfl⟩
    exact ⟨hne, hoverlap, hentry, rfl⟩
  · rintro ⟨hne, hoverlap, hentry, rfl⟩
    exact ⟨hne, hoverlap, hentry, rfl⟩

theorem readTable_ok {table : ProgramTable} (h : readTable bytes = .ok table) :
    readLittleEndian 64 bytes 24#64 = .ok table.entry ∧
      ∃ programOffset entrySize count,
        readSegments bytes programOffset entrySize count 0 [] = .ok table.segments := by
  obtain ⟨_, -, h⟩ := bind_eq_ok.mp h
  obtain ⟨_, -, h⟩ := bind_eq_ok.mp h
  obtain ⟨_, -, h⟩ := bind_eq_ok.mp h
  obtain ⟨programOffset, -, h⟩ := bind_eq_ok.mp h
  obtain ⟨programEntrySize, -, h⟩ := bind_eq_ok.mp h
  obtain ⟨programCount, -, h⟩ := bind_eq_ok.mp h
  obtain ⟨_, -, h⟩ := bind_eq_ok.mp h
  obtain ⟨_, -, h⟩ := bind_eq_ok.mp h
  obtain ⟨_, -, h⟩ := bind_eq_ok.mp h
  obtain ⟨entry, hentry, h⟩ := bind_eq_ok.mp h
  obtain ⟨segments, hread, h⟩ := bind_eq_ok.mp h
  cases h
  exact ⟨hentry, _, _, _, hread⟩

theorem parse_eq_ok :
    parse sorting bytes = .ok image ↔
      ∃ table, readTable bytes = .ok table ∧ table.segments ≠ [] ∧
        segmentsOverlap (sorting.sort table.segments) = false ∧
        entryIsExecutable table.entry (sorting.sort table.segments) = true ∧
        image = ⟨table.entry, sorting.sort table.segments⟩ := by
  simp only [parse, bind_eq_ok, acceptSegments_eq_ok]

theorem parse_inFile (h : parse sorting bytes = .ok image) :
    ∀ segment ∈ image.segments, InFile bytes segment := by
  obtain ⟨table, hread, -, -, -, rfl⟩ := parse_eq_ok.mp h
  obtain ⟨-, _, _, _, hsegments⟩ := readTable_ok hread
  intro segment hmem
  exact readSegments_forall (fun _ _ => readSegment_inFile)
    (fun _ hnil => absurd hnil List.not_mem_nil) hsegments segment
    ((sorting.perm table.segments).mem_iff.mp hmem)

end Northstar64
