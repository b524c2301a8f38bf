import Northstar64.GuardedElf
import Northstar64.Library.BitMask

namespace Northstar64
open Results

structure LoadEntry where
  virtualAddress : Nat
  loadAddress : Nat
  fileOffset : Nat
  fileSize : Nat
  memorySize : Nat
  flags : Nat
  deriving DecidableEq

def ElfSegment.numbers (segment : ElfSegment) : LoadEntry where
  virtualAddress := segment.virtualAddress.toNat
  loadAddress := segment.loadAddress.toNat
  fileOffset := segment.fileOffset.toNat
  fileSize := segment.fileSize.toNat
  memorySize := segment.memorySize.toNat
  flags := segment.flags.toNat

def loadEntryAt (bytes : List Byte) (offset : Nat) : LoadEntry where
  virtualAddress := fieldAt bytes (offset + 16) 8
  loadAddress :=
    if fieldAt bytes (offset + 24) 8 = 0 then fieldAt bytes (offset + 16) 8
    else fieldAt bytes (offset + 24) 8
  fileOffset := fieldAt bytes (offset + 8) 8
  fileSize := fieldAt bytes (offset + 32) 8
  memorySize := fieldAt bytes (offset + 40) 8
  flags := fieldAt bytes (offset + 4) 4

def loadEntries (bytes : List Byte) : List LoadEntry :=
  ((List.range (tableCount bytes)).filter
    (fun index => fieldAt bytes (entryOffset bytes index) 4 = 1)).map
      (fun index => loadEntryAt bytes (entryOffset bytes index))

structure Faithful (bytes : List Byte) (image : ElfImage) : Prop where
  entry : image.entry.toNat = fieldAt bytes 24 8
  segments : (image.segments.map ElfSegment.numbers).Perm (loadEntries bytes)
  sorted : image.segments.Pairwise
    (fun first second => first.loadAddress.toNat ≤ second.loadAddress.toNat)
  inFile : ∀ segment ∈ image.segments,
    segment.fileOffset.toNat + segment.fileSize.toNat ≤ bytes.length
  fits : ∀ segment ∈ image.segments, segment.fileSize.toNat ≤ segment.memorySize.toNat
  identity : ∀ segment ∈ image.segments, segment.loadAddress = segment.virtualAddress
  inRange : ∀ segment ∈ image.segments,
    segment.loadAddress.toNat + segment.memorySize.toNat ≤ 2 ^ 64
  executable : ∃ segment ∈ image.segments, segment.flags.getLsbD 0 = true ∧
    segment.virtualAddress.toNat ≤ image.entry.toNat ∧
    image.entry.toNat < segment.virtualAddress.toNat + segment.memorySize.toNat

theorem filtered_numbers {bytes : List Byte} {indices : List Nat}
    {found : List (Option ElfSegment)}
    (h : List.Forall₂ (fun index segment => segment.map ElfSegment.numbers =
      if fieldAt bytes (entryOffset bytes index) 4 = 1
        then some (loadEntryAt bytes (entryOffset bytes index)) else none) indices found) :
    (found.flatMap Option.toList).map ElfSegment.numbers =
      (indices.filter (fun index => fieldAt bytes (entryOffset bytes index) 4 = 1)).map
        (fun index => loadEntryAt bytes (entryOffset bytes index)) := by
  induction h with
  | nil => rfl
  | @cons index segment indices found hsegment _ ih =>
    rw [List.flatMap_cons, List.map_append, ih, List.filter_cons]
    cases segment with
    | none =>
      have hother : ¬ fieldAt bytes (entryOffset bytes index) 4 = 1 := by
        intro htype
        rw [if_pos htype] at hsegment
        cases hsegment
      simp [hother]
    | some segment =>
      have htype : fieldAt bytes (entryOffset bytes index) 4 = 1 := by
        by_contra hother
        rw [if_neg hother] at hsegment
        cases hsegment
      rw [if_pos htype] at hsegment
      simp [htype, Option.some.inj hsegment]

def SegmentFields.numbers (fields : SegmentFields) : LoadEntry where
  virtualAddress := fields.virtualAddress.toNat
  loadAddress := fields.loadAddress.toNat
  fileOffset := fields.fileOffset.toNat
  fileSize := fields.fileSize.toNat
  memorySize := fields.memorySize.toNat
  flags := fields.flags.toNat

theorem checkFields_numbers {bytes : List Byte} {fields : SegmentFields} {segment : ElfSegment}
    (h : checkFields bytes fields = .ok segment) : segment.numbers = fields.numbers := by
  unfold checkFields at h
  split_ifs at h
  all_goals
    obtain ⟨_, -, h⟩ := bind_eq_ok.mp h
    obtain ⟨_, -, h⟩ := bind_eq_ok.mp h
    cases h
  rfl

section Entry
variable {span : ByteSpan} {offset : Nat} (hentry : offset + 56 ≤ span.bytes.length)
include hentry

theorem entryField {bits : Nat} (hbits : bits / 8 * 8 = bits) (hwide : bits ≤ 64)
    {position : BitVec 64} (hposition : position.toNat < 56) {value : BitVec bits}
    (h : readLittleEndian bits span.bytes (BitVec.ofNat 64 offset + position) = .ok value) :
    value.toNat = fieldAt span.bytes (offset + position.toNat) (bits / 8) := by
  have hlength := span.length_lt
  have hplace : (BitVec.ofNat 64 offset + position).toNat = offset + position.toNat := by
    rw [BitVec.toNat_add, BitVec.toNat_ofNat, Nat.mod_eq_of_lt (by omega),
      Nat.mod_eq_of_lt (by omega)]
  rw [← hplace]
  exact ((readLittleEndian_eq_ok hbits hwide).mp h).2

theorem readFields_numbers {fields : SegmentFields}
    (h : readFields span.bytes (BitVec.ofNat 64 offset) = .ok fields) :
    fields.numbers = loadEntryAt span.bytes offset := by
  obtain ⟨flags, hflags, h⟩ := bind_eq_ok.mp h
  obtain ⟨fileOffset, hfileOffset, h⟩ := bind_eq_ok.mp h
  obtain ⟨virtualAddress, hvirtual, h⟩ := bind_eq_ok.mp h
  obtain ⟨physicalAddress, hphysical, h⟩ := bind_eq_ok.mp h
  obtain ⟨fileSize, hfileSize, h⟩ := bind_eq_ok.mp h
  obtain ⟨memorySize, hmemorySize, h⟩ := bind_eq_ok.mp h
  obtain ⟨alignment, -, h⟩ := bind_eq_ok.mp h
  cases h
  have hflags := entryField hentry rfl (by decide) (by decide) hflags
  have hfileOffset := entryField hentry rfl (by decide) (by decide) hfileOffset
  have hvirtual := entryField hentry rfl (by decide) (by decide) hvirtual
  have hphysical := entryField hentry rfl (by decide) (by decide) hphysical
  have hfileSize := entryField hentry rfl (by decide) (by decide) hfileSize
  have hmemorySize := entryField hentry rfl (by decide) (by decide) hmemorySize
  have hzero : physicalAddress = 0#64 ↔ fieldAt span.bytes (offset + 24) 8 = 0 := by
    rw [← BitVec.toNat_inj, hphysical]
    rfl
  unfold SegmentFields.numbers SegmentFields.loadAddress loadEntryAt
  simp only [hzero, apply_ite BitVec.toNat, hflags, hfileOffset, hvirtual, hphysical, hfileSize,
    hmemorySize]
  rfl

theorem readSegment_numbers {found : Option ElfSegment}
    (h : readSegment span.bytes (BitVec.ofNat 64 offset) = .ok found) :
    found.map ElfSegment.numbers =
      if fieldAt span.bytes offset 4 = 1 then some (loadEntryAt span.bytes offset) else none := by
  have hlength := span.length_lt
  have hplace : (BitVec.ofNat 64 offset).toNat = offset := by
    rw [BitVec.toNat_ofNat, Nat.mod_eq_of_lt (by omega)]
  obtain ⟨type, htype, h⟩ := bind_eq_ok.mp h
  have htype := ((readLittleEndian_eq_ok rfl (by decide)).mp htype).2
  rw [hplace] at htype
  have hloadable : type = kLoadableSegment ↔ fieldAt span.bytes offset 4 = 1 := by
    rw [← BitVec.toNat_inj, htype]
    rfl
  by_cases hother : type ≠ kLoadableSegment
  · rw [if_pos hother] at h
    cases h
    rw [if_neg (mt hloadable.mpr hother)]
    rfl
  · rw [if_neg hother] at h
    obtain ⟨fields, hfields, h⟩ := bind_eq_ok.mp h
    obtain ⟨segment, hsegment, h⟩ := bind_eq_ok.mp h
    cases h
    rw [if_pos (hloadable.mp (not_not.mp hother)), Option.map_some, checkFields_numbers hsegment,
      readFields_numbers hentry hfields]

end Entry

theorem readTable_numbers {span : ByteSpan} {table : ProgramTable}
    (h : readTable span.bytes = .ok table) :
    table.segments.map ElfSegment.numbers = loadEntries span.bytes := by
  obtain ⟨haccepted, -, found, hfound, hsegments⟩ := readTable_iff.mp h
  rw [hsegments]
  refine filtered_numbers (List.forall₂_iff_get.mpr ?_)
  obtain ⟨hcount, hget⟩ := List.forall₂_iff_get.mp hfound
  refine ⟨hcount, fun i hindex hi => readSegment_numbers ?_ (hget i hindex hi)⟩
  have hlt : i < tableCount span.bytes := by simpa using hindex
  have htable := haccepted.table
  unfold entryOffset at htable ⊢
  simp only [List.get_eq_getElem, List.getElem_range]
  omega

theorem entryIsExecutable_iff {entry : Address} {segments : List ElfSegment} :
    entryIsExecutable entry segments = true ↔
      ∃ segment ∈ segments, segment.flags.getLsbD 0 = true ∧
        segment.virtualAddress.toNat ≤ entry.toNat ∧
        entry.toNat < segment.virtualAddress.toNat + segment.memorySize.toNat := by
  have hflag (flags : BitVec 32) : flags &&& 1#32 ≠ 0#32 ↔ flags.getLsbD 0 = true := by
    rw [ne_eq, show 1#32 = BitVec.twoPow 32 0 from rfl,
      BitMask.and_twoPow_eq_zero_iff _ (by decide), Bool.not_eq_false]
  simp only [entryIsExecutable, List.any_eq_true, Bool.and_eq_true, decide_eq_true_eq,
    ElfSegment.executable, hflag, ge_iff_le, and_assoc]
  refine exists_congr (fun segment => and_congr_right (fun _ => and_congr_right (fun _ => ?_)))
  rw [BitVec.le_def]
  refine and_congr_right (fun hle => ?_)
  rw [BitVec.lt_def, BitVec.toNat_sub_of_le (BitVec.le_def.mpr hle)]
  omega

theorem parse_faithful {sorting : SegmentSort} {span : ByteSpan} {image : ElfImage}
    (h : parse sorting span.bytes = .ok image) : Faithful span.bytes image := by
  have hinFile := parse_inFile h
  obtain ⟨table, hread, -, -, hentry, rfl⟩ := parse_eq_ok.mp h
  exact {
    entry := ((readLittleEndian_eq_ok rfl (by decide)).mp (readTable_ok hread).1).2
    segments := by
      rw [← readTable_numbers hread]
      exact (sorting.perm table.segments).map _
    sorted := (sorting.sorted table.segments).imp (fun hle => BitVec.le_def.mp hle)
    inFile := hinFile
    fits := fun segment _ => BitVec.le_def.mp segment.payload_fits
    identity := fun segment _ => segment.identity
    inRange := fun segment _ => segment.end_le
    executable := entryIsExecutable_iff.mp hentry }

theorem parse_in_bounds_and_faithful (sorting : SegmentSort) (span : ByteSpan) :
    Guarded.parse sorting span.bytes = Guarded.thrown (parse sorting span.bytes) ∧
    ((∃ error, parse sorting span.bytes = .error error) ∨
      ∃ image, parse sorting span.bytes = .ok image ∧ Faithful span.bytes image) := by
  refine ⟨Guarded.parse_eq sorting span, ?_⟩
  cases hresult : parse sorting span.bytes with
  | error error => exact .inl ⟨error, rfl⟩
  | ok image => exact .inr ⟨image, rfl, parse_faithful hresult⟩

end Northstar64
