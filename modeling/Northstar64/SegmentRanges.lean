import Northstar64.ElfParse
import Northstar64.PhysicalMemory

namespace Northstar64
open Results

namespace ElfSegment

def range (segment : ElfSegment) : Set Nat :=
  Set.Ico segment.loadAddress.toNat (segment.loadAddress.toNat + segment.memorySize.toNat)

def EndsAtTop (segment : ElfSegment) : Prop :=
  segment.loadAddress.toNat + segment.memorySize.toNat = 2 ^ 64

def Hides (first second : ElfSegment) : Prop :=
  first.EndsAtTop ∧ first.loadAddress ≤ second.loadAddress ∧ second.memorySize ≠ 0#64

instance : DecidablePred EndsAtTop := fun segment =>
  inferInstanceAs (Decidable (segment.loadAddress.toNat + segment.memorySize.toNat = 2 ^ 64))

instance : DecidableRel Hides := fun first second =>
  inferInstanceAs (Decidable
    (first.EndsAtTop ∧ first.loadAddress ≤ second.loadAddress ∧ second.memorySize ≠ 0#64))

variable (segment : ElfSegment) {first second : ElfSegment}

theorem end_le : segment.loadAddress.toNat + segment.memorySize.toNat ≤ 2 ^ 64 := by
  have hlt := segment.loadAddress.isLt
  rcases segment.in_range with hzero | hrange
  · rw [hzero, BitVec.toNat_ofNat]
    omega
  · rw [addOverflows_eq_false_iff] at hrange
    by_cases hzero : segment.memorySize = 0#64
    · rw [hzero, BitVec.toNat_ofNat]
      omega
    · bv_omega

theorem range_nonempty (h : segment.memorySize ≠ 0#64) :
    segment.loadAddress.toNat ∈ segment.range := by
  rw [range, Set.mem_Ico]
  bv_omega

theorem disjoint_of_empty (h : first.memorySize = 0#64) : Disjoint first.range second.range := by
  simp [range, h]

theorem disjoint_of_le
    (h : first.loadAddress.toNat + first.memorySize.toNat ≤ second.loadAddress.toNat) :
    Disjoint first.range second.range := by
  rw [Set.disjoint_left]
  intro a hfirst hsecond
  rw [range, Set.mem_Ico] at hfirst hsecond
  omega

theorem Hides.not_disjoint (h : first.Hides second) : ¬ Disjoint first.range second.range := by
  obtain ⟨htop, hle, hne⟩ := h
  have hlt := second.loadAddress.isLt
  rw [EndsAtTop] at htop
  rw [BitVec.le_def] at hle
  rw [Set.disjoint_left]
  intro hdisjoint
  refine hdisjoint ?_ (second.range_nonempty hne)
  rw [range, Set.mem_Ico]
  omega

theorem end_le_of_not_overlapping (htop : ¬ first.EndsAtTop)
    (h : ¬ second.loadAddress < first.loadAddress + first.memorySize) :
    first.loadAddress.toNat + first.memorySize.toNat ≤ second.loadAddress.toNat := by
  have hend := first.end_le
  rw [EndsAtTop] at htop
  rw [BitVec.lt_def, BitVec.toNat_add, Nat.mod_eq_of_lt (by omega)] at h
  omega

end ElfSegment

def RangesDisjoint (segments : List ElfSegment) : Prop :=
  segments.Pairwise (fun first second => Disjoint first.range second.range)

def NoneHidden (segments : List ElfSegment) : Prop :=
  segments.Pairwise (fun first second => ¬ first.Hides second ∧ ¬ second.Hides first)

instance : DecidablePred NoneHidden := fun segments =>
  inferInstanceAs (Decidable
    (segments.Pairwise (fun first second => ¬ first.Hides second ∧ ¬ second.Hides first)))

variable {segments : List ElfSegment} {segment : ElfSegment}

theorem segmentsOverlap_cons_false {next : ElfSegment} :
    segmentsOverlap (segment :: next :: segments) = false ↔
      (segment.memorySize ≠ 0#64 →
        ¬ next.loadAddress < segment.loadAddress + segment.memorySize) ∧
      segmentsOverlap (next :: segments) = false := by
  rw [segmentsOverlap, Bool.or_eq_false_iff, Bool.and_eq_false_imp]
  simp

theorem head_disjoint
    (hsorted : (segment :: segments).Pairwise
      (fun left right => left.loadAddress ≤ right.loadAddress))
    (hoverlap : segmentsOverlap (segment :: segments) = false)
    (hhides : ∀ other ∈ segments, ¬ segment.Hides other) :
    ∀ other ∈ segments, Disjoint segment.range other.range := by
  intro other hmem
  by_cases hempty : segment.memorySize = 0#64
  · exact ElfSegment.disjoint_of_empty hempty
  by_cases hother : other.memorySize = 0#64
  · exact (ElfSegment.disjoint_of_empty hother).symm
  cases segments with
  | nil => cases hmem
  | cons next rest =>
    obtain ⟨hnext, hrest⟩ := List.pairwise_cons.mp hsorted
    have htop : ¬ segment.EndsAtTop := fun htop =>
      hhides other hmem ⟨htop, hnext other hmem, hother⟩
    have hend := ElfSegment.end_le_of_not_overlapping htop
      ((segmentsOverlap_cons_false.mp hoverlap).1 hempty)
    have hle : next.loadAddress ≤ other.loadAddress := by
      rcases List.mem_cons.mp hmem with rfl | hmem
      · exact BitVec.le_refl _
      · exact (List.pairwise_cons.mp hrest).1 other hmem
    rw [BitVec.le_def] at hle
    exact ElfSegment.disjoint_of_le (by omega)

theorem rangesDisjoint_of_noneHidden
    (hsorted : segments.Pairwise (fun left right => left.loadAddress ≤ right.loadAddress))
    (hoverlap : segmentsOverlap segments = false) (hhides : NoneHidden segments) :
    RangesDisjoint segments := by
  induction segments with
  | nil => exact .nil
  | cons segment rest ih =>
    obtain ⟨hhead, htail⟩ := List.pairwise_cons.mp hhides
    refine List.pairwise_cons.mpr ⟨head_disjoint hsorted hoverlap fun other hmem => (hhead other hmem).1,
      ih (List.pairwise_cons.mp hsorted).2 ?_ htail⟩
    cases rest with
    | nil => rfl
    | cons next rest => exact (segmentsOverlap_cons_false.mp hoverlap).2

theorem noneHidden_of_rangesDisjoint (h : RangesDisjoint segments) : NoneHidden segments :=
  h.imp (fun hdisjoint => ⟨fun hhides => hhides.not_disjoint hdisjoint,
    fun hhides => hhides.not_disjoint hdisjoint.symm⟩)

theorem noneHidden_perm {other : List ElfSegment} (h : segments.Perm other) :
    NoneHidden segments ↔ NoneHidden other :=
  h.pairwise_iff (fun hpair => hpair.symm)

theorem parse_rangesDisjoint_iff (sorting : SegmentSort) (bytes : List Byte) (image : ElfImage)
    (table : ProgramTable) (hread : readTable bytes = .ok table)
    (haccepted : parse sorting bytes = .ok image) :
    RangesDisjoint image.segments ↔ NoneHidden table.segments := by
  obtain ⟨table', hread', -, hoverlap, -, rfl⟩ := parse_eq_ok.mp haccepted
  obtain rfl : table = table' := Except.ok.inj (hread.symm.trans hread')
  rw [← noneHidden_perm (sorting.perm table.segments)]
  exact ⟨noneHidden_of_rangesDisjoint,
    rangesDisjoint_of_noneHidden (sorting.sorted table.segments) hoverlap⟩

def encode (value : BitVec 64) (width : Nat) : List Byte :=
  (List.range width).map (littleEndianByte value)

def elfHeader (entry : Address) (programCount : BitVec 64) : List Byte :=
  [0x7f#8, 0x45#8, 0x4c#8, 0x46#8, 2#8, 1#8, 1#8] ++ List.replicate 9 0#8 ++ encode 2#64 2 ++
    encode 243#64 2 ++ encode 1#64 4 ++ encode entry 8 ++ encode 64#64 8 ++
    List.replicate 12 0#8 ++ encode 64#64 2 ++ encode 56#64 2 ++ encode programCount 2 ++
    List.replicate 6 0#8

def programHeader (flags fileOffset fileSize memorySize : BitVec 64) (address : Address) :
    List Byte :=
  encode 1#64 4 ++ encode flags 4 ++ encode fileOffset 8 ++ encode address 8 ++
    encode address 8 ++ encode fileSize 8 ++ encode memorySize 8 ++ encode 1#64 8

def topElf : List Byte :=
  elfHeader 0xfffffffffffffff0#64 2#64 ++
    programHeader 5#64 0#64 0#64 16#64 0xfffffffffffffff0#64 ++
    programHeader 4#64 0#64 0#64 8#64 0xfffffffffffffff8#64

theorem parse_accepts_hidden_range :
    ∃ image, parse .insertion topElf = .ok image ∧ ¬ RangesDisjoint image.segments := by
  have hparse : (parse .insertion topElf).toOption.any
      (fun image => decide (¬ NoneHidden image.segments)) = true := by decide +kernel
  obtain ⟨image, haccepted, hhidden⟩ := exists_of_any hparse
  exact ⟨image, haccepted,
    fun hdisjoint => of_decide_eq_true hhidden (noneHidden_of_rangesDisjoint hdisjoint)⟩

theorem parse_rangesDisjoint_iff_topElf :
    ∃ image table, readTable topElf = .ok table ∧ parse .insertion topElf = .ok image ∧
      (RangesDisjoint image.segments ↔ NoneHidden table.segments) := by
  have hread : (readTable topElf).toOption.any (fun _ => true) = true := by decide +kernel
  have hparse : (parse .insertion topElf).toOption.any (fun _ => true) = true := by decide +kernel
  obtain ⟨table, hread, -⟩ := exists_of_any hread
  obtain ⟨image, haccepted, -⟩ := exists_of_any hparse
  exact ⟨image, table, hread, haccepted,
    parse_rangesDisjoint_iff .insertion topElf image table hread haccepted⟩

end Northstar64
