import Northstar64.HeaderOrder

namespace Northstar64
open Results

def SameVerdict : Except ElfError ElfImage → Except ElfError ElfImage → Prop
  | .error _, .error _ => True
  | .ok first, .ok second =>
    first.entry = second.entry ∧ first.segments.Perm second.segments
  | _, _ => False

-- The overlap scan of `parse`: an empty range, or one whose end wraps to zero, bars nothing.
def overlapScan : NeighbourScan ElfSegment where
  key segment := segment.loadAddress.toNat
  reach segment := segment.loadAddress.toNat + segment.memorySize.toNat
  Blocks segment := segment.memorySize ≠ 0#64 ∧ ¬ segment.EndsAtTop
  key_lt_reach := by
    rintro segment ⟨hsize, -⟩
    have hpos : segment.memorySize.toNat ≠ 0 := mt (fun h => BitVec.eq_of_toNat_eq h) hsize
    omega

structure Loadable (bytes : List Byte) (table : ProgramTable) : Prop where
  read : readTable bytes = .ok table
  entry : entryIsExecutable table.entry table.segments = true
  orderable : table.segments.Pairwise overlapScan.Orderable

def LoadableAs (first second : List Byte) : Prop :=
  ∀ table, Loadable first table →
    ∃ other, Loadable second other ∧ other.entry = table.entry ∧ other.segments.Perm table.segments

-- A table that begins at an e_phoff below 58 holds fields of the file header.
structure HeaderSensitive (span : ByteSpan) : Prop where
  overlap : tableOffset span.bytes < 58
  rewritten : ∃ other : ByteSpan, Reordered span.bytes other.bytes ∧
    parsedHeader other.bytes ≠ parsedHeader span.bytes ∧
      ¬ (LoadableAs span.bytes other.bytes ∧ LoadableAs other.bytes span.bytes)

variable {segments others : List ElfSegment}

theorem clears_iff (first second : ElfSegment) :
    overlapScan.Clears first second ↔
      (first.memorySize ≠ 0#64 →
        ¬ second.loadAddress < first.loadAddress + first.memorySize) := by
  constructor
  · intro hclears hsize hlt
    by_cases htop : first.EndsAtTop
    · rw [ElfSegment.EndsAtTop] at htop
      rw [BitVec.lt_def, BitVec.toNat_add, htop] at hlt
      omega
    · have hreach : first.loadAddress.toNat + first.memorySize.toNat ≤ second.loadAddress.toNat :=
        hclears ⟨hsize, htop⟩
      rw [BitVec.lt_def, BitVec.toNat_add] at hlt
      exact absurd (hlt.trans_le (Nat.mod_le _ _)) (by omega)
  · rintro h ⟨hsize, htop⟩
    exact ElfSegment.end_le_of_not_overlapping htop (h hsize)

theorem segmentsOverlap_iff_isChain (segments : List ElfSegment) :
    segmentsOverlap segments = false ↔ segments.IsChain overlapScan.Clears := by
  induction segments with
  | nil => simp [segmentsOverlap]
  | cons segment segments ih =>
    cases segments with
    | nil => simp [segmentsOverlap]
    | cons next rest =>
      rw [segmentsOverlap_cons_false, List.isChain_cons_cons, ih, clears_iff]

theorem arranges_sort (sorting : SegmentSort) (segments : List ElfSegment) :
    overlapScan.Arranges (sorting.sort segments) segments :=
  ⟨sorting.perm segments, (sorting.sorted segments).imp (fun h => BitVec.le_def.mp h)⟩

theorem sort_passes_iff (sorting : SegmentSort) (segments : List ElfSegment) :
    segmentsOverlap (sorting.sort segments) = false ↔
      (sorting.sort segments).Pairwise overlapScan.Clears := by
  rw [segmentsOverlap_iff_isChain,
    NeighbourScan.isChain_iff_pairwise (arranges_sort sorting segments).sorted]

def SegmentSort.arranging {order segments : List ElfSegment}
    (h : overlapScan.Arranges order segments) : SegmentSort where
  sort other := if other = segments then order else SegmentSort.insertion.sort other
  perm other := by
    split_ifs with heq
    · exact heq ▸ h.perm
    · exact SegmentSort.insertion.perm other
  sorted other := by
    split_ifs with heq
    · exact h.sorted.imp (fun hle => BitVec.le_def.mpr hle)
    · exact SegmentSort.insertion.sorted other

theorem SegmentSort.arranging_sort {order segments : List ElfSegment}
    (h : overlapScan.Arranges order segments) : (arranging h).sort segments = order :=
  if_pos rfl

theorem entryIsExecutable_perm (entry : Address) (h : segments.Perm others) :
    entryIsExecutable entry segments = entryIsExecutable entry others := by
  rw [entryIsExecutable, entryIsExecutable, h.any_eq]

theorem loadable_of_parse {bytes : List Byte} {sorting : SegmentSort} {image : ElfImage}
    (h : parse sorting bytes = .ok image) :
    ∃ table, Loadable bytes table ∧ table.entry = image.entry ∧
      table.segments.Perm image.segments := by
  obtain ⟨table, hread, -, hscan, hentry, rfl⟩ := parse_eq_ok.mp h
  have harranges := arranges_sort sorting table.segments
  rw [entryIsExecutable_perm _ harranges.perm] at hentry
  refine ⟨table, ⟨hread, hentry, ?_⟩, rfl, harranges.perm.symm⟩
  exact (NeighbourScan.exists_cleared_iff _).mp
    ⟨_, harranges, (sort_passes_iff sorting table.segments).mp hscan⟩

theorem Loadable.parse {bytes : List Byte} {table : ProgramTable} (h : Loadable bytes table) :
    ∃ sorting image, Northstar64.parse sorting bytes = .ok image ∧ image.entry = table.entry ∧
      image.segments.Perm table.segments := by
  obtain ⟨order, harranges, hclears⟩ := (NeighbourScan.exists_cleared_iff _).mpr h.orderable
  refine ⟨.arranging harranges, ⟨table.entry, (SegmentSort.arranging harranges).sort table.segments⟩,
    parse_eq_ok.mpr ⟨table, h.read, ?_, ?_, ?_, rfl⟩, rfl, (SegmentSort.arranging harranges).perm _⟩
  · rintro hnil
    have hentry := h.entry
    rw [hnil] at hentry
    cases hentry
  · rw [sort_passes_iff, SegmentSort.arranging_sort]
    exact hclears
  · rw [entryIsExecutable_perm _ (SegmentSort.perm _ _)]
    exact h.entry

theorem SameVerdict.symm {first second : Except ElfError ElfImage} (h : SameVerdict first second) :
    SameVerdict second first := by
  cases first with
  | error error =>
    cases second with
    | error error => exact trivial
    | ok image => exact h.elim
  | ok image =>
    cases second with
    | error error => exact h.elim
    | ok image => exact ⟨h.1.symm, h.2.symm⟩

-- e_phoff is 48, so e_ehsize, e_phentsize and e_phnum are bytes of the first entry.
def overlappingHeader : List Byte :=
  (elfHeader 0x80000000#64 2#64).take 32 ++ encode 48#64 8 ++ List.replicate 8 0#8

def overlappingEntries : List (List Byte) :=
  [List.replicate 4 0#8 ++ encode 64#64 2 ++ encode 56#64 2 ++ encode 2#64 2 ++ List.replicate 46 0#8,
    programHeader 5#64 0#64 0#64 16#64 0x80000000#64]

def overlappingSpan : ByteSpan :=
  ⟨overlappingHeader ++ (overlappingEntries.flatten ++ []), by decide +kernel⟩

def rewrittenSpan : ByteSpan :=
  ⟨overlappingHeader ++ (overlappingEntries.reverse.flatten ++ []), by decide +kernel⟩

theorem overlapping_table_headerSensitive : HeaderSensitive overlappingSpan := by
  have haccepted : (parse .insertion overlappingSpan.bytes).toOption.any (fun _ => true) = true := by
    decide +kernel
  have hrejected : (readTable rewrittenSpan.bytes).isOk = false := by decide +kernel
  refine ⟨by decide +kernel, rewrittenSpan, ⟨_, overlappingEntries, overlappingEntries.reverse, [],
    rfl, rfl, List.reverse_perm _, by decide +kernel, by decide +kernel, by decide +kernel⟩, by decide +kernel, ?_⟩
  rintro ⟨hforward, -⟩
  obtain ⟨image, himage, -⟩ := exists_of_any haccepted
  obtain ⟨table, hloads, -⟩ := loadable_of_parse himage
  obtain ⟨other, hother, -⟩ := hforward table hloads
  rw [hother.read] at hrejected
  cases hrejected

end Northstar64
