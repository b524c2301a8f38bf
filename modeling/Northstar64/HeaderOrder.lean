import Northstar64.ProgramTable
import Northstar64.Library.Arrangement

namespace Northstar64

def EntryAt (bytes : List Byte) (offset : Nat) (entry : List Byte) : Prop :=
  offset + 56 ≤ bytes.length ∧ ∀ index < 56, byteAt bytes (offset + index) = byteAt entry index

def tableEntrySize (bytes : List Byte) : Nat := fieldAt bytes 54 2

def Reordered (first second : List Byte) : Prop :=
  ∃ (before : List Byte) (entries others : List (List Byte)) (after : List Byte),
    first = before ++ (entries.flatten ++ after) ∧
    second = before ++ (others.flatten ++ after) ∧ others.Perm entries ∧
    (∀ entry ∈ entries, entry.length = tableEntrySize first) ∧
    before.length = tableOffset first ∧ entries.length = tableCount first

-- `parse` reads the file header up to and including e_phnum.
def parsedHeader (bytes : List Byte) : List Byte := bytes.take 58

theorem byteAt_append_left {before after : List Byte} {index : Nat} (h : index < before.length) :
    byteAt (before ++ after) index = byteAt before index := by
  rw [byteAt, byteAt, List.getD_append _ _ _ _ h]

theorem byteAt_append_right (before after : List Byte) (index : Nat) :
    byteAt (before ++ after) (before.length + index) = byteAt after index := by
  rw [byteAt, byteAt, List.getD_append_right _ _ _ _ (Nat.le_add_right _ _), Nat.add_sub_cancel_left]

theorem entryAt_append {before entry after : List Byte} (h : entry.length = 56) :
    EntryAt (before ++ (entry ++ after)) before.length entry := by
  refine ⟨by simp [h], fun index hindex => ?_⟩
  rw [byteAt_append_right, byteAt_append_left (by omega)]

theorem entries_at (entries : List (List Byte)) (before after : List Byte) (base index : Nat)
    (hentries : ∀ entry ∈ entries, entry.length = 56) (hbefore : before.length = base + 56 * index) :
    List.Forall₂ (fun index entry =>
        EntryAt (before ++ (entries.flatten ++ after)) (base + 56 * index) entry)
      (List.range' index entries.length) entries := by
  induction entries generalizing before index with
  | nil => exact .nil
  | cons entry entries ih =>
    have hlength := hentries entry (by simp)
    have hrest := ih (before ++ entry) (index + 1)
      (fun other hother => hentries other (by simp [hother]))
      (by rw [List.length_append, hbefore, hlength]; omega)
    rw [List.length_cons, List.range'_succ, List.flatten_cons, List.append_assoc]
    refine .cons ?_ (by simpa using hrest)
    rw [← hbefore]
    exact entryAt_append hlength

theorem take_congr {first second : List Byte} (h : parsedHeader second = parsedHeader first) (index : Nat)
    (hindex : index < 58) : byteAt second index = byteAt first index := by
  have hget := congrArg (fun bytes => bytes.getD index 0#8) h
  simpa [parsedHeader, byteAt, List.getD_eq_getElem?_getD, List.getElem?_take, hindex] using hget

theorem fieldAt_congr {first second : List Byte} (h : parsedHeader second = parsedHeader first)
    {offset width : Nat} (hfits : offset + width ≤ 58) :
    fieldAt second offset width = fieldAt first offset width := by
  unfold fieldAt byteDigits
  congr 1
  refine List.map_congr_left (fun index hindex => ?_)
  have hlt := List.mem_range.mp hindex
  exact congrArg BitVec.toNat (take_congr h _ (by omega))

theorem checkIdentification_congr {first second : List Byte}
    (h : parsedHeader second = parsedHeader first) :
    checkIdentification second = checkIdentification first := by
  unfold checkIdentification
  simp only [take_congr h 0 (by decide), take_congr h 1 (by decide),
    take_congr h 2 (by decide), take_congr h 3 (by decide),
    take_congr h 4 (by decide), take_congr h 5 (by decide),
    take_congr h 6 (by decide)]

section Header
variable {first second : List Byte} (h : parsedHeader second = parsedHeader first)
  (hlength : second.length = first.length) (hheader : 64 ≤ first.length)
include h hlength hheader

theorem headerField_congr (bits : Nat) (offset : BitVec 64)
    (hfits : offset.toNat + (BitVec.ofNat 64 (bits / 8)).toNat ≤ 58)
    (hbits : (BitVec.ofNat 64 (bits / 8)).toNat = bits / 8) :
    readLittleEndian bits second offset = readLittleEndian bits first offset :=
  readLittleEndian_congr (by omega) (by omega) (fun index hindex => take_congr h _ (by omega))

theorem checkHeader_congr : checkHeader second = checkHeader first := by
  unfold checkHeader
  rw [headerField_congr h hlength hheader 16 16#64 (by decide) (by decide),
    headerField_congr h hlength hheader 16 18#64 (by decide) (by decide),
    headerField_congr h hlength hheader 32 20#64 (by decide) (by decide),
    headerField_congr h hlength hheader 16 52#64 (by decide) (by decide)]

end Header

theorem tableOffset_congr {first second : List Byte} (h : parsedHeader second = parsedHeader first) :
    tableOffset second = tableOffset first := fieldAt_congr h (by decide)

theorem tableCount_congr {first second : List Byte} (h : parsedHeader second = parsedHeader first) :
    tableCount second = tableCount first := fieldAt_congr h (by decide)

theorem HeaderAccepted.congr {first second : List Byte} (haccepted : HeaderAccepted first)
    (h : parsedHeader second = parsedHeader first) (hlength : second.length = first.length) :
    HeaderAccepted second where
  length := hlength ▸ haccepted.length
  identification := (checkIdentification_congr h).trans haccepted.identification
  header := (checkHeader_congr h hlength haccepted.length).trans haccepted.header
  entrySize := by
    rw [tableCount_congr h, fieldAt_congr h (by decide)]
    exact haccepted.entrySize
  count := (tableCount_congr h).trans_le haccepted.count
  table := by
    rw [entryOffset, tableOffset_congr h, tableCount_congr h, hlength]
    exact haccepted.table

section Entry
variable {first second : ByteSpan} {offset other : Nat} {entry : List Byte}
  (hfirst : EntryAt first.bytes offset entry) (hsecond : EntryAt second.bytes other entry)
include hfirst hsecond

theorem entryField_congr (bits : Nat) (position : BitVec 64)
    (hbits : (BitVec.ofNat 64 (bits / 8)).toNat = bits / 8)
    (hfits : position.toNat + bits / 8 ≤ 56) :
    readLittleEndian bits first.bytes (BitVec.ofNat 64 offset + position) =
      readLittleEndian bits second.bytes (BitVec.ofNat 64 other + position) := by
  have hone := first.length_lt
  have htwo := second.length_lt
  have hrange := hfirst.1
  have hother := hsecond.1
  have hposition : (BitVec.ofNat 64 offset + position).toNat = offset + position.toNat := by
    rw [BitVec.toNat_add, BitVec.toNat_ofNat, Nat.mod_eq_of_lt (by omega),
      Nat.mod_eq_of_lt (by omega)]
  have hplace : (BitVec.ofNat 64 other + position).toNat = other + position.toNat := by
    rw [BitVec.toNat_add, BitVec.toNat_ofNat, Nat.mod_eq_of_lt (by omega),
      Nat.mod_eq_of_lt (by omega)]
  refine readLittleEndian_congr (by omega) (by omega) (fun index hindex => ?_)
  rw [hposition, hplace, Nat.add_assoc, Nat.add_assoc, hfirst.2 _ (by omega),
    hsecond.2 _ (by omega)]

theorem readFields_congr :
    readFields first.bytes (BitVec.ofNat 64 offset) =
      readFields second.bytes (BitVec.ofNat 64 other) := by
  unfold readFields
  rw [entryField_congr hfirst hsecond 32 4#64 (by decide) (by decide),
    entryField_congr hfirst hsecond 64 8#64 (by decide) (by decide),
    entryField_congr hfirst hsecond 64 16#64 (by decide) (by decide),
    entryField_congr hfirst hsecond 64 24#64 (by decide) (by decide),
    entryField_congr hfirst hsecond 64 32#64 (by decide) (by decide),
    entryField_congr hfirst hsecond 64 40#64 (by decide) (by decide),
    entryField_congr hfirst hsecond 64 48#64 (by decide) (by decide)]

theorem readSegment_congr (hlength : first.bytes.length = second.bytes.length) :
    readSegment first.bytes (BitVec.ofNat 64 offset) =
      readSegment second.bytes (BitVec.ofNat 64 other) := by
  have htype := entryField_congr hfirst hsecond 32 0#64 (by decide)
    (by decide)
  have hcheck (fields : SegmentFields) :
      checkFields first.bytes fields = checkFields second.bytes fields := by
    unfold checkFields requireRange
    rw [hlength]
  rw [BitVec.add_zero, BitVec.add_zero] at htype
  unfold readSegment
  simp only [htype, readFields_congr hfirst hsecond, hcheck]

end Entry

theorem Reordered.length_eq {first second : List Byte} (h : Reordered first second) :
    second.length = first.length := by
  obtain ⟨before, entries, others, after, rfl, rfl, hperm, -⟩ := h
  simp [hperm.flatten.length_eq]

structure ReorderedTable (first second : List Byte) : Prop where
  header : parsedHeader second = parsedHeader first
  reordered : Reordered first second

namespace ReorderedTable
variable {first second : ByteSpan}

theorem symm (h : ReorderedTable first.bytes second.bytes) :
    ReorderedTable second.bytes first.bytes := by
  obtain ⟨before, entries, others, after, hfirst, hsecond, hperm, hentries, hbefore, hcount⟩ :=
    h.reordered
  refine ⟨h.header.symm, before, others, entries, after, hsecond, hfirst, hperm.symm,
    fun entry hentry => ?_, ?_, ?_⟩
  · rw [hentries entry (hperm.mem_iff.mp hentry)]
    exact (fieldAt_congr h.header (by decide)).symm
  · rw [hbefore, tableOffset_congr h.header]
  · rw [hperm.length_eq, hcount, tableCount_congr h.header]

theorem entriesAt (h : ReorderedTable first.bytes second.bytes)
    (haccepted : HeaderAccepted first.bytes) :
    ∃ entries others, others.Perm entries ∧
      List.Forall₂ (fun index => EntryAt first.bytes (entryOffset first.bytes index))
        (List.range (tableCount first.bytes)) entries ∧
      List.Forall₂ (fun index => EntryAt second.bytes (entryOffset second.bytes index))
        (List.range (tableCount second.bytes)) others := by
  obtain ⟨before, entries, others, after, hfirst, hsecond, hperm, hentries, hbefore, hcount⟩ :=
    h.reordered
  have hwidth : ∀ entry ∈ entries, entry.length = 56 := by
    intro entry hentry
    have hsome : tableCount first.bytes ≠ 0 := by
      rw [← hcount]
      exact (List.length_pos_of_mem hentry).ne'
    exact (hentries entry hentry).trans (haccepted.entrySize hsome)
  have hbase : before.length = tableOffset first.bytes + 56 * 0 := by omega
  have hone := entries_at entries before after _ 0 hwidth hbase
  have htwo := entries_at others before after _ 0
    (fun entry hentry => hwidth entry (hperm.mem_iff.mp hentry)) hbase
  rw [← hfirst, hcount, ← List.range_eq_range'] at hone
  rw [← hsecond, hperm.length_eq, hcount, ← List.range_eq_range', ← tableCount_congr h.header,
    ← tableOffset_congr h.header] at htwo
  exact ⟨entries, others, hperm, hone, htwo⟩

theorem readTable (h : ReorderedTable first.bytes second.bytes) {table : ProgramTable}
    (hread : readTable first.bytes = .ok table) :
    ∃ other, Northstar64.readTable second.bytes = .ok other ∧ other.entry = table.entry ∧
      other.segments.Perm table.segments := by
  obtain ⟨haccepted, hentry, found, hfound, hsegments⟩ := readTable_iff.mp hread
  obtain ⟨entries, others, hperm, hone, htwo⟩ := h.entriesAt haccepted
  have hlength := h.reordered.length_eq
  have hentryFound : List.Forall₂ (fun entry segment => ∃ index,
      EntryAt first.bytes (entryOffset first.bytes index) entry ∧
      readSegment first.bytes (BitVec.ofNat 64 (entryOffset first.bytes index)) = .ok segment)
      entries found :=
    Pointwise.comp (fun entry index segment hentry hsegment => ⟨index, hentry, hsegment⟩)
      hone.flip hfound
  obtain ⟨found', hfound', hperm'⟩ := Pointwise.carry hperm hentryFound
  have hsegment : List.Forall₂ (fun index segment =>
      readSegment second.bytes (BitVec.ofNat 64 (entryOffset second.bytes index)) = .ok segment)
      (List.range (tableCount second.bytes)) found' := by
    refine Pointwise.comp ?_ htwo hfound'
    rintro index entry segment hother ⟨position, hentryAt, hsegment⟩
    rw [← hsegment]
    exact readSegment_congr hother hentryAt hlength
  have hentry' : readLittleEndian 64 second.bytes 24#64 = .ok table.entry :=
    (headerField_congr h.header hlength haccepted.length 64 24#64 (by decide)
      (by decide)).trans hentry
  refine ⟨⟨table.entry, found'.flatMap Option.toList⟩, readTable_iff.mpr
    ⟨haccepted.congr h.header hlength, hentry', found', hsegment, rfl⟩, rfl, ?_⟩
  rw [hsegments]
  exact hperm'.flatMap_right _

end ReorderedTable

end Northstar64
