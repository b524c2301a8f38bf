import Northstar64.SegmentRanges

namespace Northstar64
open Results

-- A span counts its elements in 64 bits.
structure ByteSpan where
  bytes : List Byte
  length_lt : bytes.length < 2 ^ 64

def fieldAt (bytes : List Byte) (offset width : Nat) : Nat :=
  Nat.ofDigits 256 (byteDigits (fun index => byteAt bytes (offset + index)) width)

theorem readLittleEndian_eq (bits : Nat) (bytes : List Byte) (offset : BitVec 64) :
    readLittleEndian bits bytes offset = (do
      requireRange bytes offset (BitVec.ofNat 64 (bits / 8)) (text "integer field")
      return (littleEndian (fun index => byteAt bytes (offset.toNat + index))
        (bits / 8)).setWidth bits) := rfl

theorem readLittleEndian_eq_ok {bits : Nat} (hbits : bits / 8 * 8 = bits) (hwide : bits ≤ 64)
    {bytes : List Byte} {offset : BitVec 64} {value : BitVec bits} :
    readLittleEndian bits bytes offset = .ok value ↔
      offset.toNat + bits / 8 ≤ bytes.length ∧
        value.toNat = fieldAt bytes offset.toNat (bits / 8) := by
  have hsize : (BitVec.ofNat 64 (bits / 8)).toNat = bits / 8 := by
    rw [BitVec.toNat_ofNat, Nat.mod_eq_of_lt (by omega)]
  have hlt := ofDigits_byteDigits_lt (fun index => byteAt bytes (offset.toNat + index)) (bits / 8)
  rw [hbits] at hlt
  simp only [readLittleEndian_eq, bind_eq_ok, requireRange_eq_ok, hsize, exists_and_left,
    exists_const, pure, Except.pure, Except.ok.injEq, ← BitVec.toNat_inj, BitVec.toNat_setWidth]
  rw [littleEndian_toNat _ (by omega), Nat.mod_eq_of_lt hlt]
  exact and_congr_right (fun _ => eq_comm)

theorem readLittleEndian_ok (bits : Nat) (hbits : bits / 8 * 8 = bits) (hwide : bits ≤ 64)
    (bytes : List Byte) (offset : BitVec 64) (h : offset.toNat + bits / 8 ≤ bytes.length) :
    ∃ value : BitVec bits, readLittleEndian bits bytes offset = .ok value ∧
      value.toNat = fieldAt bytes offset.toNat (bits / 8) := by
  have hlt := ofDigits_byteDigits_lt (fun index => byteAt bytes (offset.toNat + index)) (bits / 8)
  have hvalue : (BitVec.ofNat bits (fieldAt bytes offset.toNat (bits / 8))).toNat =
      fieldAt bytes offset.toNat (bits / 8) := by
    rw [hbits] at hlt
    rw [BitVec.toNat_ofNat]
    exact Nat.mod_eq_of_lt hlt
  exact ⟨_, (readLittleEndian_eq_ok hbits hwide).mpr ⟨h, hvalue⟩, hvalue⟩

theorem readLittleEndian_congr {bits : Nat} {first second : List Byte} {offset other : BitVec 64}
    (hfirst : offset.toNat + (BitVec.ofNat 64 (bits / 8)).toNat ≤ first.length)
    (hsecond : other.toNat + (BitVec.ofNat 64 (bits / 8)).toNat ≤ second.length)
    (hbytes : ∀ index < bits / 8,
      byteAt first (offset.toNat + index) = byteAt second (other.toNat + index)) :
    readLittleEndian bits first offset = readLittleEndian bits second other := by
  have hone : requireRange first offset (BitVec.ofNat 64 (bits / 8)) (text "integer field") =
      .ok () := requireRange_eq_ok.mpr hfirst
  have htwo : requireRange second other (BitVec.ofNat 64 (bits / 8)) (text "integer field") =
      .ok () := requireRange_eq_ok.mpr hsecond
  rw [readLittleEndian_eq, readLittleEndian_eq, hone, htwo, littleEndian_congr hbytes]

theorem readSegments_eq_ok {bytes : List Byte} {programOffset entrySize : BitVec 64}
    {remaining index : Nat} {before segments : List ElfSegment} :
    readSegments bytes programOffset entrySize remaining index before = .ok segments ↔
      ∃ found, List.Forall₂ (fun position segment =>
          readSegment bytes (programOffset + BitVec.ofNat 64 position * entrySize) = .ok segment)
          (List.range' index remaining) found ∧
        segments = before ++ found.flatMap Option.toList := by
  induction remaining generalizing index before with
  | zero =>
    simp only [readSegments, List.range'_zero, List.forall₂_nil_left_iff, exists_eq_left,
      List.flatMap_nil, List.append_nil, Except.ok.injEq]
    exact eq_comm
  | succ remaining ih =>
    simp only [readSegments, bind_eq_ok, ih, List.range'_succ, List.forall₂_cons_left_iff]
    constructor
    · rintro ⟨segment, hsegment, found, hfound, rfl⟩
      exact ⟨segment :: found, ⟨segment, found, hsegment, hfound, rfl⟩, by simp⟩
    · rintro ⟨_, ⟨segment, found, hsegment, hfound, rfl⟩, rfl⟩
      exact ⟨segment, hsegment, found, hfound, by simp⟩

def tableOffset (bytes : List Byte) : Nat := fieldAt bytes 32 8

def tableCount (bytes : List Byte) : Nat := fieldAt bytes 56 2

def entryOffset (bytes : List Byte) (index : Nat) : Nat := tableOffset bytes + 56 * index

structure HeaderAccepted (bytes : List Byte) : Prop where
  length : 64 ≤ bytes.length
  identification : checkIdentification bytes = .ok ()
  header : checkHeader bytes = .ok ()
  entrySize : tableCount bytes ≠ 0 → fieldAt bytes 54 2 = 56
  count : tableCount bytes ≤ 4096
  table : entryOffset bytes (tableCount bytes) ≤ bytes.length

theorem readTable_eq_ok {bytes : List Byte} {table : ProgramTable} :
    readTable bytes = .ok table ↔
      64 ≤ bytes.length ∧ checkIdentification bytes = .ok () ∧ checkHeader bytes = .ok () ∧
      ∃ programOffset programEntrySize programCount,
        readLittleEndian 64 bytes 32#64 = .ok programOffset ∧
        readLittleEndian 16 bytes 54#64 = .ok programEntrySize ∧
        readLittleEndian 16 bytes 56#64 = .ok programCount ∧
        (programCount ≠ 0#16 → programEntrySize.setWidth 64 = kProgramHeaderSize) ∧
        programCount ≤ 4096#16 ∧
        programOffset.toNat +
          (programEntrySize.setWidth 64 * programCount.setWidth 64 : BitVec 64).toNat ≤
            bytes.length ∧
        readLittleEndian 64 bytes 24#64 = .ok table.entry ∧
        readSegments bytes programOffset (programEntrySize.setWidth 64) programCount.toNat 0 [] =
          .ok table.segments := by
  simp only [readTable, bind_eq_ok, rejectIf_eq_ok, requireRange_eq_ok, pure, Except.pure,
    Except.ok.injEq, exists_and_left, exists_const, gt_iff_lt, decide_eq_false_iff_not,
    BitVec.not_lt, Bool.and_eq_false_imp, decide_eq_true_eq, ne_eq, not_not]
  constructor
  · rintro ⟨hlength, ⟨⟩, hidentification, ⟨⟩, hheader, programOffset, hoffset, entrySize, hsize,
      count, hcount, hentrySize, hlimit, hrange, entry, hentry, segments, hsegments, rfl⟩
    exact ⟨hlength, hidentification, hheader, programOffset, hoffset, entrySize, hsize, count,
      hcount, hentrySize, hlimit, hrange, hentry, hsegments⟩
  · rintro ⟨hlength, hidentification, hheader, programOffset, hoffset, entrySize, hsize, count,
      hcount, hentrySize, hlimit, hrange, hentry, hsegments⟩
    exact ⟨hlength, (), hidentification, (), hheader, programOffset, hoffset, entrySize, hsize,
      count, hcount, hentrySize, hlimit, hrange, _, hentry, _, hsegments, rfl⟩

theorem entryOffset_eq {bytes : List Byte} {programOffset : BitVec 64}
    (h : programOffset.toNat = tableOffset bytes) (index : Nat) :
    programOffset + BitVec.ofNat 64 index * kProgramHeaderSize =
      BitVec.ofNat 64 (entryOffset bytes index) := by
  rw [entryOffset, ← h, BitVec.ofNat_add, BitVec.ofNat_toNat, BitVec.setWidth_eq, BitVec.ofNat_mul,
    BitVec.mul_comm]
  rfl

-- An empty table is the only one whose entry size is not looked at.
theorem tableSize_eq {entrySize : BitVec 64} {count : BitVec 16}
    (h : count ≠ 0#16 → entrySize = kProgramHeaderSize) (hlimit : count ≤ 4096#16) :
    (entrySize * count.setWidth 64).toNat = 56 * count.toNat := by
  have hle : count.toNat ≤ 4096 := BitVec.le_def.mp hlimit
  by_cases hcount : count = 0#16
  · rw [hcount]
    simp
  · rw [h hcount, kProgramHeaderSize, BitVec.toNat_mul, BitVec.toNat_setWidth_of_le (by decide),
      BitVec.toNat_ofNat, Nat.mod_eq_of_lt (by omega)]

theorem readSegments_entrySize {bytes : List Byte} {programOffset entrySize : BitVec 64}
    {count : BitVec 16} (h : count ≠ 0#16 → entrySize = kProgramHeaderSize) :
    readSegments bytes programOffset entrySize count.toNat 0 [] =
      readSegments bytes programOffset kProgramHeaderSize count.toNat 0 [] := by
  by_cases hcount : count = 0#16
  · rw [hcount]
    rfl
  · rw [h hcount]

theorem entrySize_iff {bytes : List Byte} {entrySize count : BitVec 16}
    (hsize : entrySize.toNat = fieldAt bytes 54 2) (hcount : count.toNat = tableCount bytes) :
    (count ≠ 0#16 → entrySize.setWidth 64 = kProgramHeaderSize) ↔
      (tableCount bytes ≠ 0 → fieldAt bytes 54 2 = 56) := by
  rw [ne_eq, ← BitVec.toNat_inj, ← BitVec.toNat_inj, BitVec.toNat_setWidth_of_le (by decide),
    hsize, hcount]
  rfl

theorem readTable_iff {bytes : List Byte} {table : ProgramTable} :
    readTable bytes = .ok table ↔
      HeaderAccepted bytes ∧ readLittleEndian 64 bytes 24#64 = .ok table.entry ∧
      ∃ found, List.Forall₂ (fun index segment =>
          readSegment bytes (BitVec.ofNat 64 (entryOffset bytes index)) = .ok segment)
          (List.range (tableCount bytes)) found ∧
        table.segments = found.flatMap Option.toList := by
  rw [readTable_eq_ok, List.range_eq_range']
  constructor
  · rintro ⟨hlength, hidentification, hheader, programOffset, entrySize, count, hoffset, hsize,
      hcount, hentrySize, hlimit, hrange, hentry, hsegments⟩
    have htabled : programOffset.toNat = tableOffset bytes :=
      ((readLittleEndian_eq_ok rfl (by decide)).mp hoffset).2
    have hsized := ((readLittleEndian_eq_ok rfl (by decide)).mp hsize).2
    have hcounted : count.toNat = tableCount bytes :=
      ((readLittleEndian_eq_ok rfl (by decide)).mp hcount).2
    rw [tableSize_eq hentrySize hlimit] at hrange
    rw [readSegments_entrySize hentrySize, readSegments_eq_ok] at hsegments
    obtain ⟨found, hfound, hsegments⟩ := hsegments
    simp only [entryOffset_eq htabled] at hfound
    refine ⟨⟨hlength, hidentification, hheader, (entrySize_iff hsized hcounted).mp hentrySize, ?_,
      ?_⟩, hentry, found, ?_, hsegments⟩
    · exact hcounted ▸ BitVec.le_def.mp hlimit
    · rw [entryOffset, ← htabled, ← hcounted]
      exact hrange
    · exact hcounted ▸ hfound
  · rintro ⟨haccepted, hentry, found, hfound, hsegments⟩
    have hlength := haccepted.length
    obtain ⟨programOffset, hoffset, htabled⟩ := readLittleEndian_ok 64 rfl (by decide)
      bytes 32#64 (by simp only [BitVec.toNat_ofNat]; omega)
    obtain ⟨entrySize, hsize, hsized⟩ := readLittleEndian_ok 16 rfl (by decide)
      bytes 54#64 (by simp only [BitVec.toNat_ofNat]; omega)
    obtain ⟨count, hcount, hcounted⟩ := readLittleEndian_ok 16 rfl (by decide)
      bytes 56#64 (by simp only [BitVec.toNat_ofNat]; omega)
    have htabled : programOffset.toNat = tableOffset bytes := htabled
    have hcounted : count.toNat = tableCount bytes := hcounted
    have hentrySize := (entrySize_iff hsized hcounted).mpr haccepted.entrySize
    have hlimit : count ≤ 4096#16 := BitVec.le_def.mpr (hcounted ▸ haccepted.count)
    refine ⟨hlength, haccepted.identification, haccepted.header, programOffset, entrySize, count,
      hoffset, hsize, hcount, hentrySize, hlimit, ?_, hentry, ?_⟩
    · rw [tableSize_eq hentrySize hlimit, htabled, hcounted]
      exact haccepted.table
    · rw [readSegments_entrySize hentrySize, readSegments_eq_ok]
      simp only [entryOffset_eq htabled]
      exact ⟨found, hcounted ▸ hfound, hsegments⟩

end Northstar64
