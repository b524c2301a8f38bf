import Northstar64.ProgramTable

namespace Northstar64
open Results

inductive ParseFault where
  | thrown (error : ElfError)
  | outOfBounds (index : Nat)
  | wrapped
  deriving DecidableEq

-- `parse` once more, with every byte access and every offset computation checked as it is made.
namespace Guarded

def thrown {α : Type} (result : Except ElfError α) : Except ParseFault α :=
  result.mapError .thrown

def byteAt (bytes : List Byte) (index : Nat) : Except ParseFault Byte :=
  if h : index < bytes.length then .ok bytes[index] else .error (.outOfBounds index)

def add (left right : BitVec 64) : Except ParseFault (BitVec 64) :=
  if left.toNat + right.toNat < 2 ^ 64 then .ok (left + right) else .error .wrapped

def multiply (left right : BitVec 64) : Except ParseFault (BitVec 64) :=
  if left.toNat * right.toNat < 2 ^ 64 then .ok (left * right) else .error .wrapped

def readLittleEndian (bits : Nat) (bytes : List Byte) (offset : BitVec 64) :
    Except ParseFault (BitVec bits) := do
  thrown (requireRange bytes offset (BitVec.ofNat 64 (bits / 8)) (text "integer field"))
  let value ← (List.range (bits / 8)).foldlM (fun (value : BitVec 64) index => do
    let position ← add offset (BitVec.ofNat 64 index)
    let byte ← byteAt bytes position.toNat
    return value ||| byte.setWidth 64 <<< (index * 8)) 0#64
  return value.setWidth bits

def checkIdentification (bytes : List Byte) : Except ParseFault Unit := do
  let magic0 ← byteAt bytes 0
  let magic1 ← byteAt bytes 1
  let magic2 ← byteAt bytes 2
  let magic3 ← byteAt bytes 3
  thrown (rejectIf (magic0 ≠ 0x7f#8 || magic1 ≠ 0x45#8 || magic2 ≠ 0x4c#8 || magic3 ≠ 0x46#8)
    (text "input is not an ELF file"))
  let elfClass ← byteAt bytes 4
  thrown (rejectIf (elfClass ≠ 2#8) (text "only ELF64 images are supported"))
  let encoding ← byteAt bytes 5
  thrown (rejectIf (encoding ≠ 1#8) (text "only little-endian ELF images are supported"))
  let version ← byteAt bytes 6
  thrown (rejectIf (version ≠ 1#8) (text "unsupported ELF identification version"))

def checkHeader (bytes : List Byte) : Except ParseFault Unit := do
  let type ← readLittleEndian 16 bytes 16#64
  thrown (rejectIf (type ≠ kElfExecutable)
    (text "only fixed-address ET_EXEC images are supported"))
  let machine ← readLittleEndian 16 bytes 18#64
  thrown (rejectIf (machine ≠ kMachineRiscV)
    (text "ELF image is not for the RISC-V architecture"))
  let version ← readLittleEndian 32 bytes 20#64
  thrown (rejectIf (version ≠ 1#32) (text "unsupported ELF header version"))
  let headerSize ← readLittleEndian 16 bytes 52#64
  thrown (rejectIf (headerSize.setWidth 64 ≠ kElfHeaderSize) (text "unexpected ELF64 header size"))

def readField (bits : Nat) (bytes : List Byte) (offset position : BitVec 64) :
    Except ParseFault (BitVec bits) := do
  let place ← add offset position
  readLittleEndian bits bytes place

def readFields (bytes : List Byte) (offset : BitVec 64) : Except ParseFault SegmentFields := do
  let flags ← readField 32 bytes offset 4#64
  let fileOffset ← readField 64 bytes offset 8#64
  let virtualAddress ← readField 64 bytes offset 16#64
  let physicalAddress ← readField 64 bytes offset 24#64
  let fileSize ← readField 64 bytes offset 32#64
  let memorySize ← readField 64 bytes offset 40#64
  let alignment ← readField 64 bytes offset 48#64
  return ⟨flags, fileOffset, virtualAddress, physicalAddress, fileSize, memorySize, alignment⟩

-- The ends of the payload and of the memory range, which the loader goes on to compute.
def checkEnds (segment : ElfSegment) : Except ParseFault Unit := do
  let _payloadEnd ← add segment.fileOffset segment.fileSize
  if segment.memorySize ≠ 0#64 then
    let _last ← add segment.loadAddress (segment.memorySize - 1#64)
    return ()
  else return ()

def readSegment (bytes : List Byte) (offset : BitVec 64) :
    Except ParseFault (Option ElfSegment) := do
  let type ← readLittleEndian 32 bytes offset
  if type ≠ kLoadableSegment then return none
  else
    let fields ← readFields bytes offset
    let segment ← thrown (checkFields bytes fields)
    checkEnds segment
    return some segment

def readSegments (bytes : List Byte) (programOffset entrySize : BitVec 64) :
    Nat → Nat → List ElfSegment → Except ParseFault (List ElfSegment)
  | 0, _, segments => .ok segments
  | remaining + 1, index, segments => do
    let position ← multiply (BitVec.ofNat 64 index) entrySize
    let offset ← add programOffset position
    let segment ← readSegment bytes offset
    readSegments bytes programOffset entrySize remaining (index + 1) (segments ++ segment.toList)

def readTable (bytes : List Byte) : Except ParseFault ProgramTable := do
  thrown (requireRange bytes 0#64 kElfHeaderSize (text "ELF header"))
  checkIdentification bytes
  checkHeader bytes
  let programOffset ← readLittleEndian 64 bytes 32#64
  let programEntrySize ← readLittleEndian 16 bytes 54#64
  let programCount ← readLittleEndian 16 bytes 56#64
  thrown (rejectIf (programCount ≠ 0#16 && programEntrySize.setWidth 64 ≠ kProgramHeaderSize)
    (text "unexpected ELF64 program-header size"))
  thrown (rejectIf (programCount > 4096#16)
    (text "ELF image has an unreasonable number of program headers"))
  let entrySize : BitVec 64 := programEntrySize.setWidth 64
  let tableSize ← multiply entrySize (programCount.setWidth 64)
  thrown (requireRange bytes programOffset tableSize (text "program-header table"))
  let entry ← readLittleEndian 64 bytes 24#64
  let segments ← readSegments bytes programOffset entrySize programCount.toNat 0 []
  return ⟨entry, segments⟩

def parse (sorting : SegmentSort) (bytes : List Byte) : Except ParseFault ElfImage := do
  let table ← readTable bytes
  thrown (acceptSegments sorting table.entry table.segments)

variable {α β : Type}

@[simp] theorem thrown_ok (value : α) : thrown (.ok value) = .ok value := rfl

@[simp] theorem thrown_pure (value : α) : thrown (pure value) = pure value := rfl

theorem thrown_bind {result : Except ElfError α} {next : α → Except ElfError β}
    {guarded : α → Except ParseFault β}
    (h : ∀ value, result = .ok value → guarded value = thrown (next value)) :
    thrown result >>= guarded = thrown (result >>= next) := by
  cases result with
  | error error => rfl
  | ok value => exact h value rfl

theorem add_eq {left right : BitVec 64} (h : left.toNat + right.toNat < 2 ^ 64) :
    add left right = .ok (left + right) := if_pos h

theorem multiply_eq {left right : BitVec 64} (h : left.toNat * right.toNat < 2 ^ 64) :
    multiply left right = .ok (left * right) := if_pos h

theorem byteAt_eq {bytes : List Byte} {index : Nat} (h : index < bytes.length) :
    byteAt bytes index = .ok (Northstar64.byteAt bytes index) := by
  rw [byteAt, dif_pos h, Northstar64.byteAt, List.getD_eq_getElem _ _ h]

theorem foldlM_eq {f : α → β → Except ParseFault α} {g : α → β → α} {items : List β}
    (h : ∀ value, ∀ item ∈ items, f value item = .ok (g value item)) (start : α) :
    items.foldlM f start = .ok (items.foldl g start) := by
  induction items generalizing start with
  | nil => rfl
  | cons item items ih =>
    rw [List.foldlM_cons, h start item (by simp), List.foldl_cons]
    exact ih (fun value other hother => h value other (by simp [hother])) _

variable {span : ByteSpan} {offset : BitVec 64}

theorem readLittleEndian_eq (bits : Nat) (hwide : bits ≤ 64) (span : ByteSpan)
    (offset : BitVec 64) :
    readLittleEndian bits span.bytes offset =
      thrown (Northstar64.readLittleEndian bits span.bytes offset) := by
  have hlength := span.length_lt
  refine thrown_bind (fun _ hrange => ?_)
  have hfits := requireRange_eq_ok.mp hrange
  rw [BitVec.toNat_ofNat, Nat.mod_eq_of_lt (by omega)] at hfits
  rw [foldlM_eq (g := fun value index => value |||
    (Northstar64.byteAt span.bytes (offset.toNat + index)).setWidth 64 <<< (index * 8))]
  · rfl
  · intro value index hindex
    have hlt := List.mem_range.mp hindex
    have hsmall : (BitVec.ofNat 64 index).toNat = index := by
      rw [BitVec.toNat_ofNat, Nat.mod_eq_of_lt (by omega)]
    have hplace : (offset + BitVec.ofNat 64 index).toNat = offset.toNat + index := by
      rw [BitVec.toNat_add, hsmall, Nat.mod_eq_of_lt (by omega)]
    rw [add_eq (by omega), ok_bind, byteAt_eq (by omega), hplace]
    rfl

theorem checkIdentification_eq {bytes : List Byte} (h : 64 ≤ bytes.length) :
    checkIdentification bytes = thrown (Northstar64.checkIdentification bytes) := by
  unfold checkIdentification
  simp only [byteAt_eq (show 0 < bytes.length by omega), byteAt_eq (show 1 < bytes.length by omega),
    byteAt_eq (show 2 < bytes.length by omega), byteAt_eq (show 3 < bytes.length by omega),
    byteAt_eq (show 4 < bytes.length by omega), byteAt_eq (show 5 < bytes.length by omega),
    byteAt_eq (show 6 < bytes.length by omega)]
  refine thrown_bind (fun _ _ => ?_)
  refine thrown_bind (fun _ _ => ?_)
  exact thrown_bind (fun _ _ => rfl)

theorem checkHeader_eq (span : ByteSpan) :
    checkHeader span.bytes = thrown (Northstar64.checkHeader span.bytes) := by
  unfold checkHeader
  simp only [readLittleEndian_eq 16 (by decide), readLittleEndian_eq 32 (by decide)]
  refine thrown_bind (fun _ _ => thrown_bind (fun _ _ => ?_))
  refine thrown_bind (fun _ _ => thrown_bind (fun _ _ => ?_))
  refine thrown_bind (fun _ _ => thrown_bind (fun _ _ => ?_))
  exact thrown_bind (fun _ _ => rfl)

theorem checkEnds_eq {segment : ElfSegment} (h : InFile span.bytes segment) :
    checkEnds segment = .ok () := by
  have hlength := span.length_lt
  have hend := segment.end_le
  rw [checkEnds, add_eq (Nat.lt_of_le_of_lt h hlength)]
  by_cases hsize : segment.memorySize = 0#64
  · simp [hsize, bind, Except.bind, pure, Except.pure]
  · have hlast : segment.loadAddress.toNat + (segment.memorySize - 1#64).toNat < 2 ^ 64 := by
      bv_omega
    simp [hsize, add_eq hlast, bind, Except.bind, pure, Except.pure]

section Entry
variable (hentry : offset.toNat + 56 ≤ span.bytes.length)
include hentry

theorem readField_eq (bits : Nat) (hwide : bits ≤ 64) {position : BitVec 64}
    (hposition : position.toNat < 56) :
    readField bits span.bytes offset position =
      thrown (Northstar64.readLittleEndian bits span.bytes (offset + position)) := by
  have hlength := span.length_lt
  rw [readField, add_eq (by omega)]
  exact readLittleEndian_eq bits hwide span (offset + position)

theorem readFields_eq :
    readFields span.bytes offset = thrown (Northstar64.readFields span.bytes offset) := by
  unfold readFields
  have hword (position : BitVec 64) (hposition : position.toNat < 56) :=
    readField_eq hentry 32 (by decide) hposition
  have hdouble (position : BitVec 64) (hposition : position.toNat < 56) :=
    readField_eq hentry 64 (by decide) hposition
  simp only [hword 4#64 (by decide), hdouble 8#64 (by decide), hdouble 16#64 (by decide),
    hdouble 24#64 (by decide), hdouble 32#64 (by decide), hdouble 40#64 (by decide),
    hdouble 48#64 (by decide)]
  refine thrown_bind (fun _ _ => thrown_bind (fun _ _ => thrown_bind (fun _ _ => ?_)))
  refine thrown_bind (fun _ _ => thrown_bind (fun _ _ => thrown_bind (fun _ _ => ?_)))
  exact thrown_bind (fun _ _ => rfl)

theorem readSegment_eq :
    readSegment span.bytes offset = thrown (Northstar64.readSegment span.bytes offset) := by
  unfold readSegment
  rw [readLittleEndian_eq 32 (by decide)]
  refine thrown_bind (fun type _ => ?_)
  by_cases htype : type ≠ kLoadableSegment
  · rw [if_pos htype, if_pos htype]
    rfl
  · rw [if_neg htype, if_neg htype, readFields_eq hentry]
    refine thrown_bind (fun fields _ => thrown_bind (fun segment hsegment => ?_))
    rw [checkEnds_eq (checkFields_inFile hsegment)]
    rfl

end Entry

theorem readSegments_eq {programOffset : BitVec 64} {remaining index : Nat}
    {segments : List ElfSegment}
    (htable : programOffset.toNat + 56 * (index + remaining) ≤ span.bytes.length) :
    readSegments span.bytes programOffset kProgramHeaderSize remaining index segments =
      thrown (Northstar64.readSegments span.bytes programOffset kProgramHeaderSize remaining index
        segments) := by
  have hlength := span.length_lt
  induction remaining generalizing index segments with
  | zero => rfl
  | succ remaining ih =>
    have hindex : (BitVec.ofNat 64 index).toNat = index := by
      rw [BitVec.toNat_ofNat, Nat.mod_eq_of_lt (by omega)]
    have hposition : (BitVec.ofNat 64 index * kProgramHeaderSize).toNat = index * 56 := by
      rw [BitVec.toNat_mul, hindex, kProgramHeaderSize, BitVec.toNat_ofNat,
        Nat.mod_eq_of_lt (by omega)]
    have hoffset : (programOffset + BitVec.ofNat 64 index * kProgramHeaderSize).toNat =
        programOffset.toNat + index * 56 := by
      rw [BitVec.toNat_add, hposition, Nat.mod_eq_of_lt (by omega)]
    have hsize : kProgramHeaderSize.toNat = 56 := rfl
    rw [readSegments, multiply_eq (by rw [hindex, hsize]; omega), ok_bind,
      add_eq (by rw [hposition]; omega), ok_bind, readSegment_eq (by omega)]
    exact thrown_bind (fun segment _ => ih (by omega))

theorem readSegments_counted {programOffset entrySize : BitVec 64} {count : BitVec 16}
    (hsize : count ≠ 0#16 → entrySize = kProgramHeaderSize)
    (htable : programOffset.toNat + 56 * (0 + count.toNat) ≤ span.bytes.length) :
    readSegments span.bytes programOffset entrySize count.toNat 0 [] =
      thrown (Northstar64.readSegments span.bytes programOffset entrySize count.toNat 0 []) := by
  by_cases hcount : count = 0#16
  · rw [hcount]
    rfl
  · rw [hsize hcount]
    exact readSegments_eq htable

theorem readTable_eq (span : ByteSpan) :
    readTable span.bytes = thrown (Northstar64.readTable span.bytes) := by
  unfold readTable
  refine thrown_bind (fun _ hheader => ?_)
  rw [checkIdentification_eq (requireRange_eq_ok.mp hheader), checkHeader_eq,
    readLittleEndian_eq 64 (by decide), readLittleEndian_eq 16 (by decide)]
  refine thrown_bind (fun _ _ => thrown_bind (fun _ _ => thrown_bind (fun programOffset _ => ?_)))
  refine thrown_bind (fun entrySize _ => ?_)
  rw [readLittleEndian_eq 16 (by decide)]
  refine thrown_bind (fun count _ => thrown_bind (fun _ hsize => thrown_bind (fun _ hlimit => ?_)))
  have hentrySize : count ≠ 0#16 → entrySize.setWidth 64 = kProgramHeaderSize := by
    simpa using rejectIf_eq_ok.mp hsize
  have hcount : count ≤ 4096#16 := by simpa using rejectIf_eq_ok.mp hlimit
  have hproduct : (entrySize.setWidth 64 : BitVec 64).toNat *
      (count.setWidth 64 : BitVec 64).toNat < 2 ^ 64 := by
    have hwide := Nat.mul_lt_mul'' entrySize.isLt count.isLt
    rw [BitVec.toNat_setWidth_of_le (by decide), BitVec.toNat_setWidth_of_le (by decide)]
    omega
  dsimp only
  rw [multiply_eq hproduct, ok_bind]
  refine thrown_bind (fun _ hrange => ?_)
  have hfits := requireRange_eq_ok.mp hrange
  rw [tableSize_eq hentrySize hcount] at hfits
  rw [readLittleEndian_eq 64 (by decide)]
  refine thrown_bind (fun entry _ => ?_)
  rw [readSegments_counted hentrySize (by omega)]
  exact thrown_bind (fun segments _ => rfl)

theorem parse_eq (sorting : SegmentSort) (span : ByteSpan) :
    parse sorting span.bytes = thrown (Northstar64.parse sorting span.bytes) := by
  rw [parse, readTable_eq]
  exact thrown_bind (fun _ _ => rfl)

end Guarded

end Northstar64
