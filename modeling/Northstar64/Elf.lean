import Northstar64.Memory

namespace Northstar64

def kElfHeaderSize : BitVec 64 := 64#64
def kProgramHeaderSize : BitVec 64 := 56#64
def kLoadableSegment : BitVec 32 := 1#32
def kElfExecutable : BitVec 16 := 2#16
def kMachineRiscV : BitVec 16 := 243#16

structure ElfSegment where
  virtualAddress : Address
  loadAddress : Address
  fileOffset : BitVec 64
  fileSize : BitVec 64
  memorySize : BitVec 64
  flags : BitVec 32
  payload_fits : fileSize ≤ memorySize
  identity : loadAddress = virtualAddress
  in_range : memorySize = 0#64 ∨ addOverflows loadAddress (memorySize - 1#64) = false
  deriving DecidableEq

namespace ElfSegment

def readable (segment : ElfSegment) : Bool := segment.flags &&& 4#32 ≠ 0#32

def writable (segment : ElfSegment) : Bool := segment.flags &&& 2#32 ≠ 0#32

def executable (segment : ElfSegment) : Bool := segment.flags &&& 1#32 ≠ 0#32

end ElfSegment

structure ElfImage where
  entry : Address
  segments : List ElfSegment
  deriving DecidableEq

structure ElfError where
  what : Text
  deriving DecidableEq

def rejectIf (condition : Bool) (what : Text) : Except ElfError Unit :=
  if condition then .error ⟨what⟩ else .ok ()

def requireRange (bytes : List Byte) (offset size : BitVec 64) (description : Text) :
    Except ElfError Unit :=
  rejectIf (offset.toNat > bytes.length || size.toNat > bytes.length - offset.toNat)
    (description ++ text " extends beyond the ELF file")

def byteAt (bytes : List Byte) (index : Nat) : Byte := bytes.getD index 0#8

def readLittleEndian (bits : Nat) (bytes : List Byte) (offset : BitVec 64) :
    Except ElfError (BitVec bits) := do
  requireRange bytes offset (BitVec.ofNat 64 (bits / 8)) (text "integer field")
  let value : BitVec 64 := (List.range (bits / 8)).foldl (fun value index =>
    value ||| (byteAt bytes (offset.toNat + index)).setWidth 64 <<< (index * 8)) 0#64
  return value.setWidth bits

def checkIdentification (bytes : List Byte) : Except ElfError Unit := do
  rejectIf (byteAt bytes 0 ≠ 0x7f#8 || byteAt bytes 1 ≠ 0x45#8 || byteAt bytes 2 ≠ 0x4c#8 ||
    byteAt bytes 3 ≠ 0x46#8) (text "input is not an ELF file")
  rejectIf (byteAt bytes 4 ≠ 2#8) (text "only ELF64 images are supported")
  rejectIf (byteAt bytes 5 ≠ 1#8) (text "only little-endian ELF images are supported")
  rejectIf (byteAt bytes 6 ≠ 1#8) (text "unsupported ELF identification version")

def checkHeader (bytes : List Byte) : Except ElfError Unit := do
  let type ← readLittleEndian 16 bytes 16#64
  rejectIf (type ≠ kElfExecutable) (text "only fixed-address ET_EXEC images are supported")
  let machine ← readLittleEndian 16 bytes 18#64
  rejectIf (machine ≠ kMachineRiscV) (text "ELF image is not for the RISC-V architecture")
  let version ← readLittleEndian 32 bytes 20#64
  rejectIf (version ≠ 1#32) (text "unsupported ELF header version")
  let headerSize ← readLittleEndian 16 bytes 52#64
  rejectIf (headerSize.setWidth 64 ≠ kElfHeaderSize) (text "unexpected ELF64 header size")

structure SegmentFields where
  flags : BitVec 32
  fileOffset : BitVec 64
  virtualAddress : BitVec 64
  physicalAddress : BitVec 64
  fileSize : BitVec 64
  memorySize : BitVec 64
  alignment : BitVec 64

def readFields (bytes : List Byte) (offset : BitVec 64) : Except ElfError SegmentFields := do
  let flags ← readLittleEndian 32 bytes (offset + 4#64)
  let fileOffset ← readLittleEndian 64 bytes (offset + 8#64)
  let virtualAddress ← readLittleEndian 64 bytes (offset + 16#64)
  let physicalAddress ← readLittleEndian 64 bytes (offset + 24#64)
  let fileSize ← readLittleEndian 64 bytes (offset + 32#64)
  let memorySize ← readLittleEndian 64 bytes (offset + 40#64)
  let alignment ← readLittleEndian 64 bytes (offset + 48#64)
  return ⟨flags, fileOffset, virtualAddress, physicalAddress, fileSize, memorySize, alignment⟩

def SegmentFields.loadAddress (fields : SegmentFields) : Address :=
  if fields.physicalAddress = 0#64 then fields.virtualAddress else fields.physicalAddress

def checkFields (bytes : List Byte) (fields : SegmentFields) : Except ElfError ElfSegment :=
  if hfits : fields.fileSize > fields.memorySize then
    .error ⟨text "PT_LOAD file size exceeds its in-memory size"⟩
  else do
    requireRange bytes fields.fileOffset fields.fileSize (text "PT_LOAD payload")
    rejectIf (fields.alignment ≠ 0#64 && fields.alignment &&& (fields.alignment - 1#64) ≠ 0#64)
      (text "PT_LOAD alignment is not a power of two")
    if hidentity : fields.loadAddress ≠ fields.virtualAddress then
      .error ⟨text "non-identity PT_LOAD virtual and physical addresses require an MMU"⟩
    else if hrange : fields.memorySize ≠ 0#64 ∧
        addOverflows fields.loadAddress (fields.memorySize - 1#64) = true then
      .error ⟨text "PT_LOAD memory range overflows the guest address space"⟩
    else
      return {
        virtualAddress := fields.virtualAddress
        loadAddress := fields.loadAddress
        fileOffset := fields.fileOffset
        fileSize := fields.fileSize
        memorySize := fields.memorySize
        flags := fields.flags
        payload_fits := BitVec.not_lt.mp hfits
        identity := not_not.mp hidentity
        in_range := by
          rw [not_and_or, not_not, Bool.not_eq_true] at hrange
          exact hrange }

def readSegment (bytes : List Byte) (offset : BitVec 64) :
    Except ElfError (Option ElfSegment) := do
  let type ← readLittleEndian 32 bytes offset
  if type ≠ kLoadableSegment then return none
  else
    let fields ← readFields bytes offset
    let segment ← checkFields bytes fields
    return some segment

-- The first count is the number of headers left: `program_count - index` in every iteration.
def readSegments (bytes : List Byte) (programOffset entrySize : BitVec 64) :
    Nat → Nat → List ElfSegment → Except ElfError (List ElfSegment)
  | 0, _, segments => .ok segments
  | remaining + 1, index, segments => do
    let segment ← readSegment bytes (programOffset + BitVec.ofNat 64 index * entrySize)
    readSegments bytes programOffset entrySize remaining (index + 1) (segments ++ segment.toList)

structure ProgramTable where
  entry : Address
  segments : List ElfSegment

-- `parse` up to the end of its loop over the program headers.
def readTable (bytes : List Byte) : Except ElfError ProgramTable := do
  requireRange bytes 0#64 kElfHeaderSize (text "ELF header")
  checkIdentification bytes
  checkHeader bytes
  let programOffset ← readLittleEndian 64 bytes 32#64
  let programEntrySize ← readLittleEndian 16 bytes 54#64
  let programCount ← readLittleEndian 16 bytes 56#64
  rejectIf (programCount ≠ 0#16 && programEntrySize.setWidth 64 ≠ kProgramHeaderSize)
    (text "unexpected ELF64 program-header size")
  rejectIf (programCount > 4096#16) (text "ELF image has an unreasonable number of program headers")
  let entrySize : BitVec 64 := programEntrySize.setWidth 64
  requireRange bytes programOffset (entrySize * programCount.setWidth 64)
    (text "program-header table")
  let entry ← readLittleEndian 64 bytes 24#64
  let segments ← readSegments bytes programOffset entrySize programCount.toNat 0 []
  return ⟨entry, segments⟩

-- `std::sort` by load address promises an ordered permutation and no order between equal keys.
structure SegmentSort where
  sort : List ElfSegment → List ElfSegment
  perm : ∀ segments, (sort segments).Perm segments
  sorted : ∀ segments,
    (sort segments).Pairwise (fun left right => left.loadAddress ≤ right.loadAddress)

def SegmentSort.insertion : SegmentSort where
  sort := List.insertionSort (fun left right => left.loadAddress ≤ right.loadAddress)
  perm := List.perm_insertionSort _
  sorted segments :=
    have : Std.Total (fun left right : ElfSegment => left.loadAddress ≤ right.loadAddress) :=
      ⟨fun left right => BitVec.le_total left.loadAddress right.loadAddress⟩
    have : IsTrans ElfSegment (fun left right => left.loadAddress ≤ right.loadAddress) :=
      ⟨fun _ _ _ => BitVec.le_trans⟩
    List.pairwise_insertionSort _ segments

def segmentsOverlap : List ElfSegment → Bool
  | previous :: current :: rest =>
    (previous.memorySize ≠ 0#64 &&
      current.loadAddress < previous.loadAddress + previous.memorySize) ||
      segmentsOverlap (current :: rest)
  | _ => false

def entryIsExecutable (entry : Address) (segments : List ElfSegment) : Bool :=
  segments.any (fun segment => segment.executable && entry ≥ segment.virtualAddress &&
    entry - segment.virtualAddress < segment.memorySize)

variable (sorting : SegmentSort)

def acceptSegments (entry : Address) (segments : List ElfSegment) : Except ElfError ElfImage := do
  rejectIf segments.isEmpty (text "ELF image contains no loadable segments")
  let segments := sorting.sort segments
  rejectIf (segmentsOverlap segments) (text "overlapping PT_LOAD memory ranges are rejected")
  rejectIf (!entryIsExecutable entry segments)
    (text "ELF entry point is outside every executable PT_LOAD segment")
  return ⟨entry, segments⟩

def parse (bytes : List Byte) : Except ElfError ElfImage := do
  let table ← readTable bytes
  acceptSegments sorting table.entry table.segments

def inspectElf (bytes : List Byte) : Except ElfError ElfImage := parse sorting bytes

-- The first count is the number of bytes left: `memory_size - offset` in every iteration.
def zeroFill (loadAddress : Address) : Nat → BitVec 64 → Bus → Bus × Option ElfError
  | 0, _, bus => (bus, none)
  | remaining + 1, offset, bus =>
    match bus.write (loadAddress + offset) 1 0#64 .imageLoad with
    | (bus, some fault) =>
      (bus, some ⟨text "unexpected bus fault while zero-filling PT_LOAD: " ++ fault.detail⟩)
    | (bus, none) => zeroFill loadAddress remaining (offset + 1#64) bus

def ElfSegment.payload (segment : ElfSegment) (bytes : List Byte) : List Byte :=
  (bytes.drop segment.fileOffset.toNat).take segment.fileSize.toNat

def loadSegment (bytes : List Byte) (segment : ElfSegment) (bus : Bus) : Bus × Option ElfError :=
  match bus.writeBytes segment.loadAddress (segment.payload bytes) .imageLoad with
  | (bus, some fault) =>
    (bus, some ⟨text "unexpected bus fault while loading PT_LOAD: " ++ fault.detail⟩)
  | (bus, none) =>
    zeroFill segment.loadAddress (segment.memorySize - segment.fileSize).toNat segment.fileSize bus

def loadSegments (bytes : List Byte) : List ElfSegment → Bus → Bus × Option ElfError
  | [], bus => (bus, none)
  | segment :: segments, bus =>
    match loadSegment bytes segment bus with
    | (bus, some error) => (bus, some error)
    | (bus, none) => loadSegments bytes segments bus

def outsideRam (segment : ElfSegment) : ElfError :=
  ⟨text "PT_LOAD range [0x" ++ toHex segment.loadAddress.toNat ++ text ", 0x" ++
    toHex (segment.loadAddress + segment.memorySize).toNat ++
    text ") is outside image-loadable RAM"⟩

def loadElf (bytes : List Byte) (bus : Bus) : Bus × Except ElfError ElfImage :=
  match parse sorting bytes with
  | .error error => (bus, .error error)
  | .ok image =>
    match image.segments.find? (fun segment =>
        !bus.imageRangeIsValid segment.loadAddress segment.memorySize) with
    | some segment => (bus, .error (outsideRam segment))
    | none =>
      match loadSegments bytes image.segments bus with
      | (bus, some error) => (bus, .error error)
      | (bus, none) => (bus, .ok image)

end Northstar64
