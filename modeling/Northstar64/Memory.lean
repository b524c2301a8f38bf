import Northstar64.Types

namespace Northstar64

inductive AccessKind where
  | instructionFetch
  | load
  | store
  | pageTableWalk
  | imageLoad
  deriving DecidableEq, Repr

structure BusFault where
  address : Address
  width : Nat
  kind : AccessKind
  detail : Text
  deriving DecidableEq

structure DeviceError where
  detail : Text
  deriving DecidableEq

abbrev DeviceReadResult := Except DeviceError (BitVec 64)
abbrev DeviceWriteResult := Option DeviceError
abbrev BusReadResult := Except BusFault (BitVec 64)
abbrev BusWriteResult := Option BusFault

def validWidth (width : Nat) : Bool :=
  width == 1 || width == 2 || width == 4 || width == 8

def rangesOverlap (firstBase : Address) (firstSize : BitVec 64) (secondBase : Address)
    (secondSize : BitVec 64) : Bool :=
  if firstSize = 0#64 || secondSize = 0#64 then false
  else
    let firstEnd := firstBase + firstSize - 1#64
    let secondEnd := secondBase + secondSize - 1#64
    firstBase ≤ secondEnd && secondBase ≤ firstEnd

def makeFault (address : Address) (width : Nat) (kind : AccessKind) (detail : Text) : BusFault :=
  ⟨address, width, kind, detail⟩

structure MappedDevice where
  base : Address
  size : BitVec 64
  name : Text
  size_ne_zero : size ≠ 0#64
  in_range : addOverflows base (size - 1#64) = false
  name_ne_nil : name ≠ []
  deriving DecidableEq

namespace MappedDevice

def make (base : Address) (size : BitVec 64) (name : Text) : Except Text MappedDevice :=
  if hsize : size = 0#64 then .error (text "a mapped device cannot have zero size")
  else if hrange : addOverflows base (size - 1#64) = true then
    .error (text "mapped device address range overflows")
  else if hname : name = [] then .error (text "a mapped device requires a name")
  else .ok ⟨base, size, name, hsize, by simpa using hrange, hname⟩

def contains (device : MappedDevice) (address : Address) (width : Nat) : Bool :=
  if !validWidth width || address < device.base then false
  else
    let offset := address - device.base
    offset < device.size && BitVec.ofNat 64 width ≤ device.size - offset

def last (device : MappedDevice) : Address := device.base + (device.size - 1#64)

theorem size_pos (device : MappedDevice) : 0 < device.size.toNat := by
  have h := device.size_ne_zero
  rw [ne_eq, ← BitVec.toNat_inj] at h
  exact Nat.pos_of_ne_zero h

theorem size_sub_one_toNat (device : MappedDevice) :
    (device.size - 1#64).toNat = device.size.toNat - 1 := by
  have hpos := device.size_pos
  bv_omega

theorem end_le (device : MappedDevice) : device.base.toNat + device.size.toNat ≤ 2 ^ 64 := by
  have hrange := (addOverflows_eq_false_iff _ _).mp device.in_range
  have hpos := device.size_pos
  rw [size_sub_one_toNat] at hrange
  omega

theorem last_toNat (device : MappedDevice) :
    device.last.toNat = device.base.toNat + device.size.toNat - 1 := by
  have hrange := (addOverflows_eq_false_iff _ _).mp device.in_range
  have hpos := device.size_pos
  rw [last, BitVec.toNat_add, Nat.mod_eq_of_lt hrange, size_sub_one_toNat]
  omega

theorem base_add_size_sub_one (device : MappedDevice) :
    device.base + device.size - 1#64 = device.last := by
  rw [last, BitVec.sub_eq_add_neg, BitVec.sub_eq_add_neg, BitVec.add_assoc]

theorem rangesOverlap_iff (first second : MappedDevice) :
    rangesOverlap first.base first.size second.base second.size = true ↔
      first.base ≤ second.last ∧ second.base ≤ first.last := by
  simp [rangesOverlap, first.size_ne_zero, second.size_ne_zero, base_add_size_sub_one]

theorem base_le_last (device : MappedDevice) : device.base ≤ device.last := by
  have hpos := device.size_pos
  rw [BitVec.le_def, last_toNat]
  omega

theorem rangesOverlap_comm (first second : MappedDevice) :
    rangesOverlap first.base first.size second.base second.size =
      rangesOverlap second.base second.size first.base first.size := by
  rw [Bool.eq_iff_iff, rangesOverlap_iff, rangesOverlap_iff, and_comm]

end MappedDevice

def kPageSize : Nat := 4096

abbrev Page := Fin kPageSize → Byte

structure SparseRam extends MappedDevice where
  pages : Nat → Option Page

namespace SparseRam

def pageNumber (offset : BitVec 64) : Nat := offset.toNat / kPageSize

def pageOffset (offset : BitVec 64) : Fin kPageSize :=
  ⟨offset.toNat % kPageSize, Nat.mod_lt _ (by decide)⟩

def unwritten (device : MappedDevice) : SparseRam := ⟨device, fun _ => none⟩

def make (base : Address) (size : BitVec 64) (name : Text) : Except Text SparseRam :=
  (MappedDevice.make base size name).map unwritten

def readByte (ram : SparseRam) (offset : BitVec 64) : Byte :=
  match ram.pages (pageNumber offset) with
  | none => 0#8
  | some page => page (pageOffset offset)

def writeByte (ram : SparseRam) (offset : BitVec 64) (value : Byte) : SparseRam :=
  let existing := ram.pages (pageNumber offset)
  if value = 0#8 && existing.isNone then ram
  else
    let page := existing.getD (fun _ => 0#8)
    { ram with
      pages := Function.update ram.pages (pageNumber offset)
        (some (Function.update page (pageOffset offset) value)) }

def exceeds (ram : SparseRam) (offset : BitVec 64) (width : Nat) : Bool :=
  !validWidth width || offset ≥ ram.size || BitVec.ofNat 64 width > ram.size - offset

def read (ram : SparseRam) (offset : BitVec 64) (width : Nat) : DeviceReadResult × SparseRam :=
  if ram.exceeds offset width then (.error ⟨text "RAM read exceeds the mapped range"⟩, ram)
  else
    (.ok ((List.range width).foldl (fun value index =>
      value ||| (ram.readByte (offset + BitVec.ofNat 64 index)).setWidth 64 <<< (index * 8)) 0#64), ram)

def write (ram : SparseRam) (offset : BitVec 64) (width : Nat) (value : BitVec 64) :
    SparseRam × DeviceWriteResult :=
  if ram.exceeds offset width then (ram, some ⟨text "RAM write exceeds the mapped range"⟩)
  else
    ((List.range width).foldl (fun ram index =>
      ram.writeByte (offset + BitVec.ofNat 64 index)
        ((value >>> (index * 8) &&& 0xff#64).setWidth 8)) ram, none)

def clear (ram : SparseRam) : SparseRam := { ram with pages := fun _ => none }

end SparseRam

def kRegisterSpan : BitVec 64 := 8#64

structure Uart16550 extends MappedDevice where
  size_eq : size = kRegisterSpan
  transmitted : Text

namespace Uart16550

def make (base : Address) : Except Text Uart16550 :=
  if hrange : addOverflows base (kRegisterSpan - 1#64) = true then
    .error (text "mapped device address range overflows")
  else
    .ok ⟨⟨base, kRegisterSpan, text "uart16550", by decide, by simpa using hrange, by decide⟩, rfl, []⟩

def read (uart : Uart16550) (offset : BitVec 64) (width : Nat) : DeviceReadResult × Uart16550 :=
  if width ≠ 1 then (.error ⟨text "the UART model only supports byte accesses"⟩, uart)
  else if offset = 0#64 then (.ok 0#64, uart)
  else if offset = 5#64 then (.ok 0x60#64, uart)
  else (.ok 0#64, uart)

def write (uart : Uart16550) (offset : BitVec 64) (width : Nat) (value : BitVec 64) :
    Uart16550 × DeviceWriteResult :=
  if width ≠ 1 then (uart, some ⟨text "the UART model only supports byte accesses"⟩)
  else if offset = 0#64 then
    ({ uart with transmitted := uart.transmitted ++ [(value &&& 0xff#64).setWidth 8] }, none)
  else (uart, none)

def clearTransmitted (uart : Uart16550) : Uart16550 := { uart with transmitted := [] }

end Uart16550

inductive Device where
  | sparseRam (ram : SparseRam)
  | uart16550 (uart : Uart16550)

namespace Device

def mapped : Device → MappedDevice
  | .sparseRam ram => ram.toMappedDevice
  | .uart16550 uart => uart.toMappedDevice

def base (device : Device) : Address := device.mapped.base
def size (device : Device) : BitVec 64 := device.mapped.size
def name (device : Device) : Text := device.mapped.name
def last (device : Device) : Address := device.mapped.last

def contains (device : Device) (address : Address) (width : Nat) : Bool :=
  device.mapped.contains address width

def acceptsImage : Device → Bool
  | .sparseRam _ => true
  | .uart16550 _ => false

def read (device : Device) (offset : BitVec 64) (width : Nat) : DeviceReadResult × Device :=
  match device with
  | .sparseRam ram =>
    let result := ram.read offset width
    (result.1, .sparseRam result.2)
  | .uart16550 uart =>
    let result := uart.read offset width
    (result.1, .uart16550 result.2)

def write (device : Device) (offset : BitVec 64) (width : Nat) (value : BitVec 64) :
    Device × DeviceWriteResult :=
  match device with
  | .sparseRam ram =>
    let result := ram.write offset width value
    (.sparseRam result.1, result.2)
  | .uart16550 uart =>
    let result := uart.write offset width value
    (.uart16550 result.1, result.2)

def Precedes (left right : Device) : Prop := left.last < right.base

def Disjoint (left right : Device) : Prop :=
  rangesOverlap left.base left.size right.base right.size = false

theorem Disjoint.symm {left right : Device} (h : left.Disjoint right) : right.Disjoint left := by
  unfold Disjoint at h ⊢
  rwa [base, size, base, size, MappedDevice.rangesOverlap_comm]

theorem Precedes.disjoint {left right : Device} (h : left.Precedes right) :
    left.Disjoint right := by
  rw [Disjoint, Bool.eq_false_iff, ne_eq, base, size, base, size, MappedDevice.rangesOverlap_iff]
  intro hoverlap
  exact BitVec.not_le.mpr h hoverlap.2

theorem precedes_of_base_le {left right : Device} (hle : left.base ≤ right.base)
    (h : left.Disjoint right) : left.Precedes right := by
  rw [Disjoint, Bool.eq_false_iff, ne_eq, base, size, base, size,
    MappedDevice.rangesOverlap_iff] at h
  by_contra hlast
  exact h ⟨BitVec.le_trans hle right.mapped.base_le_last, BitVec.not_lt.mp hlast⟩

end Device

@[ext] structure Bus where
  devices : List Device
  sorted : devices.Pairwise Device.Precedes

namespace Bus

def empty : Bus := ⟨[], .nil⟩

theorem pairwise_disjoint (bus : Bus) : bus.devices.Pairwise Device.Disjoint :=
  bus.sorted.imp Device.Precedes.disjoint

theorem sorted_insertion {devices : List Device} (h : devices.Pairwise Device.Disjoint) :
    (devices.insertionSort (fun left right => left.base ≤ right.base)).Pairwise
      Device.Precedes := by
  have : Std.Total (fun left right : Device => left.base ≤ right.base) :=
    ⟨fun left right => BitVec.le_total left.base right.base⟩
  have : IsTrans Device (fun left right => left.base ≤ right.base) :=
    ⟨fun _ _ _ => BitVec.le_trans⟩
  have hsorted := devices.pairwise_insertionSort (fun left right => left.base ≤ right.base)
  have hperm := devices.perm_insertionSort (fun left right => left.base ≤ right.base)
  have hdisjoint := hperm.symm.pairwise h (fun {_ _} hd => hd.symm)
  exact hsorted.imp₂ (fun _ _ => Device.precedes_of_base_le) hdisjoint

def addDevice (bus : Bus) (device : Device) : Except Text Bus :=
  match hfind : bus.devices.find? (fun existing =>
      rangesOverlap existing.base existing.size device.base device.size) with
  | some existing =>
    .error (text "device '" ++ device.name ++ text "' overlaps '" ++ existing.name ++ text "'")
  | none =>
    .ok {
      devices := (bus.devices ++ [device]).insertionSort (fun left right => left.base ≤ right.base)
      sorted := sorted_insertion (by
        rw [List.pairwise_append]
        refine ⟨bus.pairwise_disjoint, List.pairwise_singleton _ _, ?_⟩
        intro existing hexisting added hadded
        rw [List.mem_singleton] at hadded
        simpa [hadded,Device.Disjoint] using List.find?_eq_none.mp hfind existing hexisting) }

def find (bus : Bus) (address : Address) (width : Nat) : Option Device :=
  bus.devices.find? (fun device => device.contains address width)

def modify (bus : Bus) (f : Device → Device) (hf : ∀ device, (f device).mapped = device.mapped) :
    Bus where
  devices := bus.devices.map f
  sorted := by
    rw [List.pairwise_map]
    exact bus.sorted.imp (fun {left right} h => by
      simpa only [Device.Precedes, Device.last, Device.base, hf] using h)

-- The object behind a device pointer after a member call: the mapped range identifies it.
def put (bus : Bus) (device : Device) : Bus :=
  bus.modify (fun other => if other.mapped = device.mapped then device else other) (by
    intro other
    split_ifs with h
    · exact h.symm
    · rfl)

def read (bus : Bus) (address : Address) (width : Nat) (kind : AccessKind) : BusReadResult × Bus :=
  if !validWidth width then
    (.error (makeFault address width kind (text "unsupported access width")), bus)
  else
    match bus.find address width with
    | none => (.error (makeFault address width kind (text "address is not mapped")), bus)
    | some device =>
      let result := device.read (address - device.base) width
      match result.1 with
      | .error error =>
        (.error (makeFault address width kind
          (text "device '" ++ device.name ++ text "': " ++ error.detail)), bus.put result.2)
      | .ok value => (.ok value, bus.put result.2)

def write (bus : Bus) (address : Address) (width : Nat) (value : BitVec 64) (kind : AccessKind) :
    Bus × BusWriteResult :=
  if !validWidth width then
    (bus, some (makeFault address width kind (text "unsupported access width")))
  else
    match bus.find address width with
    | none => (bus, some (makeFault address width kind (text "address is not mapped")))
    | some device =>
      let result := device.write (address - device.base) width value
      match result.2 with
      | some error =>
        (bus.put result.1, some (makeFault address width kind
          (text "device '" ++ device.name ++ text "': " ++ error.detail)))
      | none => (bus.put result.1, none)

def writeBytesFrom (address : Address) (kind : AccessKind) :
    Nat → List Byte → Bus → Bus × BusWriteResult
  | _, [], bus => (bus, none)
  | index, byte :: bytes, bus =>
    match bus.write (address + BitVec.ofNat 64 index) 1 (byte.setWidth 64) kind with
    | (bus, some fault) => (bus, some fault)
    | (bus, none) => writeBytesFrom address kind (index + 1) bytes bus

def writeBytes (bus : Bus) (address : Address) (bytes : List Byte) (kind : AccessKind) :
    Bus × BusWriteResult :=
  if bytes = [] then (bus, none)
  else if addOverflows address (BitVec.ofNat 64 (bytes.length - 1)) then
    (bus, some (makeFault address bytes.length kind (text "byte range overflows the address space")))
  else writeBytesFrom address kind 0 bytes bus

def imageRangeIsValid (bus : Bus) (address : Address) (size : BitVec 64) : Bool :=
  if size = 0#64 then true
  else if addOverflows address (size - 1#64) then false
  else
    match bus.find address 1 with
    | none => false
    | some device => device.acceptsImage && device.contains (address + size - 1#64) 1

end Bus

end Northstar64
