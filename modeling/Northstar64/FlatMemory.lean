import Northstar64.LoadStore

namespace Northstar64

inductive RegionKind where
  | ram
  | console
  deriving DecidableEq, Repr

structure Region where
  first : Nat
  size : Nat
  kind : RegionKind
  deriving DecidableEq, Repr

def Region.Covers (region : Region) (address : Address) (width : Nat) : Prop :=
  region.first ≤ address.toNat ∧ address.toNat + width ≤ region.first + region.size

instance (region : Region) (address : Address) (width : Nat) :
    Decidable (region.Covers address width) :=
  inferInstanceAs (Decidable (_ ∧ _))

@[ext] structure FlatMemory where
  regions : List Region
  bytes : Address → Byte
  console : Address → Text

namespace FlatMemory

def ofView (regions : List Region) (view : PhysicalMemory) : FlatMemory where
  regions := regions
  bytes := fun p => (view.ram p).getD 0#8
  console := fun p => (view.uart p).getD []

def region (memory : FlatMemory) (address : Address) (width : Nat) : Option Region :=
  if width ∈ [1, 2, 4, 8] then
    memory.regions.find? (fun region => region.Covers address width)
  else none

def load (memory : FlatMemory) (address : Address) (width : Nat) : Option (BitVec 64) :=
  match memory.region address width with
  | none => none
  | some ⟨_, _, .ram⟩ =>
    some (littleEndian (fun i => memory.bytes (address + BitVec.ofNat 64 i)) width)
  | some ⟨first, _, .console⟩ =>
    if width ≠ 1 then none
    else some (if address.toNat = first + 5 then 0x60#64 else 0#64)

def stored (memory : FlatMemory) (address : Address) (width : Nat) (value : BitVec 64) :
    FlatMemory :=
  { memory with bytes := fun p =>
      if (p - address).toNat < width then littleEndianByte value (p - address).toNat
      else memory.bytes p }

def transmitted (memory : FlatMemory) (address : Address) (value : BitVec 64) : FlatMemory :=
  { memory with console :=
      Function.update memory.console address (memory.console address ++ [littleEndianByte value 0]) }

def store (memory : FlatMemory) (address : Address) (width : Nat) (value : BitVec 64) :
    Option FlatMemory :=
  match memory.region address width with
  | none => none
  | some ⟨_, _, .ram⟩ => some (memory.stored address width value)
  | some ⟨first, _, .console⟩ =>
    if width ≠ 1 then none
    else if address.toNat = first then some (memory.transmitted address value)
    else some memory

theorem store_masked (memory : FlatMemory) {width : Nat} (h : validWidth width = true)
    (address : Address) (value : BitVec 64) :
    memory.store address width value =
      memory.store address width (value &&& maskForWidth width) := by
  have hle : 0 < width ∧ width ≤ 8 := by
    rcases validWidth_cases h with rfl | rfl | rfl | rfl <;> decide
  have hstored : memory.stored address width value =
      memory.stored address width (value &&& maskForWidth width) := by
    refine FlatMemory.ext rfl (funext fun p => ?_) rfl
    dsimp only [stored]
    split_ifs with hin
    · rw [littleEndianByte_masked value hle.2 hin]
    · rfl
  have htransmitted : memory.transmitted address value =
      memory.transmitted address (value &&& maskForWidth width) := by
    rw [transmitted, transmitted, littleEndianByte_masked value hle.2 hle.1]
  rw [store, store, hstored, htransmitted]

end FlatMemory

def Device.region (device : Device) : Region where
  first := device.base.toNat
  size := device.size.toNat
  kind := if device.acceptsImage then .ram else .console

namespace Bus

def flat (bus : Bus) : FlatMemory := .ofView (bus.devices.map Device.region) bus.view

theorem flat_region (bus : Bus) (address : Address) (width : Nat) :
    bus.flat.region address width = (bus.find address width).map Device.region := by
  have hmember : width ∈ [1, 2, 4, 8] ↔ validWidth width = true := by
    simp [validWidth, or_assoc]
  rw [FlatMemory.region, flat, FlatMemory.ofView, List.find?_map, find]
  split_ifs with hwidth
  · refine congrArg (Option.map Device.region) (congrArg (List.find? · bus.devices) ?_)
    funext device
    rw [hmember] at hwidth
    simp only [Function.comp_apply, Device.contains]
    rw [Bool.eq_iff_iff, decide_eq_true_iff, MappedDevice.contains_iff]
    exact ⟨fun h => ⟨hwidth, h⟩, fun h => h.2⟩
  · rw [hmember] at hwidth
    have hnone : bus.devices.find? (fun device => device.contains address width) = none := by
      rw [List.find?_eq_none]
      exact fun device _ h => hwidth ((device.mapped.contains_iff _ _).mp h).1
    rw [hnone, Option.map_none]

theorem read_toOption_invalid {bus : Bus} {address : Address} {width : Nat} (kind : AccessKind)
    (h : bus.find address width = none) : (bus.read address width kind).1.toOption = none := by
  cases hwidth : validWidth width with
  | false => rw [read_invalid hwidth]; rfl
  | true => rw [read_unmapped hwidth h]; rfl

theorem flat_load (bus : Bus) (address : Address) (width : Nat) (kind : AccessKind) :
    bus.flat.load address width = (bus.read address width kind).1.toOption := by
  rw [FlatMemory.load, flat_region]
  cases hfind : bus.find address width with
  | none => exact (read_toOption_invalid kind hfind).symm
  | some device =>
    cases device with
    | sparseRam ram =>
      rw [read_ram hfind]
      refine congrArg some (littleEndian_congr fun i hi => ?_)
      change (bus.ramByte _).getD 0#8 = _
      rw [ramByte_of_find hfind hi, Option.getD_some]
    | uart16550 uart =>
      have hcontains := ((uart.contains_iff _ _).mp (find_eq_some_iff.mp hfind).2)
      have hend := uart.end_le
      rw [uart.size_eq] at hcontains hend
      have hspan : kRegisterSpan.toNat = 8 := rfl
      rw [read_uart hfind, Uart16550.read]
      simp only [Option.map_some, Device.region, Device.acceptsImage, Bool.false_eq_true, if_false,
        Device.base, Device.mapped]
      by_cases hwidth : width = 1
      · have hstatus : address - uart.base = 5#64 ↔ address.toNat = uart.base.toNat + 5 := by
          bv_omega
        simp only [hwidth, ne_eq, not_true_eq_false, if_false]
        by_cases hfive : address.toNat = uart.base.toNat + 5
        · rw [if_pos hfive, if_neg (by rw [hstatus.mpr hfive]; decide), if_pos (hstatus.mpr hfive)]
          rfl
        · rw [if_neg hfive, if_neg (mt hstatus.mp hfive), ite_self]
          rfl
      · simp only [hwidth, ne_eq, not_false_eq_true, if_true]
        rfl

theorem flat_regions_of_layout {bus other : Bus} (h : bus.layout = other.layout) :
    bus.flat.regions = other.flat.regions := by
  have hregion (device : Device) : device.region =
      ⟨device.shape.1.base.toNat, device.shape.1.size.toNat,
        if device.shape.2 then .ram else .console⟩ := rfl
  have hmap (bus : Bus) : bus.flat.regions = bus.layout.map (fun shape =>
      ⟨shape.1.base.toNat, shape.1.size.toNat, if shape.2 then .ram else .console⟩) := by
    rw [layout, List.map_map]
    exact List.map_congr_left (fun device _ => hregion device)
  rw [hmap, hmap, h]

section Store
variable {bus : Bus} {address : Address} {width : Nat} {value : BitVec 64} {kind : AccessKind}

theorem flat_written (h : (bus.write address width value kind).2 = none) :
    (bus.write address width value kind).1.flat =
      .ofView bus.flat.regions (bus.view.store address width value) := by
  rw [← write_view h, ← flat_regions_of_layout (bus.write_layout address width value kind)]
  rfl

theorem flat_stored {ram : SparseRam} (h : bus.find address width = some (.sparseRam ram)) :
    .ofView bus.flat.regions (bus.view.store address width value) =
      bus.flat.stored address width value := by
  have hcontains := (find_eq_some_iff.mp h).2
  have hpos : 0 < width := by
    rcases validWidth_cases ((ram.contains_iff _ _).mp hcontains).1 with h | h | h | h <;> omega
  refine FlatMemory.ext rfl (funext fun p => ?_) (funext fun p => ?_)
  · simp only [FlatMemory.ofView, PhysicalMemory.store, view, FlatMemory.stored, flat]
    split_ifs with hin
    · rw [ramByte, find_byte h hin]
      rfl
    · rfl
  · simp only [FlatMemory.ofView, PhysicalMemory.store, view, FlatMemory.stored, flat]
    split_ifs with hp
    · have hbyte := find_byte h (p := address) (by simpa using hpos)
      rw [hp, uartLog, hbyte]
      rfl
    · rfl

theorem uartLog_of_find {uart : Uart16550} {p : Address}
    (h : bus.find p 1 = some (.uart16550 uart)) :
    bus.uartLog p = if p = uart.base then some uart.transmitted else none := by
  rw [uartLog, h]

theorem flat_transmitted {uart : Uart16550} (h : bus.find address 1 = some (.uart16550 uart)) :
    .ofView bus.flat.regions (bus.view.store address 1 value) =
      if address = uart.base then bus.flat.transmitted address value else bus.flat := by
  have hbytes : (FlatMemory.ofView bus.flat.regions (bus.view.store address 1 value)).bytes =
      bus.flat.bytes := by
    funext p
    simp only [FlatMemory.ofView, PhysicalMemory.store, view, flat]
    split_ifs with hin
    · rw [ramByte, find_byte h hin]
      rfl
    · rfl
  have hlog := uartLog_of_find h
  split_ifs at hlog ⊢ with hbase
  · refine FlatMemory.ext rfl hbytes (funext fun p => ?_)
    simp only [FlatMemory.ofView, PhysicalMemory.store, view, FlatMemory.transmitted, flat,
      Function.update_apply]
    split_ifs with hp
    · rw [hp, hlog]
      rfl
    · rfl
  · refine FlatMemory.ext rfl hbytes (funext fun p => ?_)
    simp only [FlatMemory.ofView, PhysicalMemory.store, view, flat]
    split_ifs with hp
    · rw [hp, hlog]
      rfl
    · rfl

theorem flat_store (h : (bus.write address width value kind).2 = none) :
    bus.flat.store address width value = some (bus.write address width value kind).1.flat := by
  obtain ⟨-, device, hfind⟩ := write_mapped h
  rw [flat_written h, FlatMemory.store, flat_region, hfind]
  cases device with
  | sparseRam ram => exact congrArg some (flat_stored hfind).symm
  | uart16550 uart =>
    have hone : width = 1 := by
      by_contra hne
      rw [write_uart hfind] at h
      simp [Uart16550.write, hne] at h
    subst hone
    rw [flat_transmitted hfind]
    simp only [Option.map_some, Device.region, Device.acceptsImage, Bool.false_eq_true, if_false,
      Device.base, Device.mapped, BitVec.toNat_inj, ne_eq, not_true_eq_false]
    split_ifs <;> rfl

theorem flat_store_fault {fault : BusFault} (h : (bus.write address width value kind).2 = some fault) :
    bus.flat.store address width value = none := by
  rw [FlatMemory.store, flat_region]
  cases hfind : bus.find address width with
  | none => rfl
  | some device =>
    cases device with
    | sparseRam ram =>
      rw [write_ram hfind] at h
      cases h
    | uart16550 uart =>
      have hone : width ≠ 1 := by
        rintro rfl
        rw [write_uart hfind, Uart16550.write, if_neg (not_not_intro rfl)] at h
        split_ifs at h <;> cases h
      exact if_pos hone

end Store

end Bus

end Northstar64
