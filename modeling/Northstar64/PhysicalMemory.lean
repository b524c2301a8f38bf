import Northstar64.Memory

namespace Northstar64

def littleEndianByte (value : BitVec 64) (index : Nat) : Byte := value.extractLsb' (index * 8) 8

def littleEndian (bytes : Nat → Byte) (width : Nat) : BitVec 64 :=
  (List.range width).foldl (fun value index =>
    value ||| (bytes index).setWidth 64 <<< (index * 8)) 0#64

@[ext] structure PhysicalMemory where
  ram : Address → Option Byte
  uart : Address → Option Text

namespace PhysicalMemory

def store (memory : PhysicalMemory) (address : Address) (width : Nat) (value : BitVec 64) :
    PhysicalMemory where
  ram := fun p =>
    if (p - address).toNat < width then
      (memory.ram p).map (fun _ => littleEndianByte value (p - address).toNat)
    else memory.ram p
  uart := fun p =>
    if p = address then (memory.uart p).map (fun log => log ++ [littleEndianByte value 0])
    else memory.uart p

end PhysicalMemory

theorem littleEndian_congr {f g : Nat → Byte} {width : Nat} (h : ∀ i < width, f i = g i) :
    littleEndian f width = littleEndian g width := by
  apply List.foldl_ext
  intro value i hi
  rw [h i (List.mem_range.mp hi)]

theorem littleEndian_succ (bytes : Nat → Byte) (width : Nat) :
    littleEndian bytes (width + 1) =
      littleEndian bytes width ||| (bytes width).setWidth 64 <<< (width * 8) := by
  rw [littleEndian, List.range_succ, List.foldl_append]
  rfl

def byteDigits (bytes : Nat → Byte) (width : Nat) : List Nat :=
  (List.range width).map (fun index => (bytes index).toNat)

theorem byteDigits_succ (bytes : Nat → Byte) (width : Nat) :
    byteDigits bytes (width + 1) = byteDigits bytes width ++ [(bytes width).toNat] := by
  simp [byteDigits, List.range_succ]

theorem byteDigits_length (bytes : Nat → Byte) (width : Nat) : (byteDigits bytes width).length = width := by
  simp [byteDigits]

theorem ofDigits_byteDigits_lt (bytes : Nat → Byte) (width : Nat) :
    Nat.ofDigits 256 (byteDigits bytes width) < 2 ^ (width * 8) := by
  have h := Nat.ofDigits_lt_base_pow_length (b := 256) (l := byteDigits bytes width) (by decide) (by
    intro digit hdigit
    obtain ⟨index, -, rfl⟩ := List.mem_map.mp hdigit
    exact (bytes index).isLt)
  rwa [byteDigits_length, show 256 = 2 ^ 8 from rfl, ← pow_mul, Nat.mul_comm 8] at h

theorem littleEndian_toNat (bytes : Nat → Byte) {width : Nat} (h : width ≤ 8) :
    (littleEndian bytes width).toNat = Nat.ofDigits 256 (byteDigits bytes width) := by
  induction width with
  | zero => rfl
  | succ width ih =>
    have hlow := ofDigits_byteDigits_lt bytes width
    have hbyte := (bytes width).isLt
    have hhigh : 2 ^ (width * 8) * (bytes width).toNat < 2 ^ 64 := by
      calc 2 ^ (width * 8) * (bytes width).toNat
          < 2 ^ (width * 8) * 2 ^ 8 := Nat.mul_lt_mul_of_pos_left hbyte (Nat.two_pow_pos _)
        _ = 2 ^ (width * 8 + 8) := (pow_add 2 _ _).symm
        _ ≤ 2 ^ 64 := Nat.pow_le_pow_right (by decide) (by omega)
    have hshift : ((bytes width).setWidth 64 <<< (width * 8)).toNat =
        2 ^ (width * 8) * (bytes width).toNat := by
      rw [BitVec.toNat_shiftLeft, BitVec.toNat_setWidth_of_le (by decide), Nat.shiftLeft_eq,
        Nat.mul_comm, Nat.mod_eq_of_lt hhigh]
    rw [littleEndian_succ, BitVec.toNat_or, ih (by omega), hshift, byteDigits_succ, Nat.ofDigits_append,
      byteDigits_length, Nat.ofDigits_singleton, Nat.or_comm, ← Nat.two_pow_add_eq_or_of_lt hlow,
      Nat.add_comm, show 256 = 2 ^ 8 from rfl, ← pow_mul, Nat.mul_comm 8]

theorem storedByte_eq (value : BitVec 64) (index : Nat) :
    (value >>> (index * 8) &&& 0xff#64).setWidth 8 = littleEndianByte value index := by
  ext i hi
  have hmask : (255#8)[i] = true := by
    rw [show 255#8 = BitVec.allOnes 8 from rfl, BitVec.getElem_allOnes]
  simp [littleEndianByte, hmask]

theorem storedByte_zero (value : BitVec 64) :
    (value &&& 0xff#64).setWidth 8 = littleEndianByte value 0 := by
  simpa using storedByte_eq value 0

theorem distance_add (address : Address) {index : Nat} (h : index < 2 ^ 64) :
    (address + BitVec.ofNat 64 index - address).toNat = index := by
  rw [BitVec.add_comm, BitVec.add_sub_cancel, BitVec.toNat_ofNat, Nat.mod_eq_of_lt h]

theorem add_distance (address p : Address) :
    address + BitVec.ofNat 64 (p - address).toNat = p := by
  rw [BitVec.ofNat_toNat, BitVec.setWidth_eq, BitVec.add_comm, BitVec.sub_add_cancel]

theorem validWidth_cases {width : Nat} (h : validWidth width = true) :
    width = 1 ∨ width = 2 ∨ width = 4 ∨ width = 8 := by
  simpa [validWidth, or_assoc] using h

namespace MappedDevice

theorem contains_iff (device : MappedDevice) (address : Address) (width : Nat) :
    device.contains address width = true ↔ validWidth width = true ∧
      device.base.toNat ≤ address.toNat ∧
      address.toNat + width ≤ device.base.toNat + device.size.toNat := by
  have hend := device.end_le
  cases hw : validWidth width with
  | false => simp [contains, hw]
  | true =>
    have hwidth : width ≤ 8 := by
      rcases validWidth_cases hw with h | h | h | h <;> omega
    have hpos : 0 < width := by
      rcases validWidth_cases hw with h | h | h | h <;> omega
    by_cases hbase : address < device.base
    · have hlt := BitVec.lt_def.mp hbase
      simp only [contains, hw, hbase, Bool.not_true, decide_true, Bool.or_true, if_true,
        Bool.false_eq_true, true_and, false_iff]
      omega
    · have hle : device.base.toNat ≤ address.toNat := by
        simpa [BitVec.lt_def] using hbase
      have hoff : (address - device.base).toNat = address.toNat - device.base.toNat :=
        BitVec.toNat_sub_of_le (BitVec.le_def.mpr hle)
      simp only [contains, hw, hbase, Bool.not_true, decide_false, Bool.or_self,
        Bool.false_eq_true, if_false, Bool.and_eq_true, decide_eq_true_eq, true_and, hle]
      rw [BitVec.lt_def, BitVec.le_def, hoff, BitVec.toNat_ofNat]
      constructor
      · rintro ⟨hlt, hrest⟩
        rw [BitVec.toNat_sub_of_le (BitVec.le_def.mpr (by omega)), hoff] at hrest
        omega
      · intro hrest
        refine ⟨by omega, ?_⟩
        rw [BitVec.toNat_sub_of_le (BitVec.le_def.mpr (by omega)), hoff]
        omega

end MappedDevice

namespace SparseRam

theorem eq_of_page {first second : BitVec 64} (hnumber : pageNumber first = pageNumber second)
    (hoffset : pageOffset first = pageOffset second) : first = second := by
  have hmod : first.toNat % kPageSize = second.toNat % kPageSize := congrArg Fin.val hoffset
  apply BitVec.eq_of_toNat_eq
  rw [← Nat.div_add_mod first.toNat kPageSize, ← Nat.div_add_mod second.toNat kPageSize, hmod]
  exact congrArg (fun n => kPageSize * n + second.toNat % kPageSize) hnumber

theorem readByte_writeByte (ram : SparseRam) (offset : BitVec 64) (value : Byte)
    (other : BitVec 64) :
    (ram.writeByte offset value).readByte other =
      if other = offset then value else ram.readByte other := by
  by_cases hskip : (value = 0#8 && (ram.pages (pageNumber offset)).isNone) = true
  · simp only [writeByte, hskip, if_true]
    split_ifs with h
    · subst h
      simp only [Bool.and_eq_true, decide_eq_true_eq, Option.isNone_iff_eq_none] at hskip
      simp [readByte, hskip.1, hskip.2]
    · rfl
  · simp only [writeByte, hskip, Bool.false_eq_true, if_false, readByte]
    by_cases hnumber : pageNumber other = pageNumber offset
    · rw [hnumber, Function.update_self]
      by_cases hoffset : pageOffset other = pageOffset offset
      · simp only [hoffset, Function.update_self, if_pos (eq_of_page hnumber hoffset)]
      · have hne : other ≠ offset := fun h => hoffset (by rw [h])
        simp only [Function.update_of_ne hoffset, if_neg hne]
        cases ram.pages (pageNumber offset) <;> rfl
    · have hne : other ≠ offset := fun h => hnumber (by rw [h])
      rw [Function.update_of_ne hnumber, if_neg hne]

theorem writeByte_mapped (ram : SparseRam) (offset : BitVec 64) (value : Byte) :
    (ram.writeByte offset value).toMappedDevice = ram.toMappedDevice := by
  unfold writeByte
  dsimp only
  split_ifs <;> rfl

def writeLoop (ram : SparseRam) (offset : BitVec 64) (bytes : Nat → Byte) (width : Nat) :
    SparseRam :=
  (List.range width).foldl (fun ram index =>
    ram.writeByte (offset + BitVec.ofNat 64 index) (bytes index)) ram

theorem writeLoop_succ (ram : SparseRam) (offset : BitVec 64) (bytes : Nat → Byte) (width : Nat) :
    ram.writeLoop offset bytes (width + 1) =
      (ram.writeLoop offset bytes width).writeByte (offset + BitVec.ofNat 64 width)
        (bytes width) := by
  rw [writeLoop, List.range_succ, List.foldl_append]
  rfl

theorem writeLoop_mapped (ram : SparseRam) (offset : BitVec 64) (bytes : Nat → Byte)
    (width : Nat) : (ram.writeLoop offset bytes width).toMappedDevice = ram.toMappedDevice := by
  induction width with
  | zero => rfl
  | succ width ih => rw [writeLoop_succ, writeByte_mapped, ih]

theorem readByte_writeLoop (ram : SparseRam) (offset : BitVec 64) (bytes : Nat → Byte)
    {width : Nat} (hwidth : width ≤ 8) (other : BitVec 64) :
    (ram.writeLoop offset bytes width).readByte other =
      if (other - offset).toNat < width then bytes (other - offset).toNat
      else ram.readByte other := by
  induction width with
  | zero => simp [writeLoop]
  | succ width ih =>
    rw [writeLoop_succ, readByte_writeByte, ih (by omega)]
    by_cases h : other = offset + BitVec.ofNat 64 width
    · have hdistance : (other - offset).toNat = width := by
        subst h
        bv_omega
      rw [if_pos h, hdistance, if_pos (by omega)]
    · have hdistance : (other - offset).toNat ≠ width := by
        intro heq
        apply h
        bv_omega
      rw [if_neg h]
      split_ifs <;> first | rfl | omega

theorem write_eq_writeLoop {ram : SparseRam} {offset : BitVec 64} {width : Nat}
    (h : ram.exceeds offset width = false) (value : BitVec 64) :
    ram.write offset width value = (ram.writeLoop offset (littleEndianByte value) width, none) := by
  simp only [write, h, Bool.false_eq_true, if_false, storedByte_eq]
  rfl

end SparseRam

namespace SparseRam

theorem exceeds_of_contains {ram : SparseRam} {address : Address} {width : Nat}
    (h : ram.contains address width = true) : ram.exceeds (address - ram.base) width = false := by
  obtain ⟨hwidth, hbase, _⟩ := (ram.contains_iff _ _).mp h
  have hge : ¬ address < ram.base := by
    rw [BitVec.lt_def]
    omega
  simp only [MappedDevice.contains, hwidth, hge, Bool.not_true, decide_false, Bool.or_self,
    Bool.false_eq_true, if_false, Bool.and_eq_true, decide_eq_true_eq] at h
  simp only [exceeds, hwidth, Bool.not_true, Bool.false_or, Bool.or_eq_false_iff,
    decide_eq_false_iff_not, ge_iff_le, gt_iff_lt, BitVec.not_le, BitVec.not_lt]
  exact h

end SparseRam

namespace Device

def shape (device : Device) : MappedDevice × Bool := (device.mapped, device.acceptsImage)

theorem write_shape (device : Device) (offset : BitVec 64) (width : Nat) (value : BitVec 64) :
    (device.write offset width value).1.shape = device.shape := by
  cases device with
  | sparseRam ram =>
    cases h : ram.exceeds offset width with
    | true => simp [write, SparseRam.write, h]
    | false =>
      simp [write, SparseRam.write_eq_writeLoop h, shape, mapped, acceptsImage,
        SparseRam.writeLoop_mapped]
  | uart16550 uart =>
    simp only [write, Uart16550.write]
    split_ifs <;> rfl

theorem read_snd (device : Device) (offset : BitVec 64) (width : Nat) :
    (device.read offset width).2 = device := by
  cases device with
  | sparseRam ram =>
    simp only [read, SparseRam.read]
    split_ifs <;> rfl
  | uart16550 uart =>
    simp only [read, Uart16550.read]
    split_ifs <;> rfl

end Device

namespace Bus

theorem eq_of_common_address {bus : Bus} {first second : Device} (hfirst : first ∈ bus.devices)
    (hsecond : second ∈ bus.devices) (address : Address)
    (hf : first.base ≤ address ∧ address ≤ first.last)
    (hs : second.base ≤ address ∧ address ≤ second.last) : first = second := by
  by_contra hne
  have hsymm : Std.Symm Device.Disjoint := ⟨fun _ _ => Device.Disjoint.symm⟩
  have hdisjoint := bus.pairwise_disjoint.forall hfirst hsecond hne
  rw [Device.Disjoint, Bool.eq_false_iff] at hdisjoint
  exact hdisjoint ((MappedDevice.rangesOverlap_iff _ _).mpr
    ⟨BitVec.le_trans hf.1 hs.2, BitVec.le_trans hs.1 hf.2⟩)

theorem range_of_contains {device : Device} {address : Address} {width : Nat}
    (h : device.contains address width = true) :
    device.base ≤ address ∧ address ≤ device.last := by
  obtain ⟨hwidth, hbase, hlast⟩ := (device.mapped.contains_iff _ _).mp h
  have hpos : 0 < width := by
    rcases validWidth_cases hwidth with h | h | h | h <;> omega
  rw [BitVec.le_def, BitVec.le_def, Device.last, MappedDevice.last_toNat]
  exact ⟨hbase, by omega⟩

theorem find_eq_some_iff {bus : Bus} {address : Address} {width : Nat} {device : Device} :
    bus.find address width = some device ↔
      device ∈ bus.devices ∧ device.contains address width = true := by
  constructor
  · intro h
    exact ⟨List.mem_of_find?_eq_some h, by simpa using List.find?_some h⟩
  · rintro ⟨hmem, hcontains⟩
    cases hfind : bus.find address width with
    | none =>
      rw [find, List.find?_eq_none] at hfind
      exact absurd hcontains (hfind device hmem)
    | some other =>
      have hother : other.contains address width = true := by simpa using List.find?_some hfind
      rw [eq_of_common_address (List.mem_of_find?_eq_some hfind) hmem address
        (range_of_contains hother) (range_of_contains hcontains)]

theorem find_byte {bus : Bus} {address : Address} {width : Nat} {device : Device}
    (h : bus.find address width = some device) {p : Address} (hp : (p - address).toNat < width) :
    bus.find p 1 = some device := by
  obtain ⟨hmem, hcontains⟩ := find_eq_some_iff.mp h
  obtain ⟨hwidth, hbase, hlast⟩ := (device.mapped.contains_iff _ _).mp hcontains
  have hend := device.mapped.end_le
  have hsum : p.toNat = address.toNat + (p - address).toNat := by bv_omega
  refine find_eq_some_iff.mpr ⟨hmem, (device.mapped.contains_iff _ _).mpr ⟨rfl, ?_, ?_⟩⟩ <;> omega

theorem eq_of_mapped_eq {bus : Bus} {first second : Device} (hfirst : first ∈ bus.devices)
    (hsecond : second ∈ bus.devices) (h : first.mapped = second.mapped) : first = second :=
  eq_of_common_address hfirst hsecond first.base
    ⟨BitVec.le_refl _, first.mapped.base_le_last⟩
    (by
      rw [Device.base, Device.base, Device.last, h]
      exact ⟨BitVec.le_refl _, second.mapped.base_le_last⟩)

theorem put_self {bus : Bus} {device : Device} (h : device ∈ bus.devices) :
    bus.put device = bus := by
  apply Bus.ext
  refine (List.map_congr_left ?_).trans (List.map_id _)
  intro other hother
  split_ifs with heq
  · exact (eq_of_mapped_eq hother h heq).symm
  · rfl

@[simp] theorem read_snd (bus : Bus) (address : Address) (width : Nat) (kind : AccessKind) :
    (bus.read address width kind).2 = bus := by
  unfold read
  split_ifs
  · rfl
  · cases hfind : bus.find address width with
    | none => rfl
    | some device =>
      have hput := put_self (find_eq_some_iff.mp hfind).1
      cases hread : (device.read (address - device.base) width).1 <;>
        simp [hread, device.read_snd, hput]

def layout (bus : Bus) : List (MappedDevice × Bool) := bus.devices.map Device.shape

theorem find_shape (bus : Bus) (address : Address) (width : Nat) :
    (bus.find address width).map Device.shape =
      bus.layout.find? (fun shape => shape.1.contains address width) := by
  rw [layout, List.find?_map]
  rfl

theorem find_modify (bus : Bus) (f : Device → Device)
    (hf : ∀ device, (f device).mapped = device.mapped) (address : Address) (width : Nat) :
    (bus.modify f hf).find address width = (bus.find address width).map f := by
  rw [find, modify, List.find?_map]
  simp only [Function.comp_def, Device.contains, hf]
  rfl

theorem find_put_of_eq {bus : Bus} (device : Device) {replaced : Device} {address : Address}
    {width : Nat}
    (hfind : bus.find address width = some replaced) (hmapped : device.mapped = replaced.mapped) :
    (bus.put device).find address width = some device := by
  rw [put, find_modify, hfind]
  simp [hmapped]

theorem find_put_of_ne {bus : Bus} (device : Device) {replaced : Device}
    (hmem : replaced ∈ bus.devices)
    (hmapped : device.mapped = replaced.mapped) {address : Address} {width : Nat}
    (hfind : bus.find address width ≠ some replaced) :
    (bus.put device).find address width = bus.find address width := by
  rw [put, find_modify]
  cases hother : bus.find address width with
  | none => rfl
  | some other =>
    have hne : other.mapped ≠ device.mapped := by
      intro heq
      apply hfind
      rw [hother, eq_of_mapped_eq (find_eq_some_iff.mp hother).1 hmem (heq.trans hmapped)]
    simp [hne]

theorem put_layout {bus : Bus} {device replaced : Device} (hmem : replaced ∈ bus.devices)
    (hshape : device.shape = replaced.shape) : (bus.put device).layout = bus.layout := by
  simp only [layout, put, modify, List.map_map]
  apply List.map_congr_left
  intro other hother
  simp only [Function.comp_apply]
  split_ifs with heq
  · rw [hshape, eq_of_mapped_eq hother hmem (heq.trans (congrArg Prod.fst hshape))]
  · rfl

def ramByte (bus : Bus) (p : Address) : Option Byte :=
  match bus.find p 1 with
  | some (.sparseRam ram) => some (ram.readByte (p - ram.base))
  | _ => none

def uartLog (bus : Bus) (p : Address) : Option Text :=
  match bus.find p 1 with
  | some (.uart16550 uart) => if p = uart.base then some uart.transmitted else none
  | _ => none

def view (bus : Bus) : PhysicalMemory := ⟨bus.ramByte, bus.uartLog⟩

theorem read_invalid {bus : Bus} {width : Nat} (h : validWidth width = false) (address : Address)
    (kind : AccessKind) : (bus.read address width kind).1 =
      .error (makeFault address width kind (text "unsupported access width")) := by
  simp [read, h]

theorem read_unmapped {bus : Bus} {address : Address} {width : Nat}
    (hwidth : validWidth width = true) (h : bus.find address width = none) (kind : AccessKind) :
    (bus.read address width kind).1 =
      .error (makeFault address width kind (text "address is not mapped")) := by
  simp [read, hwidth, h]

theorem read_ram {bus : Bus} {address : Address} {width : Nat} {ram : SparseRam}
    (h : bus.find address width = some (.sparseRam ram)) (kind : AccessKind) :
    (bus.read address width kind).1 =
      .ok (littleEndian (fun i => ram.readByte (address - ram.base + BitVec.ofNat 64 i)) width) := by
  have hcontains : ram.contains address width = true := (find_eq_some_iff.mp h).2
  have hwidth := ((ram.contains_iff _ _).mp hcontains).1
  have hread : (Device.read (.sparseRam ram) (address - ram.base) width).1 =
      .ok (littleEndian (fun i => ram.readByte (address - ram.base + BitVec.ofNat 64 i)) width) := by
    simp only [Device.read, SparseRam.read, SparseRam.exceeds_of_contains hcontains,
      Bool.false_eq_true, if_false]
    rfl
  simp only [read, hwidth, h, Bool.not_true, Bool.false_eq_true, if_false, Device.base,
    Device.mapped, hread]

theorem read_uart {bus : Bus} {address : Address} {width : Nat} {uart : Uart16550}
    (h : bus.find address width = some (.uart16550 uart)) (kind : AccessKind) :
    (bus.read address width kind).1 =
      match (uart.read (address - uart.base) width).1 with
      | .error error => .error (makeFault address width kind
          (text "device '" ++ uart.name ++ text "': " ++ error.detail))
      | .ok value => .ok value := by
  have hcontains : uart.contains address width = true := (find_eq_some_iff.mp h).2
  have hwidth := ((uart.contains_iff _ _).mp hcontains).1
  simp only [read, hwidth, h, Bool.not_true, Bool.false_eq_true, if_false, Device.base,
    Device.mapped, Device.read, Device.name]
  cases (uart.read (address - uart.base) width).1 <;> rfl

theorem ramByte_of_find {bus : Bus} {address : Address} {width : Nat} {ram : SparseRam}
    (h : bus.find address width = some (.sparseRam ram)) {i : Nat} (hi : i < width) :
    bus.ramByte (address + BitVec.ofNat 64 i) =
      some (ram.readByte (address - ram.base + BitVec.ofNat 64 i)) := by
  have hwidth := ((ram.contains_iff _ _).mp (find_eq_some_iff.mp h).2).1
  have hle : width ≤ 8 := by
    rcases validWidth_cases hwidth with h | h | h | h <;> omega
  have hdistance : (address + BitVec.ofNat 64 i - address).toNat < width := by
    rwa [distance_add address (by omega)]
  have hoffset : address + BitVec.ofNat 64 i - ram.base =
      address - ram.base + BitVec.ofNat 64 i := by
    simp only [BitVec.sub_eq_add_neg]
    ac_rfl
  rw [ramByte, find_byte h hdistance]
  simp only [hoffset]

theorem shape_of_layout_eq {bus other : Bus} (hlayout : bus.layout = other.layout)
    (address : Address) (width : Nat) :
    (bus.find address width).map Device.shape = (other.find address width).map Device.shape := by
  rw [find_shape, find_shape, hlayout]

theorem find_ram_of_layout {bus other : Bus} (hlayout : bus.layout = other.layout)
    {address : Address} {width : Nat} {ram : SparseRam}
    (h : bus.find address width = some (.sparseRam ram)) :
    ∃ ram', other.find address width = some (.sparseRam ram') ∧
      ram'.toMappedDevice = ram.toMappedDevice := by
  have hshape := shape_of_layout_eq hlayout address width
  rw [h, Option.map_some] at hshape
  obtain ⟨device, hdevice, heq⟩ := Option.map_eq_some_iff.mp hshape.symm
  cases device with
  | sparseRam ram' => exact ⟨ram', hdevice, congrArg Prod.fst heq⟩
  | uart16550 uart => exact absurd (congrArg Prod.snd heq) (by simp [Device.shape,
      Device.acceptsImage])

theorem find_uart_of_layout {bus other : Bus} (hlayout : bus.layout = other.layout)
    {address : Address} {width : Nat} {uart : Uart16550}
    (h : bus.find address width = some (.uart16550 uart)) :
    ∃ uart', other.find address width = some (.uart16550 uart') ∧
      uart'.toMappedDevice = uart.toMappedDevice := by
  have hshape := shape_of_layout_eq hlayout address width
  rw [h, Option.map_some] at hshape
  obtain ⟨device, hdevice, heq⟩ := Option.map_eq_some_iff.mp hshape.symm
  cases device with
  | sparseRam ram => exact absurd (congrArg Prod.snd heq) (by simp [Device.shape,
      Device.acceptsImage])
  | uart16550 uart' => exact ⟨uart', hdevice, congrArg Prod.fst heq⟩

theorem find_none_of_layout {bus other : Bus} (hlayout : bus.layout = other.layout)
    {address : Address} {width : Nat} (h : bus.find address width = none) :
    other.find address width = none := by
  have hshape := shape_of_layout_eq hlayout address width
  rw [h, Option.map_none] at hshape
  exact Option.map_eq_none_iff.mp hshape.symm

theorem read_congr_of_not_ram {bus other : Bus} (hlayout : bus.layout = other.layout)
    {address : Address} {width : Nat}
    (h : ∀ ram, bus.find address width ≠ some (.sparseRam ram)) (kind : AccessKind) :
    (bus.read address width kind).1 = (other.read address width kind).1 := by
  cases hwidth : validWidth width with
  | false => rw [read_invalid hwidth, read_invalid hwidth]
  | true =>
    cases hfind : bus.find address width with
    | none =>
      have hother := find_none_of_layout hlayout hfind
      rw [read_unmapped hwidth hfind, read_unmapped hwidth hother]
    | some device =>
      cases device with
      | sparseRam ram => exact absurd hfind (h ram)
      | uart16550 uart =>
        obtain ⟨uart', hfind', hmapped⟩ := find_uart_of_layout hlayout hfind
        rw [read_uart hfind, read_uart hfind', hmapped]
        have hread : (uart'.read (address - uart.base) width).1 =
            (uart.read (address - uart.base) width).1 := by
          simp only [Uart16550.read]
          split_ifs <;> rfl
        rw [hread]

theorem read_congr {bus other : Bus} (hlayout : bus.layout = other.layout) {address : Address}
    {width : Nat}
    (hbytes : ∀ i < width, bus.ramByte (address + BitVec.ofNat 64 i) =
      other.ramByte (address + BitVec.ofNat 64 i)) (kind : AccessKind) :
    (bus.read address width kind).1 = (other.read address width kind).1 := by
  by_cases hram : ∃ ram, bus.find address width = some (.sparseRam ram)
  · obtain ⟨ram, hfind⟩ := hram
    obtain ⟨ram', hfind', -⟩ := find_ram_of_layout hlayout hfind
    rw [read_ram hfind, read_ram hfind']
    congr 1
    apply littleEndian_congr
    intro i hi
    have hi' := hbytes i hi
    rw [ramByte_of_find hfind hi, ramByte_of_find hfind' hi] at hi'
    exact Option.some.inj hi'
  · exact read_congr_of_not_ram hlayout (fun ram h => hram ⟨ram, h⟩) kind

theorem read_error_congr {bus other : Bus} (hlayout : bus.layout = other.layout)
    {address : Address} {width : Nat} {kind : AccessKind} {fault : BusFault}
    (h : (bus.read address width kind).1 = .error fault) :
    (other.read address width kind).1 = .error fault := by
  rw [← h]
  refine (read_congr_of_not_ram hlayout (fun ram hfind => ?_) kind).symm
  rw [read_ram hfind] at h
  cases h

theorem write_of_find {bus : Bus} {address : Address} {width : Nat} {device : Device}
    (h : bus.find address width = some device) (value : BitVec 64) (kind : AccessKind) :
    bus.write address width value kind =
      (bus.put (device.write (address - device.base) width value).1,
        (device.write (address - device.base) width value).2.map (fun error =>
          makeFault address width kind
            (text "device '" ++ device.name ++ text "': " ++ error.detail))) := by
  have hwidth := ((device.mapped.contains_iff _ _).mp (find_eq_some_iff.mp h).2).1
  simp only [write, hwidth, h, Bool.not_true, Bool.false_eq_true, if_false]
  cases (device.write (address - device.base) width value).2 <;> rfl

theorem write_ram {bus : Bus} {address : Address} {width : Nat} {ram : SparseRam}
    (h : bus.find address width = some (.sparseRam ram)) (value : BitVec 64) (kind : AccessKind) :
    bus.write address width value kind =
      (bus.put (.sparseRam (ram.writeLoop (address - ram.base) (littleEndianByte value) width)),
        none) := by
  have hcontains : ram.contains address width = true := (find_eq_some_iff.mp h).2
  rw [write_of_find h]
  simp only [Device.base, Device.mapped, Device.write,
    SparseRam.write_eq_writeLoop (SparseRam.exceeds_of_contains hcontains), Option.map_none]

theorem write_uart {bus : Bus} {address : Address} {width : Nat} {uart : Uart16550}
    (h : bus.find address width = some (.uart16550 uart)) (value : BitVec 64) (kind : AccessKind) :
    bus.write address width value kind =
      (bus.put (.uart16550 (uart.write (address - uart.base) width value).1),
        (uart.write (address - uart.base) width value).2.map (fun error =>
          makeFault address width kind
            (text "device '" ++ uart.name ++ text "': " ++ error.detail))) := by
  rw [write_of_find h]
  rfl

theorem write_layout (bus : Bus) (address : Address) (width : Nat) (value : BitVec 64)
    (kind : AccessKind) : (bus.write address width value kind).1.layout = bus.layout := by
  cases hwidth : validWidth width with
  | false => simp [write, hwidth]
  | true =>
    cases hfind : bus.find address width with
    | none => simp [write, hwidth, hfind]
    | some device =>
      rw [write_of_find hfind]
      exact put_layout (find_eq_some_iff.mp hfind).1 (device.write_shape _ _ _)

theorem write_fault {bus : Bus} {address : Address} {width : Nat} {value : BitVec 64}
    {kind : AccessKind} {fault : BusFault}
    (h : (bus.write address width value kind).2 = some fault) :
    (bus.write address width value kind).1 = bus := by
  cases hwidth : validWidth width with
  | false => simp [write, hwidth]
  | true =>
    cases hfind : bus.find address width with
    | none => simp [write, hwidth, hfind]
    | some device =>
      cases device with
      | sparseRam ram => simp [write_ram hfind] at h
      | uart16550 uart =>
        rw [write_uart hfind] at h ⊢
        by_cases hone : width = 1
        · by_cases hzero : address - uart.base = 0#64 <;>
            simp [Uart16550.write, hone, hzero] at h
        · simp only [Uart16550.write, hone, ne_eq, not_false_eq_true, if_true]
          exact put_self (find_eq_some_iff.mp hfind).1

theorem write_result_congr {bus other : Bus} (hlayout : bus.layout = other.layout)
    (address : Address) (width : Nat) (value : BitVec 64) (kind : AccessKind) :
    (bus.write address width value kind).2 = (other.write address width value kind).2 := by
  cases hwidth : validWidth width with
  | false => simp [write, hwidth]
  | true =>
    cases hfind : bus.find address width with
    | none => simp [write, hwidth, hfind, find_none_of_layout hlayout hfind]
    | some device =>
      cases device with
      | sparseRam ram =>
        obtain ⟨ram', hfind', -⟩ := find_ram_of_layout hlayout hfind
        rw [write_ram hfind, write_ram hfind']
      | uart16550 uart =>
        obtain ⟨uart', hfind', hmapped⟩ := find_uart_of_layout hlayout hfind
        rw [write_uart hfind, write_uart hfind', hmapped]
        have hwrite : (uart'.write (address - uart.base) width value).2 =
            (uart.write (address - uart.base) width value).2 := by
          simp only [Uart16550.write]
          split_ifs <;> rfl
        rw [hwrite]

theorem view_eq_of_find {bus other : Bus} {p : Address} (h : bus.find p 1 = other.find p 1) :
    bus.ramByte p = other.ramByte p ∧ bus.uartLog p = other.uartLog p := by
  simp [ramByte, uartLog, h]

theorem write_ram_view {bus : Bus} {address : Address} {width : Nat} {ram : SparseRam}
    (h : bus.find address width = some (.sparseRam ram)) (value : BitVec 64) :
    (bus.put (.sparseRam (ram.writeLoop (address - ram.base) (littleEndianByte value) width))).view =
      bus.view.store address width value := by
  obtain ⟨hmem, hcontains⟩ := find_eq_some_iff.mp h
  have hwidth := ((ram.contains_iff _ _).mp hcontains).1
  have hle : 0 < width ∧ width ≤ 8 := by
    rcases validWidth_cases hwidth with h | h | h | h <;> omega
  have hmapped := ram.writeLoop_mapped (address - ram.base) (littleEndianByte value) width
  have haddress : bus.find address 1 = some (.sparseRam ram) :=
    find_byte h (by simp; omega)
  have hpoint (p : Address) :
      (bus.put (.sparseRam
          (ram.writeLoop (address - ram.base) (littleEndianByte value) width))).ramByte p =
        (bus.view.store address width value).ram p ∧
      (bus.put (.sparseRam
          (ram.writeLoop (address - ram.base) (littleEndianByte value) width))).uartLog p =
        (bus.view.store address width value).uart p := by
    by_cases hp : bus.find p 1 = some (.sparseRam ram)
    · have hfind := find_put_of_eq (.sparseRam
        (ram.writeLoop (address - ram.base) (littleEndianByte value) width)) hp hmapped
      have hdistance : p - ram.base - (address - ram.base) = p - address := by bv_omega
      simp only [ramByte, uartLog, hfind, PhysicalMemory.store, view, hp, hmapped,
        SparseRam.readByte_writeLoop _ _ _ hle.2, hdistance]
      constructor <;> split_ifs <;> rfl
    · have hfind := find_put_of_ne (.sparseRam
        (ram.writeLoop (address - ram.base) (littleEndianByte value) width)) hmem hmapped hp
      have hout : ¬ (p - address).toNat < width := fun hlt => hp (find_byte h hlt)
      have hne : p ≠ address := fun heq => hp (heq ▸ haddress)
      have hsame := view_eq_of_find hfind
      simp only [PhysicalMemory.store, view, if_neg hout, if_neg hne]
      exact hsame
  exact PhysicalMemory.ext (funext (fun p => (hpoint p).1)) (funext (fun p => (hpoint p).2))

theorem write_uart_view {bus : Bus} {address : Address} {uart : Uart16550}
    (h : bus.find address 1 = some (.uart16550 uart)) (value : BitVec 64) :
    (bus.put (.uart16550 (uart.write (address - uart.base) 1 value).1)).view =
      bus.view.store address 1 value := by
  have hmem := (find_eq_some_iff.mp h).1
  have hmapped : (uart.write (address - uart.base) 1 value).1.toMappedDevice =
      uart.toMappedDevice := by
    simp only [Uart16550.write]
    split_ifs <;> rfl
  have hpoint (p : Address) :
      (bus.put (.uart16550 (uart.write (address - uart.base) 1 value).1)).ramByte p =
        (bus.view.store address 1 value).ram p ∧
      (bus.put (.uart16550 (uart.write (address - uart.base) 1 value).1)).uartLog p =
        (bus.view.store address 1 value).uart p := by
    by_cases hp : bus.find p 1 = some (.uart16550 uart)
    · have hfind := find_put_of_eq
        (.uart16550 (uart.write (address - uart.base) 1 value).1) hp hmapped
      simp only [ramByte, uartLog, hfind, PhysicalMemory.store, view, hp, hmapped]
      refine ⟨by split_ifs <;> rfl, ?_⟩
      by_cases hbase : p = uart.base
      · subst hbase
        by_cases haddress : uart.base = address
        · subst haddress
          simp [Uart16550.write, ← storedByte_zero]
        · have hzero : address - uart.base ≠ 0#64 := by
            intro hz
            apply haddress
            bv_omega
          simp [haddress, hzero, Uart16550.write]
      · simp [hbase]
    · have hfind := find_put_of_ne
        (.uart16550 (uart.write (address - uart.base) 1 value).1) hmem hmapped hp
      have hne : p ≠ address := fun heq => hp (heq ▸ h)
      have hout : ¬ (p - address).toNat < 1 := by
        intro hlt
        apply hne
        bv_omega
      have hsame := view_eq_of_find hfind
      simp only [PhysicalMemory.store, view, if_neg hout, if_neg hne]
      exact hsame
  exact PhysicalMemory.ext (funext (fun p => (hpoint p).1)) (funext (fun p => (hpoint p).2))

theorem write_view {bus : Bus} {address : Address} {width : Nat} {value : BitVec 64}
    {kind : AccessKind} (h : (bus.write address width value kind).2 = none) :
    (bus.write address width value kind).1.view = bus.view.store address width value := by
  cases hwidth : validWidth width with
  | false => simp [write, hwidth] at h
  | true =>
    cases hfind : bus.find address width with
    | none => simp [write, hwidth, hfind] at h
    | some device =>
      cases device with
      | sparseRam ram =>
        rw [write_ram hfind]
        exact write_ram_view hfind value
      | uart16550 uart =>
        have hone : width = 1 := by
          by_contra hne
          simp [write_uart hfind, Uart16550.write, hne] at h
        subst hone
        rw [write_uart hfind]
        exact write_uart_view hfind value

end Bus

end Northstar64
