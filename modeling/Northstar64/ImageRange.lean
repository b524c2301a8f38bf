import Northstar64.ImageLoad

namespace Northstar64

def InWindow (address : Address) (length : Nat) (p : Address) : Prop :=
  address.toNat ≤ p.toNat ∧ p.toNat < address.toNat + length

namespace Bus

structure ChangesWithin (before after : Bus) (address : Address) (length : Nat) : Prop where
  layout : after.layout = before.layout
  ram : ∀ p, ¬ InWindow address length p → after.ramByte p = before.ramByte p
  uart : ∀ p, after.uartLog p = before.uartLog p

structure Writable (bus : Bus) (address : Address) (length : Nat) : Prop where
  payload : ∀ bytes kind, bytes.length ≤ length →
    (bus.writeBytes address bytes kind).2 = none ∧
      ChangesWithin bus (bus.writeBytes address bytes kind).1 address length ∧
      ∀ i < bytes.length,
        (bus.writeBytes address bytes kind).1.ramByte (address + BitVec.ofNat 64 i) = bytes[i]?
  single : ∀ p value kind, InWindow address length p →
    (bus.write p 1 value kind).2 = none ∧
      ChangesWithin bus (bus.write p 1 value kind).1 address length ∧
      (bus.write p 1 value kind).1.ramByte p = some (littleEndianByte value 0)

def HeldByImage (bus : Bus) (address : Address) (size : BitVec 64) : Prop :=
  address.toNat + size.toNat - 1 ≤ 2 ^ 64 - 1 ∧
    ∃ device ∈ bus.devices, device.acceptsImage = true ∧
      ∀ p, InWindow address size.toNat p → device.contains p 1 = true

variable {bus before after : Bus} {address : Address} {length : Nat} {size : BitVec 64}

theorem Filled.changesWithin {bytes : Nat → Byte} {p : Address} {window : Nat}
    (h : Filled before after p length bytes)
    (hfits : p.toNat + length ≤ 2 ^ 64)
    (hlow : address.toNat ≤ p.toNat) (hhigh : p.toNat + length ≤ address.toNat + window) :
    ChangesWithin before after address window := by
  refine ⟨h.layout, fun q hq => h.ram_outside (fun hlt => hq ?_), h.uart⟩
  unfold InWindow
  have hsum : q.toNat = p.toNat + (q - p).toNat := by bv_omega
  omega

theorem contains_byte_iff (device : Device) (p : Address) :
    device.contains p 1 = true ↔
      device.base.toNat ≤ p.toNat ∧ p.toNat < device.base.toNat + device.size.toNat := by
  have hiff := device.mapped.contains_iff p 1
  rw [Device.contains, hiff]
  exact ⟨fun h => h.2, fun h => ⟨rfl, h⟩⟩

theorem imageRangeIsValid_iff (hsize : size ≠ 0#64) :
    bus.imageRangeIsValid address size = true ↔ bus.HeldByImage address size := by
  have hpos : 0 < size.toNat := by bv_omega
  rw [imageRangeIsValid_iff_ends hsize, HeldByImage]
  constructor
  · rintro ⟨hrange, device, hmem, hfirst, haccepts, hlast⟩
    have hend : (address + size - 1#64).toNat = address.toNat + size.toNat - 1 := by bv_omega
    refine ⟨by omega, device, hmem, haccepts, fun p hp => ?_⟩
    rw [contains_byte_iff] at hfirst hlast ⊢
    rw [hend] at hlast
    unfold InWindow at hp
    omega
  · rintro ⟨hrange, device, hmem, haccepts, hall⟩
    have hend : (address + size - 1#64).toNat = address.toNat + size.toNat - 1 := by bv_omega
    have hfirst : InWindow address size.toNat address := ⟨Nat.le_refl _, by omega⟩
    have hlast : InWindow address size.toNat (address + size - 1#64) := ⟨by omega, by omega⟩
    exact ⟨by omega, device, hmem, hall _ hfirst, haccepts, hall _ hlast⟩

theorem InRam.isSome (h : bus.InRam address length) {p : Address}
    (hp : InWindow address length p) : (bus.ramByte p).isSome = true := by
  have hrange := h.in_range
  have hsum : address + BitVec.ofNat 64 (p.toNat - address.toNat) = p := by
    unfold InWindow at hp
    bv_omega
  have hmapped := h.mapped (p.toNat - address.toNat) (by unfold InWindow at hp; omega)
  rwa [hsum] at hmapped

theorem InRam.writable (h : bus.InRam address length) : bus.Writable address length where
  payload := by
    intro bytes kind hle
    have hrange := h.in_range
    obtain ⟨hnone, hfilled⟩ := writeBytes_filled (h.mono hle) kind
    refine ⟨hnone, hfilled.changesWithin (by omega) (by omega) (by omega), fun i hi => ?_⟩
    have hdistance : (address + BitVec.ofNat 64 i - address).toNat = i :=
      distance_add address (by omega)
    rw [hfilled.ram_inside (by rw [hdistance]; exact hi), hdistance]
    simp [byteAt, hi]
  single := by
    intro p value kind hp
    have hrange := h.in_range
    obtain ⟨hnone, hfilled⟩ := write_one (h.isSome hp) value kind
    unfold InWindow at hp
    refine ⟨hnone, hfilled.changesWithin (by omega) hp.1 (by omega), ?_⟩
    rw [hfilled.ram_inside (by simp)]

theorem image_range_check_exact (bus : Bus) (address : Address) (size : BitVec 64)
    (hsize : size ≠ 0#64) :
    (bus.imageRangeIsValid address size = true ↔ bus.HeldByImage address size) ∧
      (bus.imageRangeIsValid address size = true → bus.Writable address size.toNat) :=
  ⟨imageRangeIsValid_iff hsize, fun h => (inRam_of_imageRangeIsValid h).writable⟩

def topBus : Bus where
  devices := [.sparseRam (.unwritten
    ⟨0xffffffffffffc000#64, 0x4000#64, text "top", by decide, by decide, by decide⟩)]
  sorted := List.pairwise_singleton _ _

theorem image_range_check_exact_top :
    topBus.HeldByImage 0xffffffffffffc000#64 0x4000#64 ∧
      topBus.Writable 0xffffffffffffc000#64 0x4000 :=
  ⟨(image_range_check_exact topBus 0xffffffffffffc000#64 0x4000#64 (by decide)).1.mp (by decide),
    (image_range_check_exact topBus 0xffffffffffffc000#64 0x4000#64 (by decide)).2 (by decide)⟩

end Bus

end Northstar64
