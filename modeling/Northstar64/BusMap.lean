import Northstar64.PhysicalMemory
import Northstar64.Library.Transducer

namespace Northstar64

namespace Device

def Spans (device : Device) (position : Nat) : Prop :=
  device.base.toNat ≤ position ∧ position < device.base.toNat + device.size.toNat

def SharesAddress (first second : Device) : Prop :=
  ∃ position, first.Spans position ∧ second.Spans position

def HoldsAccess (device : Device) (address : Address) (width : Nat) : Prop :=
  ∀ index < width, device.Spans (address.toNat + index)

theorem sharesAddress_iff (first second : Device) :
    first.SharesAddress second ↔
      rangesOverlap first.base first.size second.base second.size = true := by
  have hfirst := first.mapped.size_pos
  have hsecond := second.mapped.size_pos
  rw [base, size, base, size, MappedDevice.rangesOverlap_iff, BitVec.le_def, BitVec.le_def,
    MappedDevice.last_toNat, MappedDevice.last_toNat]
  constructor
  · rintro ⟨position, hf, hs⟩
    unfold Spans base size at hf hs
    omega
  · intro h
    refine ⟨max first.mapped.base.toNat second.mapped.base.toNat, ?_, ?_⟩ <;>
      unfold Spans base size <;> omega

theorem disjoint_iff (first second : Device) :
    first.Disjoint second ↔ ¬ first.SharesAddress second := by
  rw [sharesAddress_iff, Disjoint, Bool.not_eq_true]

theorem pairwise_disjoint_perm {devices others : List Device} (h : devices.Perm others) :
    devices.Pairwise Device.Disjoint ↔ others.Pairwise Device.Disjoint :=
  h.pairwise_iff Disjoint.symm

theorem contains_iff_holdsAccess (device : Device) (address : Address) (width : Nat) :
    device.contains address width = true ↔
      validWidth width = true ∧ device.HoldsAccess address width := by
  rw [contains, MappedDevice.contains_iff]
  refine and_congr_right (fun hwidth => ?_)
  have hpos : 0 < width := by
    rcases validWidth_cases hwidth with h | h | h | h <;> omega
  constructor
  · rintro ⟨hbase, hend⟩ index hindex
    unfold Spans base size
    omega
  · intro h
    have hhead := h 0 hpos
    have htail := h (width - 1) (by omega)
    unfold Spans base size at hhead htail
    omega

theorem Precedes.base_lt {left right : Device} (h : left.Precedes right) :
    left.base < right.base := by
  have hle := BitVec.le_def.mp left.mapped.base_le_last
  have hlt := BitVec.lt_def.mp h
  exact BitVec.lt_def.mpr (Nat.lt_of_le_of_lt hle hlt)

end Device

inductive BusOperation where
  | addDevice (device : Device)
  | read (address : Address) (width : Nat) (kind : AccessKind)
  | write (address : Address) (width : Nat) (value : BitVec 64) (kind : AccessKind)

inductive BusResponse where
  | added (thrown : Option Text)
  | value (result : BusReadResult)
  | written (result : BusWriteResult)

namespace Bus

def attach (bus : Bus) (device : Device) : Bus × Option Text :=
  match bus.addDevice device with
  | .error thrown => (bus, some thrown)
  | .ok added => (added, none)

def perform (bus : Bus) : BusOperation → Bus × BusResponse
  | .addDevice device =>
    let result := bus.attach device
    (result.1, .added result.2)
  | .read address width kind =>
    let result := bus.read address width kind
    (result.2, .value result.1)
  | .write address width value kind =>
    let result := bus.write address width value kind
    (result.1, .written result.2)

def transducer : Execution.Transducer Bus BusOperation BusResponse := ⟨perform⟩

def unheldFault (address : Address) (width : Nat) (kind : AccessKind) : BusFault :=
  makeFault address width kind
    (if validWidth width then text "address is not mapped" else text "unsupported access width")

def assembled (devices : List Device) : Bus := transducer.state (devices.map .addDevice) empty

def AcceptedInFull (devices : List Device) : Prop :=
  ∀ response ∈ transducer.outputs (devices.map .addDevice) empty, response = .added none

theorem attach_cases (bus : Bus) (device : Device) :
    (∃ thrown, bus.attach device = (bus, some thrown) ∧
      ∃ existing ∈ bus.devices, existing.SharesAddress device) ∨
    (∃ added, bus.attach device = (added, none) ∧
      added.devices.Perm (bus.devices ++ [device]) ∧
      ∀ existing ∈ bus.devices, ¬ existing.SharesAddress device) := by
  unfold attach addDevice
  split
  case h_1 thrown hadd =>
    split at hadd
    · rename_i existing hfind
      refine .inl ⟨thrown, rfl, existing, List.mem_of_find?_eq_some hfind, ?_⟩
      exact (Device.sharesAddress_iff _ _).mpr (by simpa using List.find?_some hfind)
    · cases hadd
  case h_2 added hadd =>
    split at hadd
    · cases hadd
    · rename_i hfind
      cases hadd
      refine .inr ⟨_, rfl, List.perm_insertionSort _ _, ?_⟩
      intro existing hexisting hshare
      exact List.find?_eq_none.mp hfind existing hexisting
        ((Device.sharesAddress_iff _ _).mp hshare)

theorem attach_throws_iff (bus : Bus) (device : Device) :
    (bus.attach device).2 ≠ none ↔ ∃ existing ∈ bus.devices, existing.SharesAddress device := by
  rcases bus.attach_cases device with ⟨thrown, hattach, hshare⟩ | ⟨added, hattach, _, hfree⟩
  · simp [hattach, hshare]
  · simpa [hattach] using hfree

theorem attach_throws_unchanged (bus : Bus) (device : Device)
    (h : (bus.attach device).2 ≠ none) : (bus.attach device).1 = bus := by
  rcases bus.attach_cases device with ⟨thrown, hattach, _⟩ | ⟨added, hattach, _⟩
  · rw [hattach]
  · exact absurd (by rw [hattach]) h

theorem attach_adds (bus : Bus) (device : Device) (h : (bus.attach device).2 = none) :
    (bus.attach device).1.devices.Perm (bus.devices ++ [device]) := by
  rcases bus.attach_cases device with ⟨thrown, hattach, _⟩ | ⟨added, hattach, hperm, _⟩
  · rw [hattach] at h
    cases h
  · rw [hattach]
    exact hperm

theorem outside_accesses_fault (bus : Bus) (address : Address) (width : Nat)
    (h : ∀ device ∈ bus.devices, ¬ device.HoldsAccess address width) (value : BitVec 64)
    (kind : AccessKind) :
    bus.read address width kind = (.error (unheldFault address width kind), bus) ∧
      bus.write address width value kind = (bus, some (unheldFault address width kind)) := by
  unfold unheldFault
  cases hwidth : validWidth width with
  | false => simp [read, write, hwidth]
  | true =>
    have hfind : bus.find address width = none := by
      rw [find, List.find?_eq_none]
      intro device hdevice hcontains
      exact h device hdevice ((device.contains_iff_holdsAccess _ _).mp hcontains).2
    simp [read, write, hwidth, hfind]

theorem eq_of_perm {first second : Bus} (h : first.devices.Perm second.devices) :
    first = second := by
  refine Bus.ext (List.Perm.eq_of_pairwise ?_ first.sorted second.sorted h)
  intro left right _ _ hleft hright
  exact absurd (hleft.base_lt) (BitVec.lt_asymm hright.base_lt)

theorem addDevices_accepted (devices : List Device) (bus : Bus) :
    ((∀ response ∈ transducer.outputs (devices.map .addDevice) bus, response = .added none) ↔
      (bus.devices ++ devices).Pairwise Device.Disjoint) ∧
    ((bus.devices ++ devices).Pairwise Device.Disjoint →
      (transducer.state (devices.map .addDevice) bus).devices.Perm (bus.devices ++ devices)) := by
  induction devices generalizing bus with
  | nil => simpa [Execution.Transducer.outputs, Execution.Transducer.run] using bus.pairwise_disjoint
  | cons device devices ih =>
    rcases bus.attach_cases device with
      ⟨thrown, hattach, existing, hexisting, hshare⟩ | ⟨added, hattach, hperm, hfree⟩
    · have hoverlap : ¬ (bus.devices ++ device :: devices).Pairwise Device.Disjoint := by
        intro h
        have hcross := (List.pairwise_append.mp h).2.2 existing hexisting device (by simp)
        exact (Device.disjoint_iff _ _).mp hcross hshare
      have hthrown : transducer.step bus (.addDevice device) = (bus, .added (some thrown)) := by
        simp [transducer, perform, hattach]
      refine ⟨iff_of_false (fun h => ?_) hoverlap, fun h => absurd h hoverlap⟩
      simp [Execution.Transducer.outputs_cons, hthrown] at h
    · have hstep : transducer.step bus (.addDevice device) = (added, .added none) := by
        simp [transducer, perform, hattach]
      obtain ⟨haccepted, hdevices⟩ := ih added
      have hmoved : (added.devices ++ devices).Perm (bus.devices ++ device :: devices) := by
        simpa using hperm.append_right devices
      have hdisjoint := Device.pairwise_disjoint_perm hmoved
      have hstate : transducer.state ((device :: devices).map .addDevice) bus =
          transducer.state (devices.map .addDevice) added := by
        simp [Execution.Transducer.state, Execution.Transducer.run, hstep]
      rw [hstate, List.map_cons, Execution.Transducer.outputs_cons, hstep, ← hdisjoint]
      exact ⟨by simpa using haccepted, fun h => (hdevices h).trans hmoved⟩

theorem acceptedInFull_iff (devices : List Device) :
    AcceptedInFull devices ↔ devices.Pairwise Device.Disjoint :=
  (addDevices_accepted devices empty).1

theorem assembled_perm {devices : List Device} (h : AcceptedInFull devices) :
    (assembled devices).devices.Perm devices :=
  (addDevices_accepted devices empty).2 ((acceptedInFull_iff devices).mp h)

theorem acceptedInFull_iff_apart (devices : List Device) :
    AcceptedInFull devices ↔
      devices.Pairwise (fun first second => ¬ first.SharesAddress second) := by
  rw [acceptedInFull_iff]
  exact List.Pairwise.iff (fun first second => first.disjoint_iff second)

theorem acceptedInFull_perm {devices others : List Device} (h : devices.Perm others) :
    AcceptedInFull devices ↔ AcceptedInFull others := by
  rw [acceptedInFull_iff, acceptedInFull_iff]
  exact Device.pairwise_disjoint_perm h

theorem assembled_congr {devices others : List Device} (h : devices.Perm others)
    (haccepted : AcceptedInFull devices) : assembled devices = assembled others :=
  eq_of_perm (((assembled_perm haccepted).trans h).trans
    (assembled_perm ((acceptedInFull_perm h).mp haccepted)).symm)

end Bus

theorem bus_map_order_independent :
    (∀ history : List BusOperation,
      let bus := Bus.transducer.state history Bus.empty
      bus.devices.Pairwise (fun left right => left.base < right.base) ∧
      bus.devices.Pairwise (fun left right => ¬ left.SharesAddress right) ∧
      (∀ device,
        ((bus.attach device).2 ≠ none ↔
          ∃ existing ∈ bus.devices, existing.SharesAddress device) ∧
        ((bus.attach device).2 ≠ none → (bus.attach device).1 = bus) ∧
        ((bus.attach device).2 = none →
          (bus.attach device).1.devices.Perm (bus.devices ++ [device]))) ∧
      (∀ address width, ∀ first ∈ bus.devices, ∀ second ∈ bus.devices,
        first.contains address width = true → second.contains address width = true →
          first = second) ∧
      (∀ address width value kind,
        (∀ device ∈ bus.devices, ¬ device.HoldsAccess address width) →
          bus.read address width kind = (.error (Bus.unheldFault address width kind), bus) ∧
          bus.write address width value kind =
            (bus, some (Bus.unheldFault address width kind)))) ∧
    (∀ devices : List Device,
      (Bus.AcceptedInFull devices ↔
        devices.Pairwise (fun first second => ¬ first.SharesAddress second)) ∧
      (Bus.AcceptedInFull devices → (Bus.assembled devices).devices.Perm devices)) ∧
    ∀ devices others : List Device, devices.Perm others →
      (Bus.AcceptedInFull devices ↔ Bus.AcceptedInFull others) ∧
      (Bus.AcceptedInFull devices →
        Bus.assembled devices = Bus.assembled others ∧
        ∀ later, Bus.transducer.outputs later (Bus.assembled devices) =
          Bus.transducer.outputs later (Bus.assembled others)) := by
  refine ⟨?_, fun devices => ⟨Bus.acceptedInFull_iff_apart devices, Bus.assembled_perm⟩, ?_⟩
  · intro history bus
    refine ⟨bus.sorted.imp Device.Precedes.base_lt, ?_, ?_, ?_, ?_⟩
    · exact bus.pairwise_disjoint.imp (fun h => (Device.disjoint_iff _ _).mp h)
    · exact fun device => ⟨bus.attach_throws_iff device, bus.attach_throws_unchanged device,
        bus.attach_adds device⟩
    · intro address width first hfirst second hsecond hf hs
      exact Bus.eq_of_common_address hfirst hsecond address (Bus.range_of_contains hf)
        (Bus.range_of_contains hs)
    · intro address width value kind houtside
      exact bus.outside_accesses_fault address width houtside value kind
  · intro devices others hperm
    refine ⟨Bus.acceptedInFull_perm hperm, fun haccepted => ?_⟩
    have hsame := Bus.assembled_congr hperm haccepted
    exact ⟨hsame, fun later => by rw [hsame]⟩

end Northstar64
