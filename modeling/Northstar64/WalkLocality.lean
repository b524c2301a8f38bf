import Northstar64.Sv39Walk
import Northstar64.Sv39Correct

namespace Northstar64

structure BusWrite where
  address : Address
  width : Nat
  value : BitVec 64
  kind : AccessKind
  deriving DecidableEq, Repr

namespace Bus

def apply (bus : Bus) (write : BusWrite) : Bus × BusWriteResult :=
  bus.write write.address write.width write.value write.kind

def applyAll : List BusWrite → Bus → Bus
  | [], bus => bus
  | write :: writes, bus => applyAll writes (bus.apply write).1

def Touches (bus : Bus) (write : BusWrite) (p : Address) : Prop :=
  (bus.apply write).2 = none ∧ (p - write.address).toNat < write.width

def Spares (entries : List Address) : List BusWrite → Bus → Prop
  | [], _ => True
  | write :: writes, bus =>
    (∀ pteAddress ∈ entries, ∀ p, entryByte pteAddress p → ¬ bus.Touches write p) ∧
      Spares entries writes (bus.apply write).1

theorem apply_ramByte {bus : Bus} {write : BusWrite} {p : Address} (h : ¬ bus.Touches write p) :
    (bus.apply write).1.ramByte p = bus.ramByte p := by
  cases hresult : (bus.apply write).2 with
  | some fault => rw [apply, write_fault hresult]
  | none =>
    have hview : (bus.apply write).1.view =
      bus.view.store write.address write.width write.value := write_view hresult
    have hout : ¬ (p - write.address).toNat < write.width := fun hin => h ⟨hresult, hin⟩
    calc (bus.apply write).1.ramByte p
        = (bus.view.store write.address write.width write.value).ram p :=
          congrFun (congrArg PhysicalMemory.ram hview) p
      _ = bus.ramByte p := if_neg hout

theorem applyAll_spares {entries : List Address} {writes : List BusWrite} {bus : Bus}
    (h : Spares entries writes bus) :
    bus.layout = (bus.applyAll writes).layout ∧
      AgreeOnEntries bus (bus.applyAll writes) entries := by
  induction writes generalizing bus with
  | nil => exact ⟨rfl, fun _ _ _ _ => rfl⟩
  | cons write writes ih =>
    obtain ⟨hhead, hrest⟩ := h
    obtain ⟨hlayout, hagree⟩ := ih hrest
    refine ⟨(write_layout bus _ _ _ _).symm.trans hlayout, ?_⟩
    intro pteAddress hmem p hp
    have hstep := apply_ramByte (hhead pteAddress hmem p hp)
    exact hstep.symm.trans (hagree pteAddress hmem p hp)

end Bus

variable (virtualAddress : Address) (context : Sv39Context)

theorem pteReadsFrom_length (remaining : Nat) (tableAddress : Address) (bus : Bus) :
    (pteReadsFrom virtualAddress context remaining tableAddress bus).length ≤ remaining := by
  induction remaining generalizing tableAddress with
  | zero => exact Nat.le_refl 0
  | succ level ih =>
    simp only [pteReadsFrom]
    split_ifs
    · exact Nat.zero_le _
    · split
      case h_1 => exact Nat.zero_le _
      case h_2 pte _ =>
        split
        case h_1 next _ => exact Nat.succ_le_succ (ih next)
        case h_2 => exact Nat.succ_le_succ (Nat.zero_le level)

theorem pteReads_length (bus : Bus) : (pteReads virtualAddress context bus).length ≤ 3 := by
  unfold pteReads
  split_ifs
  · exact Nat.zero_le 3
  · exact Nat.zero_le 3
  · exact pteReadsFrom_length _ _ _ _ _

theorem kPpnMask_congr {first second : BitVec 64}
    (h : ∀ bit < 44, first.getLsbD bit = second.getLsbD bit) :
    first &&& kPpnMask = second &&& kPpnMask := by
  rw [kPpnMask, BitMask.shifted_sub_one]
  apply BitVec.eq_of_getLsbD_eq
  intro bit _
  rw [BitVec.getLsbD_and, BitVec.getLsbD_and, BitMask.getLsbD_low]
  by_cases hbit : bit < 44
  · rw [h bit hbit]
  · simp [hbit]

theorem walkFrom_rootPpn (rootPpn : BitVec 64) (remaining : Nat) (tableAddress : Address)
    (bus : Bus) :
    walkFrom virtualAddress { context with rootPpn := rootPpn } remaining tableAddress bus =
      walkFrom virtualAddress context remaining tableAddress bus := by
  induction remaining generalizing tableAddress bus with
  | zero => rfl
  | succ level ih => simp only [walkFrom, ih, show ∀ pte,
      inspectPte { context with rootPpn := rootPpn } level pte = inspectPte context level pte
      from fun _ => rfl]

theorem walkSv39_rootPpn {rootPpn : BitVec 64}
    (h : ∀ bit < 44, rootPpn.getLsbD bit = context.rootPpn.getLsbD bit) (bus : Bus) :
    walkSv39 bus virtualAddress { context with rootPpn := rootPpn } =
      walkSv39 bus virtualAddress context := by
  unfold walkSv39
  rw [walkFrom_rootPpn, kPpnMask_congr h]

theorem walk_locality (bus : Bus) :
    (pteReads virtualAddress context bus).length ≤ 3 ∧
    (∀ writes, Bus.Spares (pteReads virtualAddress context bus) writes bus →
      (walkSv39 (bus.applyAll writes) virtualAddress context).1 =
        (walkSv39 bus virtualAddress context).1) ∧
    ∀ rootPpn : BitVec 64, (∀ bit < 44, rootPpn.getLsbD bit = context.rootPpn.getLsbD bit) →
      (walkSv39 bus virtualAddress { context with rootPpn := rootPpn }).1 =
        (walkSv39 bus virtualAddress context).1 := by
  refine ⟨pteReads_length virtualAddress context bus, ?_, ?_⟩
  · intro writes hspares
    obtain ⟨hlayout, hagree⟩ := Bus.applyAll_spares hspares
    exact (walkSv39_congr virtualAddress context hlayout hagree).1.symm
  · intro rootPpn hroot
    rw [walkSv39_rootPpn virtualAddress context hroot]

def spareWrites : List BusWrite := [⟨0x100#64, 4, 7#64, .store⟩, ⟨0x8000#64, 8, 0#64, .store⟩]

theorem walk_locality_gigapage :
    (walkSv39 (gigapageBus.applyAll spareWrites) 0x1238#64 wideContext).1 =
      (walkSv39 gigapageBus 0x1238#64 { wideContext with rootPpn := 0#64 }).1 := by
  obtain ⟨-, hwrites, hroot⟩ := walk_locality 0x1238#64 wideContext gigapageBus
  have hreads : pteReads 0x1238#64 wideContext gigapageBus = [0#64] := by decide +kernel
  have hspared (write : BusWrite) (habove : 8 ≤ write.address.toNat)
      (hbelow : write.address.toNat + write.width ≤ 2 ^ 64) (bus : Bus) :
      ∀ pteAddress ∈ pteReads 0x1238#64 wideContext gigapageBus,
        ∀ p, entryByte pteAddress p → ¬ bus.Touches write p := by
    rw [hreads]
    rintro pteAddress hmem p hp ⟨-, hwritten⟩
    obtain rfl := List.mem_singleton.mp hmem
    rw [entryByte] at hp
    bv_omega
  refine (hwrites spareWrites ⟨?_, ?_, trivial⟩).trans (hroot 0#64 (by decide)).symm
  · exact hspared _ (by decide) (by decide) _
  · exact hspared _ (by decide) (by decide) _

end Northstar64
