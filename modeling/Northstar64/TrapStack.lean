import Northstar64.Warl

namespace Northstar64

namespace TrapReturnMode

def matching : PrivilegeLevel → TrapReturnMode
  | .supervisor => .supervisor
  | _ => .machine

def other : TrapReturnMode → TrapReturnMode
  | .supervisor => .machine
  | .machine => .supervisor

def interruptEnable : TrapReturnMode → BitVec 64
  | .supervisor => status.kSie
  | .machine => status.kMie

def previousInterruptEnable : TrapReturnMode → BitVec 64
  | .supervisor => status.kSpie
  | .machine => status.kMpie

def previousPrivilege : TrapReturnMode → BitVec 64
  | .supervisor => status.kSpp
  | .machine => status.kMppMask

def stackBits (mode : TrapReturnMode) : BitVec 64 :=
  mode.interruptEnable ||| mode.previousInterruptEnable ||| mode.previousPrivilege

end TrapReturnMode

structure TrapBank where
  epc : BitVec 64
  cause : BitVec 64
  tval : BitVec 64
  stack : BitVec 64
  deriving DecidableEq, Repr

namespace CsrFile

def bank (csrs : CsrFile) (mode : TrapReturnMode) : TrapBank :=
  match mode with
  | .supervisor => ⟨csrs.sepc, csrs.scause, csrs.stval, csrs.mstatus &&& mode.stackBits⟩
  | .machine => ⟨csrs.mepc, csrs.mcause, csrs.mtval, csrs.mstatus &&& mode.stackBits⟩

def roundTrip (csrs : CsrFile) (trap : Trap) (origin : PrivilegeLevel) : CsrFile × TrapReturn :=
  let entry := csrs.enterTrap trap origin
  entry.1.returnFromTrap (.matching entry.2.target)

structure Restores (csrs : CsrFile) (trap : Trap) (origin : PrivilegeLevel)
    (mode : TrapReturnMode) (after : CsrFile × TrapReturn) : Prop where
  returned : after.2 = ⟨origin, trap.pc⟩
  interruptEnable : after.1.mstatus &&& mode.interruptEnable =
    csrs.mstatus &&& mode.interruptEnable
  previousInterruptEnable : after.1.mstatus &&& mode.previousInterruptEnable =
    mode.previousInterruptEnable
  previousPrivilege : after.1.mstatus &&& mode.previousPrivilege = 0#64
  mprv : after.1.mstatus &&& status.kMprv =
    if origin = .machine then csrs.mstatus &&& status.kMprv else 0#64
  other : after.1.bank mode.other = csrs.bank mode.other

variable {csrs : CsrFile} {trap : Trap} {origin : PrivilegeLevel}

theorem restores_supervisor (hpc : AlignedAddress trap.pc)
    (h : csrs.isDelegated trap origin = true) :
    csrs.Restores trap origin .supervisor
      ((csrs.enterTrap trap origin).1.returnFromTrap .supervisor) := by
  have horigin : origin ≠ .machine := (isDelegated_iff.mp h).1
  have hsepc : (csrs.enterTrap trap origin).1.sepc = trap.pc := by
    rw [enterTrap_delegated h]
    exact hpc
  refine ⟨?_, ?_, returnFromTrap_spie, returnFromTrap_spp, ?_, ?_⟩
  · simp only [returnFromTrap, enterTrap_spp h, hsepc]
    cases origin with
    | user => rfl
    | supervisor => rfl
    | machine => exact absurd rfl horigin
  · have hsingle := BitMask.single (b := status.kSie) (i := 1) rfl csrs.mstatus
    change _ &&& status.kSie = csrs.mstatus &&& status.kSie
    rw [returnFromTrap_sie, enterTrap_spie h]
    by_cases henabled : csrs.mstatus &&& status.kSie = 0#64
    · rw [if_neg (not_not_intro henabled), henabled]
      rfl
    · rw [hsingle, if_pos henabled]
      rfl
  · rw [if_neg horigin]
    exact returnFromTrap_clears_mprv
  · have hstack : ((csrs.enterTrap trap origin).1.returnFromTrap .supervisor).1.mstatus &&&
        TrapReturnMode.machine.stackBits = csrs.mstatus &&& TrapReturnMode.machine.stackBits :=
      (returnFromTrap_mstatus_supervisor (by decide)).trans
        (enterTrap_mstatus_delegated h (by decide))
    rw [enterTrap_delegated h] at hstack ⊢
    exact congrArg (TrapBank.mk csrs.mepc csrs.mcause csrs.mtval) hstack

theorem returnFromTrap_decodes_mpp
    (h : csrs.mstatus &&& status.kMppMask = origin.encoding.setWidth 64 <<< 11) :
    (csrs.returnFromTrap .machine).2 = ⟨origin, csrs.mepc⟩ := by
  simp only [returnFromTrap, h]
  cases origin <;> rfl

theorem restores_machine (hpc : AlignedAddress trap.pc)
    (h : csrs.isDelegated trap origin = false) :
    csrs.Restores trap origin .machine
      ((csrs.enterTrap trap origin).1.returnFromTrap .machine) := by
  have hmepc : (csrs.enterTrap trap origin).1.mepc = trap.pc := by
    rw [enterTrap_not_delegated h]
    exact hpc
  have hreturned := returnFromTrap_decodes_mpp (enterTrap_mpp h)
  rw [hmepc] at hreturned
  refine ⟨hreturned, ?_, returnFromTrap_mpie, returnFromTrap_mpp, ?_, ?_⟩
  · have hsingle := BitMask.single (b := status.kMie) (i := 3) rfl csrs.mstatus
    change _ &&& status.kMie = csrs.mstatus &&& status.kMie
    rw [returnFromTrap_mie, enterTrap_mpie h]
    by_cases henabled : csrs.mstatus &&& status.kMie = 0#64
    · rw [if_neg (not_not_intro henabled), henabled]
      rfl
    · rw [hsingle, if_pos henabled]
      rfl
  · rw [returnFromTrap_mprv_machine, hreturned, enterTrap_mstatus_not_delegated h (by decide)]
  · have hstack : ((csrs.enterTrap trap origin).1.returnFromTrap .machine).1.mstatus &&&
        TrapReturnMode.supervisor.stackBits =
          csrs.mstatus &&& TrapReturnMode.supervisor.stackBits :=
      (returnFromTrap_mstatus_machine (by decide)).trans
        (enterTrap_mstatus_not_delegated h (by decide))
    rw [enterTrap_not_delegated h] at hstack ⊢
    exact congrArg (TrapBank.mk csrs.sepc csrs.scause csrs.stval) hstack

theorem enterTrap_matching :
    TrapReturnMode.matching (csrs.enterTrap trap origin).2.target =
      if csrs.isDelegated trap origin then .supervisor else .machine := by
  rw [enterTrap_target]
  split_ifs <;> rfl

theorem enterTrap_bank :
    let entry := csrs.enterTrap trap origin
    (entry.1.bank (.matching entry.2.target)).cause = trap.cause.code ∧
      (entry.1.bank (.matching entry.2.target)).tval = trap.value := by
  dsimp only
  rw [enterTrap_matching]
  cases h : csrs.isDelegated trap origin with
  | true =>
    rw [enterTrap_delegated h]
    exact ⟨rfl, rfl⟩
  | false =>
    rw [enterTrap_not_delegated h]
    exact ⟨rfl, rfl⟩

theorem roundTrip_restores (hpc : AlignedAddress trap.pc) :
    csrs.Restores trap origin (.matching (csrs.enterTrap trap origin).2.target)
      (csrs.roundTrip trap origin) := by
  cases h : csrs.isDelegated trap origin with
  | true =>
    rw [roundTrip, enterTrap_matching, h]
    exact restores_supervisor hpc h
  | false =>
    rw [roundTrip, enterTrap_matching, h]
    exact restores_machine hpc h

inductive MachineTrip (before : CsrFile) : CsrFile → Prop where
  | mk (trap : Trap) (entered : (before.enterTrap trap .supervisor).2.target = .machine) :
      MachineTrip before ((before.enterTrap trap .supervisor).1.returnFromTrap .machine).1

structure SupervisorAgree (first second : CsrFile) : Prop where
  sepc : second.sepc = first.sepc
  scause : second.scause = first.scause
  stval : second.stval = first.stval
  mstatus : second.mstatus &&& ~~~(status.machineTrapBits ||| status.kMprv) =
    first.mstatus &&& ~~~(status.machineTrapBits ||| status.kMprv)

theorem MachineTrip.agree {before after : CsrFile} (h : before.MachineTrip after) :
    SupervisorAgree before after := by
  obtain ⟨trap, entered⟩ := h
  have hdelegated : before.isDelegated trap .supervisor = false := by
    rw [enterTrap_target] at entered
    cases hcase : before.isDelegated trap .supervisor with
    | true => simp [hcase] at entered
    | false => rfl
  have hmstatus :
      ((before.enterTrap trap .supervisor).1.returnFromTrap .machine).1.mstatus &&&
        ~~~(status.machineTrapBits ||| status.kMprv) =
      before.mstatus &&& ~~~(status.machineTrapBits ||| status.kMprv) :=
    (returnFromTrap_mstatus_machine (by decide)).trans
      (enterTrap_mstatus_not_delegated hdelegated (by decide))
  rw [enterTrap_not_delegated hdelegated] at hmstatus ⊢
  exact ⟨rfl, rfl, rfl, hmstatus⟩

theorem machineTrips_agree {before after : CsrFile}
    (h : Relation.ReflTransGen MachineTrip before after) : SupervisorAgree before after := by
  induction h with
  | refl => exact ⟨rfl, rfl, rfl, rfl⟩
  | tail _ htrip ih =>
    have htrip := htrip.agree
    exact ⟨htrip.sepc.trans ih.sepc, htrip.scause.trans ih.scause, htrip.stval.trans ih.stval,
      htrip.mstatus.trans ih.mstatus⟩

structure ReturnsAlike (first second : CsrFile × TrapReturn) : Prop where
  returned : second.2 = first.2
  bank : second.1.bank .supervisor = first.1.bank .supervisor
  mprv : second.1.mstatus &&& status.kMprv = first.1.mstatus &&& status.kMprv

theorem SupervisorAgree.returnsAlike {first second : CsrFile} (h : SupervisorAgree first second) :
    ReturnsAlike (first.returnFromTrap .supervisor) (second.returnFromTrap .supervisor) := by
  have hspp : second.mstatus &&& status.kSpp = first.mstatus &&& status.kSpp :=
    BitMask.and_mono (by decide) h.mstatus
  have hspie : second.mstatus &&& status.kSpie = first.mstatus &&& status.kSpie :=
    BitMask.and_mono (by decide) h.mstatus
  refine ⟨?_, ?_, ?_⟩
  · simp only [returnFromTrap, hspp, h.sepc]
  · have hstack : (second.returnFromTrap .supervisor).1.mstatus &&&
        TrapReturnMode.supervisor.stackBits =
        (first.returnFromTrap .supervisor).1.mstatus &&& TrapReturnMode.supervisor.stackBits := by
      refine BitMask.and_union (BitMask.and_union ?_ ?_) ?_
      · exact (returnFromTrap_sie.trans (by rw [hspie])).trans returnFromTrap_sie.symm
      · exact returnFromTrap_spie.trans returnFromTrap_spie.symm
      · exact returnFromTrap_spp.trans returnFromTrap_spp.symm
    unfold bank
    rw [hstack, @returnFromTrap_supervisor second, @returnFromTrap_supervisor first]
    simp only [h.sepc, h.scause, h.stval]
  · rw [returnFromTrap_clears_mprv, returnFromTrap_clears_mprv]

theorem trap_stacks_independent (csrs : CsrFile) (trap : Trap) (origin : PrivilegeLevel)
    (hpc : trap.pc.toNat % 4 = 0) :
    csrs.Restores trap origin (.matching (csrs.enterTrap trap origin).2.target)
      (csrs.roundTrip trap origin) ∧
    ((csrs.enterTrap trap origin).2.target = .supervisor →
      ∀ nested, Relation.ReflTransGen MachineTrip (csrs.enterTrap trap origin).1 nested →
        ReturnsAlike (csrs.roundTrip trap origin) (nested.returnFromTrap .supervisor)) := by
  refine ⟨roundTrip_restores ((alignedAddress_iff _).mpr hpc), ?_⟩
  intro htarget nested hnested
  rw [roundTrip, htarget]
  exact (machineTrips_agree hnested).returnsAlike

def delegatedBreakpoints : CsrFile := { reset with medeleg := 0x8#64, mstatus := status.kSie }

theorem trap_stacks_independent_breakpoint :
    (0x80000004#64).toNat % 4 = 0 ∧
    delegatedBreakpoints.Restores ⟨.breakpoint, 0x80000004#64, 0#64, []⟩ .user .supervisor
      (delegatedBreakpoints.roundTrip ⟨.breakpoint, 0x80000004#64, 0#64, []⟩ .user) :=
  ⟨by decide, (trap_stacks_independent delegatedBreakpoints
    ⟨.breakpoint, 0x80000004#64, 0#64, []⟩ .user (by decide)).1⟩

end CsrFile

end Northstar64
