import Northstar64.CpuStep
import Northstar64.CsrFrame

namespace Northstar64

def SameOutsideBank (target : PrivilegeLevel) (before after : CsrFile) : Prop :=
  match target with
  | .supervisor =>
    after = { before with
      mstatus := after.mstatus
      sepc := after.sepc
      scause := after.scause
      stval := after.stval } ∧
    after.mstatus &&& ~~~status.supervisorTrapBits =
      before.mstatus &&& ~~~status.supervisorTrapBits
  | _ =>
    after = { before with
      mstatus := after.mstatus
      mepc := after.mepc
      mcause := after.mcause
      mtval := after.mtval } ∧
    after.mstatus &&& ~~~status.machineTrapBits = before.mstatus &&& ~~~status.machineTrapBits

theorem enterTrap_sameOutsideBank (csrs : CsrFile) (trap : Trap) (origin : PrivilegeLevel) :
    SameOutsideBank (csrs.enterTrap trap origin).2.target csrs (csrs.enterTrap trap origin).1 := by
  cases h : csrs.isDelegated trap origin with
  | true =>
    have hstatus := CsrFile.enterTrap_mstatus_delegated h
      (BitVec.and_not_self status.supervisorTrapBits)
    rw [CsrFile.enterTrap_delegated h] at hstatus ⊢
    exact ⟨rfl, hstatus⟩
  | false =>
    have hstatus := CsrFile.enterTrap_mstatus_not_delegated h
      (BitVec.and_not_self status.machineTrapBits)
    rw [CsrFile.enterTrap_not_delegated h] at hstatus ⊢
    exact ⟨rfl, hstatus⟩

structure PreciseTrap (cpu next : Cpu) (record : StepRecord) (trap : Trap) : Prop where
  pc : trap.pc = cpu.pc
  registerWrite : record.registerWrite = none
  memoryWrite : record.memoryWrite = none
  registers : next.registers = cpu.registers
  bus : next.bus = cpu.bus
  entered_once : next.csrs = (cpu.csrs.tickCycle.enterTrap trap cpu.privilege).1
  minstret : next.csrs.minstret = cpu.csrs.minstret
  mcycle : next.csrs.mcycle = cpu.csrs.mcycle + 1#64
  supervisor : next.privilege = .supervisor ↔
    cpu.privilege ≠ .machine ∧ cpu.csrs.medeleg.getLsbD trap.cause.code.toNat = true
  machine : next.privilege ≠ .supervisor → next.privilege = .machine
  frame : SameOutsideBank next.privilege cpu.csrs.tickCycle next.csrs

namespace Cpu
variable {cpu : Cpu} {s : StepState}

theorem target_supervisor_iff (csrs : CsrFile) (trap : Trap) (origin : PrivilegeLevel) :
    (csrs.enterTrap trap origin).2.target = .supervisor ↔
      origin ≠ .machine ∧ csrs.medeleg.getLsbD trap.cause.code.toNat = true := by
  rw [CsrFile.enterTrap_target, ← CsrFile.isDelegated_iff]
  cases csrs.isDelegated trap origin <;> simp

theorem enterTrap_counters (csrs : CsrFile) (trap : Trap) (origin : PrivilegeLevel) :
    (csrs.enterTrap trap origin).1.minstret = csrs.minstret ∧
      (csrs.enterTrap trap origin).1.mcycle = csrs.mcycle := by
  cases h : csrs.isDelegated trap origin with
  | true => rw [CsrFile.enterTrap_delegated h]; exact ⟨rfl, rfl⟩
  | false => rw [CsrFile.enterTrap_not_delegated h]; exact ⟨rfl, rfl⟩

theorem TrapEffect.precise {trap : Trap} (h : cpu.TrapEffect s trap) :
    PreciseTrap cpu s.cpu s.record trap where
  pc := h.pc
  registerWrite := h.registerWrite
  memoryWrite := h.memoryWrite
  registers := h.registers
  bus := h.bus
  entered_once := h.csrs
  minstret := by
    rw [h.csrs, (enterTrap_counters _ _ _).1]
    rfl
  mcycle := by
    rw [h.csrs, (enterTrap_counters _ _ _).2]
    rfl
  supervisor := by
    rw [h.privilege]
    exact target_supervisor_iff _ _ _
  machine := by
    rw [h.privilege, CsrFile.enterTrap_target]
    split_ifs with hdelegated
    · exact fun hne => absurd rfl hne
    · exact fun _ => rfl
  frame := by
    rw [h.privilege, h.csrs]
    exact enterTrap_sameOutsideBank _ _ _

theorem step_is_precise (cpu : Cpu) (hrunning : cpu.halted = false) :
    cpu.step.2.retired = cpu.step.2.trap.isNone ∧
      ∀ trap, cpu.step.2.trap = some trap → PreciseTrap cpu cpu.step.1 cpu.step.2 trap := by
  refine ⟨?_, fun trap htrap => (cpu.stepped_trap hrunning htrap).precise⟩
  rcases (cpu.step_outcome hrunning).cases with ⟨trap, heffect⟩ | hretires
  · have hrecorded : cpu.step.2.trap = some trap := heffect.recorded
    rw [hrecorded]
    exact heffect.not_retired
  · have hnone : cpu.step.2.trap = none := hretires.trap_eq_none
    rw [hnone]
    exact hretires.retired

theorem step_is_precise_unmapped :
    (reset .empty ⟨.vector, true, true⟩ 0x1000#64).step.2.retired = false ∧
      ∀ trap, (reset .empty ⟨.vector, true, true⟩ 0x1000#64).step.2.trap = some trap →
        PreciseTrap (reset .empty ⟨.vector, true, true⟩ 0x1000#64)
          (reset .empty ⟨.vector, true, true⟩ 0x1000#64).step.1
          (reset .empty ⟨.vector, true, true⟩ 0x1000#64).step.2 trap := by
  have h := step_is_precise (reset .empty ⟨.vector, true, true⟩ 0x1000#64) rfl
  exact ⟨h.1.trans rfl, h.2⟩

end Cpu

end Northstar64
