import Northstar64.Alignment
import Northstar64.LowerModes

namespace Northstar64

namespace PrivilegeLevel

def lt (lower higher : PrivilegeLevel) : Prop := lower.encoding < higher.encoding

instance (lower higher : PrivilegeLevel) : Decidable (lower.lt higher) :=
  inferInstanceAs (Decidable (lower.encoding < higher.encoding))

theorem not_lt_self (level : PrivilegeLevel) : ¬ level.lt level := by
  cases level <;> decide

theorem not_machine_lt (level : PrivilegeLevel) : ¬ machine.lt level := by
  cases level <;> decide

end PrivilegeLevel

namespace CsrFile

theorem returnFromTrap_supervisor_target (csrs : CsrFile) :
    (csrs.returnFromTrap .supervisor).2.target ≠ .machine := by
  simp only [returnFromTrap]
  split_ifs <;> decide

end CsrFile

structure Transition (cpu next : Cpu) (record : StepRecord) : Prop where
  level : ∀ level ∈ [cpu.privilege, record.nextPrivilege],
    level = .user ∨ level = .supervisor ∨ level = .machine
  observed : record.privilege = cpu.privilege ∧ record.nextPrivilege = next.privilege
  raised : cpu.privilege.lt record.nextPrivilege → ∃ trap, record.trap = some trap ∧
    (cpu.config.trapPolicy = .vector → record.halted = false →
      (record.nextPrivilege = .supervisor ∧ record.nextPc = cpu.csrs.stvec) ∨
      (record.nextPrivilege = .machine ∧ record.nextPc = cpu.csrs.mtvec))
  trap_never_lowers : record.trap ≠ none → ¬ record.nextPrivilege.lt cpu.privilege
  machine_trap : record.trap ≠ none → cpu.privilege = .machine → record.nextPrivilege = .machine
  lowered : record.nextPrivilege.lt cpu.privilege →
    (record.Executes .sret ∧ (cpu.privilege = .supervisor ∨ cpu.privilege = .machine)) ∨
    (record.Executes .mret ∧ cpu.privilege = .machine)
  sret_leaves_machine : record.Executes .sret → record.nextPrivilege ≠ .machine

namespace Cpu
variable {cpu : Cpu} {s : StepState}

theorem level_cases (level : PrivilegeLevel) :
    level = .user ∨ level = .supervisor ∨ level = .machine := by
  cases level <;> simp

theorem TrapEffect.target_cases {trap : Trap} (heffect : cpu.TrapEffect s trap)
    (haligned : AlignedCsrs cpu.csrs) :
    (s.cpu.privilege = .supervisor ∧ cpu.privilege ≠ .machine ∧
      (cpu.csrs.tickCycle.enterTrap trap cpu.privilege).2.vector = cpu.csrs.stvec) ∨
    (s.cpu.privilege = .machine ∧
      (cpu.csrs.tickCycle.enterTrap trap cpu.privilege).2.vector = cpu.csrs.mtvec) := by
  rw [heffect.privilege, CsrFile.enterTrap_target, enterTrap_vector _ haligned.tickCycle]
  cases hdelegated : cpu.csrs.tickCycle.isDelegated trap cpu.privilege with
  | true => exact .inl ⟨rfl, (CsrFile.isDelegated_iff.mp hdelegated).1, rfl⟩
  | false => exact .inr ⟨rfl, rfl⟩

theorem TrapEffect.not_executes {trap : Trap} (heffect : cpu.TrapEffect s trap)
    (operation : Operation) : ¬ s.record.Executes operation := by
  intro h
  have hretired := h.1
  rw [heffect.not_retired] at hretired
  cases hretired

theorem TrapEffect.not_lower {trap : Trap} (heffect : cpu.TrapEffect s trap)
    (haligned : AlignedCsrs cpu.csrs) : ¬ s.cpu.privilege.lt cpu.privilege := by
  rcases heffect.target_cases haligned with ⟨htarget, horigin, -⟩ | ⟨htarget, -⟩
  · rw [htarget]
    cases horigin' : cpu.privilege with
    | machine => exact absurd horigin' horigin
    | supervisor => decide
    | user => decide
  · rw [htarget]
    exact PrivilegeLevel.not_machine_lt _

theorem TrapEffect.transition {trap : Trap} (heffect : cpu.TrapEffect s trap)
    (hrecorded : cpu.Recorded s) (haligned : AlignedCsrs cpu.csrs) :
    Transition cpu s.cpu s.record where
  level := fun level _ => level_cases level
  observed := ⟨hrecorded.privilege, hrecorded.nextPrivilege⟩
  raised := by
    intro _
    refine ⟨trap, heffect.recorded, fun _ hhalted => ?_⟩
    rw [hrecorded.halted] at hhalted
    have hpc : s.cpu.pc = (cpu.csrs.tickCycle.enterTrap trap cpu.privilege).2.vector := by
      rcases heffect.target with ⟨hstopped, -⟩ | ⟨-, hpc⟩
      · rw [hhalted] at hstopped
        cases hstopped
      · exact hpc
    rw [hrecorded.nextPrivilege, hrecorded.nextPc, hpc]
    rcases heffect.target_cases haligned with ⟨htarget, -, hvector⟩ | ⟨htarget, hvector⟩
    · exact .inl ⟨htarget, hvector⟩
    · exact .inr ⟨htarget, hvector⟩
  trap_never_lowers := by
    intro _
    rw [hrecorded.nextPrivilege]
    exact heffect.not_lower haligned
  machine_trap := by
    intro _ hmachine
    rw [hrecorded.nextPrivilege]
    rcases heffect.target_cases haligned with ⟨-, horigin, -⟩ | ⟨htarget, -⟩
    · exact absurd hmachine horigin
    · exact htarget
  lowered := by
    intro hlower
    rw [hrecorded.nextPrivilege] at hlower
    exact absurd hlower (heffect.not_lower haligned)
  sret_leaves_machine := fun hsret => absurd hsret (heffect.not_executes .sret)

theorem Completes.executes_iff {f : Scratch} {instruction : DecodedInstruction}
    (hdecode : decode f.instruction = .ok instruction) (h : cpu.Completes f instruction s)
    (operation : Operation) :
    s.finished.record.Executes operation ↔ instruction.operation = operation := by
  constructor
  · rintro ⟨-, other, hother, hoperation⟩
    have heq : decode f.instruction = .ok other := h.instruction_eq ▸ hother
    rw [hdecode] at heq
    rw [Except.ok.inj heq, hoperation]
  · intro hoperation
    exact ⟨rfl, instruction, h.instruction_eq ▸ hdecode, hoperation⟩

theorem Completes.privilege_cases {f : Scratch} {instruction : DecodedInstruction}
    (h : cpu.Completes f instruction s) :
    (s.cpu.privilege = cpu.privilege ∧ instruction.operation ≠ .sret) ∨
    (instruction.operation = .sret ∧ cpu.privilege ≠ .user ∧ s.cpu.privilege ≠ .machine) ∨
    (instruction.operation = .mret ∧ cpu.privilege = .machine) := by
  have hplain (hother : changesCsrs instruction.operation = false) :
      instruction.operation ≠ .sret := by
    intro hsret
    rw [hsret] at hother
    cases hother
  have hcsr (hoperation : csrOperation instruction.operation = true) :
      instruction.operation ≠ .sret := by
    intro hsret
    rw [hsret] at hoperation
    cases hoperation
  cases h with
  | advance index value target other =>
    rw [StepState.writeRegister_cpu]
    exact .inl ⟨rfl, hplain other⟩
  | store address width write bus target other => exact .inl ⟨rfl, hplain other⟩
  | csrRead oldValue target operation =>
    rw [StepState.writeRegister_cpu]
    exact .inl ⟨rfl, hcsr operation⟩
  | csrWrite oldValue csrs target operation =>
    rw [StepState.writeRegister_cpu]
    exact .inl ⟨rfl, hcsr operation⟩
  | sret operation permitted =>
    exact .inr (.inl ⟨operation, permitted, CsrFile.returnFromTrap_supervisor_target _⟩)
  | mret operation permitted => exact .inr (.inr ⟨operation, permitted⟩)
  | wfi target operation => exact .inl ⟨rfl, by rw [operation]; decide⟩

theorem not_user_cases {level : PrivilegeLevel} (h : level ≠ .user) :
    level = .supervisor ∨ level = .machine := by
  cases level with
  | user => exact absurd rfl h
  | supervisor => exact .inl rfl
  | machine => exact .inr rfl

theorem sret_not_raising {before after : PrivilegeLevel} (hbefore : before ≠ .user)
    (hafter : after ≠ .machine) : ¬ before.lt after := by
  cases before <;> cases after <;> first | exact absurd rfl hbefore | exact absurd rfl hafter | decide

theorem Completes.transition {f : Scratch} {instruction : DecodedInstruction}
    (hdecode : decode f.instruction = .ok instruction) (h : cpu.Completes f instruction s) :
    Transition cpu s.finished.cpu s.finished.record where
  level := fun level _ => level_cases level
  observed := ⟨h.recorded.privilege, h.recorded.nextPrivilege⟩
  raised := by
    intro hraised
    change cpu.privilege.lt s.cpu.privilege at hraised
    rcases h.privilege_cases with ⟨hsame, -⟩ | ⟨-, hbefore, hafter⟩ | ⟨-, hmachine⟩
    · rw [hsame] at hraised
      exact absurd hraised (PrivilegeLevel.not_lt_self _)
    · exact absurd hraised (sret_not_raising hbefore hafter)
    · rw [hmachine] at hraised
      exact absurd hraised (PrivilegeLevel.not_machine_lt _)
  trap_never_lowers := fun hne => absurd h.trap_eq_none hne
  machine_trap := fun hne => absurd h.trap_eq_none hne
  lowered := by
    intro hlowered
    change s.cpu.privilege.lt cpu.privilege at hlowered
    rw [h.executes_iff hdecode, h.executes_iff hdecode]
    rcases h.privilege_cases with ⟨hsame, -⟩ | ⟨hsret, hbefore, -⟩ | ⟨hmret, hmachine⟩
    · rw [hsame] at hlowered
      exact absurd hlowered (PrivilegeLevel.not_lt_self _)
    · exact .inl ⟨hsret, not_user_cases hbefore⟩
    · exact .inr ⟨hmret, hmachine⟩
  sret_leaves_machine := by
    intro hsret
    rw [h.executes_iff hdecode] at hsret
    rcases h.privilege_cases with ⟨-, hne⟩ | ⟨-, -, hafter⟩ | ⟨hmret, -⟩
    · exact absurd hsret hne
    · exact hafter
    · rw [hmret] at hsret
      cases hsret

theorem transition_halted (cpu : Cpu) : Transition cpu cpu.numbered cpu.openRecord where
  level := fun level _ => level_cases level
  observed := ⟨rfl, rfl⟩
  raised := fun hraised => absurd hraised (PrivilegeLevel.not_lt_self _)
  trap_never_lowers := fun hne => absurd rfl hne
  machine_trap := fun hne => absurd rfl hne
  lowered := fun hlowered => absurd hlowered (PrivilegeLevel.not_lt_self _)
  sret_leaves_machine := fun hsret => absurd hsret.1 Bool.false_ne_true

theorem step_transition (cpu : Cpu) (haligned : AlignedCsrs cpu.csrs) :
    Transition cpu cpu.step.1 cpu.step.2 := by
  have hrecorded := cpu.step_recorded
  revert hrecorded
  refine cpu.stepped_cases
    (P := fun s => cpu.Recorded s → Transition cpu s.cpu s.record) ?_ ?_ ?_
  · exact fun _ _ => cpu.transition_halted
  · exact fun _ _ _ heffect hrecorded => heffect.transition hrecorded haligned
  · exact fun _ _ _ _ _ hdecode hcompletes _ => hcompletes.transition hdecode

theorem privilege_transitions (bus : Bus) (config : CpuConfig) (entry : Address) (n : Nat) :
    let cpu := steps.state n (reset bus config entry)
    Transition cpu cpu.step.1 cpu.step.2 :=
  step_transition _ (steps_alignedCsrs (reset bus config entry) AlignedCsrs.reset n)

end Cpu

end Northstar64
