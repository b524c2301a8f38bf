import Northstar64.HartRefinement
import Northstar64.StepVerdict

namespace Northstar64

def CpuConfig.halts (config : CpuConfig) (event : Event) : Bool :=
  match event.completion with
  | .retired word => config.haltOnWfi && decide (Instruction.decoded word = some .wfi)
  | .trapped exception =>
    decide (config.trapPolicy = .halt) ||
      (config.haltOnEbreak && decide (exception.cause = .breakpoint))

namespace Cpu
variable {cpu : Cpu}

section Halting
variable (running : cpu.halted = false)
include running

theorem halted_raiseTrap (f : Scratch) (cause : TrapCause) (value : BitVec 64) (detail : Text) :
    ((cpu.prepared f).raiseTrap cause value detail).cpu.halted =
      decide (cpu.config.trapPolicy = .halt) := by
  have hprepared : (cpu.prepared f).cpu.config = cpu.config := rfl
  unfold StepState.raiseTrap
  dsimp only
  rw [hprepared]
  cases cpu.config.trapPolicy with
  | halt => rfl
  | vector => exact running

theorem halted_executeEbreak (f : Scratch) :
    (cpu.prepared f).executeEbreak.retire.cpu.halted =
      (decide (cpu.config.trapPolicy = .halt) || cpu.config.haltOnEbreak) := by
  have hprepared : ((cpu.prepared f).raiseTrap .breakpoint 0#64
      (text "EBREAK requested a debugger trap")).cpu.config = cpu.config :=
    (recorded_raiseTrap f _ _ _).config
  unfold StepState.executeEbreak
  dsimp only
  rw [hprepared]
  split_ifs with hbreak
  · rw [retire_haltAtBreakpoint, ((Bool.and_eq_true _ _).mp hbreak).1, Bool.or_true]
    rfl
  · rw [retire_raiseTrap, halted_raiseTrap running]
    cases hpolicy : cpu.config.trapPolicy with
    | halt => rfl
    | vector => simpa [hpolicy] using hbreak

theorem halted_executeWfi (f : Scratch) :
    (cpu.prepared f).executeWfi.retire.cpu.halted = cpu.config.haltOnWfi := by
  have hprepared : (cpu.prepared f).cpu.config = cpu.config := rfl
  unfold StepState.executeWfi
  rw [hprepared]
  split_ifs with hhalts
  · rw [StepState.retire_complete rfl]
    exact hhalts.symm
  · rw [StepState.retire_complete rfl]
    exact running.trans (Bool.eq_false_iff.mpr hhalts).symm

end Halting

theorem halted_ebreak {instruction : DecodedInstruction} (issued : cpu.Issues instruction)
    (operation : instruction.operation = .ebreak) :
    cpu.step.1.halted = (decide (cpu.config.trapPolicy = .halt) || cpu.config.haltOnEbreak) := by
  have hstepped := congrArg (fun s => s.cpu.halted) issued.stepped
  have hrunning := issued.running
  obtain ⟨_, raw, rd, rs1, rs2, immediate, csr⟩ := instruction
  obtain rfl := operation
  exact hstepped.trans (halted_executeEbreak hrunning
    { cpu.dataScratch ⟨.ebreak, raw, rd, rs1, rs2, immediate, csr⟩ with
      pc := cpu.pc + kInstructionBytes })

theorem halted_wfi {instruction : DecodedInstruction} (issued : cpu.Issues instruction)
    (operation : instruction.operation = .wfi) :
    cpu.step.1.halted = cpu.config.haltOnWfi := by
  have hstepped := congrArg (fun s => s.cpu.halted) issued.stepped
  have hrunning := issued.running
  obtain ⟨_, raw, rd, rs1, rs2, immediate, csr⟩ := instruction
  obtain rfl := operation
  exact hstepped.trans (halted_executeWfi hrunning
    { cpu.dataScratch ⟨.wfi, raw, rd, rs1, rs2, immediate, csr⟩ with
      pc := cpu.pc + kInstructionBytes })

theorem TrapReason.ebreak {cause : TrapCause} {value : BitVec 64} (h : cpu.TrapReason cause value)
    (hcause : cause = .breakpoint) :
    ∃ instruction, cpu.Issues instruction ∧ instruction.operation = .ebreak := by
  cases h with
  | breakpoint instruction issued operation => exact ⟨instruction, issued, operation⟩
  | environmentCall =>
    cases hprivilege : cpu.privilege <;> rw [hprivilege] at hcause <;> cases hcause
  | unaligned access => cases hkind : access.kind <;> rw [hkind] at hcause <;> cases hcause
  | pageFault access => cases hkind : access.kind <;> rw [hkind] at hcause <;> cases hcause
  | accessFault access => cases hkind : access.kind <;> rw [hkind] at hcause <;> cases hcause
  | misalignedPc => cases hcause
  | misalignedTarget => cases hcause
  | illegal => cases hcause

theorem Completes.running {f : Scratch} {instruction : DecodedInstruction} {s : StepState}
    (h : cpu.Completes f instruction s) (running : cpu.halted = false)
    (hoperation : instruction.operation ≠ .wfi) : s.cpu.halted = false := by
  cases h with
  | advance => rwa [StepState.writeRegister_cpu]
  | store => exact running
  | csrRead => rwa [StepState.writeRegister_cpu]
  | csrWrite => rwa [StepState.writeRegister_cpu]
  | sret => exact running
  | mret => exact running
  | wfi target operation configured => exact absurd operation hoperation

theorem ofWord_wfi_iff (word : BitVec 32) (operation : Operation) :
    Instruction.ofWord word operation = some .wfi ↔ operation = .wfi := by
  constructor
  · intro h
    cases hform : integerForm word operation with
    | some integer => cases (ofWord_integer hform).symm.trans h
    | none =>
      cases operation
      case wfi => rfl
      all_goals cases h
  · rintro rfl
    rfl

theorem decoded_wfi_iff {word : BitVec 32} {instruction : DecodedInstruction}
    (hdecode : decode word = .ok instruction) :
    Instruction.decoded word = some .wfi ↔ instruction.operation = .wfi := by
  rw [Instruction.decoded, hdecode, ← ofWord_wfi_iff word]
  rfl

theorem step_halts (running : cpu.halted = false) :
    cpu.step.1.halted = cpu.config.halts cpu.step.2.event := by
  cases htrap : cpu.step.2.trap with
  | some trap =>
    have hevent : cpu.config.halts cpu.step.2.event =
        (decide (cpu.config.trapPolicy = .halt) ||
          (cpu.config.haltOnEbreak && decide (trap.cause = .breakpoint))) := by
      rw [StepRecord.event, htrap]
      rfl
    rw [hevent]
    by_cases hcause : trap.cause = .breakpoint
    · obtain ⟨instruction, issued, operation⟩ := (cpu.trap_reason htrap).ebreak hcause
      rw [halted_ebreak issued operation, decide_eq_true hcause, Bool.and_true]
    · rw [decide_eq_false hcause, Bool.and_false, Bool.or_false]
      have houtcome := cpu.step_outcome running
      have hstepped : cpu.stepped.record.trap = some trap := htrap
      change cpu.stepped.cpu.halted = _
      generalize cpu.stepped = s at houtcome hstepped
      cases houtcome with
      | trap f cause value detail => exact halted_raiseTrap running f cause value detail
      | breakpoint f detail =>
        obtain rfl := Option.some.inj hstepped
        exact absurd rfl hcause
      | retired f instruction s fetched decoded completes =>
        have hnone := completes.trap_eq_none
        rw [StepState.retire_complete hnone] at hstepped
        cases hnone.symm.trans hstepped
  | none =>
    rcases (cpu.step_outcome running).cases with
      ⟨trap, heffect⟩ | ⟨f, instruction, t, hfetch, hdecode, hcompletes, heq⟩
    · cases htrap.symm.trans heffect.recorded
    · have issued : cpu.Issues instruction := ⟨running, f.instruction, hfetch, hdecode⟩
      have hword : cpu.step.2.instruction = f.instruction :=
        (congrArg (fun s => s.record.instruction) heq).trans hcompletes.instruction_eq
      have hevent : cpu.config.halts cpu.step.2.event =
          (cpu.config.haltOnWfi && decide (Instruction.decoded f.instruction = some .wfi)) := by
        rw [StepRecord.event, htrap, hword]
        rfl
      rw [hevent, decide_eq_decide.mpr (decoded_wfi_iff hdecode)]
      by_cases hwfi : instruction.operation = .wfi
      · rw [halted_wfi issued hwfi, decide_eq_true hwfi, Bool.and_true]
      · rw [decide_eq_false hwfi, Bool.and_false]
        have hhalted : cpu.step.1.halted = t.cpu.halted := congrArg (fun s => s.cpu.halted) heq
        exact hhalted.trans (hcompletes.running running hwfi)

theorem run_upTo (running : cpu.halted = false) (n : Nat) :
    (runs.records n cpu).map StepRecord.event =
      Execution.System.upTo cpu.config.halts (Hart.system.records n cpu.hart) := by
  refine Execution.System.simulates_upTo
    (J := fun s hart => s.Represents hart ∧ s.config = cpu.config) ?_ ?_
    ⟨cpu.represents_self, rfl⟩ running n
  · rintro s hart hrunning ⟨hrepresents, hconfig⟩
    obtain ⟨hsystem, hnext, hrecord⟩ := represents_step s hart hrunning hrepresents
    exact ⟨hsystem, ⟨hnext, s.step_recorded.config.trans hconfig⟩, hrecord⟩
  · rintro s hart hrunning ⟨-, hconfig⟩
    rw [← hconfig]
    exact step_halts hrunning

theorem runs_represents (cpu : Cpu) (n : Nat) :
    (runs.state n cpu).Represents (Hart.system.state (runs.records n cpu).length cpu.hart) :=
  (Execution.System.simulates represents_step cpu.represents_self n).1

theorem run_refines_hart (cpu : Cpu) (maximumSteps : BitVec 64) :
    let outcome := cpu.run maximumSteps []
    outcome.trace.map StepRecord.event =
        (if cpu.halted then [] else Execution.System.upTo cpu.config.halts
          (Hart.system.records maximumSteps.toNat cpu.hart)) ∧
      outcome.cpu.Represents (Hart.system.state outcome.trace.length cpu.hart) := by
  intro outcome
  have htrace : outcome.trace = runs.records maximumSteps.toNat cpu := run_trace cpu maximumSteps []
  have hcpu : outcome.cpu = runs.state maximumSteps.toNat cpu := run_cpu cpu maximumSteps []
  rw [htrace, hcpu]
  refine ⟨?_, cpu.runs_represents maximumSteps.toNat⟩
  cases running : cpu.halted with
  | true =>
    rw [runs.records_stopped running]
    rfl
  | false => exact run_upTo running maximumSteps.toNat

end Cpu

end Northstar64
