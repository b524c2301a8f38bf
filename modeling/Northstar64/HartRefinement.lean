import Northstar64.HartStep
import Northstar64.Replay

namespace Northstar64

namespace Cpu
variable {cpu : Cpu}

-- A halted machine may keep the faulting program counter where the hart has taken the vector.
structure Represents (cpu : Cpu) (hart : Hart) : Prop where
  state : cpu.hart = { hart with pc := cpu.pc }
  pc : cpu.halted = false → cpu.pc = hart.pc

theorem represents_self (cpu : Cpu) : cpu.Represents cpu.hart := ⟨rfl, fun _ => rfl⟩

theorem Represents.hart_eq {hart : Hart} (h : cpu.Represents hart) (running : cpu.halted = false) :
    hart = cpu.hart := by
  rw [h.state, h.pc running]

def Completed (cpu : Cpu) (s : StepState) : Except Exception (BitVec 32 × Hart) → Prop
  | .ok (word, next) =>
    s.record.trap = none ∧ s.record.instruction = word ∧ s.cpu.hart = next.retired
  | .error exception =>
    (∃ trap, s.record.trap = some trap ∧ (⟨trap.cause, trap.value⟩ : Exception) = exception) ∧
      s.cpu.Represents (cpu.hart.ticked.trap exception)

theorem completed_trap {s : StepState} {trap : Trap} (h : cpu.TrapEffect s trap) :
    cpu.Completed s (.error ⟨trap.cause, trap.value⟩) := by
  have hentry : cpu.csrs.tickCycle.enterTrap trap cpu.privilege =
      cpu.csrs.tickCycle.enterTrap ⟨trap.cause, cpu.pc, trap.value, []⟩ cpu.privilege := by
    rw [← h.pc]
    rfl
  refine ⟨⟨trap, h.recorded, rfl⟩, ⟨Hart.ext ?_ rfl ?_ ?_ ?_, fun hrunning => ?_⟩⟩
  · exact congrArg RegisterFile.values h.registers
  · exact h.privilege.trans (congrArg (fun entry => entry.2.target) hentry)
  · exact h.csrs.trans (congrArg Prod.fst hentry)
  · exact congrArg Bus.flat h.bus
  · rcases h.target with ⟨hhalted, -⟩ | ⟨-, hpc⟩
    · rw [hrunning] at hhalted
      cases hhalted
    · exact hpc.trans (congrArg (fun entry => entry.2.vector) hentry)

theorem Yields.completed {s : StepState} {word : BitVec 32} {result : Except Exception Hart}
    (h : cpu.Yields word s result) :
    cpu.Completed s.retire (result.map (fun next => (word, next))) := by
  cases h with
  | done s next untrapped instruction reached =>
    rw [StepState.retire_complete untrapped]
    exact ⟨untrapped, instruction, congrArg Hart.retired reached⟩
  | trapped f cause value detail =>
    rw [retire_raiseTrap]
    exact completed_trap (cpu.trapEffect_raiseTrap f cause value detail)
  | broken f detail =>
    rw [retire_haltAtBreakpoint]
    exact completed_trap ((cpu.trapEffect_raiseTrap f _ _ detail).haltAtBreakpoint rfl)

theorem fetch_hart (cpu : Cpu) :
    (∃ g, cpu.hart.ticked.fetch = .ok g.instruction ∧
      cpu.start.fetch = (some g.instruction, cpu.prepared g)) ∨
    (∃ cause detail g, cpu.hart.ticked.fetch = .error ⟨cause, cpu.pc⟩ ∧
      cpu.start.fetch = (none, (cpu.prepared g).raiseTrap cause cpu.pc detail)) := by
  have hpc : cpu.initialScratch.pc = cpu.pc := rfl
  have hwidth : kInstructionBytes.toNat = 4 := rfl
  unfold StepState.fetch
  rw [start_eq_prepared, prepared_pc, hpc]
  by_cases haligned : cpu.pc.toNat % 4 = 0
  · rw [if_neg (mt (isMisaligned_iff cpu.pc).mp (not_not_intro haligned))]
    rcases cpu.translate_hart cpu.initialScratch cpu.pc .instructionFetch with
      ⟨physical, hphysical, htranslate⟩ | ⟨cause, detail, hfault, htranslate⟩
    · have hfetch := cpu.hart.ticked.fetch_translated haligned hphysical
      have hmemory : cpu.hart.ticked.memory.load physical 4 = _ :=
        cpu.bus.flat_load physical 4 .instructionFetch
      rw [hfetch, hmemory, htranslate]
      simp only [prepared_bus, Bus.read_snd, prepared_setBus, hwidth]
      cases (cpu.bus.read physical 4 .instructionFetch).1 with
      | ok value =>
        exact .inl ⟨{ cpu.initialScratch.setTranslation .instructionFetch ⟨cpu.pc, physical⟩ with
          instruction := value.setWidth 32 }, rfl, rfl⟩
      | error fault => exact .inr ⟨_, _, _, rfl, rfl⟩
    · have hfetch := cpu.hart.ticked.fetch_fault haligned hfault
      rw [htranslate]
      exact .inr ⟨_, _, _, hfetch, rfl⟩
  · rw [if_pos ((isMisaligned_iff cpu.pc).mpr haligned)]
    exact .inr ⟨_, _, cpu.initialScratch, if_pos haligned, rfl⟩

theorem completed_word (cpu : Cpu) (f : Scratch) :
    cpu.Completed ((cpu.prepared f).decodeAndExecute f.instruction)
      ((Exception.unless ⟨.illegalInstruction, f.instruction.setWidth 64⟩
        (Instruction.decoded f.instruction)).bind (fun instruction =>
          (cpu.hart.ticked.execute f.instruction instruction).map
            (fun next => (f.instruction, next)))) := by
  unfold StepState.decodeAndExecute Instruction.decoded
  cases hdecode : decode f.instruction with
  | error error =>
    dsimp only
    rw [prepared_setAssembly]
    exact completed_trap (cpu.trapEffect_raiseTrap _ _ _ _)
  | ok decoded =>
    obtain ⟨instruction, hinstruction⟩ := ofWord_isSome f.instruction decoded.operation
    have hword : (Except.ok decoded : DecodeResult).toOption.bind (fun decoded =>
        Instruction.ofWord f.instruction decoded.operation) = some instruction := hinstruction
    dsimp only
    rw [hword, prepared_setAssembly]
    have hyields : cpu.Yields f.instruction
        ((cpu.prepared { f with assembly := disassemble decoded }).execute
          (decodedAs f.instruction decoded.operation))
        (cpu.hart.ticked.execute f.instruction instruction) := yields_execute rfl hinstruction
    rw [← decode_eq hdecode] at hyields
    exact hyields.completed

theorem completed_step (running : cpu.halted = false) :
    cpu.Completed cpu.stepped cpu.hart.ticked.attempt := by
  rw [stepped, step, if_neg (by rw [running]; exact Bool.false_ne_true), Hart.attempt]
  rcases cpu.fetch_hart with ⟨g, hfetch, hstart⟩ | ⟨cause, detail, g, hfetch, hstart⟩
  · rw [hfetch, hstart]
    exact cpu.completed_word g
  · rw [hfetch, hstart]
    exact completed_trap (cpu.trapEffect_raiseTrap g cause cpu.pc detail)

theorem step_hart (running : cpu.halted = false) :
    cpu.step.1.Represents cpu.hart.step.1 ∧ cpu.hart.step.2 = cpu.step.2.event := by
  have hcompleted := completed_step running
  have hpc : cpu.step.2.pc = cpu.pc := cpu.step_recorded.pc
  have hprivilege : cpu.step.2.privilege = cpu.privilege := cpu.step_recorded.privilege
  rw [Hart.step, StepRecord.event, hpc, hprivilege]
  cases hattempt : cpu.hart.ticked.attempt with
  | ok result =>
    rw [hattempt] at hcompleted
    obtain ⟨htrap, hword, hhart⟩ := hcompleted
    have hstep : cpu.step.1.hart = result.2.retired := hhart
    have hnone : cpu.step.2.trap = none := htrap
    have hinstruction : cpu.step.2.instruction = result.1 := hword
    refine ⟨⟨?_, fun _ => ?_⟩, ?_⟩
    · rw [hstep]
      exact Hart.ext rfl (congrArg Hart.pc hstep).symm rfl rfl rfl
    · exact congrArg Hart.pc hstep
    · rw [hnone, hinstruction]
      rfl
  | error exception =>
    rw [hattempt] at hcompleted
    obtain ⟨⟨trap, htrap, rfl⟩, hrepresents⟩ := hcompleted
    have hsome : cpu.step.2.trap = some trap := htrap
    refine ⟨hrepresents, ?_⟩
    rw [hsome]
    rfl

theorem represents_step (s : Cpu) (hart : Hart) (running : runs.stopped s = false)
    (h : s.Represents hart) : Hart.system.stopped hart = false ∧
      (runs.step s).1.Represents (Hart.system.step hart).1 ∧
      (Hart.system.step hart).2 = (runs.step s).2.event := by
  rw [h.hart_eq running]
  exact ⟨rfl, step_hart running⟩

end Cpu

end Northstar64
