import Northstar64.CpuStep

namespace Northstar64

namespace Cpu

theorem runLoop_eq {maximumSteps attempted : BitVec 64} {remaining : Nat}
    (h : attempted.toNat + remaining = maximumSteps.toNat) (cpu : Cpu) (trace : List StepRecord) :
    runLoop maximumSteps remaining cpu attempted trace =
      (runs.state remaining cpu,
        attempted + BitVec.ofNat 64 (runs.records remaining cpu).length,
        trace ++ runs.records remaining cpu) := by
  induction remaining generalizing cpu attempted trace with
  | zero => simp [runLoop]
  | succ remaining ih =>
    have hmaximum := maximumSteps.isLt
    have hlt : attempted < maximumSteps := by
      rw [BitVec.lt_def]
      omega
    cases hhalted : cpu.halted with
    | true =>
      have hstopped : runs.stopped cpu = true := hhalted
      simp [runLoop, hhalted, runs.state_stopped hstopped, runs.records_stopped hstopped]
    | false =>
      have hrunning : runs.stopped cpu = false := hhalted
      have hnext : (attempted + 1#64).toNat + remaining = maximumSteps.toNat := by
        rw [BitVec.toNat_add, BitVec.toNat_ofNat]
        omega
      rw [runLoop, hhalted, runs.state_succ hrunning, runs.records_succ hrunning]
      simp only [Bool.not_false, hlt, decide_true, Bool.and_self, if_true]
      rw [ih hnext, List.length_cons, List.append_assoc, BitVec.add_assoc, ← BitVec.ofNat_add,
        Nat.add_comm 1]
      rfl

variable (cpu : Cpu) (maximumSteps : BitVec 64) (trace : List StepRecord)

theorem runLoop_zero :
    runLoop maximumSteps maximumSteps.toNat cpu 0#64 trace =
      (runs.state maximumSteps.toNat cpu,
        BitVec.ofNat 64 (runs.records maximumSteps.toNat cpu).length,
        trace ++ runs.records maximumSteps.toNat cpu) := by
  rw [runLoop_eq (by simp), BitVec.zero_add]

theorem run_result :
    (cpu.run maximumSteps trace).result =
      let final := (cpu.run maximumSteps trace).cpu
      ⟨if final.halted then .halted else .stepLimit,
        (cpu.run maximumSteps trace).result.attemptedSteps, final.csrs.retiredCount,
        if final.halted then final.haltDetail else text "maximum step count reached",
        final.terminalTrap⟩ := rfl

theorem run_cpu : (cpu.run maximumSteps trace).cpu = runs.state maximumSteps.toNat cpu := by
  rw [run, runLoop_zero]
  rfl

theorem run_trace :
    (cpu.run maximumSteps trace).trace = trace ++ runs.records maximumSteps.toNat cpu := by
  rw [run, runLoop_zero]
  rfl

theorem run_attemptedSteps :
    (cpu.run maximumSteps trace).result.attemptedSteps.toNat =
      (runs.records maximumSteps.toNat cpu).length := by
  have hle := runs.records_length_le maximumSteps.toNat cpu
  have hlt := maximumSteps.isLt
  have hcount : (cpu.run maximumSteps trace).result.attemptedSteps =
      BitVec.ofNat 64 (runs.records maximumSteps.toNat cpu).length := by
    rw [run, runLoop_zero]
    rfl
  rw [hcount, BitVec.toNat_ofNat, Nat.mod_eq_of_lt (by omega)]

theorem run_retiredInstructions :
    (cpu.run maximumSteps trace).result.retiredInstructions =
      (runs.state maximumSteps.toNat cpu).csrs.minstret := by
  rw [run, runLoop_zero]
  rfl

end Cpu

@[ext] structure ReplayState where
  registers : RegisterFile
  memory : PhysicalMemory
  pc : Address
  privilege : PrivilegeLevel

namespace ReplayState

def registersAfter (registers : RegisterFile) : Option RegisterWrite → RegisterFile
  | none => registers
  | some write => registers.set (write.index.setWidth 5) write.value

def memoryAfter (memory : PhysicalMemory) : Option MemoryWrite → PhysicalMemory
  | none => memory
  | some write => memory.store write.physicalAddress write.width write.value

def apply (state : ReplayState) (record : StepRecord) : ReplayState where
  registers := registersAfter state.registers record.registerWrite
  memory := memoryAfter state.memory record.memoryWrite
  pc := record.nextPc
  privilege := record.nextPrivilege

end ReplayState

namespace Cpu

def replayState (cpu : Cpu) : ReplayState :=
  ⟨cpu.registers, cpu.bus.view, cpu.pc, cpu.privilege⟩

structure Replays (cpu : Cpu) (s : StepState) : Prop where
  registers : s.cpu.registers = ReplayState.registersAfter cpu.registers s.record.registerWrite
  memory : s.cpu.bus.view = ReplayState.memoryAfter cpu.bus.view s.record.memoryWrite

variable {cpu : Cpu} {s : StepState}

theorem registersAfter_written (registers : RegisterFile) (index : RegisterIndex)
    (value : BitVec 64) :
    ReplayState.registersAfter registers
        (if index = 0#5 then none else some ⟨index.setWidth 8, value⟩) =
      registers.set index value := by
  by_cases hindex : index = 0#5
  · simp [hindex, ReplayState.registersAfter, RegisterFile.set]
  · have hround : (index.setWidth 8).setWidth 5 = index := by
      apply BitVec.eq_of_toNat_eq
      have := index.isLt
      simp only [BitVec.toNat_setWidth]
      omega
    simp [hindex, ReplayState.registersAfter, hround]

theorem Replays.of_unwritten (hregisters : s.cpu.registers = cpu.registers)
    (hbus : s.cpu.bus = cpu.bus) (hregister : s.record.registerWrite = none)
    (hmemory : s.record.memoryWrite = none) : cpu.Replays s := by
  refine ⟨?_, ?_⟩
  · rw [hregister, hregisters]
    rfl
  · rw [hmemory, hbus]
    rfl

theorem TrapEffect.replays {trap : Trap} (h : cpu.TrapEffect s trap) : cpu.Replays s :=
  .of_unwritten h.registers h.bus h.registerWrite h.memoryWrite

theorem Completes.replays {f : Scratch} {instruction : DecodedInstruction}
    (h : cpu.Completes f instruction s) : cpu.Replays s.finished := by
  cases h with
  | advance index value =>
    simp only [StepState.finished, StepState.writeRegister_cpu, StepState.writeRegister_record]
    exact ⟨(registersAfter_written cpu.registers index value).symm, rfl⟩
  | store address width write bus target other effect =>
    have hresult := congrArg Prod.snd effect.written
    have hview := Bus.write_view hresult
    rw [effect.written] at hview
    refine ⟨rfl, ?_⟩
    rw [← effect.width_eq] at hview
    exact hview
  | csrRead oldValue =>
    simp only [StepState.finished, StepState.writeRegister_cpu, StepState.writeRegister_record]
    exact ⟨(registersAfter_written cpu.registers instruction.rd oldValue).symm, rfl⟩
  | csrWrite oldValue csrs =>
    simp only [StepState.finished, StepState.writeRegister_cpu, StepState.writeRegister_record]
    exact ⟨(registersAfter_written cpu.registers instruction.rd oldValue).symm, rfl⟩
  | sret => exact .of_unwritten (by simp) (by simp) rfl rfl
  | mret => exact .of_unwritten (by simp) (by simp) rfl rfl
  | wfi => exact .of_unwritten (by simp) (by simp) rfl rfl

theorem stepped_replays (cpu : Cpu) : cpu.Replays cpu.stepped := by
  refine cpu.stepped_cases ?_ ?_ ?_
  · exact fun _ => ⟨rfl, rfl⟩
  · exact fun _ _ _ heffect => heffect.replays
  · exact fun _ _ _ _ _ _ hcompletes => hcompletes.replays

theorem step_replayState (cpu : Cpu) :
    cpu.step.1.replayState = cpu.replayState.apply cpu.step.2 := by
  have hrecorded := cpu.step_recorded
  have hreplays := cpu.stepped_replays
  exact ReplayState.ext hreplays.registers hreplays.memory hrecorded.nextPc.symm
    hrecorded.nextPrivilege.symm

structure Follows (earlier later : StepRecord) : Prop where
  sequence : later.sequence = earlier.sequence + 1#64
  pc : later.pc = earlier.nextPc
  privilege : later.privilege = earlier.nextPrivilege
  running : earlier.halted = false

theorem step_follows (cpu : Cpu) (hrunning : cpu.step.1.halted = false) :
    Follows cpu.step.2 cpu.step.1.step.2 := by
  have hfirst := cpu.step_recorded
  have hsecond := cpu.step.1.step_recorded
  refine ⟨?_, ?_, ?_, ?_⟩
  · exact (hsecond.sequence.trans hfirst.nextSequence).trans
      (congrArg (fun sequence => sequence + 1#64) hfirst.sequence.symm)
  · exact hsecond.pc.trans hfirst.nextPc.symm
  · exact hsecond.privilege.trans hfirst.nextPrivilege.symm
  · exact hfirst.halted.trans hrunning

theorem trace_is_complete_replay_log (cpu : Cpu) (maximumSteps : BitVec 64)
    (trace : List StepRecord) :
    ∃ records, (cpu.run maximumSteps trace).trace = trace ++ records ∧
      (∀ record, records.head? = some record → record.sequence = cpu.sequence ∧
        record.pc = cpu.pc ∧ record.privilege = cpu.privilege) ∧
      records.IsChain Follows ∧
      records.foldl ReplayState.apply cpu.replayState =
        (cpu.run maximumSteps trace).cpu.replayState := by
  refine ⟨runs.records maximumSteps.toNat cpu, cpu.run_trace maximumSteps trace, ?_, ?_, ?_⟩
  · intro record hrecord
    rw [List.head?_eq_getElem?] at hrecord
    obtain ⟨-, -, rfl⟩ := runs.records_getElem? hrecord
    exact ⟨cpu.step_recorded.sequence, cpu.step_recorded.pc, cpu.step_recorded.privilege⟩
  · exact runs.records_isChain (fun s _ hnext => s.step_follows hnext) _ _
  · rw [run_cpu]
    exact (runs.replay replayState ReplayState.apply (fun s _ => s.step_replayState) _ _).symm

end Cpu

end Northstar64
