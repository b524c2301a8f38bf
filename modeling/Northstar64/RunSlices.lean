import Northstar64.Replay

namespace Northstar64

namespace Cpu

def runSlices (cpu : Cpu) (trace : List StepRecord) : List (BitVec 64) → Cpu × List StepRecord
  | [] => (cpu, trace)
  | limit :: limits =>
    let outcome := cpu.run limit trace
    outcome.cpu.runSlices outcome.trace limits

structure Composes (first second whole : RunOutcome) : Prop where
  trace : second.trace = whole.trace
  cpu : second.cpu = whole.cpu
  attemptedSteps : first.result.attemptedSteps.toNat + second.result.attemptedSteps.toNat =
    whole.result.attemptedSteps.toNat
  reason : second.result.reason = whole.result.reason
  retiredInstructions : second.result.retiredInstructions = whole.result.retiredInstructions
  detail : second.result.detail = whole.result.detail
  terminalTrap : second.result.terminalTrap = whole.result.terminalTrap

structure Numbered (cpu : Cpu) (trace after : List StepRecord) : Prop where
  kept : trace <+: after
  sequence : ∀ i record, after[trace.length + i]? = some record →
    record.sequence = cpu.sequence + BitVec.ofNat 64 i

variable (cpu : Cpu) (trace : List StepRecord)

theorem run_add_cpu {a b : BitVec 64} (h : a.toNat + b.toNat < 2 ^ 64) (later : List StepRecord) :
    ((cpu.run a trace).cpu.run b later).cpu = (cpu.run (a + b) trace).cpu := by
  rw [run_cpu, run_cpu, run_cpu, BitVec.toNat_add_of_lt h, runs.state_add]

theorem run_composes {a b : BitVec 64} (h : a.toNat + b.toNat < 2 ^ 64) :
    Composes (cpu.run a trace) ((cpu.run a trace).cpu.run b (cpu.run a trace).trace)
      (cpu.run (a + b) trace) := by
  have hcpu := cpu.run_add_cpu trace h (cpu.run a trace).trace
  have hresult := (cpu.run a trace).cpu.run_result b (cpu.run a trace).trace
  rw [hcpu] at hresult
  have hrecords := runs.records_add a.toNat b.toNat cpu
  refine ⟨?_, hcpu, ?_, ?_, ?_, ?_, ?_⟩
  · rw [run_trace, run_trace, run_trace, run_cpu, BitVec.toNat_add_of_lt h, hrecords,
      List.append_assoc]
  · rw [run_attemptedSteps, run_attemptedSteps, run_attemptedSteps, run_cpu,
      BitVec.toNat_add_of_lt h, hrecords, List.length_append]
  all_goals
    rw [hresult]
    rfl

theorem runs_sequence (n : Nat) {i : Nat} {record : StepRecord}
    (h : (runs.records n cpu)[i]? = some record) :
    record.sequence = cpu.sequence + BitVec.ofNat 64 i := by
  induction n generalizing cpu i with
  | zero => simp at h
  | succ n ih =>
    have hrecorded := cpu.step_recorded
    cases hhalted : cpu.halted with
    | true =>
      have hstopped : runs.stopped cpu = true := hhalted
      simp [runs.records_stopped hstopped] at h
    | false =>
      have hrunning : runs.stopped cpu = false := hhalted
      rw [runs.records_succ hrunning] at h
      cases i with
      | zero =>
        obtain rfl : cpu.step.2 = record := Option.some.inj h
        exact hrecorded.sequence.trans (BitVec.add_zero _).symm
      | succ i =>
        have hlater := ih cpu.step.1 h
        have hnext : cpu.step.1.sequence = cpu.sequence + 1#64 := hrecorded.nextSequence
        rw [hlater, hnext, BitVec.add_assoc, Nat.add_comm i, BitVec.ofNat_add]

theorem runSlices_eq (limits : List (BitVec 64)) :
    cpu.runSlices trace limits =
      (runs.state (limits.map BitVec.toNat).sum cpu,
        trace ++ runs.records (limits.map BitVec.toNat).sum cpu) := by
  induction limits generalizing cpu trace with
  | nil => simp [runSlices]
  | cons limit limits ih =>
    rw [runSlices, ih, run_cpu, run_trace, List.map_cons, List.sum_cons, runs.state_add,
      runs.records_add, List.append_assoc]

theorem runs_compose (a b : BitVec 64) (h : a.toNat + b.toNat < 2 ^ 64) :
    Composes (cpu.run a trace) ((cpu.run a trace).cpu.run b (cpu.run a trace).trace)
      (cpu.run (a + b) trace) ∧
    Numbered cpu trace (cpu.run (a + b) trace).trace ∧
    ∀ limits : List (BitVec 64), (limits.map BitVec.toNat).sum = (a + b).toNat →
      cpu.runSlices trace limits = ((cpu.run (a + b) trace).cpu, (cpu.run (a + b) trace).trace) := by
  refine ⟨cpu.run_composes trace h, ⟨?_, fun i record hrecord => ?_⟩, fun limits hlimits => ?_⟩
  · rw [run_trace]
    exact List.prefix_append _ _
  · rw [run_trace, List.getElem?_append_right (by omega), Nat.add_sub_cancel_left] at hrecord
    exact cpu.runs_sequence _ hrecord
  · rw [runSlices_eq, hlimits, run_cpu, run_trace]

theorem runs_compose_halting :
    Composes ((reset .empty ⟨.halt, true, true⟩ 0#64).run 1#64 [])
      (((reset .empty ⟨.halt, true, true⟩ 0#64).run 1#64 []).cpu.run 2#64
        ((reset .empty ⟨.halt, true, true⟩ 0#64).run 1#64 []).trace)
      ((reset .empty ⟨.halt, true, true⟩ 0#64).run 3#64 []) ∧
    ((reset .empty ⟨.halt, true, true⟩ 0#64).run 1#64 []).cpu.halted = true :=
  ⟨(runs_compose (reset .empty ⟨.halt, true, true⟩ 0#64) [] 1#64 2#64 (by decide)).1, by decide⟩

end Cpu

end Northstar64
