import Northstar64.StepVerdict
import Northstar64.Replay

namespace Northstar64

namespace Cpu

structure SameTrap (halting vectoring : Cpu × StepRecord) : Prop where
  record : vectoring.2 = { halting.2 with
    nextPc := vectoring.2.nextPc, halted := vectoring.2.halted }
  registers : vectoring.1.registers = halting.1.registers
  bus : vectoring.1.bus = halting.1.bus
  privilege : vectoring.1.privilege = halting.1.privilege
  csrs : vectoring.1.csrs = halting.1.csrs

def UnderBoth (halting vectoring : Cpu) : Prop :=
  ∃ cpu : Cpu, halting = cpu.withPolicy .halt ∧ vectoring = cpu.withPolicy .vector

structure TrapsUnderBoth (halting vectoring : Cpu) : Prop where
  trapped : ∃ trap, halting.step.2.trap = some trap
  same : SameTrap halting.step vectoring.step
  halts : halting.step.1.halted = true

def PolicyUnseen (system : Execution.System Cpu StepRecord) (cpu : Cpu) (n : Nat) : Prop :=
  system.InStep system UnderBoth (fun record => record.trap = none) n (cpu.withPolicy .halt)
    (cpu.withPolicy .vector)

def TrapsAt (system : Execution.System Cpu StepRecord) (cpu : Cpu) (k : Nat) : Prop :=
  TrapsUnderBoth (system.state k (cpu.withPolicy .halt)) (system.state k (cpu.withPolicy .vector))

structure SameOutcome (halting vectoring : RunOutcome) : Prop where
  trace : vectoring.trace = halting.trace
  cpu : UnderBoth halting.cpu vectoring.cpu
  result : vectoring.result = halting.result

structure PartedAt (cpu : Cpu) (trace : List StepRecord) (k : Nat)
    (halting vectoring : RunOutcome) : Prop where
  halted : halting.cpu = (runs.state k (cpu.withPolicy .halt)).step.1
  haltedTrace : halting.trace = trace ++ runs.records k (cpu.withPolicy .halt) ++
    [(runs.state k (cpu.withPolicy .halt)).step.2]
  vectoredTrace : ∃ rest, vectoring.trace = trace ++ runs.records k (cpu.withPolicy .halt) ++
    (runs.state k (cpu.withPolicy .vector)).step.2 :: rest

variable {cpu : Cpu}

theorem sameTrap_raiseTrap (cpu : Cpu) (f : Scratch) (cause : TrapCause) (value : BitVec 64)
    (detail : Text) :
    let halting := ((cpu.withPolicy .halt).prepared f).raiseTrap cause value detail
    let vectoring := ((cpu.withPolicy .vector).prepared f).raiseTrap cause value detail
    SameTrap (halting.cpu, halting.record) (vectoring.cpu, vectoring.record) :=
  ⟨rfl, rfl, rfl, rfl, rfl⟩

theorem SameTrap.haltAtBreakpoint {halting vectoring : StepState}
    (h : SameTrap (halting.cpu, halting.record) (vectoring.cpu, vectoring.record)) :
    SameTrap (halting.cpu, halting.record)
      (vectoring.haltAtBreakpoint.cpu, vectoring.haltAtBreakpoint.record) := by
  refine ⟨?_, h.registers, h.bus, h.privilege, h.csrs⟩
  have hrecord := h.record
  dsimp only at hrecord ⊢
  unfold StepState.haltAtBreakpoint
  dsimp only
  rw [hrecord]

theorem executeEbreak_halt (cpu : Cpu) (f : Scratch) :
    ((cpu.withPolicy .halt).prepared f).executeEbreak =
      ((cpu.withPolicy .halt).prepared f).raiseTrap .breakpoint 0#64
        (text "EBREAK requested a debugger trap") := by
  have hhalting : (cpu.config.haltOnEbreak && decide (TrapPolicy.halt = .vector)) = false :=
    Bool.and_false _
  exact if_neg (Bool.eq_false_iff.mp hhalting)

theorem sameTrap_executeEbreak (cpu : Cpu) (f : Scratch) :
    SameTrap
      (((cpu.withPolicy .halt).prepared f).executeEbreak.cpu,
        ((cpu.withPolicy .halt).prepared f).executeEbreak.record)
      (((cpu.withPolicy .vector).prepared f).executeEbreak.cpu,
        ((cpu.withPolicy .vector).prepared f).executeEbreak.record) := by
  have hraised := sameTrap_raiseTrap cpu f .breakpoint 0#64
    (text "EBREAK requested a debugger trap")
  rw [executeEbreak_halt]
  unfold StepState.executeEbreak
  dsimp only
  split_ifs
  · exact hraised.haltAtBreakpoint
  · exact hraised

theorem step_policies (cpu : Cpu) :
    (UnderBoth (cpu.withPolicy .halt).step.1 (cpu.withPolicy .vector).step.1 ∧
      (cpu.withPolicy .vector).step.2 = (cpu.withPolicy .halt).step.2 ∧
      (cpu.withPolicy .halt).step.2.trap = none) ∨
    TrapsUnderBoth (cpu.withPolicy .halt) (cpu.withPolicy .vector) := by
  obtain ⟨verdict, hjustified, hstep⟩ := cpu.step_decides
  have htrap : (cpu.withPolicy .halt).step.2.trap = verdict.trap cpu :=
    (congrArg (fun s => s.record.trap) (hstep .halt)).trans (hjustified.carryOut_trap .halt)
  have hpair (policy : TrapPolicy) : (cpu.withPolicy policy).step =
      ((verdict.carryOut cpu policy).cpu, (verdict.carryOut cpu policy).record) :=
    congrArg (fun s => (s.cpu, s.record)) (hstep policy)
  cases verdict with
  | finishes s =>
    left
    rw [hpair, hpair]
    exact ⟨⟨s.cpu, rfl, rfl⟩, rfl, hjustified⟩
  | traps f cause value detail =>
    refine .inr ⟨⟨_, htrap⟩, ?_, ?_⟩
    · rw [hpair, hpair]
      exact sameTrap_raiseTrap cpu f cause value detail
    · rw [hpair]
      rfl
  | breaks f =>
    refine .inr ⟨⟨_, htrap⟩, ?_, ?_⟩
    · rw [hpair, hpair]
      exact sameTrap_executeEbreak cpu f
    · rw [hpair]
      exact congrArg (fun s => s.cpu.halted) (executeEbreak_halt cpu f)

theorem policies_lockstep (system : Execution.System Cpu StepRecord) (hstep : system.step = step)
    (hstopped : ∀ (cpu : Cpu) policy, system.stopped (cpu.withPolicy policy) = system.stopped cpu)
    (cpu : Cpu) (n : Nat) :
    cpu.PolicyUnseen system n ∨ ∃ k < n, cpu.PolicyUnseen system k ∧
      system.stopped (system.state k (cpu.withPolicy .halt)) = false ∧ cpu.TrapsAt system k := by
  unfold PolicyUnseen TrapsAt
  refine Execution.System.lockstep ?_ ?_ ⟨cpu, rfl, rfl⟩ n
  · rintro _ _ ⟨now, rfl, rfl⟩
    rw [hstopped, hstopped]
  · rintro _ _ - ⟨now, rfl, rfl⟩
    rw [hstep]
    exact now.step_policies

theorem run_sameOutcome {maximumSteps : BitVec 64}
    (h : cpu.PolicyUnseen runs maximumSteps.toNat) (trace : List StepRecord) :
    SameOutcome ((cpu.withPolicy .halt).run maximumSteps trace)
      ((cpu.withPolicy .vector).run maximumSteps trace) := by
  have hcpu : UnderBoth ((cpu.withPolicy .halt).run maximumSteps trace).cpu
      ((cpu.withPolicy .vector).run maximumSteps trace).cpu := by
    rw [run_cpu, run_cpu]
    exact h.state
  have hattempted : ((cpu.withPolicy .vector).run maximumSteps trace).result.attemptedSteps =
      ((cpu.withPolicy .halt).run maximumSteps trace).result.attemptedSteps := by
    apply BitVec.eq_of_toNat_eq
    rw [run_attemptedSteps, run_attemptedSteps, h.records]
  refine ⟨?_, hcpu, ?_⟩
  · rw [run_trace, run_trace, h.records]
  · obtain ⟨final, hhalting, hvectoring⟩ := hcpu
    have hresult := (cpu.withPolicy .halt).run_result maximumSteps trace
    rw [hhalting] at hresult
    rw [hresult, run_result, hattempted, hvectoring]
    rfl

theorem run_partedAt {maximumSteps : BitVec 64} {k : Nat} (hk : k < maximumSteps.toNat)
    (hunseen : cpu.PolicyUnseen runs k)
    (hrunning : runs.stopped (runs.state k (cpu.withPolicy .halt)) = false)
    (htraps : cpu.TrapsAt runs k) (trace : List StepRecord) :
    cpu.PartedAt trace k ((cpu.withPolicy .halt).run maximumSteps trace)
      ((cpu.withPolicy .vector).run maximumSteps trace) := by
  obtain ⟨m, hm⟩ : ∃ m, maximumSteps.toNat = k + (m + 1) :=
    ⟨maximumSteps.toNat - k - 1, by omega⟩
  have hvectoring : runs.stopped (runs.state k (cpu.withPolicy .vector)) = false := by
    obtain ⟨now, hhalting, hvectoring⟩ := hunseen.state
    rw [hhalting] at hrunning
    rw [hvectoring]
    exact hrunning
  have hhalts : runs.stopped (runs.step (runs.state k (cpu.withPolicy .halt))).1 = true :=
    htraps.halts
  refine ⟨?_, ?_, ⟨runs.records m (runs.step (runs.state k (cpu.withPolicy .vector))).1, ?_⟩⟩
  · rw [run_cpu, hm, runs.state_add, runs.state_succ hrunning, runs.state_stopped hhalts]
    rfl
  · rw [run_trace, hm, runs.records_add, runs.records_succ hrunning,
      runs.records_stopped hhalts, List.append_assoc]
    rfl
  · rw [run_trace, hm, runs.records_add, runs.records_succ hvectoring, hunseen.records,
      List.append_assoc]
    rfl

theorem trap_policy_lockstep (cpu : Cpu) :
    (∀ n, cpu.PolicyUnseen steps n ∨
      ∃ k < n, cpu.PolicyUnseen steps k ∧ cpu.TrapsAt steps k) ∧
    ∀ (maximumSteps : BitVec 64) trace,
      (cpu.PolicyUnseen runs maximumSteps.toNat ∧
        SameOutcome ((cpu.withPolicy .halt).run maximumSteps trace)
          ((cpu.withPolicy .vector).run maximumSteps trace)) ∨
        ∃ k < maximumSteps.toNat, cpu.PolicyUnseen runs k ∧ cpu.TrapsAt runs k ∧
          cpu.PartedAt trace k ((cpu.withPolicy .halt).run maximumSteps trace)
            ((cpu.withPolicy .vector).run maximumSteps trace) := by
  refine ⟨fun n => ?_, fun maximumSteps trace => ?_⟩
  · rcases policies_lockstep steps rfl (fun _ _ => rfl) cpu n with
      hunseen | ⟨k, hk, hunseen, -, htraps⟩
    · exact .inl hunseen
    · exact .inr ⟨k, hk, hunseen, htraps⟩
  · rcases policies_lockstep runs rfl (fun _ _ => rfl) cpu maximumSteps.toNat with
      hunseen | ⟨k, hk, hunseen, hrunning, htraps⟩
    · exact .inl ⟨hunseen, run_sameOutcome hunseen trace⟩
    · exact .inr ⟨k, hk, hunseen, htraps, run_partedAt hk hunseen hrunning htraps trace⟩

end Cpu

end Northstar64
