import Northstar64.Replay

namespace Northstar64

namespace Cpu

structure ThrowsAt (append : List StepRecord → Option Text) (cpu : Cpu) (n k : Nat) (what : Text) :
    Prop where
  reached : k < (runs.records n cpu).length
  taken : ∀ j < k, append (runs.records (j + 1) cpu) = none
  thrown : append (runs.records (k + 1) cpu) = some what

def NeverThrows (append : List StepRecord → Option Text) (cpu : Cpu) (n : Nat) : Prop :=
  ∀ k < (runs.records n cpu).length, append (runs.records (k + 1) cpu) = none

theorem tracedLoop_cases (append : List StepRecord → Option Text)
    {maximumSteps attempted : BitVec 64} {remaining : Nat}
    (h : attempted.toNat + remaining = maximumSteps.toNat) (cpu : Cpu) (trace : List StepRecord) :
    (NeverThrows (fun rest => append (trace ++ rest)) cpu remaining ∧
      tracedLoop append maximumSteps remaining cpu attempted trace =
        .ok (runLoop maximumSteps remaining cpu attempted trace)) ∨
    ∃ k what, ThrowsAt (fun rest => append (trace ++ rest)) cpu remaining k what ∧
      tracedLoop append maximumSteps remaining cpu attempted trace =
        .error ⟨what, runs.state (k + 1) cpu, trace ++ runs.records (k + 1) cpu⟩ := by
  induction remaining generalizing cpu attempted trace with
  | zero => exact .inl ⟨fun k hk => absurd hk (Nat.not_lt_zero k), rfl⟩
  | succ remaining ih =>
    have hmaximum := maximumSteps.isLt
    have hlt : attempted < maximumSteps := by
      rw [BitVec.lt_def]
      omega
    cases hhalted : cpu.halted with
    | true =>
      have hnone : runs.records (remaining + 1) cpu = [] := runs.records_stopped hhalted _
      refine .inl ⟨fun k hk => ?_, ?_⟩
      · rw [hnone] at hk
        exact absurd hk (Nat.not_lt_zero k)
      · simp only [tracedLoop, runLoop, hhalted, Bool.not_true, Bool.false_and, Bool.false_eq_true,
          if_false]
    | false =>
      have hnext : (attempted + 1#64).toNat + remaining = maximumSteps.toNat := by
        rw [BitVec.toNat_add, BitVec.toNat_ofNat]
        omega
      have hrecords (m : Nat) : trace ++ runs.records (m + 1) cpu =
          (trace ++ [cpu.step.2]) ++ runs.records m cpu.step.1 := by
        rw [runs.records_succ hhalted, List.append_assoc]
        rfl
      have hsucc (m : Nat) : append (trace ++ runs.records (m + 1) cpu) =
          append ((trace ++ [cpu.step.2]) ++ runs.records m cpu.step.1) := by
        rw [hrecords]
      have hlength : (runs.records (remaining + 1) cpu).length =
          (runs.records remaining cpu.step.1).length + 1 := by
        rw [runs.records_succ hhalted]
        rfl
      simp only [tracedLoop, runLoop, hhalted, hlt, Bool.not_false, decide_true, Bool.and_self,
        if_true]
      cases happend : append (trace ++ [cpu.step.2]) with
      | some what =>
        have hone : trace ++ runs.records (0 + 1) cpu = trace ++ [cpu.step.2] := by
          rw [hrecords, runs.records_zero, List.append_nil]
        refine .inr ⟨0, what, ⟨by omega, fun j hj => absurd hj (Nat.not_lt_zero j), ?_⟩, ?_⟩
        · exact (congrArg append hone).trans happend
        · rw [hone, runs.state_succ hhalted]
          rfl
      | none =>
        have hfirst : append (trace ++ runs.records (0 + 1) cpu) = none := by
          rw [hrecords, runs.records_zero, List.append_nil, happend]
        rcases ih hnext cpu.step.1 (trace ++ [cpu.step.2]) with ⟨htaken, hloop⟩ | ⟨k, what, hthrows, hloop⟩
        · refine .inl ⟨fun k hk => ?_, hloop⟩
          cases k with
          | zero => exact hfirst
          | succ k => exact (hsucc _).trans (htaken k (by omega))
        · have hreached := hthrows.reached
          refine .inr ⟨k + 1, what, ⟨by omega, fun j hj => ?_, ?_⟩, ?_⟩
          · cases j with
            | zero => exact hfirst
            | succ j => exact (hsucc _).trans (hthrows.taken j (by omega))
          · exact (hsucc _).trans hthrows.thrown
          · rw [hrecords, runs.state_succ hhalted]
            exact hloop

theorem runTraced_cases (cpu : Cpu) (append : List StepRecord → Option Text)
    (maximumSteps : BitVec 64) :
    (NeverThrows append cpu maximumSteps.toNat ∧
      cpu.runTraced append maximumSteps = .ok (cpu.run maximumSteps [])) ∨
    ∃ k what, ThrowsAt append cpu maximumSteps.toNat k what ∧
      cpu.runTraced append maximumSteps =
        .error ⟨what, runs.state (k + 1) cpu, runs.records (k + 1) cpu⟩ := by
  have hzero : (0#64).toNat + maximumSteps.toNat = maximumSteps.toNat := Nat.zero_add _
  rcases tracedLoop_cases append hzero cpu [] with
    ⟨htaken, hloop⟩ | ⟨k, what, hthrows, hloop⟩
  · refine .inl ⟨htaken, ?_⟩
    rw [runTraced, hloop]
    rfl
  · refine .inr ⟨k, what, hthrows, ?_⟩
    rw [runTraced, hloop]
    rfl

end Cpu

end Northstar64
