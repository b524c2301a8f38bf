import Mathlib

namespace Execution

structure System (S R : Type) where
  step : S → S × R
  stopped : S → Bool

namespace System
variable {S R V : Type} (M : System S R)

def run : Nat → S → S × List R
  | 0, s => (s, [])
  | n + 1, s =>
    if M.stopped s then (s, [])
    else
      let next := M.step s
      let rest := run n next.1
      (rest.1, next.2 :: rest.2)

def state (n : Nat) (s : S) : S := (M.run n s).1

def records (n : Nat) (s : S) : List R := (M.run n s).2

@[simp] theorem state_zero (s : S) : M.state 0 s = s := rfl

@[simp] theorem records_zero (s : S) : M.records 0 s = [] := rfl

theorem run_stopped {s : S} (h : M.stopped s = true) (n : Nat) : M.run n s = (s, []) := by
  cases n <;> simp [run, h]

theorem state_stopped {s : S} (h : M.stopped s = true) (n : Nat) : M.state n s = s := by
  simp [state, M.run_stopped h]

theorem records_stopped {s : S} (h : M.stopped s = true) (n : Nat) : M.records n s = [] := by
  simp [records, M.run_stopped h]

theorem state_succ {s : S} (h : M.stopped s = false) (n : Nat) :
    M.state (n + 1) s = M.state n (M.step s).1 := by
  simp [state, run, h]

theorem records_succ {s : S} (h : M.stopped s = false) (n : Nat) :
    M.records (n + 1) s = (M.step s).2 :: M.records n (M.step s).1 := by
  simp [records, run, h]

theorem state_add (m n : Nat) (s : S) : M.state (m + n) s = M.state n (M.state m s) := by
  induction m generalizing s with
  | zero => simp
  | succ m ih =>
    cases h : M.stopped s with
    | true => simp [M.state_stopped h]
    | false => rw [Nat.succ_add, M.state_succ h, M.state_succ h, ih]

theorem records_add (m n : Nat) (s : S) :
    M.records (m + n) s = M.records m s ++ M.records n (M.state m s) := by
  induction m generalizing s with
  | zero => simp
  | succ m ih =>
    cases h : M.stopped s with
    | true => simp [M.state_stopped h, M.records_stopped h]
    | false =>
      rw [Nat.succ_add, M.records_succ h, M.records_succ h, M.state_succ h, ih, List.cons_append]

theorem state_one {s : S} (h : M.stopped s = false) : M.state 1 s = (M.step s).1 :=
  M.state_succ h 0

theorem records_one {s : S} (h : M.stopped s = false) : M.records 1 s = [(M.step s).2] :=
  M.records_succ h 0

theorem records_length_le (n : Nat) (s : S) : (M.records n s).length ≤ n := by
  induction n generalizing s with
  | zero => simp
  | succ n ih =>
    cases h : M.stopped s with
    | true => simp [M.records_stopped h]
    | false => simpa [M.records_succ h] using ih _

theorem invariant_guarded {I G : S → Prop}
    (hstep : ∀ s, M.stopped s = false → I s → G s → I (M.step s).1) {n : Nat} {s : S} (hs : I s)
    (hg : ∀ k < n, G (M.state k s)) : I (M.state n s) := by
  induction n with
  | zero => exact hs
  | succ n ih =>
    have hn := ih (fun k hk => hg k (by omega))
    rw [M.state_add]
    cases h : M.stopped (M.state n s) with
    | true => rwa [M.state_stopped h]
    | false =>
      rw [M.state_one h]
      exact hstep _ h hn (hg n (by omega))

theorem invariant {I : S → Prop} (hstep : ∀ s, M.stopped s = false → I s → I (M.step s).1)
    {s : S} (hs : I s) (n : Nat) : I (M.state n s) :=
  M.invariant_guarded (G := fun _ => True) (fun s h hi _ => hstep s h hi) hs (fun _ _ => trivial)

theorem traced_guarded {P : S → S → List R → Prop} {G : S → Prop} (hnil : ∀ s, P s s [])
    (happend : ∀ a b c before after, P a b before → P b c after → P a c (before ++ after))
    (hstep : ∀ s, M.stopped s = false → G s → P s (M.step s).1 [(M.step s).2]) {n : Nat} {s : S}
    (hg : ∀ k < n, G (M.state k s)) : P s (M.state n s) (M.records n s) := by
  induction n with
  | zero => exact hnil s
  | succ n ih =>
    have hn := ih (fun k hk => hg k (by omega))
    rw [M.state_add, M.records_add]
    refine happend _ _ _ _ _ hn ?_
    cases h : M.stopped (M.state n s) with
    | true =>
      rw [M.state_stopped h, M.records_stopped h]
      exact hnil _
    | false =>
      rw [M.state_one h, M.records_one h]
      exact hstep _ h (hg n (by omega))

theorem record_of_mem {n : Nat} {s : S} {r : R} (h : r ∈ M.records n s) :
    ∃ k < n, M.stopped (M.state k s) = false ∧ r = (M.step (M.state k s)).2 := by
  induction n generalizing s with
  | zero => simp at h
  | succ n ih =>
    cases hs : M.stopped s with
    | true => simp [M.records_stopped hs] at h
    | false =>
      rw [M.records_succ hs, List.mem_cons] at h
      rcases h with rfl | h
      · exact ⟨0, by omega, hs, rfl⟩
      · obtain ⟨k, hk, hk', rfl⟩ := ih h
        refine ⟨k + 1, by omega, ?_⟩
        rw [M.state_succ hs]
        exact ⟨hk', rfl⟩

theorem records_getElem? {n : Nat} {s : S} {i : Nat} {r : R} (h : (M.records n s)[i]? = some r) :
    i < n ∧ M.stopped (M.state i s) = false ∧ r = (M.step (M.state i s)).2 := by
  induction n generalizing s i with
  | zero => simp at h
  | succ n ih =>
    cases hs : M.stopped s with
    | true => simp [M.records_stopped hs] at h
    | false =>
      rw [M.records_succ hs] at h
      cases i with
      | zero => exact ⟨by omega, hs, by simpa using h.symm⟩
      | succ i =>
        obtain ⟨hi, hi', rfl⟩ := ih (by simpa using h)
        rw [M.state_succ hs]
        exact ⟨by omega, hi', rfl⟩

theorem records_isChain {P : R → R → Prop}
    (hstep : ∀ s, M.stopped s = false → M.stopped (M.step s).1 = false →
      P (M.step s).2 (M.step (M.step s).1).2) (n : Nat) (s : S) : (M.records n s).IsChain P := by
  induction n generalizing s with
  | zero => exact .nil
  | succ n ih =>
    cases hs : M.stopped s with
    | true =>
      rw [M.records_stopped hs]
      exact .nil
    | false =>
      rw [M.records_succ hs]
      cases n with
      | zero => exact .singleton _
      | succ n =>
        cases hnext : M.stopped (M.step s).1 with
        | true =>
          rw [M.records_stopped hnext]
          exact .singleton _
        | false =>
          have htail := ih (M.step s).1
          rw [M.records_succ hnext] at htail ⊢
          exact .cons_cons (hstep s hs hnext) htail

theorem replay (view : S → V) (apply : V → R → V)
    (hstep : ∀ s, M.stopped s = false → view (M.step s).1 = apply (view s) (M.step s).2)
    (n : Nat) (s : S) : view (M.state n s) = (M.records n s).foldl apply (view s) := by
  induction n generalizing s with
  | zero => rfl
  | succ n ih =>
    cases h : M.stopped s with
    | true => simp [M.state_stopped h, M.records_stopped h]
    | false => rw [M.state_succ h, M.records_succ h, List.foldl_cons, ← hstep s h, ih]

structure InStep {T : Type} (M : System S R) (N : System T R) (rel : S → T → Prop) (G : R → Prop)
    (n : Nat) (s : S) (t : T) : Prop where
  state : rel (M.state n s) (N.state n t)
  records : N.records n t = M.records n s
  kept : ∀ r ∈ M.records n s, G r

theorem lockstep {T : Type} {M : System S R} {N : System T R} {rel D : S → T → Prop}
    {G : R → Prop} (hstopped : ∀ s t, rel s t → N.stopped t = M.stopped s)
    (hstep : ∀ s t, M.stopped s = false → rel s t →
      (rel (M.step s).1 (N.step t).1 ∧ (N.step t).2 = (M.step s).2 ∧ G (M.step s).2) ∨ D s t)
    {s : S} {t : T} (h : rel s t) (n : Nat) :
    InStep M N rel G n s t ∨ ∃ k < n, InStep M N rel G k s t ∧
      M.stopped (M.state k s) = false ∧ D (M.state k s) (N.state k t) := by
  induction n with
  | zero => exact .inl ⟨h, rfl, by simp⟩
  | succ n ih =>
    rcases ih with hn | ⟨k, hk, hparted⟩
    · have hsame := hstopped _ _ hn.state
      cases hrunning : M.stopped (M.state n s) with
      | true =>
        rw [hrunning] at hsame
        refine .inl ⟨?_, ?_, ?_⟩
        · rw [M.state_add, N.state_add, M.state_stopped hrunning, N.state_stopped hsame]
          exact hn.state
        · rw [M.records_add, N.records_add, M.records_stopped hrunning, N.records_stopped hsame,
            hn.records]
        · rw [M.records_add, M.records_stopped hrunning, List.append_nil]
          exact hn.kept
      | false =>
        rw [hrunning] at hsame
        rcases hstep _ _ hrunning hn.state with ⟨hnext, hrecord, hkept⟩ | hpart
        · refine .inl ⟨?_, ?_, ?_⟩
          · rw [M.state_add, N.state_add, M.state_one hrunning, N.state_one hsame]
            exact hnext
          · rw [M.records_add, N.records_add, M.records_one hrunning, N.records_one hsame,
              hn.records, hrecord]
          · rw [M.records_add, M.records_one hrunning, List.forall_mem_append,
              List.forall_mem_singleton]
            exact ⟨hn.kept, hkept⟩
        · exact .inr ⟨n, Nat.lt_succ_self n, hn, hrunning, hpart⟩
    · exact .inr ⟨k, by omega, hparted⟩

end System
end Execution
