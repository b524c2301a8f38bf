import Northstar64.Library.Execution

namespace Execution
namespace System

variable {S T R E : Type} {M : System S R} {N : System T E} {J : S → T → Prop} {view : R → E}
  (hstep : ∀ s t, M.stopped s = false → J s t → N.stopped t = false ∧
    J (M.step s).1 (N.step t).1 ∧ (N.step t).2 = view (M.step s).2)
include hstep

theorem simulates {s : S} {t : T} (h : J s t) (n : Nat) :
    J (M.state n s) (N.state (M.records n s).length t) ∧
      N.records (M.records n s).length t = (M.records n s).map view := by
  induction n generalizing s t with
  | zero => exact ⟨h, rfl⟩
  | succ n ih =>
    cases hstopped : M.stopped s with
    | true =>
      rw [M.state_stopped hstopped, M.records_stopped hstopped]
      exact ⟨h, rfl⟩
    | false =>
      obtain ⟨hrunning, hnext, hrecord⟩ := hstep s t hstopped h
      obtain ⟨hstate, hrecords⟩ := ih hnext
      rw [M.state_succ hstopped, M.records_succ hstopped, List.length_cons, N.state_succ hrunning,
        N.records_succ hrunning, List.map_cons, hrecord, hrecords]
      exact ⟨hstate, rfl⟩

def upTo (stops : E → Bool) : List E → List E
  | [] => []
  | e :: rest => if stops e then [e] else e :: upTo stops rest

theorem simulates_upTo {stops : E → Bool}
    (hstops : ∀ s t, M.stopped s = false → J s t →
      M.stopped (M.step s).1 = stops (view (M.step s).2)) {s : S} {t : T} (h : J s t)
    (running : M.stopped s = false) (n : Nat) :
    (M.records n s).map view = upTo stops (N.records n t) := by
  induction n generalizing s t with
  | zero => rfl
  | succ n ih =>
    obtain ⟨hrunning, hnext, hrecord⟩ := hstep s t running h
    have hstop := hstops s t running h
    rw [M.records_succ running, N.records_succ hrunning, List.map_cons, upTo, hrecord, ← hstop]
    cases hstopped : M.stopped (M.step s).1 with
    | true =>
      rw [M.records_stopped hstopped]
      rfl
    | false =>
      rw [ih hnext hstopped]
      rfl

theorem accompanies {G : E → Prop}
    (hruns : ∀ s, M.stopped s = false → G (view (M.step s).2) → M.stopped (M.step s).1 = false)
    {s : S} {t : T} (h : J s t) (running : M.stopped s = false) {n : Nat}
    (hrecords : ∀ r ∈ N.records n t, G r) :
    (M.records n s).length = n ∧ M.stopped (M.state n s) = false ∧
      J (M.state n s) (N.state n t) := by
  induction n generalizing s t with
  | zero => exact ⟨rfl, running, h⟩
  | succ n ih =>
    obtain ⟨hrunning, hnext, hrecord⟩ := hstep s t running h
    rw [N.records_succ hrunning, List.forall_mem_cons, hrecord] at hrecords
    obtain ⟨hlength, hstopped, hrel⟩ := ih hnext (hruns s running hrecords.1) hrecords.2
    rw [M.records_succ running, M.state_succ running, N.state_succ hrunning, List.length_cons,
      hlength]
    exact ⟨rfl, hstopped, hrel⟩

end System

namespace System

theorem find?_upTo {R : Type} (stops : R → Bool) (records : List R) :
    (upTo stops records).find? stops = records.find? stops := by
  induction records with
  | nil => rfl
  | cons r rest ih =>
    cases hstop : stops r with
    | true => rw [upTo, if_pos hstop, List.find?_cons_of_pos hstop, List.find?_cons_of_pos hstop]
    | false =>
      have hgoes := Bool.eq_false_iff.mp hstop
      rw [upTo, if_neg hgoes, List.find?_cons_of_neg hgoes, List.find?_cons_of_neg hgoes, ih]

section Stops
variable {S R : Type} (M : System S R) {I : S → Prop} {p : R → Bool}
  (hstops : ∀ s, M.stopped s = false → I s → M.stopped (M.step s).1 = p (M.step s).2)
  (hkeeps : ∀ s, M.stopped s = false → I s → M.stopped (M.step s).1 = false → I (M.step s).1)
include hstops hkeeps

theorem stop_cases {s : S} (h : I s) (running : M.stopped s = false) (n : Nat) :
    ((M.records n s).find? p = none ∧ M.stopped (M.state n s) = false) ∨
      ∃ t, M.stopped t = false ∧ I t ∧ M.stopped (M.step t).1 = true ∧
        M.state n s = (M.step t).1 ∧ (M.records n s).find? p = some (M.step t).2 := by
  induction n generalizing s with
  | zero => exact .inl ⟨rfl, running⟩
  | succ n ih =>
    rw [M.records_succ running, M.state_succ running]
    cases hnext : M.stopped (M.step s).1 with
    | true =>
      have hstop : p (M.step s).2 = true := (hstops s running h).symm.trans hnext
      exact .inr ⟨s, running, h, hnext, M.state_stopped hnext n, List.find?_cons_of_pos hstop⟩
    | false =>
      have hstop : p (M.step s).2 = false := (hstops s running h).symm.trans hnext
      rw [List.find?_cons_of_neg (Bool.eq_false_iff.mp hstop)]
      exact ih (hkeeps s running h hnext) hnext

end Stops

end System
end Execution
