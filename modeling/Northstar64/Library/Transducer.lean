import Mathlib

namespace Execution

structure Transducer (S O R : Type) where
  step : S → O → S × R

namespace Transducer
variable {S T O R : Type} (M : Transducer S O R) (N : Transducer T O R)

def run : List O → S → S × List R
  | [], s => (s, [])
  | o :: os, s =>
    let next := M.step s o
    let rest := run os next.1
    (rest.1, next.2 :: rest.2)

def state (os : List O) (s : S) : S := (M.run os s).1

def outputs (os : List O) (s : S) : List R := (M.run os s).2

@[simp] theorem state_nil (s : S) : M.state [] s = s := rfl

theorem outputs_cons (o : O) (os : List O) (s : S) :
    M.outputs (o :: os) s = (M.step s o).2 :: M.outputs os (M.step s o).1 := rfl

theorem state_concat (os : List O) (o : O) (s : S) :
    M.state (os ++ [o]) s = (M.step (M.state os s) o).1 := by
  induction os generalizing s with
  | nil => rfl
  | cons p os ih => exact ih (M.step s p).1

theorem simulation {P : S → T → Prop}
    (hstep : ∀ s t o, P s t → P (M.step s o).1 (N.step t o).1 ∧ (M.step s o).2 = (N.step t o).2)
    {s : S} {t : T} (h : P s t) (os : List O) :
    P (M.state os s) (N.state os t) ∧ M.outputs os s = N.outputs os t := by
  induction os generalizing s t with
  | nil => exact ⟨h, rfl⟩
  | cons o os ih =>
    obtain ⟨hnext, houtput⟩ := hstep s t o h
    obtain ⟨hstate, hrest⟩ := ih hnext
    refine ⟨hstate, ?_⟩
    rw [M.outputs_cons, N.outputs_cons, houtput, hrest]

end Transducer
end Execution
