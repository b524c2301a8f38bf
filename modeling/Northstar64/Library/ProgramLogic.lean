import Northstar64.Library.Execution

namespace Execution
namespace System

variable {S R : Type} {M : System S R} {G : R → Prop} {n m : Nat} {P Q U : S → Prop}

def Leads (M : System S R) (G : R → Prop) (n : Nat) (P Q : S → Prop) : Prop :=
  ∀ s, P s → (M.records n s).length = n ∧ (∀ r ∈ M.records n s, G r) ∧ Q (M.state n s)

namespace Leads

theorem refl : M.Leads G 0 P P := fun _ hs => ⟨rfl, by simp, hs⟩

theorem step (h : ∀ s, P s → M.stopped s = false ∧ G (M.step s).2 ∧ Q (M.step s).1) :
    M.Leads G 1 P Q := by
  intro s hs
  obtain ⟨hrunning, hrecord, hnext⟩ := h s hs
  rw [M.records_one hrunning, M.state_one hrunning]
  exact ⟨rfl, List.forall_mem_singleton.mpr hrecord, hnext⟩

theorem trans (first : M.Leads G n P Q) (second : M.Leads G m Q U) : M.Leads G (n + m) P U := by
  intro s hs
  obtain ⟨hlength, hrecords, hmiddle⟩ := first s hs
  obtain ⟨hlength', hrecords', hfinal⟩ := second _ hmiddle
  rw [M.records_add, M.state_add, List.length_append, hlength, hlength', List.forall_mem_append]
  exact ⟨rfl, ⟨hrecords, hrecords'⟩, hfinal⟩

theorem loop {I : Nat → S → Prop} {bound : Nat}
    (body : ∀ k < bound, M.Leads G n (I k) (I (k + 1))) :
    M.Leads G (bound * n) (I 0) (I bound) := by
  induction bound with
  | zero =>
    rw [Nat.zero_mul]
    exact refl
  | succ bound ih =>
    rw [Nat.succ_mul]
    exact (ih fun k hk => body k (by omega)).trans (body bound (by omega))

end Leads

end System
end Execution
