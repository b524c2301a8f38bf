import Mathlib

namespace Lines
variable {α : Type} [DecidableEq α]

def next (d : α) : List α → Option (List α × List α)
  | [] => none
  | input => some (input.takeWhile (· ≠ d), (input.dropWhile (· ≠ d)).tail)

def commonPrefix : List α → List α → List α
  | x :: xs, y :: ys => if x = y then x :: commonPrefix xs ys else []
  | _, _ => []

variable {d : α}

theorem next_of_ne_nil {input : List α} (h : input ≠ []) :
    next d input = some (input.takeWhile (· ≠ d), (input.dropWhile (· ≠ d)).tail) := by
  cases input with
  | nil => exact absurd rfl h
  | cons x xs => rfl

theorem next_terminated {l : List α} (hl : d ∉ l) (rest : List α) :
    next d (l ++ d :: rest) = some (l, rest) := by
  have hne : ∀ x ∈ l, x ≠ d := fun x hx h => hl (h ▸ hx)
  have htake : (l ++ d :: rest).takeWhile (· ≠ d) = l := by
    rw [List.takeWhile_append_of_pos (by simpa using hne)]
    simp
  have hdrop : (l ++ d :: rest).dropWhile (· ≠ d) = d :: rest := by
    rw [List.dropWhile_append_of_pos (by simpa using hne)]
    simp
  rw [next_of_ne_nil (by simp), htake, hdrop, List.tail_cons]

theorem next_unterminated {l : List α} (hl : d ∉ l) (hne : l ≠ []) :
    next d l = some (l, []) := by
  have hall : ∀ x ∈ l, x ≠ d := fun x hx h => hl (h ▸ hx)
  have htake : l.takeWhile (· ≠ d) = l := List.takeWhile_eq_self_iff.mpr (by simpa using hall)
  have hdrop : l.dropWhile (· ≠ d) = [] := List.dropWhile_eq_nil_iff.mpr (by simpa using hall)
  rw [next_of_ne_nil hne, htake, hdrop, List.tail_nil]

theorem next_length {input line rest : List α} (h : next d input = some (line, rest)) :
    rest.length < input.length := by
  cases input with
  | nil => cases h
  | cons x xs =>
    obtain ⟨-, rfl⟩ := Prod.mk.inj (Option.some.inj h)
    have hdrop := (List.dropWhile_sublist (p := (· ≠ d)) (l := x :: xs)).length_le
    rw [List.length_tail]
    simp only [List.length_cons] at hdrop ⊢
    omega

theorem first_line_cases (d : α) (input : List α) :
    input = [] ∨ (input ≠ [] ∧ d ∉ input) ∨ ∃ l rest, d ∉ l ∧ input = l ++ d :: rest := by
  by_cases hd : d ∈ input
  · obtain ⟨l, rest, heq, hl⟩ := List.eq_append_cons_of_mem hd
    exact .inr (.inr ⟨l, rest, hl, heq⟩)
  · by_cases hnil : input = []
    · exact .inl hnil
    · exact .inr (.inl ⟨hnil, hd⟩)

theorem commonPrefix_append (l xs ys : List α) :
    commonPrefix (l ++ xs) (l ++ ys) = l ++ commonPrefix xs ys := by
  induction l with
  | nil => rfl
  | cons x l ih => rw [List.cons_append, List.cons_append, commonPrefix, if_pos rfl, ih]; rfl

theorem commonPrefix_prefix_left (xs ys : List α) : commonPrefix xs ys <+: xs := by
  induction xs generalizing ys with
  | nil => cases ys <;> exact List.prefix_rfl
  | cons x xs ih =>
    cases ys with
    | nil => exact List.nil_prefix
    | cons y ys =>
      rw [commonPrefix]
      split_ifs
      · exact (List.prefix_cons_inj x).mpr (ih ys)
      · exact List.nil_prefix

theorem commonPrefix_comm (xs ys : List α) : commonPrefix xs ys = commonPrefix ys xs := by
  induction xs generalizing ys with
  | nil => cases ys <;> rfl
  | cons x xs ih =>
    cases ys with
    | nil => rfl
    | cons y ys =>
      rw [commonPrefix, commonPrefix]
      by_cases h : x = y
      · rw [if_pos h, if_pos h.symm, h, ih]
      · rw [if_neg h, if_neg (Ne.symm h)]

end Lines
