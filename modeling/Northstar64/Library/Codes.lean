import Mathlib

namespace Codes
variable {α β γ : Type}

def StartsOutside (A : α → Prop) (r : List α) : Prop := ∀ c ∈ r.head?, ¬ A c

def StartsWith (stop : α) (r : List α) : Prop := ∃ tail, r = stop :: tail

theorem StartsOutside.literal {A : α → Prop} {text : List α} {c : α} (h : text.head? = some c)
    (hc : ¬ A c) (r : List α) : StartsOutside A (text ++ r) := by
  obtain ⟨tail, rfl⟩ := List.head?_eq_some_iff.mp h
  intro d hd
  obtain rfl : c = d := Option.some.inj hd
  exact hc

theorem StartsWith.literal {text : List α} {c : α} (h : text.head? = some c) (r : List α) :
    StartsWith c (text ++ r) := by
  obtain ⟨tail, rfl⟩ := List.head?_eq_some_iff.mp h
  exact ⟨tail ++ r, rfl⟩

def Peels (P : List α → Prop) (e : β → List α) : Prop :=
  ∀ ⦃x y r s⦄, P r → P s → e x ++ r = e y ++ s → x = y ∧ r = s

theorem takeWhile_of_startsOutside {A : α → Prop} [DecidablePred A] {l r : List α}
    (hl : ∀ c ∈ l, A c) (hr : StartsOutside A r) : (l ++ r).takeWhile (fun c => A c) = l := by
  rw [List.takeWhile_append_of_pos (by simpa using hl)]
  cases r with
  | nil => simp
  | cons c r =>
    have hc : ¬ A c := hr c rfl
    simp [hc]

namespace Peels
variable {P : List α → Prop} {e : β → List α}

theorem of_alphabet {A : α → Prop} [DecidablePred A] (hinj : Function.Injective e)
    (hA : ∀ x, ∀ c ∈ e x, A c) : Peels (StartsOutside A) e := by
  intro x y r s hr hs h
  have hprefix := congrArg (List.takeWhile (fun c => A c)) h
  rw [takeWhile_of_startsOutside (hA x) hr, takeWhile_of_startsOutside (hA y) hs] at hprefix
  obtain rfl := hinj hprefix
  exact ⟨rfl, List.append_cancel_left h⟩

theorem of_decoder (decode : List α → Option β) (h : ∀ x r, decode (e x ++ r) = some x) :
    Peels (fun _ => True) e := by
  intro x y r s _ _ heq
  have hdecoded := h x r
  rw [heq, h y s] at hdecoded
  obtain rfl := Option.some.inj hdecoded
  exact ⟨rfl, List.append_cancel_left heq⟩

theorem field (h : Peels P e) {literal : List α} (hP : ∀ r, P (literal ++ r)) {x y : β}
    {r s : List α} (heq : e x ++ (literal ++ r) = e y ++ (literal ++ s)) : x = y ∧ r = s := by
  obtain ⟨rfl, hrest⟩ := h (hP r) (hP s) heq
  exact ⟨rfl, List.append_cancel_left hrest⟩

theorem flatMap {code : β → List α} {stop : α} (hcode : Peels (fun _ => True) code)
    (hne : ∀ x, code x ≠ []) (hstop : ∀ x, (code x).head? ≠ some stop) :
    Peels (StartsWith stop) (fun xs : List β => xs.flatMap code) := by
  intro xs
  induction xs with
  | nil =>
    rintro ys r s ⟨tail, rfl⟩ hs h
    cases ys with
    | nil => exact ⟨rfl, h⟩
    | cons y ys =>
      dsimp only at h
      have hhead := congrArg List.head? h
      rw [List.flatMap_cons, List.append_assoc, List.head?_append_of_ne_nil _ (hne y)] at hhead
      exact absurd hhead.symm (hstop y)
  | cons x xs ih =>
    rintro ys r s hr ⟨tail, rfl⟩ h
    cases ys with
    | nil =>
      dsimp only at h
      have hhead := congrArg List.head? h
      rw [List.flatMap_cons, List.append_assoc, List.head?_append_of_ne_nil _ (hne x)] at hhead
      exact absurd hhead (hstop x)
    | cons y ys =>
      dsimp only at h
      rw [List.flatMap_cons, List.flatMap_cons, List.append_assoc, List.append_assoc] at h
      obtain ⟨rfl, hrest⟩ := hcode trivial trivial h
      obtain ⟨rfl, htail⟩ := ih hr ⟨tail, rfl⟩ hrest
      exact ⟨rfl, htail⟩

theorem option (none : List α) (h : Peels (fun _ => True) e)
    (hne : none ≠ []) (hhead : ∀ x, e x ≠ [] ∧ (e x).head? ≠ none.head?) :
    Peels (fun _ => True) (fun x : Option β => x.elim none e) := by
  rintro (_ | x) (_ | y) r s _ _ heq
  · exact ⟨rfl, List.append_cancel_left heq⟩
  · have hheads := congrArg List.head? heq
    simp only [Option.elim] at hheads
    rw [List.head?_append_of_ne_nil _ hne, List.head?_append_of_ne_nil _ (hhead y).1] at hheads
    exact absurd hheads.symm (hhead y).2
  · have hheads := congrArg List.head? heq
    simp only [Option.elim] at hheads
    rw [List.head?_append_of_ne_nil _ hne, List.head?_append_of_ne_nil _ (hhead x).1] at hheads
    exact absurd hheads (hhead x).2
  · obtain ⟨rfl, hrest⟩ := h trivial trivial heq
    exact ⟨rfl, hrest⟩

end Peels
end Codes
