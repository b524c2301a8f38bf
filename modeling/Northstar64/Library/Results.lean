import Mathlib

namespace Results
variable {ε α β : Type}

theorem bind_eq_ok {x : Except ε α} {f : α → Except ε β} {result : β} :
    (x >>= f) = .ok result ↔ ∃ value, x = .ok value ∧ f value = .ok result := by
  cases x with
  | error error => simp [bind, Except.bind]
  | ok value => simp [bind, Except.bind]

theorem ok_bind (value : α) (next : α → Except ε β) : (Except.ok value >>= next) = next value := rfl

theorem exists_of_any {x : Except ε α} {p : α → Bool} (h : x.toOption.any p = true) :
    ∃ value, x = .ok value ∧ p value = true := by
  cases x with
  | error error => cases h
  | ok value => exact ⟨value, rfl, h⟩

theorem exists_ok {x : Except ε α} (h : x.isOk = true) : ∃ value, x = .ok value := by
  cases x with
  | error error => cases h
  | ok value => exact ⟨value, rfl⟩

theorem exists_error {x : Except ε α} (h : x.isOk = false) : ∃ error, x = .error error := by
  cases x with
  | error error => exact ⟨error, rfl⟩
  | ok value => cases h

end Results
