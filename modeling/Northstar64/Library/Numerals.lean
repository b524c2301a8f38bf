import Mathlib

namespace Numerals

def digitCharacter (digit : Nat) : BitVec 8 :=
  if digit < 10 then BitVec.ofNat 8 (48 + digit) else BitVec.ofNat 8 (87 + digit)

def numeral (base value : Nat) : List (BitVec 8) :=
  if value = 0 then [digitCharacter 0] else (Nat.digits base value).reverse.map digitCharacter

def charDigit (character : BitVec 8) : Option Nat :=
  if 0x30#8 ≤ character ∧ character ≤ 0x39#8 then some (character.toNat - 48)
  else if 0x41#8 ≤ character ∧ character ≤ 0x5a#8 then some (character.toNat - 55)
  else if 0x61#8 ≤ character ∧ character ≤ 0x7a#8 then some (character.toNat - 87)
  else none

def valueOf (base : Nat) (characters : List (BitVec 8)) : Nat :=
  Nat.ofDigits base (characters.filterMap charDigit).reverse

variable {base : Nat}

theorem charDigit_digitCharacter {digit : Nat} (h : digit < 36) :
    charDigit (digitCharacter digit) = some digit := by
  revert h digit
  decide

theorem filterMap_charDigit {digits : List Nat} (h : ∀ digit ∈ digits, digit < 36) :
    (digits.map digitCharacter).filterMap charDigit = digits := by
  induction digits with
  | nil => rfl
  | cons digit digits ih =>
    rw [List.forall_mem_cons] at h
    rw [List.map_cons, List.filterMap_cons_some (charDigit_digitCharacter h.1), ih h.2]

theorem numeral_digits (hbase : 1 < base) (value : Nat) :
    ∃ digits : List Nat, numeral base value = digits.map digitCharacter ∧ (∀ digit ∈ digits, digit < base) ∧
      Nat.ofDigits base digits.reverse = value := by
  rw [numeral]
  split_ifs with hzero
  · refine ⟨[0], rfl, fun digit hmem => ?_, ?_⟩
    · rw [List.mem_singleton.mp hmem]
      omega
    · rw [hzero]
      exact Nat.ofDigits_singleton
  · refine ⟨(Nat.digits base value).reverse, rfl, fun digit hmem => ?_, ?_⟩
    · exact Nat.digits_lt_base hbase (List.mem_reverse.mp hmem)
    · rw [List.reverse_reverse, Nat.ofDigits_digits]

theorem numeral_ne_nil (value : Nat) : numeral base value ≠ [] := by
  rw [numeral]
  split_ifs with hzero
  · exact List.cons_ne_nil _ _
  · simpa [Nat.digits_eq_nil_iff_eq_zero] using hzero

theorem valueOf_numeral (hbase : 1 < base) (hdigits : base ≤ 36) (value : Nat) :
    valueOf base (numeral base value) = value := by
  obtain ⟨digits, hnumeral, hsmall, hvalue⟩ := numeral_digits hbase value
  rw [valueOf, hnumeral,
    filterMap_charDigit (fun digit hmem => (hsmall digit hmem).trans_le hdigits), hvalue]

theorem valueOf_padded (count : Nat) (characters : List (BitVec 8)) :
    valueOf base (List.replicate count 0x30#8 ++ characters) = valueOf base characters := by
  have hzeros : (List.replicate count 0x30#8).filterMap charDigit = List.replicate count 0 := by
    induction count with
    | zero => rfl
    | succ count ih =>
      have hzero : charDigit 0x30#8 = some 0 := rfl
      rw [List.replicate_succ, List.filterMap_cons_some hzero, ih, List.replicate_succ]
  rw [valueOf, List.filterMap_append, hzeros, List.reverse_append, List.reverse_replicate,
    Nat.ofDigits_append_replicate_zero, valueOf]

end Numerals
