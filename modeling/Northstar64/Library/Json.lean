import Northstar64.Library.Codes
import Northstar64.Library.Numerals

namespace Json
open Numerals

abbrev Byte := BitVec 8
abbrev Text := List Byte

mutual

inductive Value where
  | null
  | boolean (value : Bool)
  | number (value : Nat)
  | string (value : Text)
  | object (members : Members)

inductive Members where
  | nil
  | cons (key : Text) (value : Value) (rest : Members)

end

def Members.find (key : Text) : Members → Option Value
  | .nil => none
  | .cons name value rest => if name = key then some value else rest.find key

def Value.asBoolean : Value → Option Bool
  | .boolean value => some value
  | _ => none

def Value.asNumber : Value → Option Nat
  | .number value => some value
  | _ => none

def Value.asString : Value → Option Text
  | .string value => some value
  | _ => none

def Value.asObject : Value → Option Members
  | .object members => some members
  | _ => none

def Members.field {α : Type} (members : Members) (key : Text) (read : Value → Option α) : Option α :=
  (members.find key).bind read

section Strings

def hexDigit (c : Byte) : Option Nat := (charDigit c).filter (fun digit => decide (digit < 16))

def shortEscape (kind : Byte) : Option Byte :=
  if kind = 0x22#8 ∨ kind = 0x5c#8 ∨ kind = 0x2f#8 then some kind
  else if kind = 0x62#8 then some 0x08#8
  else if kind = 0x66#8 then some 0x0c#8
  else if kind = 0x6e#8 then some 0x0a#8
  else if kind = 0x72#8 then some 0x0d#8
  else if kind = 0x74#8 then some 0x09#8
  else none

def codePoint (digits : List Byte) : Option Byte := do
  let values ← digits.mapM hexDigit
  let code := Nat.ofDigits 16 values.reverse
  if code < 0x80 then some (BitVec.ofNat 8 code) else none

def readCode : Text → Option (Byte × Text)
  | a :: b :: c :: d :: rest => (codePoint [a, b, c, d]).map (·, rest)
  | _ => none

def readEscape : Text → Option (Byte × Text)
  | [] => none
  | kind :: rest => if kind = 0x75#8 then readCode rest else (shortEscape kind).map (·, rest)

def readCharacter : Text → Option (Byte × Text)
  | [] => none
  | c :: rest =>
    if c = 0x22#8 ∨ c < 0x20#8 then none
    else if c = 0x5c#8 then readEscape rest
    else some (c, rest)

structure ReadsFront (read : Text → Option (Byte × Text)) : Prop where
  append : ∀ {input left c}, read input = some (c, left) →
    ∀ rest, read (input ++ rest) = some (c, left ++ rest)
  length : ∀ {input left c}, read input = some (c, left) → left.length < input.length

theorem readCode_front : ReadsFront readCode where
  append {input left byte} h rest := by
    match input, h with
    | a :: b :: c :: d :: tail, h =>
      obtain ⟨value, hvalue, heq⟩ := Option.map_eq_some_iff.mp h
      obtain ⟨rfl, rfl⟩ := Prod.mk.inj heq
      exact Option.map_eq_some_iff.mpr ⟨value, hvalue, rfl⟩
  length {input left byte} h := by
    match input, h with
    | a :: b :: c :: d :: tail, h =>
      obtain ⟨value, -, heq⟩ := Option.map_eq_some_iff.mp h
      obtain ⟨rfl, rfl⟩ := Prod.mk.inj heq
      simp only [List.length_cons]
      omega

theorem readEscape_front : ReadsFront readEscape where
  append {input left byte} h rest := by
    cases input with
    | nil => cases h
    | cons kind tail =>
      rw [List.cons_append, readEscape]
      rw [readEscape] at h
      split_ifs at h ⊢
      · exact readCode_front.append h rest
      · obtain ⟨value, hvalue, heq⟩ := Option.map_eq_some_iff.mp h
        obtain ⟨rfl, rfl⟩ := Prod.mk.inj heq
        exact Option.map_eq_some_iff.mpr ⟨value, hvalue, rfl⟩
  length {input left byte} h := by
    cases input with
    | nil => cases h
    | cons kind tail =>
      rw [readEscape] at h
      split_ifs at h
      · exact (readCode_front.length h).trans (Nat.lt_succ_self _)
      · obtain ⟨value, -, heq⟩ := Option.map_eq_some_iff.mp h
        obtain ⟨rfl, rfl⟩ := Prod.mk.inj heq
        exact Nat.lt_succ_self _

theorem readCharacter_front : ReadsFront readCharacter where
  append {input left byte} h rest := by
    cases input with
    | nil => cases h
    | cons first tail =>
      rw [List.cons_append, readCharacter]
      rw [readCharacter] at h
      split_ifs at h ⊢
      · exact readEscape_front.append h rest
      · obtain ⟨rfl, rfl⟩ := Prod.mk.inj (Option.some.inj h)
        rfl
  length {input left byte} h := by
    cases input with
    | nil => cases h
    | cons first tail =>
      rw [readCharacter] at h
      split_ifs at h
      · exact (readEscape_front.length h).trans (Nat.lt_succ_self _)
      · obtain ⟨rfl, rfl⟩ := Prod.mk.inj (Option.some.inj h)
        exact Nat.lt_succ_self _

def readString (input : Text) : Option (Text × Text) :=
  match _hread : readCharacter input with
  | some (c, rest) => (readString rest).map (fun read => (c :: read.1, read.2))
  | none => if input.head? = some 0x22#8 then some ([], input.tail) else none
termination_by input.length
decreasing_by exact readCharacter_front.length _hread

structure Escaping where
  escape : Byte → Text
  reads : ∀ c, readCharacter (escape c) = some (c, [])

def Escaping.quote (e : Escaping) (value rest : Text) : Text :=
  0x22#8 :: (value.flatMap e.escape ++ 0x22#8 :: rest)

theorem readString_escaped (e : Escaping) (value rest : Text) :
    readString (value.flatMap e.escape ++ 0x22#8 :: rest) = some (value, rest) := by
  induction value with
  | nil =>
    have hquote : readCharacter (0x22#8 :: rest) = none := rfl
    rw [List.flatMap_nil, List.nil_append, readString]
    split
    · rename_i hread
      rw [hquote] at hread
      cases hread
    · rfl
  | cons c value ih =>
    have hread := readCharacter_front.append (e.reads c) (value.flatMap e.escape ++ 0x22#8 :: rest)
    rw [List.flatMap_cons, List.append_assoc, readString]
    split
    · rename_i c' rest' hread'
      obtain ⟨rfl, rfl⟩ := Prod.mk.inj (Option.some.inj (hread'.symm.trans hread))
      rw [List.nil_append, ih]
      rfl
    · rename_i hread'
      cases hread'.symm.trans hread

end Strings

section Numbers

def IsDigit (c : Byte) : Prop := 0x30#8 ≤ c ∧ c ≤ 0x39#8

instance : DecidablePred IsDigit := fun _ => inferInstanceAs (Decidable (_ ∧ _))

def readNumber (input : Text) : Option (Nat × Text) :=
  let digits := input.takeWhile (fun c => IsDigit c)
  if digits = [] ∨ (digits.head? = some (digitCharacter 0) ∧ digits.length ≠ 1) then none
  else some (valueOf 10 digits, input.drop digits.length)

theorem isDigit_digitCharacter {digit : Nat} (h : digit < 10) : IsDigit (digitCharacter digit) := by
  revert h digit
  decide

theorem isDigit_numeral (value : Nat) : ∀ c ∈ numeral 10 value, IsDigit c := by
  intro c hmem
  obtain ⟨digits, hnumeral, hsmall, -⟩ := numeral_digits (show 1 < 10 by decide) value
  rw [hnumeral] at hmem
  obtain ⟨digit, hdigit, rfl⟩ := List.mem_map.mp hmem
  exact isDigit_digitCharacter (hsmall digit hdigit)

theorem numeral_head {value : Nat} (h : (numeral 10 value).head? = some (digitCharacter 0)) :
    (numeral 10 value).length = 1 := by
  rw [numeral] at h ⊢
  split_ifs at h ⊢ with hzero
  · rfl
  · have hne : Nat.digits 10 value ≠ [] := Nat.digits_ne_nil_iff_ne_zero.mpr hzero
    rw [List.head?_map, List.head?_reverse, List.getLast?_eq_some_getLast hne, Option.map_some] at h
    have hlast := Nat.getLast_digit_ne_zero 10 hzero
    have hsmall := Nat.digits_lt_base (b := 10) (by decide) (List.getLast_mem hne)
    have hvalue := congrArg charDigit (Option.some.inj h)
    rw [charDigit_digitCharacter (hsmall.trans (by decide)),
      charDigit_digitCharacter (by decide)] at hvalue
    exact absurd (Option.some.inj hvalue) hlast

theorem readNumber_numeral (value : Nat) {rest : Text}
    (hrest : Codes.StartsOutside IsDigit rest) :
    readNumber (numeral 10 value ++ rest) = some (value, rest) := by
  have hdigits := Codes.takeWhile_of_startsOutside (isDigit_numeral value) hrest
  have hread : ¬ (numeral 10 value = [] ∨
      ((numeral 10 value).head? = some (digitCharacter 0) ∧ (numeral 10 value).length ≠ 1)) := by
    rintro (hnil | ⟨hhead, hlength⟩)
    · exact numeral_ne_nil value hnil
    · exact hlength (numeral_head hhead)
  rw [readNumber, hdigits, if_neg hread, valueOf_numeral (by decide) (by decide), List.drop_left]

end Numbers

section Values

def nullWord : Text := [0x6e#8, 0x75#8, 0x6c#8, 0x6c#8]

def booleanWord : Bool → Text
  | true => [0x74#8, 0x72#8, 0x75#8, 0x65#8]
  | false => [0x66#8, 0x61#8, 0x6c#8, 0x73#8, 0x65#8]

mutual

def Value.onto (e : Escaping) : Value → Text → Text
  | .null, rest => nullWord ++ rest
  | .boolean value, rest => booleanWord value ++ rest
  | .number value, rest => numeral 10 value ++ rest
  | .string value, rest => e.quote value rest
  | .object members, rest => 0x7b#8 :: members.onto e rest

def Members.onto (e : Escaping) : Members → Text → Text
  | .nil, rest => 0x7d#8 :: rest
  | .cons key value members, rest =>
    e.quote key (0x3a#8 :: value.onto e (members.after e rest))

def Members.after (e : Escaping) : Members → Text → Text
  | .nil, rest => 0x7d#8 :: rest
  | .cons key value members, rest =>
    0x2c#8 :: e.quote key (0x3a#8 :: value.onto e (members.after e rest))

end

def expect (word input : Text) : Option Text :=
  if word.isPrefixOf input then some (input.drop word.length) else none

def readWord (input : Text) : Option (Value × Text) :=
  match expect nullWord input, expect (booleanWord true) input,
      expect (booleanWord false) input with
  | some rest, _, _ => some (.null, rest)
  | none, some rest, _ => some (.boolean true, rest)
  | none, none, some rest => some (.boolean false, rest)
  | none, none, none => none

mutual

def readValue : Nat → Text → Option (Value × Text)
  | 0, _ => none
  | _ + 1, [] => none
  | fuel + 1, first :: rest =>
    if first = 0x7b#8 then
      if rest.head? = some 0x7d#8 then some (.object .nil, rest.tail)
      else (readMembers fuel rest).map (fun read => (.object read.1, read.2))
    else if first = 0x22#8 then (readString rest).map (fun read => (.string read.1, read.2))
    else if IsDigit first then
      (readNumber (first :: rest)).map (fun read => (.number read.1, read.2))
    else readWord (first :: rest)

def readMembers : Nat → Text → Option (Members × Text)
  | 0, _ => none
  | fuel + 1, input => do
    let rest ← expect [0x22#8] input
    let (key, rest) ← readString rest
    let rest ← expect [0x3a#8] rest
    let (value, rest) ← readValue fuel rest
    if rest.head? = some 0x7d#8 then some (.cons key value .nil, rest.tail)
    else
      let rest ← expect [0x2c#8] rest
      let (members, rest) ← readMembers fuel rest
      some (.cons key value members, rest)

end

def read (input : Text) : Option Value :=
  match readValue input.length input with
  | some (value, []) => some value
  | _ => none

theorem expect_append (word rest : Text) : expect word (word ++ rest) = some rest := by
  rw [expect, if_pos (List.isPrefixOf_iff_prefix.mpr (List.prefix_append word rest)),
    List.drop_left]

theorem startsOutside_after (e : Escaping) (members : Members) (rest : Text) :
    Codes.StartsOutside IsDigit (members.after e rest) := by
  have hbrace : ([0x7d#8] : Text).head? = some 0x7d#8 := rfl
  have hcomma : ([0x2c#8] : Text).head? = some 0x2c#8 := rfl
  cases members with
  | nil => exact .literal hbrace (by decide) rest
  | cons key value members => exact .literal hcomma (by decide) _

theorem quote_length (e : Escaping) (value rest : Text) :
    rest.length < (e.quote value rest).length := by
  rw [Escaping.quote, List.length_cons, List.length_append, List.length_cons]
  omega

mutual

theorem Value.length_onto (e : Escaping) (value : Value) (rest : Text) :
    rest.length < (value.onto e rest).length := by
  cases value with
  | null =>
    rw [Value.onto, List.length_append]
    exact Nat.lt_add_of_pos_left (by decide)
  | boolean value =>
    rw [Value.onto, List.length_append]
    exact Nat.lt_add_of_pos_left (by cases value <;> decide)
  | number value =>
    rw [Value.onto, List.length_append]
    exact Nat.lt_add_of_pos_left (List.length_pos_iff.mpr (numeral_ne_nil value))
  | string value => exact quote_length e value rest
  | object members => exact ((Members.length_onto e members rest).1).trans (Nat.lt_succ_self _)

theorem Members.length_onto (e : Escaping) (members : Members) (rest : Text) :
    rest.length < (members.onto e rest).length ∧ rest.length < (members.after e rest).length := by
  cases members with
  | nil => exact ⟨Nat.lt_succ_self _, Nat.lt_succ_self _⟩
  | cons key value members =>
    have hafter := (Members.length_onto e members rest).2
    have hvalue := Value.length_onto e value (members.after e rest)
    have hquote := quote_length e key (0x3a#8 :: value.onto e (members.after e rest))
    rw [List.length_cons] at hquote
    rw [Members.onto, Members.after, List.length_cons]
    exact ⟨by omega, by omega⟩

end

theorem readWord_null (rest : Text) : readWord (nullWord ++ rest) = some (.null, rest) := by
  rw [readWord, expect_append]

theorem readWord_boolean (value : Bool) (rest : Text) :
    readWord (booleanWord value ++ rest) = some (.boolean value, rest) := by
  cases value with
  | true =>
    have hnull : expect nullWord (booleanWord true ++ rest) = none := rfl
    rw [readWord, hnull, expect_append]
  | false =>
    have hnull : expect nullWord (booleanWord false ++ rest) = none := rfl
    have htrue : expect (booleanWord true) (booleanWord false ++ rest) = none := rfl
    rw [readWord, hnull, htrue, expect_append]

theorem readValue_number (fuel value : Nat) {rest : Text}
    (hrest : Codes.StartsOutside IsDigit rest) :
    readValue (fuel + 1) (numeral 10 value ++ rest) = some (.number value, rest) := by
  have hnumber := readNumber_numeral value hrest
  cases hdecimal : numeral 10 value with
  | nil => exact absurd hdecimal (numeral_ne_nil value)
  | cons first digits =>
    have hfirst : IsDigit first := isDigit_numeral value first (hdecimal ▸ List.mem_cons_self ..)
    have hbrace : first ≠ 0x7b#8 := by
      rintro rfl
      revert hfirst
      decide
    have hquote : first ≠ 0x22#8 := by
      rintro rfl
      revert hfirst
      decide
    rw [hdecimal, List.cons_append] at hnumber
    rw [List.cons_append, readValue, if_neg hbrace, if_neg hquote, if_pos hfirst, hnumber]
    rfl

mutual

theorem readValue_onto (e : Escaping) (value : Value) {fuel : Nat} {rest : Text}
    (hrest : Codes.StartsOutside IsDigit rest) (hfuel : (value.onto e rest).length ≤ fuel) :
    readValue fuel (value.onto e rest) = some (value, rest) := by
  have hpositive := value.length_onto e rest
  obtain ⟨fuel, rfl⟩ := Nat.exists_eq_succ_of_ne_zero (by omega : fuel ≠ 0)
  cases value with
  | null => exact readWord_null rest
  | boolean value =>
    have hword := readWord_boolean value rest
    cases value <;> exact hword
  | number value => exact readValue_number fuel value hrest
  | string value =>
    exact congrArg (Option.map fun read => (Value.string read.1, read.2))
      (readString_escaped e value rest)
  | object members =>
    cases members with
    | nil => rfl
    | cons key value members =>
      have hmembers := readMembers_onto e key value members (Nat.le_of_succ_le_succ hfuel)
      exact congrArg (Option.map fun read => (Value.object read.1, read.2)) hmembers

theorem readMembers_onto (e : Escaping) (key : Text) (value : Value) (members : Members)
    {fuel : Nat} {rest : Text}
    (hfuel : ((Members.cons key value members).onto e rest).length ≤ fuel) :
    readMembers fuel ((Members.cons key value members).onto e rest) =
      some (.cons key value members, rest) := by
  have hkey : expect [0x22#8] ((Members.cons key value members).onto e rest) =
      some (key.flatMap e.escape ++
        0x22#8 :: 0x3a#8 :: value.onto e (members.after e rest)) := expect_append [0x22#8] _
  have hcolon : expect [0x3a#8] (0x3a#8 :: value.onto e (members.after e rest)) =
      some (value.onto e (members.after e rest)) := expect_append [0x3a#8] _
  have hquote := quote_length e key (0x3a#8 :: value.onto e (members.after e rest))
  rw [List.length_cons] at hquote
  rw [Members.onto] at hfuel
  obtain ⟨fuel, rfl⟩ := Nat.exists_eq_succ_of_ne_zero (by omega : fuel ≠ 0)
  have hvalue := readValue_onto e value (startsOutside_after e members rest) (by omega : _ ≤ fuel)
  have hlength := value.length_onto e (members.after e rest)
  simp only [readMembers, hkey, readString_escaped, hcolon, hvalue, Option.bind_eq_bind,
    Option.bind_some]
  cases members with
  | nil => rfl
  | cons key' value' members =>
    have hcomma : expect [0x2c#8] ((Members.cons key' value' members).after e rest) =
        some ((Members.cons key' value' members).onto e rest) := expect_append [0x2c#8] _
    have hnext : ((Members.cons key' value' members).after e rest).length =
        ((Members.cons key' value' members).onto e rest).length + 1 := rfl
    have hfits : ((Members.cons key' value' members).onto e rest).length ≤ fuel := by omega
    have hmembers := readMembers_onto e key' value' members hfits
    have hopen : ((Members.cons key' value' members).after e rest).head? ≠ some 0x7d#8 := by
      change some 0x2c#8 ≠ some 0x7d#8
      decide
    rw [if_neg hopen, hcomma, Option.bind_some, hmembers, Option.bind_some]

end

theorem read_onto (e : Escaping) (value : Value) : read (value.onto e []) = some value := by
  have hnil : Codes.StartsOutside IsDigit ([] : Text) := fun c hc => by cases hc
  rw [read, readValue_onto e value hnil (Nat.le_refl _)]

end Values

end Json
