import Northstar64.CommandLine

namespace Northstar64

section Numbers
open Numerals
variable {base : Nat} {spelling : Text} {value : Nat}

inductive Denotes (base : Nat) : Text → Nat → Prop
  | digit {character : Byte} {digit : Nat} (read : charDigit character = some digit)
      (small : digit < base) : Denotes base [character] digit
  | append {spelling : Text} {value : Nat} {character : Byte} {digit : Nat}
      (first : Denotes base spelling value) (read : charDigit character = some digit)
      (small : digit < base) : Denotes base (spelling ++ [character]) (value * base + digit)

inductive SpellsUnsigned : Text → Nat → Prop
  | decimal {spelling : Text} {value : Nat} (digits : Denotes 10 spelling value) :
      SpellsUnsigned spelling value
  | hex {spelling : Text} {value : Nat} (digits : Denotes 16 spelling value) :
      SpellsUnsigned (text "0x" ++ spelling) value
  | upperHex {spelling : Text} {value : Nat} (digits : Denotes 16 spelling value) :
      SpellsUnsigned (text "0X" ++ spelling) value

theorem isDigit_iff {character : Byte} :
    isDigit base character = true ↔ ∃ digit, charDigit character = some digit ∧ digit < base := by
  rw [isDigit]
  cases charDigit character with
  | none => simp
  | some digit => simp

theorem digitsValue_append {character : Byte} {digit : Nat}
    (read : charDigit character = some digit) :
    valueOf base (spelling ++ [character]) = valueOf base spelling * base + digit := by
  rw [valueOf, List.filterMap_append, List.filterMap_cons_some read, List.filterMap_nil,
    List.reverse_append, List.reverse_singleton, List.singleton_append, Nat.ofDigits_cons,
    Nat.mul_comm, Nat.add_comm, valueOf]

theorem Denotes.digits (h : Denotes base spelling value) :
    spelling ≠ [] ∧ (∀ c ∈ spelling, isDigit base c = true) ∧ valueOf base spelling = value := by
  induction h with
  | digit read small =>
    refine ⟨List.cons_ne_nil _ _, fun c hmem => ?_, ?_⟩
    · rw [List.mem_singleton.mp hmem]
      exact isDigit_iff.mpr ⟨_, read, small⟩
    · rw [valueOf, List.filterMap_cons_some read, List.filterMap_nil, List.reverse_singleton,
        Nat.ofDigits_singleton]
  | append first read small ih =>
    obtain ⟨-, hdigits, hvalue⟩ := ih
    refine ⟨by simp, fun c hmem => ?_, ?_⟩
    · rcases List.mem_append.mp hmem with hfirst | hlast
      · exact hdigits c hfirst
      · rw [List.mem_singleton.mp hlast]
        exact isDigit_iff.mpr ⟨_, read, small⟩
    · rw [digitsValue_append read, hvalue]

theorem denotes_digits (hne : spelling ≠ []) (hdigits : ∀ c ∈ spelling, isDigit base c = true) :
    Denotes base spelling (valueOf base spelling) := by
  induction spelling using List.reverseRecOn with
  | nil => exact absurd rfl hne
  | append_singleton first character ih =>
    obtain ⟨digit, read, small⟩ :=
      isDigit_iff.mp (hdigits character (List.mem_append_right _ (List.mem_singleton_self _)))
    rw [digitsValue_append read]
    cases first with
    | nil =>
      rw [valueOf, List.filterMap_nil, List.reverse_nil, Nat.ofDigits_nil, Nat.zero_mul,
        Nat.zero_add]
      exact .digit read small
    | cons c rest =>
      exact .append (ih (List.cons_ne_nil _ _)
        (fun d hmem => hdigits d (List.mem_append_left _ hmem))) read small

theorem fromChars_iff {parsed : BitVec 64} :
    fromChars base spelling = (.ok parsed, []) ↔ Denotes base spelling parsed.toNat := by
  constructor
  · intro h
    unfold fromChars at h
    dsimp only at h
    split_ifs at h with hnone hlarge
    · cases h
    · cases h
    · obtain ⟨hparsed, hrest⟩ := Prod.mk.inj h
      have hwhole : spelling.takeWhile (isDigit base) = spelling :=
        (List.takeWhile_prefix _).eq_of_length_le (List.drop_eq_nil_iff.mp hrest)
      rw [hwhole] at hnone hlarge hparsed
      rw [← Except.ok.inj hparsed, BitVec.toNat_ofNat, Nat.mod_eq_of_lt (Nat.lt_of_not_le hlarge)]
      exact denotes_digits hnone (List.takeWhile_eq_self_iff.mp hwhole)
  · intro h
    obtain ⟨hne, hdigits, hvalue⟩ := h.digits
    have hwhole := List.takeWhile_eq_self_iff.mpr hdigits
    unfold fromChars
    dsimp only
    rw [hwhole, hvalue, if_neg hne, if_neg (Nat.not_le_of_lt parsed.isLt), List.drop_length,
      BitVec.ofNat_toNat, BitVec.setWidth_eq]

theorem hasHexPrefix_iff : hasHexPrefix spelling = true ↔
    ∃ rest, spelling = text "0x" ++ rest ∨ spelling = text "0X" ++ rest := by
  rw [hasHexPrefix, Bool.or_eq_true, List.isPrefixOf_iff_prefix, List.isPrefixOf_iff_prefix,
    exists_or]
  exact or_congr (exists_congr fun _ => eq_comm) (exists_congr fun _ => eq_comm)

theorem not_denotes_prefixed (rest : Text) : ¬ Denotes 10 (text "0x" ++ rest) value ∧
    ¬ Denotes 10 (text "0X" ++ rest) value := by
  constructor
  · intro h
    have hletter := h.digits.2.1 0x78#8 (List.mem_append_left rest (by decide))
    revert hletter
    decide
  · intro h
    have hletter := h.digits.2.1 0x58#8 (List.mem_append_left rest (by decide))
    revert hletter
    decide

theorem spellsUnsigned_prefixed {rest : Text}
    (hspelling : spelling = text "0x" ++ rest ∨ spelling = text "0X" ++ rest) :
    SpellsUnsigned spelling value ↔ Denotes 16 rest value := by
  constructor
  · intro h
    cases h with
    | decimal digits =>
      rcases hspelling with rfl | rfl
      · exact absurd digits (not_denotes_prefixed rest).1
      · exact absurd digits (not_denotes_prefixed rest).2
    | hex digits =>
      rcases hspelling with heq | heq
      · rwa [← List.append_cancel_left heq]
      · cases heq
    | upperHex digits =>
      rcases hspelling with heq | heq
      · cases heq
      · rwa [← List.append_cancel_left heq]
  · intro h
    rcases hspelling with rfl | rfl
    · exact .hex h
    · exact .upperHex h

theorem spellsUnsigned_unprefixed (h : hasHexPrefix spelling = false) :
    SpellsUnsigned spelling value ↔ Denotes 10 spelling value := by
  constructor
  · intro hspells
    cases hspells with
    | decimal digits => exact digits
    | hex digits => cases h.symm.trans (hasHexPrefix_iff.mpr ⟨_, .inl rfl⟩)
    | upperHex digits => cases h.symm.trans (hasHexPrefix_iff.mpr ⟨_, .inr rfl⟩)
  · exact .decimal

theorem parseUnsigned_body {label : Text} {parsed : BitVec 64} :
    (if spelling = [] then Except.error (label ++ text " is empty")
      else match fromChars base spelling with
        | (.ok parsed, []) => Except.ok parsed
        | _ => .error (text "invalid " ++ label ++ text ": " ++ spelling)) =
      Except.ok parsed ↔ Denotes base spelling parsed.toNat := by
  rw [← fromChars_iff]
  by_cases hempty : spelling = []
  · rw [if_pos hempty]
    subst hempty
    exact iff_of_false (by simp) (by simp [fromChars])
  · rw [if_neg hempty]
    generalize fromChars base spelling = result
    obtain ⟨error | parsed', _ | ⟨c, rest⟩⟩ := result <;> simp

theorem parseUnsigned_iff {label : Text} {parsed : BitVec 64} :
    parseUnsigned spelling label = .ok parsed ↔ SpellsUnsigned spelling parsed.toNat := by
  unfold parseUnsigned
  cases hprefix : hasHexPrefix spelling with
  | false =>
    rw [spellsUnsigned_unprefixed hprefix]
    exact parseUnsigned_body
  | true =>
    obtain ⟨rest, hspelling⟩ := hasHexPrefix_iff.mp hprefix
    have hdrop : spelling.drop 2 = rest := by
      rcases hspelling with rfl | rfl <;> rfl
    rw [spellsUnsigned_prefixed hspelling]
    simp only [if_true, hdrop]
    exact parseUnsigned_body

def complaint (spelling label : Text) : Text :=
  let body := if hasHexPrefix spelling then spelling.drop 2 else spelling
  if body = [] then label ++ text " is empty"
  else text "invalid " ++ label ++ text ": " ++ body

theorem parseUnsigned_cases (spelling label : Text) :
    (∃ parsed, parseUnsigned spelling label = .ok parsed) ∨
      parseUnsigned spelling label = .error (complaint spelling label) := by
  unfold parseUnsigned complaint
  dsimp only
  generalize (if hasHexPrefix spelling = true then spelling.drop 2 else spelling) = body
  generalize (if hasHexPrefix spelling = true then 16 else 10) = base
  by_cases hempty : body = []
  · rw [if_pos hempty, if_pos hempty]
    exact .inr rfl
  · rw [if_neg hempty, if_neg hempty]
    generalize fromChars base body = result
    obtain ⟨error | parsed, _ | ⟨c, rest⟩⟩ := result
    · exact .inr rfl
    · exact .inr rfl
    · exact .inl ⟨parsed, rfl⟩
    · exact .inr rfl

theorem parseUnsigned_error {label : Text}
    (h : ∀ parsed : BitVec 64, ¬ SpellsUnsigned spelling parsed.toNat) :
    parseUnsigned spelling label = .error (complaint spelling label) := by
  rcases parseUnsigned_cases spelling label with ⟨parsed, hparsed⟩ | herror
  · exact absurd (parseUnsigned_iff.mp hparsed) (h parsed)
  · exact herror

end Numbers

inductive RunOption where
  | maxSteps (count : BitVec 64)
  | trace (path : Text)
  | trapPolicy (policy : TrapPolicy)
  deriving DecidableEq, Repr

namespace RunOption

def asMaxSteps : RunOption → Option (BitVec 64)
  | .maxSteps count => some count
  | _ => none

def asTrace : RunOption → Option Text
  | .trace path => some path
  | _ => none

def asTrapPolicy : RunOption → Option TrapPolicy
  | .trapPolicy policy => some policy
  | _ => none

inductive Spelled : RunOption → Text → Text → Prop
  | maxSteps {value : Text} {count : BitVec 64} (number : SpellsUnsigned value count.toNat) :
      Spelled (.maxSteps count) (text "--max-steps") value
  | trace (path : Text) : Spelled (.trace path) (text "--trace") path
  | halt : Spelled (.trapPolicy .halt) (text "--trap-policy") (text "halt")
  | vector : Spelled (.trapPolicy .vector) (text "--trap-policy") (text "vector")

end RunOption

inductive SpelledOptions : List RunOption → List Text → Prop
  | nil : SpelledOptions [] []
  | cons {option : RunOption} {name value : Text} {options : List RunOption}
      {arguments : List Text} (first : option.Spelled name value)
      (rest : SpelledOptions options arguments) :
      SpelledOptions (option :: options) (name :: value :: arguments)

def RunSettings.chosen (settings : RunSettings) (options : List RunOption) : RunSettings where
  maximumSteps := (options.filterMap RunOption.asMaxSteps).getLastD settings.maximumSteps
  tracePath := (options.filterMap RunOption.asTrace).getLastD settings.tracePath
  trapPolicy := (options.filterMap RunOption.asTrapPolicy).getLastD settings.trapPolicy

inductive Misspelled : List Text → Text → Prop
  | noCount : Misspelled [text "--max-steps"] (text "--max-steps requires a value")
  | noPath : Misspelled [text "--trace"] (text "--trace requires a file path")
  | noPolicy :
      Misspelled [text "--trap-policy"] (text "--trap-policy requires halt or vector")
  | count {value : Text} {rest : List Text}
      (unread : ∀ count : BitVec 64, ¬ SpellsUnsigned value count.toNat) :
      Misspelled (text "--max-steps" :: value :: rest)
        (complaint value (text "maximum step count"))
  | policy {value : Text} {rest : List Text} (halt : value ≠ text "halt")
      (vector : value ≠ text "vector") :
      Misspelled (text "--trap-policy" :: value :: rest)
        (text "--trap-policy requires halt or vector")
  | unknown {name : Text} {rest : List Text} (maxSteps : name ≠ text "--max-steps")
      (trace : name ≠ text "--trace") (trapPolicy : name ≠ text "--trap-policy") :
      Misspelled (name :: rest) (text "unknown run option: " ++ name)

section Options
variable {settings : RunSettings} {option : RunOption} {options : List RunOption}
  {name value what : Text} {arguments rest : List Text}

theorem RunSettings.chosen_cons :
    settings.chosen (option :: options) = (settings.chosen [option]).chosen options := by
  cases option <;> simp only [chosen, RunOption.asMaxSteps, RunOption.asTrace,
    RunOption.asTrapPolicy, List.filterMap_cons, List.filterMap_nil, List.getLastD_cons,
    List.getLastD_nil]

theorem parseRunOptions_option (h : option.Spelled name value) :
    parseRunOptions settings (name :: value :: rest) =
      parseRunOptions (settings.chosen [option]) rest := by
  cases h with
  | @maxSteps value count number =>
    have hparsed : parseUnsigned value (text "maximum step count") = .ok count :=
      parseUnsigned_iff.mpr number
    rw [parseRunOptions, if_pos rfl]
    simp only [hparsed]
    rfl
  | trace path =>
    rw [parseRunOptions, if_neg (by decide), if_pos rfl]
    rfl
  | halt =>
    rw [parseRunOptions, if_neg (by decide), if_neg (by decide), if_pos rfl]
    rfl
  | vector =>
    rw [parseRunOptions, if_neg (by decide), if_neg (by decide), if_pos rfl]
    rfl

theorem parseRunOptions_misspelled (h : Misspelled arguments what) :
    parseRunOptions settings arguments = .error what := by
  cases h with
  | noCount => rfl
  | noPath => rfl
  | noPolicy => rfl
  | count unread =>
    rw [parseRunOptions, if_pos rfl]
    simp only [parseUnsigned_error unread]
  | policy halt vector =>
    rw [parseRunOptions, if_neg (by decide), if_neg (by decide), if_pos rfl]
    simp only [parseTrapPolicy, if_neg halt, if_neg vector]
  | unknown maxSteps trace trapPolicy =>
    unfold parseRunOptions
    rw [if_neg maxSteps, if_neg trace, if_neg trapPolicy]

theorem parseRunOptions_append (h : SpelledOptions options arguments) :
    parseRunOptions settings (arguments ++ rest) =
      parseRunOptions (settings.chosen options) rest := by
  induction h generalizing settings with
  | nil => rfl
  | cons first rest ih =>
    rw [RunSettings.chosen_cons]
    exact (parseRunOptions_option first).trans ih

theorem spelled_trapPolicy (value : Text) :
    (∃ option : RunOption, option.Spelled (text "--trap-policy") value) ∨
      (value ≠ text "halt" ∧ value ≠ text "vector") := by
  by_cases hhalt : value = text "halt"
  · subst hhalt
    exact .inl ⟨_, .halt⟩
  · by_cases hvector : value = text "vector"
    · subst hvector
      exact .inl ⟨_, .vector⟩
    · exact .inr ⟨hhalt, hvector⟩

theorem spelled_or_misspelled (name value : Text) (rest : List Text) :
    (∃ option : RunOption, option.Spelled name value) ∨
      ∃ what, Misspelled (name :: value :: rest) what := by
  by_cases hsteps : name = text "--max-steps"
  · subst hsteps
    rcases Classical.em (∃ count : BitVec 64, SpellsUnsigned value count.toNat) with
      ⟨count, number⟩ | hunread
    · exact .inl ⟨_, .maxSteps number⟩
    · exact .inr ⟨_, .count fun count number => hunread ⟨count, number⟩⟩
  · by_cases htrace : name = text "--trace"
    · subst htrace
      exact .inl ⟨_, .trace value⟩
    · by_cases hpolicy : name = text "--trap-policy"
      · subst hpolicy
        exact (spelled_trapPolicy value).imp_right fun ⟨halt, vector⟩ => ⟨_, .policy halt vector⟩
      · exact .inr ⟨_, .unknown hsteps htrace hpolicy⟩

theorem misspelled_alone (name : Text) : ∃ what, Misspelled [name] what := by
  by_cases hsteps : name = text "--max-steps"
  · subst hsteps
    exact ⟨_, .noCount⟩
  · by_cases htrace : name = text "--trace"
    · subst htrace
      exact ⟨_, .noPath⟩
    · by_cases hpolicy : name = text "--trap-policy"
      · subst hpolicy
        exact ⟨_, .noPolicy⟩
      · exact ⟨_, .unknown hsteps htrace hpolicy⟩

theorem spelledOptions_front : ∀ arguments : List Text, ∃ options spelled rest,
    SpelledOptions options spelled ∧ arguments = spelled ++ rest ∧
      (rest = [] ∨ ∃ what, Misspelled rest what)
  | [] => ⟨[], [], [], .nil, rfl, .inl rfl⟩
  | [name] => ⟨[], [], [name], .nil, rfl, .inr (misspelled_alone name)⟩
  | name :: value :: arguments => by
    rcases spelled_or_misspelled name value arguments with ⟨option, hspelled⟩ | hmisspelled
    · obtain ⟨options, spelled, rest, hoptions, rfl, hrest⟩ := spelledOptions_front arguments
      exact ⟨option :: options, name :: value :: spelled, rest, .cons hspelled hoptions, rfl, hrest⟩
    · exact ⟨[], [], name :: value :: arguments, .nil, rfl, .inr hmisspelled⟩

theorem parseRunOptions_spelled (h : SpelledOptions options arguments) :
    parseRunOptions settings arguments = .ok (settings.chosen options) := by
  have happend : parseRunOptions settings (arguments ++ []) = _ := parseRunOptions_append h
  rwa [List.append_nil] at happend

structure ReadsOptions (settings : RunSettings) (arguments : List Text) : Prop where
  accepts : ∀ final, parseRunOptions settings arguments = .ok final ↔
    ∃ options, SpelledOptions options arguments ∧ settings.chosen options = final
  rejects : ∀ what, parseRunOptions settings arguments = .error what ↔
    ∃ options spelled rest, SpelledOptions options spelled ∧ arguments = spelled ++ rest ∧
      Misspelled rest what

theorem run_options_read_exactly (settings : RunSettings) (arguments : List Text) :
    ReadsOptions settings arguments := by
  obtain ⟨options, spelled, rest, hoptions, rfl, hrest⟩ := spelledOptions_front arguments
  have hread : parseRunOptions settings (spelled ++ rest) = _ := parseRunOptions_append hoptions
  constructor
  · intro final
    constructor
    · intro h
      rcases hrest with rfl | ⟨what, hmisspelled⟩
      · rw [List.append_nil] at h ⊢
        exact ⟨options, hoptions, Except.ok.inj ((parseRunOptions_spelled hoptions).symm.trans h)⟩
      · rw [hread, parseRunOptions_misspelled hmisspelled] at h
        cases h
    · rintro ⟨options', hoptions', rfl⟩
      exact parseRunOptions_spelled hoptions'
  · intro what
    constructor
    · intro h
      rcases hrest with rfl | ⟨what', hmisspelled⟩
      · rw [hread] at h
        cases h
      · rw [hread, parseRunOptions_misspelled hmisspelled] at h
        exact ⟨options, spelled, rest, hoptions, rfl, Except.error.inj h ▸ hmisspelled⟩
    · rintro ⟨options', spelled', rest', hoptions', heq, hmisspelled⟩
      rw [heq, parseRunOptions_append hoptions', parseRunOptions_misspelled hmisspelled]

end Options

end Northstar64
