import Northstar64.Trace
import Northstar64.TraceFiles
import Northstar64.Library.Codes

namespace Northstar64

-- `std::setw` takes an `int`; a width that is not above the length pads nothing.
def setw (width : Int) (output : Text) : Text :=
  List.replicate (width - output.length).toNat 0x30#8 ++ output

def escapeCharacter (character : Byte) : Text :=
  if character = 0x22#8 then text "\\\""
  else if character = 0x5c#8 then text "\\\\"
  else if character = 0x08#8 then text "\\b"
  else if character = 0x0c#8 then text "\\f"
  else if character = newline then text "\\n"
  else if character = 0x0d#8 then text "\\r"
  else if character = 0x09#8 then text "\\t"
  else if character < 0x20#8 then text "\\u" ++ setw 4 (toHex character.toNat)
  else [character]

def escapeJson (input : Text) : Text := input.flatMap escapeCharacter

def hexValue (value : BitVec 64) (digits : BitVec 32) : Text :=
  text "0x" ++ setw digits.toInt (toHex value.toNat)

def formatFlag (flag : Bool) : Text := if flag then text "true" else text "false"

def orNull {α : Type} (format : α → Text) (field : Option α) : Text :=
  field.elim (text "null") format

def formatRegisterWrite (write : RegisterWrite) : Text :=
  List.flatten
    [text "\x7b\"index\":", toDecimal write.index.toNat,
      text ",\"value\":\"", hexValue write.value 16#32, text "\"\x7d"]

def formatTranslation (translation : AddressTranslation) : Text :=
  List.flatten
    [text "\x7b\"virtual_address\":\"", hexValue translation.virtualAddress 16#32,
      text "\",\"physical_address\":\"", hexValue translation.physicalAddress 16#32,
      text "\"\x7d"]

def formatMemoryWrite (write : MemoryWrite) : Text :=
  List.flatten
    [text "\x7b\"address\":\"", hexValue write.address 16#32,
      text "\",\"width\":", toDecimal write.width,
      text ",\"value\":\"", hexValue write.value (BitVec.ofNat 32 (write.width * 2)),
      text "\",\"physical_address\":\"", hexValue write.physicalAddress 16#32, text "\"\x7d"]

def formatTrap (trap : Trap) : Text :=
  List.flatten
    [text "\x7b\"cause\":", toDecimal trap.cause.code.toNat,
      text ",\"name\":\"", trapName trap.cause,
      text "\",\"value\":\"", hexValue trap.value 16#32,
      text "\",\"detail\":\"", escapeJson trap.detail, text "\"\x7d"]

def formatTraceRecord (record : StepRecord) : Text :=
  List.flatten
    [text "\x7b\"sequence\":", toDecimal record.sequence.toNat,
      text ",\"pc\":\"", hexValue record.pc 16#32,
      text "\",\"privilege\":\"", privilegeName record.privilege,
      text "\",\"instruction\":\"", hexValue (record.instruction.setWidth 64) 8#32,
      text "\",\"assembly\":\"", escapeJson record.assembly,
      text "\",\"next_pc\":\"", hexValue record.nextPc 16#32,
      text "\",\"next_privilege\":\"", privilegeName record.nextPrivilege,
      text "\",\"retired\":", formatFlag record.retired,
      text ",\"halted\":", formatFlag record.halted,
      text ",\"register_write\":", orNull formatRegisterWrite record.registerWrite,
      text ",\"instruction_translation\":", orNull formatTranslation record.instructionTranslation,
      text ",\"data_translation\":", orNull formatTranslation record.dataTranslation,
      text ",\"memory_write\":", orNull formatMemoryWrite record.memoryWrite,
      text ",\"trap\":", orNull formatTrap record.trap, text "\x7d"]

section Numerals
open Numerals

def NumeralCharacter (character : Byte) : Prop :=
  (0x30#8 ≤ character ∧ character ≤ 0x39#8) ∨ (0x61#8 ≤ character ∧ character ≤ 0x66#8) ∨
    character = 0x78#8

instance : DecidablePred NumeralCharacter := fun _ => inferInstanceAs (Decidable (_ ∨ _ ∨ _))

variable {base : Nat}

theorem numeralCharacter_digitCharacter {digit : Nat} (h : digit < 16) :
    NumeralCharacter (digitCharacter digit) := by
  revert h digit
  decide

theorem valueOf_setw (width : Int) (output : Text) :
    valueOf base (setw width output) = valueOf base output :=
  valueOf_padded _ _

theorem numeralCharacter_numeral (hbase : 1 < base) (hdigits : base ≤ 16) {value : Nat} :
    ∀ c ∈ numeral base value, NumeralCharacter c := by
  intro c hmem
  obtain ⟨digits, hnumeral, hsmall, -⟩ := numeral_digits hbase value
  rw [hnumeral] at hmem
  obtain ⟨digit, hdigit, rfl⟩ := List.mem_map.mp hmem
  exact numeralCharacter_digitCharacter ((hsmall digit hdigit).trans_le hdigits)

theorem toDecimal_injective : Function.Injective toDecimal := by
  intro a b h
  have hvalue := congrArg (valueOf 10) h
  rwa [toDecimal, toDecimal, valueOf_numeral (by decide) (by decide),
    valueOf_numeral (by decide) (by decide)] at hvalue

theorem hexValue_injective (digits : BitVec 32) :
    Function.Injective (fun value => hexValue value digits) := by
  intro a b h
  have hvalue := congrArg (valueOf 16) (List.append_cancel_left h)
  rw [valueOf_setw, valueOf_setw, toHex, toHex,
    valueOf_numeral (by decide) (by decide),
    valueOf_numeral (by decide) (by decide)] at hvalue
  exact BitVec.eq_of_toNat_eq hvalue

theorem numeralCharacter_toDecimal (value : Nat) : ∀ c ∈ toDecimal value, NumeralCharacter c :=
  numeralCharacter_numeral (by decide) (by decide)

theorem numeralCharacter_hexValue (value : BitVec 64) (digits : BitVec 32) :
    ∀ c ∈ hexValue value digits, NumeralCharacter c := by
  intro c hmem
  rw [hexValue, setw, List.mem_append, List.mem_append] at hmem
  rcases hmem with hmem | hmem | hmem
  · revert c
    decide
  · rw [List.eq_of_mem_replicate hmem]
    decide
  · exact numeralCharacter_numeral (by decide) (by decide) c hmem

end Numerals

section Escapes

def unescapeShort (kind : Byte) : Byte :=
  if kind = 0x62#8 then 0x08#8
  else if kind = 0x66#8 then 0x0c#8
  else if kind = 0x6e#8 then newline
  else if kind = 0x72#8 then 0x0d#8
  else if kind = 0x74#8 then 0x09#8
  else kind

def unescapeCode : Text → Option Byte
  | _ :: _ :: high :: low :: _ => some (BitVec.ofNat 8 (Numerals.valueOf 16 [high, low]))
  | _ => none

def unescape : Text → Option Byte
  | [] => none
  | character :: rest =>
    if character ≠ 0x5c#8 then some character
    else match rest with
      | [] => none
      | kind :: code => if kind = 0x75#8 then unescapeCode code else some (unescapeShort kind)

theorem unescapeCode_append {code : Text} {character : Byte}
    (h : unescapeCode code = some character) (rest : Text) :
    unescapeCode (code ++ rest) = some character := by
  match code, h with
  | _ :: _ :: _ :: _ :: _, h => exact h

theorem unescape_append {escaped : Text} {character : Byte} (h : unescape escaped = some character)
    (rest : Text) : unescape (escaped ++ rest) = some character := by
  cases escaped with
  | nil => cases h
  | cons first escaped =>
    rw [List.cons_append]
    unfold unescape at h ⊢
    dsimp only at h ⊢
    split_ifs at h ⊢ with hplain
    · exact h
    · cases escaped with
      | nil => cases h
      | cons kind code =>
        rw [List.cons_append]
        dsimp only at h ⊢
        split_ifs at h ⊢ with hcode
        · exact unescapeCode_append h rest
        · exact h

theorem unescape_escapeCharacter : ∀ character : Byte,
    unescape (escapeCharacter character) = some character := by
  decide +kernel

theorem escapeCharacter_ne_nil : ∀ character : Byte, escapeCharacter character ≠ [] := by
  decide +kernel

theorem escapeCharacter_head : ∀ character : Byte,
    (escapeCharacter character).head? ≠ some 0x22#8 := by
  decide +kernel

theorem newline_notMem_escapeCharacter : ∀ character : Byte,
    newline ∉ escapeCharacter character := by
  decide +kernel

end Escapes

end Northstar64
