import Northstar64.RoundTrip
import Northstar64.TraceRecords

namespace Northstar64
open Codes

inductive AssemblyForm where
  | upper
  | immediate
  | load
  | store
  | branch
  | registers
  | csr
  | csrImmediate
  | pair
  | bare
  deriving DecidableEq, Repr

namespace AssemblyForm

def ofOperation : Operation → AssemblyForm
  | .lui | .auipc | .jal => .upper
  | .jalr | .addi | .slti | .sltiu | .xori | .ori | .andi | .slli | .srli | .srai | .addiw
  | .slliw | .srliw | .sraiw => .immediate
  | .lb | .lh | .lw | .ld | .lbu | .lhu | .lwu => .load
  | .sb | .sh | .sw | .sd => .store
  | .beq | .bne | .blt | .bge | .bltu | .bgeu => .branch
  | .add | .sub | .sll | .slt | .sltu | .xor | .srl | .sra | .or | .and | .addw | .subw | .sllw
  | .srlw | .sraw => .registers
  | .csrrw | .csrrs | .csrrc => .csr
  | .csrrwi | .csrrsi | .csrrci => .csrImmediate
  | .fence | .fenceI | .ecall | .ebreak | .sret | .mret | .wfi => .bare
  | .sfenceVma => .pair

def operandText (form : AssemblyForm) (decoded : DecodedInstruction) : Text :=
  let rd := toDecimal decoded.rd.toNat
  let rs1 := toDecimal decoded.rs1.toNat
  let rs2 := toDecimal decoded.rs2.toNat
  let immediate := signedDecimal decoded.immediate.toInt
  let csr := toHex decoded.csr.toNat
  List.flatten (match form with
    | .upper => [text " ", text "x", rd, text ", ", immediate]
    | .immediate => [text " ", text "x", rd, text ", ", text "x", rs1, text ", ", immediate]
    | .load => [text " ", text "x", rd, text ", ", immediate, text "(", text "x", rs1, text ")"]
    | .store => [text " ", text "x", rs2, text ", ", immediate, text "(", text "x", rs1, text ")"]
    | .branch => [text " ", text "x", rs1, text ", ", text "x", rs2, text ", ", immediate]
    | .registers => [text " ", text "x", rd, text ", ", text "x", rs1, text ", ", text "x", rs2]
    | .csr => [text " ", text "x", rd, text ", ", text "0x", csr, text ", ", text "x", rs1]
    | .csrImmediate => [text " ", text "x", rd, text ", ", text "0x", csr, text ", ", rs1]
    | .pair => [text " ", text "x", rs1, text ", ", text "x", rs2]
    | .bare => [])

def Agrees (form : AssemblyForm) (a b : DecodedInstruction) : Prop :=
  match form with
  | .upper => a.rd = b.rd ∧ a.immediate = b.immediate
  | .immediate | .load => a.rd = b.rd ∧ a.rs1 = b.rs1 ∧ a.immediate = b.immediate
  | .store | .branch => a.rs1 = b.rs1 ∧ a.rs2 = b.rs2 ∧ a.immediate = b.immediate
  | .registers => a.rd = b.rd ∧ a.rs1 = b.rs1 ∧ a.rs2 = b.rs2
  | .csr | .csrImmediate => a.rd = b.rd ∧ a.csr = b.csr ∧ a.rs1 = b.rs1
  | .pair => a.rs1 = b.rs1 ∧ a.rs2 = b.rs2
  | .bare => True

end AssemblyForm

theorem disassemble_eq (decoded : DecodedInstruction) :
    disassemble decoded = operationName decoded.operation ++
      (AssemblyForm.ofOperation decoded.operation).operandText decoded := by
  obtain ⟨operation, raw, rd, rs1, rs2, immediate, csr⟩ := decoded
  cases operation <;> simp only [disassemble, AssemblyForm.operandText, AssemblyForm.ofOperation,
    registerName, List.flatten_cons, List.flatten_nil, List.append_assoc, List.append_nil]

section Fields

def SignedCharacter (character : Byte) : Prop := NumeralCharacter character ∨ character = 0x2d#8

instance : DecidablePred SignedCharacter := fun _ => inferInstanceAs (Decidable (_ ∨ _))

def MnemonicCharacter (character : Byte) : Prop := character ≠ 0x20#8

instance : DecidablePred MnemonicCharacter := fun _ => inferInstanceAs (Decidable (_ ≠ _))

theorem toHex_injective : Function.Injective toHex := by
  intro a b h
  have hvalue := congrArg (Numerals.valueOf 16) h
  rwa [toHex, toHex, Numerals.valueOf_numeral (by decide) (by decide),
    Numerals.valueOf_numeral (by decide) (by decide)] at hvalue

theorem toHex_peels : Peels (StartsOutside NumeralCharacter) toHex :=
  .of_alphabet toHex_injective (fun _ => numeralCharacter_numeral (by decide) (by decide))

theorem minus_ne_toDecimal (a b : Nat) : text "-" ++ toDecimal a ≠ toDecimal b := by
  intro h
  have hminus := numeralCharacter_toDecimal b 0x2d#8
    (h ▸ List.mem_append_left _ (List.mem_singleton_self _))
  revert hminus
  decide

theorem signedDecimal_injective : Function.Injective signedDecimal := by
  intro a b h
  rw [signedDecimal, signedDecimal] at h
  split_ifs at h with ha hb hb
  · have hvalue := toDecimal_injective (List.append_cancel_left h)
    omega
  · exact absurd h (minus_ne_toDecimal _ _)
  · exact absurd h.symm (minus_ne_toDecimal _ _)
  · have hvalue := toDecimal_injective h
    omega

theorem signedCharacter_signedDecimal (value : Int) :
    ∀ c ∈ signedDecimal value, SignedCharacter c := by
  intro c hmem
  rw [signedDecimal] at hmem
  split_ifs at hmem
  · rcases List.mem_append.mp hmem with hminus | hdigits
    · exact .inr (List.mem_singleton.mp hminus)
    · exact .inl (numeralCharacter_toDecimal _ c hdigits)
  · exact .inl (numeralCharacter_toDecimal _ c hmem)

theorem signedDecimal_peels : Peels (StartsOutside SignedCharacter) signedDecimal :=
  .of_alphabet signedDecimal_injective signedCharacter_signedDecimal

def operations : List Operation :=
  [.lui, .auipc, .jal, .jalr, .beq, .bne, .blt, .bge, .bltu, .bgeu, .lb, .lh, .lw, .ld, .lbu, .lhu,
    .lwu, .sb, .sh, .sw, .sd, .addi, .slti, .sltiu, .xori, .ori, .andi, .slli, .srli, .srai, .addiw,
    .slliw, .srliw, .sraiw, .add, .sub, .sll, .slt, .sltu, .xor, .srl, .sra, .or, .and, .addw,
    .subw, .sllw, .srlw, .sraw, .fence, .fenceI, .sfenceVma, .ecall, .ebreak, .sret, .mret, .wfi,
    .csrrw, .csrrs, .csrrc, .csrrwi, .csrrsi, .csrrci]

theorem mem_operations (operation : Operation) : operation ∈ operations := by
  cases operation <;> decide

-- One number for each mnemonic, which the kernel compares faster than texts.
def mnemonicKey (mnemonic : Text) : Nat := Nat.ofDigits 256 (mnemonic.map BitVec.toNat)

theorem operationName_injective : Function.Injective operationName := by
  have hnodup : (operations.map (fun operation => mnemonicKey (operationName operation))).Nodup := by
    decide +kernel
  intro a b h
  exact List.inj_on_of_nodup_map hnodup (mem_operations a) (mem_operations b)
    (congrArg mnemonicKey h)

theorem mnemonicCharacter_operationName (operation : Operation) :
    ∀ c ∈ operationName operation, MnemonicCharacter c := by
  have hspace : ∀ operation ∈ operations, 0x20#8 ∉ operationName operation := by decide +kernel
  exact fun c hmem heq => hspace operation (mem_operations operation) (heq ▸ hmem)

theorem operationName_peels : Peels (StartsOutside MnemonicCharacter) operationName :=
  .of_alphabet operationName_injective mnemonicCharacter_operationName

variable {literal rest rest' : Text} {stop : Byte}

theorem index_field {a b : RegisterIndex} (hliteral : literal.head? = some stop)
    (hstop : ¬ NumeralCharacter stop)
    (h : toDecimal a.toNat ++ (literal ++ rest) = toDecimal b.toNat ++ (literal ++ rest')) :
    a = b ∧ rest = rest' := by
  obtain ⟨hvalue, hrest⟩ := toDecimal_field hliteral hstop h
  exact ⟨BitVec.eq_of_toNat_eq hvalue, hrest⟩

theorem index_last {a b : RegisterIndex} (h : toDecimal a.toNat ++ [] = toDecimal b.toNat ++ []) :
    a = b := by
  rw [List.append_nil, List.append_nil] at h
  exact BitVec.eq_of_toNat_eq (toDecimal_injective h)

theorem immediate_field {a b : BitVec 64} (hliteral : literal.head? = some stop)
    (hstop : ¬ SignedCharacter stop)
    (h : signedDecimal a.toInt ++ (literal ++ rest) = signedDecimal b.toInt ++ (literal ++ rest')) :
    a = b ∧ rest = rest' := by
  obtain ⟨hvalue, hrest⟩ := signedDecimal_peels.field (StartsOutside.literal hliteral hstop) h
  exact ⟨BitVec.eq_of_toInt_eq hvalue, hrest⟩

theorem immediate_last {a b : BitVec 64}
    (h : signedDecimal a.toInt ++ [] = signedDecimal b.toInt ++ []) : a = b := by
  rw [List.append_nil, List.append_nil] at h
  exact BitVec.eq_of_toInt_eq (signedDecimal_injective h)

theorem csr_field {a b : BitVec 16} (hliteral : literal.head? = some stop)
    (hstop : ¬ NumeralCharacter stop)
    (h : toHex a.toNat ++ (literal ++ rest) = toHex b.toNat ++ (literal ++ rest')) :
    a = b ∧ rest = rest' := by
  obtain ⟨hvalue, hrest⟩ := toHex_peels.field (StartsOutside.literal hliteral hstop) h
  exact ⟨BitVec.eq_of_toNat_eq hvalue, hrest⟩

end Fields

theorem operandText_agrees {form : AssemblyForm} {a b : DecodedInstruction}
    (h : form.operandText a = form.operandText b) : form.Agrees a b := by
  cases form
  all_goals simp only [AssemblyForm.operandText, List.flatten_cons, List.flatten_nil] at h
  case bare => trivial
  all_goals replace h := List.append_cancel_left (List.append_cancel_left h)
  case upper =>
    obtain ⟨hrd, h⟩ := index_field rfl (by decide) h
    exact ⟨hrd, immediate_last h⟩
  case immediate =>
    obtain ⟨hrd, h⟩ := index_field rfl (by decide) h
    obtain ⟨hrs1, h⟩ := index_field rfl (by decide) (List.append_cancel_left h)
    exact ⟨hrd, hrs1, immediate_last h⟩
  case load =>
    obtain ⟨hrd, h⟩ := index_field rfl (by decide) h
    obtain ⟨himmediate, h⟩ := immediate_field rfl (by decide) h
    obtain ⟨hrs1, -⟩ := index_field rfl (by decide) (List.append_cancel_left h)
    exact ⟨hrd, hrs1, himmediate⟩
  case store =>
    obtain ⟨hrs2, h⟩ := index_field rfl (by decide) h
    obtain ⟨himmediate, h⟩ := immediate_field rfl (by decide) h
    obtain ⟨hrs1, -⟩ := index_field rfl (by decide) (List.append_cancel_left h)
    exact ⟨hrs1, hrs2, himmediate⟩
  case branch =>
    obtain ⟨hrs1, h⟩ := index_field rfl (by decide) h
    obtain ⟨hrs2, h⟩ := index_field rfl (by decide) (List.append_cancel_left h)
    exact ⟨hrs1, hrs2, immediate_last h⟩
  case registers =>
    obtain ⟨hrd, h⟩ := index_field rfl (by decide) h
    obtain ⟨hrs1, h⟩ := index_field rfl (by decide) (List.append_cancel_left h)
    exact ⟨hrd, hrs1, index_last (List.append_cancel_left h)⟩
  case csr =>
    obtain ⟨hrd, h⟩ := index_field rfl (by decide) h
    obtain ⟨hcsr, h⟩ := csr_field rfl (by decide) (List.append_cancel_left h)
    exact ⟨hrd, hcsr, index_last (List.append_cancel_left h)⟩
  case csrImmediate =>
    obtain ⟨hrd, h⟩ := index_field rfl (by decide) h
    obtain ⟨hcsr, h⟩ := csr_field rfl (by decide) (List.append_cancel_left h)
    exact ⟨hrd, hcsr, index_last h⟩
  case pair =>
    obtain ⟨hrs1, h⟩ := index_field rfl (by decide) h
    exact ⟨hrs1, index_last (List.append_cancel_left h)⟩

def Encoder.Reads (encoder : Encoder) (a b : DecodedInstruction) : Prop :=
  match encoder with
  | .r _ _ _ => a.rd = b.rd ∧ a.rs1 = b.rs1 ∧ a.rs2 = b.rs2
  | .i _ _ | .shift6 _ _ _ | .shift5 _ _ _ =>
    a.rd = b.rd ∧ a.rs1 = b.rs1 ∧ a.immediate = b.immediate
  | .s _ _ | .b _ => a.rs1 = b.rs1 ∧ a.rs2 = b.rs2 ∧ a.immediate = b.immediate
  | .u _ | .j => a.rd = b.rd ∧ a.immediate = b.immediate
  | .csr _ => a.rd = b.rd ∧ a.csr = b.csr ∧ a.rs1 = b.rs1
  | .sfenceVma => a.rs1 = b.rs1 ∧ a.rs2 = b.rs2
  | .fence => False
  | .fixed _ => True

theorem Encoder.word_reads {encoder : Encoder} {a b : DecodedInstruction}
    (h : encoder.Reads a b) : encoder.word a.operands = encoder.word b.operands := by
  cases encoder with
  | r | i | shift6 | shift5 | s | b | csr =>
    obtain ⟨hfirst, hsecond, hthird⟩ := h
    simp only [word, DecodedInstruction.operands, hfirst, hsecond, hthird]
  | u | j | sfenceVma =>
    obtain ⟨hfirst, hsecond⟩ := h
    simp only [word, DecodedInstruction.operands, hfirst, hsecond]
  | fence => cases h
  | fixed => rfl

theorem agrees_reads {operation : Operation} {a b : DecodedInstruction}
    (hfence : operation ≠ .fence) (h : (AssemblyForm.ofOperation operation).Agrees a b) :
    (encoderOf operation).Reads a b := by
  cases operation
  case fence => exact absurd rfl hfence
  all_goals exact h

theorem startsOutside_operandText (form : AssemblyForm) (decoded : DecodedInstruction) :
    StartsOutside MnemonicCharacter (form.operandText decoded) := by
  have hspace : (text " ").head? = some 0x20#8 := rfl
  cases form
  case bare => exact fun c hhead => by cases hhead
  all_goals exact StartsOutside.literal hspace (by decide) _

theorem disassemble_agrees {a b : DecodedInstruction} (h : disassemble a = disassemble b) :
    a.operation = b.operation ∧ (AssemblyForm.ofOperation a.operation).Agrees a b := by
  rw [disassemble_eq, disassemble_eq] at h
  obtain ⟨hoperation, htext⟩ := operationName_peels (startsOutside_operandText _ _)
    (startsOutside_operandText _ _) h
  rw [← hoperation] at htext
  exact ⟨hoperation, operandText_agrees htext⟩

def assemblyOf (word : BitVec 32) : Text :=
  match decode word with
  | .error _ => text ".word " ++ toDecimal word.toNat
  | .ok decoded => disassemble decoded

def IsFence (word : BitVec 32) : Prop := (decode word).operation = some .fence

theorem operationName_ne_word (operation : Operation) : operationName operation ≠ text ".word" := by
  have hword : ∀ operation ∈ operations,
      mnemonicKey (operationName operation) ≠ mnemonicKey (text ".word") := by decide +kernel
  exact fun h => hword operation (mem_operations operation) (congrArg mnemonicKey h)

theorem disassemble_ne_word (decoded : DecodedInstruction) (value : Nat) :
    disassemble decoded ≠ text ".word " ++ toDecimal value := by
  have hspace : (text " ").head? = some 0x20#8 := rfl
  have hword : text ".word " ++ toDecimal value = text ".word" ++ (text " " ++ toDecimal value) := by
    rw [← List.append_assoc]
    rfl
  intro h
  have hprefix := congrArg (List.takeWhile (fun c => MnemonicCharacter c)) h
  rw [hword, disassemble_eq,
    takeWhile_of_startsOutside (mnemonicCharacter_operationName _) (startsOutside_operandText _ _),
    takeWhile_of_startsOutside (by decide) (StartsOutside.literal hspace (by decide) _)] at hprefix
  exact operationName_ne_word decoded.operation hprefix

theorem assemblyOf_ne_nil (word : BitVec 32) : assemblyOf word ≠ [] := by
  have hnamed : ∀ operation ∈ operations, operationName operation ≠ [] := by decide +kernel
  unfold assemblyOf
  cases decode word with
  | error error => exact fun h => nomatch (List.append_eq_nil_iff.mp h).1
  | ok decoded =>
    dsimp only
    rw [disassemble_eq]
    exact fun h => hnamed _ (mem_operations _) (List.append_eq_nil_iff.mp h).1

theorem word_of_disassemble {left right : BitVec 32} {a b : DecodedInstruction}
    (hleft : decode left = .ok a) (hright : decode right = .ok b)
    (h : disassemble a = disassemble b) :
    a.operation = b.operation ∧ (a.operation ≠ .fence → left = right) := by
  obtain ⟨hoperation, hagrees⟩ := disassemble_agrees h
  refine ⟨hoperation, fun hfence => ?_⟩
  have hword := Encoder.word_reads (agrees_reads hfence hagrees)
  rw [← assemble_decode hleft hfence, ← assemble_decode hright (hoperation ▸ hfence), ← hoperation]
  exact hword

theorem disassemble_fence {a b : DecodedInstruction} (ha : a.operation = .fence)
    (hb : b.operation = .fence) : disassemble a = disassemble b := by
  rw [disassemble_eq, disassemble_eq, ha, hb]
  rfl

theorem isFence_iff {word : BitVec 32} {decoded : DecodedInstruction}
    (h : decode word = .ok decoded) : IsFence word ↔ decoded.operation = .fence := by
  rw [IsFence, h]
  exact ⟨Option.some.inj, congrArg some⟩

theorem not_isFence {word : BitVec 32} {error : DecodeError} (h : decode word = .error error) :
    ¬ IsFence word := by
  rw [IsFence, h]
  exact nofun

theorem assemblyOf_eq_iff (left right : BitVec 32) :
    assemblyOf left = assemblyOf right ↔ left = right ∨ (IsFence left ∧ IsFence right) := by
  unfold assemblyOf
  cases hleft : decode left with
  | error error =>
    rw [or_iff_left (fun h => not_isFence hleft h.1)]
    cases hright : decode right with
    | error error' =>
      constructor
      · intro h
        exact BitVec.eq_of_toNat_eq (toDecimal_injective (List.append_cancel_left h))
      · rintro rfl
        rfl
    | ok b =>
      refine iff_of_false (Ne.symm (disassemble_ne_word b _)) ?_
      rintro rfl
      cases hleft.symm.trans hright
  | ok a =>
    cases hright : decode right with
    | error error =>
      refine iff_of_false (disassemble_ne_word a _) ?_
      rintro (rfl | ⟨-, hfence⟩)
      · cases hleft.symm.trans hright
      · exact not_isFence hright hfence
    | ok b =>
      dsimp only
      rw [isFence_iff hleft, isFence_iff hright]
      constructor
      · intro h
        obtain ⟨hoperation, hword⟩ := word_of_disassemble hleft hright h
        by_cases hfence : a.operation = .fence
        · exact .inr ⟨hfence, hoperation ▸ hfence⟩
        · exact .inl (hword hfence)
      · rintro (rfl | ⟨ha, hb⟩)
        · rw [Except.ok.inj (hleft.symm.trans hright)]
        · exact disassemble_fence ha hb

end Northstar64
