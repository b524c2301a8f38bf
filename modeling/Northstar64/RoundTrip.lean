import Northstar64.Encoders

namespace Northstar64

structure Operands where
  rd : RegisterIndex
  rs1 : RegisterIndex
  rs2 : RegisterIndex
  immediate : BitVec 32
  csr : BitVec 12
  deriving DecidableEq, Repr

inductive Encoder where
  | r (opcode : BitVec 7) (funct3 : BitVec 3) (funct7 : BitVec 7)
  | i (opcode : BitVec 7) (funct3 : BitVec 3)
  | shift6 (opcode : BitVec 7) (funct3 : BitVec 3) (funct6 : BitVec 6)
  | shift5 (opcode : BitVec 7) (funct3 : BitVec 3) (funct7 : BitVec 7)
  | s (opcode : BitVec 7) (funct3 : BitVec 3)
  | b (funct3 : BitVec 3)
  | u (opcode : BitVec 7)
  | j
  | csr (funct3 : BitVec 3)
  | sfenceVma
  | fence
  | fixed (word : BitVec 32)
  deriving DecidableEq, Repr

def encoderOf : Operation → Encoder
  | .lui => .u 0x37#7
  | .auipc => .u 0x17#7
  | .jal => .j
  | .jalr => .i 0x67#7 0#3
  | .beq => .b 0#3
  | .bne => .b 1#3
  | .blt => .b 4#3
  | .bge => .b 5#3
  | .bltu => .b 6#3
  | .bgeu => .b 7#3
  | .lb => .i 0x03#7 0#3
  | .lh => .i 0x03#7 1#3
  | .lw => .i 0x03#7 2#3
  | .ld => .i 0x03#7 3#3
  | .lbu => .i 0x03#7 4#3
  | .lhu => .i 0x03#7 5#3
  | .lwu => .i 0x03#7 6#3
  | .sb => .s 0x23#7 0#3
  | .sh => .s 0x23#7 1#3
  | .sw => .s 0x23#7 2#3
  | .sd => .s 0x23#7 3#3
  | .addi => .i 0x13#7 0#3
  | .slti => .i 0x13#7 2#3
  | .sltiu => .i 0x13#7 3#3
  | .xori => .i 0x13#7 4#3
  | .ori => .i 0x13#7 6#3
  | .andi => .i 0x13#7 7#3
  | .slli => .shift6 0x13#7 1#3 0x00#6
  | .srli => .shift6 0x13#7 5#3 0x00#6
  | .srai => .shift6 0x13#7 5#3 0x10#6
  | .add => .r 0x33#7 0#3 0x00#7
  | .sub => .r 0x33#7 0#3 0x20#7
  | .sll => .r 0x33#7 1#3 0x00#7
  | .slt => .r 0x33#7 2#3 0x00#7
  | .sltu => .r 0x33#7 3#3 0x00#7
  | .xor => .r 0x33#7 4#3 0x00#7
  | .srl => .r 0x33#7 5#3 0x00#7
  | .sra => .r 0x33#7 5#3 0x20#7
  | .or => .r 0x33#7 6#3 0x00#7
  | .and => .r 0x33#7 7#3 0x00#7
  | .addiw => .i 0x1b#7 0#3
  | .slliw => .shift5 0x1b#7 1#3 0x00#7
  | .srliw => .shift5 0x1b#7 5#3 0x00#7
  | .sraiw => .shift5 0x1b#7 5#3 0x20#7
  | .addw => .r 0x3b#7 0#3 0x00#7
  | .subw => .r 0x3b#7 0#3 0x20#7
  | .sllw => .r 0x3b#7 1#3 0x00#7
  | .srlw => .r 0x3b#7 5#3 0x00#7
  | .sraw => .r 0x3b#7 5#3 0x20#7
  | .fence => .fence
  | .fenceI => .fixed 0x0000100f#32
  | .sfenceVma => .sfenceVma
  | .ecall => .fixed kEcall
  | .ebreak => .fixed kEbreak
  | .sret => .fixed kSret
  | .mret => .fixed kMret
  | .wfi => .fixed 0x10500073#32
  | .csrrw => .csr 1#3
  | .csrrs => .csr 2#3
  | .csrrc => .csr 3#3
  | .csrrwi => .csr 5#3
  | .csrrsi => .csr 6#3
  | .csrrci => .csr 7#3

namespace Encoder

-- The shift forms pass the high bits of the immediate field along with the amount.
def word (encoder : Encoder) (operands : Operands) : BitVec 32 :=
  let rd := operands.rd.setWidth 8
  let rs1 := operands.rs1.setWidth 8
  let rs2 := operands.rs2.setWidth 8
  let immediate := operands.immediate
  match encoder with
  | r opcode funct3 funct7 =>
    encodeR (opcode.setWidth 8) rd (funct3.setWidth 8) rs1 rs2 (funct7.setWidth 8)
  | i opcode funct3 => encodeI (opcode.setWidth 8) rd (funct3.setWidth 8) rs1 immediate
  | shift6 opcode funct3 funct6 =>
    encodeI (opcode.setWidth 8) rd (funct3.setWidth 8) rs1 (funct6.setWidth 32 <<< 6 ||| immediate)
  | shift5 opcode funct3 funct7 =>
    encodeI (opcode.setWidth 8) rd (funct3.setWidth 8) rs1 (funct7.setWidth 32 <<< 5 ||| immediate)
  | s opcode funct3 => encodeS (opcode.setWidth 8) (funct3.setWidth 8) rs1 rs2 immediate
  | b funct3 => encodeB (funct3.setWidth 8) rs1 rs2 immediate
  | u opcode => encodeU (opcode.setWidth 8) rd immediate
  | j => encodeJ rd immediate
  | csr funct3 => encodeCsr rd (funct3.setWidth 8) rs1 (operands.csr.setWidth 16)
  | sfenceVma => encodeSfenceVma rs1 rs2
  | fence => encodeI 0x0f#8 rd 0#8 rs1 immediate
  | fixed word => word

def Admits (encoder : Encoder) (operands : Operands) : Prop :=
  let immediate := operands.immediate.toInt
  match encoder with
  | i _ _ | s _ _ => -2048 ≤ immediate ∧ immediate ≤ 2047
  | shift6 _ _ _ => 0 ≤ immediate ∧ immediate ≤ 63
  | shift5 _ _ _ => 0 ≤ immediate ∧ immediate ≤ 31
  | b _ => -4096 ≤ immediate ∧ immediate ≤ 4094 ∧ immediate % 2 = 0
  | u _ => immediate % 4096 = 0
  | j => -1048576 ≤ immediate ∧ immediate ≤ 1048574 ∧ immediate % 2 = 0
  | r _ _ _ | csr _ | sfenceVma | fence | fixed _ => True

def Carries (encoder : Encoder) (operands : Operands) (decoded : DecodedInstruction) : Prop :=
  match encoder with
  | r _ _ _ => decoded.rd = operands.rd ∧ decoded.rs1 = operands.rs1 ∧ decoded.rs2 = operands.rs2
  | i _ _ | shift6 _ _ _ | shift5 _ _ _ =>
    decoded.rd = operands.rd ∧ decoded.rs1 = operands.rs1 ∧
      decoded.immediate.toInt = operands.immediate.toInt
  | s _ _ | b _ =>
    decoded.rs1 = operands.rs1 ∧ decoded.rs2 = operands.rs2 ∧
      decoded.immediate.toInt = operands.immediate.toInt
  | u _ | j => decoded.rd = operands.rd ∧ decoded.immediate.toInt = operands.immediate.toInt
  | csr _ =>
    decoded.rd = operands.rd ∧ decoded.rs1 = operands.rs1 ∧
      decoded.csr.toNat = operands.csr.toNat
  | sfenceVma => decoded.rs1 = operands.rs1 ∧ decoded.rs2 = operands.rs2
  -- The decoder reads no immediate from the ordering bits.
  | fence => decoded.rd = operands.rd ∧ decoded.rs1 = operands.rs1 ∧ decoded.immediate = 0#64
  | fixed _ => True

end Encoder

def assemble (operation : Operation) (operands : Operands) : BitVec 32 :=
  (encoderOf operation).word operands

def DecodedInstruction.operands (decoded : DecodedInstruction) : Operands where
  rd := decoded.rd
  rs1 := decoded.rs1
  rs2 := decoded.rs2
  immediate := decoded.immediate.setWidth 32
  csr := decoded.csr.setWidth 12

theorem opcode_slice (raw : BitVec 32) : raw &&& 0x7f#32 = (raw.extractLsb' 0 7).setWidth 32 :=
  Slices.and_low raw 7

theorem funct3_slice (raw : BitVec 32) :
    raw >>> 12 &&& 0x7#32 = (raw.extractLsb' 12 3).setWidth 32 := Slices.shift_and_low raw 12 3

theorem funct7_slice (raw : BitVec 32) :
    raw >>> 25 &&& 0x7f#32 = (raw.extractLsb' 25 7).setWidth 32 := Slices.shift_and_low raw 25 7

theorem funct6_slice (raw : BitVec 32) :
    raw >>> 26 &&& 0x3f#32 = (raw.extractLsb' 26 6).setWidth 32 := Slices.shift_and_low raw 26 6

theorem rd_slice (raw : BitVec 32) :
    raw >>> 7 &&& 0x1f#32 = (Rv64i.rd raw).setWidth 32 := Slices.shift_and_low raw 7 5

section Fits
open Rv64i
variable (upper : BitVec 20) (funct7 : BitVec 7) (rs2 rs1 : BitVec 5) (funct3 : BitVec 3)
  (rd : BitVec 5) (opcode : BitVec 7)

theorem fits_upperWord : (Format.opcode (opcode.setWidth 32)).Fits (upperWord upper rd opcode) := by
  rw [Format.Fits, opcode_slice, opcode_upperWord]

theorem fits_funct3 :
    (Format.funct3 (opcode.setWidth 32) (funct3.setWidth 32)).Fits
      (word funct7 rs2 rs1 funct3 rd opcode) := by
  refine ⟨fits_upperWord _ rd opcode, ?_⟩
  rw [funct3_slice, funct3_word]

theorem fits_funct7 :
    (Format.funct7 (opcode.setWidth 32) (funct3.setWidth 32) (funct7.setWidth 32)).Fits
      (word funct7 rs2 rs1 funct3 rd opcode) := by
  refine ⟨fits_funct3 funct7 rs2 rs1 funct3 rd opcode, ?_⟩
  rw [funct7_slice, extract_word_high _ _ _ _ _ _ (by decide), Nat.sub_self,
    BitVec.extractLsb'_eq_self]

theorem fits_funct6 {funct6 : BitVec 6} (h : funct7.extractLsb' 1 6 = funct6) :
    (Format.funct6 (opcode.setWidth 32) (funct3.setWidth 32) (funct6.setWidth 32)).Fits
      (word funct7 rs2 rs1 funct3 rd opcode) := by
  refine ⟨fits_funct3 funct7 rs2 rs1 funct3 rd opcode, ?_⟩
  rw [funct6_slice, extract_word_high _ _ _ _ _ _ (by decide), h]

theorem fits_funct7NoRd :
    (Format.funct7NoRd (opcode.setWidth 32) (funct3.setWidth 32) (funct7.setWidth 32)).Fits
      (word funct7 rs2 rs1 funct3 0#5 opcode) := by
  refine ⟨fits_funct7 funct7 rs2 rs1 funct3 0#5 opcode, ?_⟩
  rw [rd_slice, word, rd_upperWord]
  rfl

end Fits

namespace Encoder

def format : Encoder → Format
  | r opcode funct3 funct7 =>
    .funct7 (opcode.setWidth 32) (funct3.setWidth 32) (funct7.setWidth 32)
  | i opcode funct3 => .funct3 (opcode.setWidth 32) (funct3.setWidth 32)
  | shift6 opcode funct3 funct6 =>
    .funct6 (opcode.setWidth 32) (funct3.setWidth 32) (funct6.setWidth 32)
  | shift5 opcode funct3 funct7 =>
    .funct7 (opcode.setWidth 32) (funct3.setWidth 32) (funct7.setWidth 32)
  | s opcode funct3 => .funct3 (opcode.setWidth 32) (funct3.setWidth 32)
  | b funct3 => .funct3 0x63#32 (funct3.setWidth 32)
  | u opcode => .opcode (opcode.setWidth 32)
  | j => .opcode 0x6f#32
  | csr funct3 => .funct3 0x73#32 (funct3.setWidth 32)
  | sfenceVma => .funct7NoRd 0x73#32 0#32 0x09#32
  | fence => .funct3 0x0f#32 0#32
  | fixed word => .word word

theorem encoding_eq (operation : Operation) : encoding operation = (encoderOf operation).format := by
  cases operation <;> rfl

def AmountFits (encoder : Encoder) (immediate : BitVec 32) : Prop :=
  match encoder with
  | shift6 _ _ _ => (immediate.extractLsb' 0 6).setWidth 32 = immediate
  | shift5 _ _ _ => (immediate.extractLsb' 0 5).setWidth 32 = immediate
  | _ => True

theorem Admits.amountFits {encoder : Encoder} {operands : Operands} (h : encoder.Admits operands) :
    encoder.AmountFits operands.immediate := by
  cases encoder with
  | shift6 opcode funct3 funct6 => exact Slices.extract_low_eq _ h.1 (Int.lt_of_le_sub_one h.2)
  | shift5 opcode funct3 funct7 => exact Slices.extract_low_eq _ h.1 (Int.lt_of_le_sub_one h.2)
  | _ => trivial

def layout (encoder : Encoder) (operands : Operands) : BitVec 32 :=
  let rd := operands.rd
  let rs1 := operands.rs1
  let rs2 := operands.rs2
  let immediate := operands.immediate
  match encoder with
  | r opcode funct3 funct7 => Rv64i.word funct7 rs2 rs1 funct3 rd opcode
  | i opcode funct3 =>
    Rv64i.word (immediate.extractLsb' 5 7) (immediate.extractLsb' 0 5) rs1 funct3 rd opcode
  | shift6 opcode funct3 funct6 =>
    let code : BitVec 12 := funct6 ++ immediate.extractLsb' 0 6
    Rv64i.word (code.extractLsb' 5 7) (code.extractLsb' 0 5) rs1 funct3 rd opcode
  | shift5 opcode funct3 funct7 =>
    let code : BitVec 12 := funct7 ++ immediate.extractLsb' 0 5
    Rv64i.word (code.extractLsb' 5 7) (code.extractLsb' 0 5) rs1 funct3 rd opcode
  | s opcode funct3 =>
    Rv64i.word (immediate.extractLsb' 5 7) rs2 rs1 funct3 (immediate.extractLsb' 0 5) opcode
  | b funct3 =>
    Rv64i.word (immediate.extractLsb' 12 1 ++ immediate.extractLsb' 5 6) rs2 rs1 funct3
      (immediate.extractLsb' 1 4 ++ immediate.extractLsb' 11 1) 0x63#7
  | u opcode => Rv64i.upperWord (immediate.extractLsb' 12 20) rd opcode
  | j =>
    Rv64i.upperWord (immediate.extractLsb' 20 1 ++ immediate.extractLsb' 1 10 ++
      immediate.extractLsb' 11 1 ++ immediate.extractLsb' 12 8) rd 0x6f#7
  | csr funct3 =>
    Rv64i.word (operands.csr.extractLsb' 5 7) (operands.csr.extractLsb' 0 5) rs1 funct3 rd 0x73#7
  | sfenceVma => Rv64i.word 0x09#7 rs2 rs1 0#3 0#5 0x73#7
  | fence => Rv64i.word (immediate.extractLsb' 5 7) (immediate.extractLsb' 0 5) rs1 0#3 rd 0x0f#7
  | fixed word => word

theorem encodeI_shift {high low : Nat} (function : BitVec high) {immediate : BitVec 32}
    (opcode : BitVec 7) (rd : BitVec 5) (funct3 : BitVec 3) (rs1 : BitVec 5)
    (h : (immediate.extractLsb' 0 low).setWidth 32 = immediate) :
    encodeI (opcode.setWidth 8) (rd.setWidth 8) (funct3.setWidth 8) (rs1.setWidth 8)
        (function.setWidth 32 <<< low ||| immediate) =
      Rv64i.word ((function ++ immediate.extractLsb' 0 low).extractLsb' 5 7)
        ((function ++ immediate.extractLsb' 0 low).extractLsb' 0 5) rs1 funct3 rd opcode := by
  have hfield : function.setWidth 32 <<< low ||| immediate =
      (function ++ immediate.extractLsb' 0 low).setWidth 32 := by
    rw [Slices.setWidth_append, h]
  rw [hfield, encodeI_eq, Slices.extract_setWidth _ (by decide), Slices.extract_setWidth _ (by decide)]

theorem word_eq_layout {encoder : Encoder} {operands : Operands}
    (h : encoder.AmountFits operands.immediate) : encoder.word operands = encoder.layout operands := by
  cases encoder with
  | r opcode funct3 funct7 => exact encodeR_eq _ _ _ _ _ _
  | i opcode funct3 => exact encodeI_eq _ _ _ _ _
  | shift6 opcode funct3 funct6 => exact encodeI_shift _ _ _ _ _ h
  | shift5 opcode funct3 funct7 => exact encodeI_shift _ _ _ _ _ h
  | s opcode funct3 => exact encodeS_eq _ _ _ _ _
  | b funct3 => exact encodeB_eq _ _ _ _
  | u opcode => exact encodeU_eq _ _ _
  | j => exact encodeJ_eq _ _
  | csr funct3 => exact encodeCsr_eq _ _ _ _
  | sfenceVma => exact encodeSfenceVma_eq _ _
  | fence => exact encodeI_eq _ 0#3 _ 0x0f#7 _
  | fixed word => rfl

theorem layout_fits (encoder : Encoder) (operands : Operands) :
    encoder.format.Fits (encoder.layout operands) := by
  cases encoder with
  | r opcode funct3 funct7 => exact fits_funct7 _ _ _ _ _ _
  | i opcode funct3 => exact fits_funct3 _ _ _ _ _ _
  | shift6 opcode funct3 funct6 =>
    refine fits_funct6 _ _ _ _ _ _ ?_
    rw [Slices.extract_extract _ (by decide), Slices.extract_append_high _ _ (by decide)]
    exact BitVec.extractLsb'_eq_self
  | shift5 opcode funct3 funct7 =>
    have hcode : (funct7 ++ operands.immediate.extractLsb' 0 5).extractLsb' 5 7 = funct7 :=
      (Slices.extract_append_high _ _ (by decide)).trans BitVec.extractLsb'_eq_self
    rw [layout, hcode]
    exact fits_funct7 _ _ _ _ _ _
  | s opcode funct3 => exact fits_funct3 _ _ _ _ _ _
  | b funct3 => exact fits_funct3 _ _ _ _ _ 0x63#7
  | u opcode => exact fits_upperWord _ _ _
  | j => exact fits_upperWord _ _ 0x6f#7
  | csr funct3 => exact fits_funct3 _ _ _ _ _ 0x73#7
  | sfenceVma => exact fits_funct7NoRd 0x09#7 _ _ 0#3 0x73#7
  | fence => exact fits_funct3 _ _ _ 0#3 _ 0x0f#7
  | fixed word => exact rfl

def immediate (encoder : Encoder) (raw : BitVec 32) : BitVec 64 :=
  match encoder with
  | i _ _ => Rv64i.immediateI raw
  | shift6 _ _ _ => (raw.extractLsb' 20 6).setWidth 64
  | shift5 _ _ _ => (raw.extractLsb' 20 5).setWidth 64
  | s _ _ => Rv64i.immediateS raw
  | b _ => Rv64i.immediateB raw
  | u _ => Rv64i.immediateU raw
  | j => Rv64i.immediateJ raw
  | r _ _ _ | csr _ | sfenceVma | fence | fixed _ => 0#64

theorem immediateOf_eq (raw : BitVec 32) (operation : Operation) :
    immediateOf raw operation = (encoderOf operation).immediate raw := by
  have hsix : (raw >>> 20 &&& 0x3f#32).setWidth 64 = (raw.extractLsb' 20 6).setWidth 64 :=
    Slices.shift_and_low_setWidth raw 20 6 64 (by decide)
  have hfive : (raw >>> 20 &&& 0x1f#32).setWidth 64 = (raw.extractLsb' 20 5).setWidth 64 :=
    Slices.shift_and_low_setWidth raw 20 5 64 (by decide)
  cases operation
  case lui | auipc => exact immediateU_eq raw
  case jal => exact immediateJ_eq raw
  case beq | bne | blt | bge | bltu | bgeu => exact immediateB_eq raw
  case sb | sh | sw | sd => exact immediateS_eq raw
  case slli | srli | srai => exact hsix
  case slliw | srliw | sraiw => exact hfive
  case jalr | lb | lh | lw | ld | lbu | lhu | lwu | addi | slti | sltiu | xori | ori | andi
      | addiw => exact immediateI_eq raw
  all_goals rfl

def decoded (encoder : Encoder) (raw : BitVec 32) (operation : Operation) : DecodedInstruction :=
  ⟨operation, raw, Rv64i.rd raw, Rv64i.rs1 raw, Rv64i.rs2 raw, encoder.immediate raw,
    (raw.extractLsb' 20 12).setWidth 16⟩

theorem decodedAs_eq (raw : BitVec 32) (operation : Operation) :
    decodedAs raw operation = (encoderOf operation).decoded raw operation := by
  have hcsr : (raw >>> 20 &&& 0xfff#32).setWidth 16 = (raw.extractLsb' 20 12).setWidth 16 :=
    Slices.shift_and_low_setWidth raw 20 12 16 (by decide)
  rw [decodedAs, immediateOf_eq, hcsr, decoded]

theorem signed_field {immediate : BitVec 32} {bits : Nat} {decoded : BitVec 64}
    (hdecoded : decoded = (immediate.extractLsb' 0 bits).signExtend 64) (hbits : bits ≤ 32)
    (hlow : -2 ^ bits ≤ 2 * immediate.toInt) (hhigh : 2 * immediate.toInt < 2 ^ bits) :
    decoded.toInt = immediate.toInt := by
  rw [hdecoded]
  exact Slices.toInt_signExtend_low _ hbits (hbits.trans (by decide)) hlow hhigh

theorem shift_carries {high low : Nat} {function : BitVec high} {immediate : BitVec 32}
    (opcode : BitVec 7) (rd : BitVec 5) (funct3 : BitVec 3) (rs1 : BitVec 5) (hwidth : low ≤ 12)
    (hnonneg : 0 ≤ immediate.toInt) (h : (immediate.extractLsb' 0 low).setWidth 32 = immediate) :
    (((Rv64i.word ((function ++ immediate.extractLsb' 0 low).extractLsb' 5 7)
      ((function ++ immediate.extractLsb' 0 low).extractLsb' 0 5) rs1 funct3 rd
        opcode).extractLsb' 20 low).setWidth 64).toInt = immediate.toInt := by
  have hwide : (immediate.extractLsb' 0 low).setWidth 64 = immediate.setWidth 64 := by
    rw [← h, BitVec.setWidth_setWidth (by omega), h]
  have hnat : (immediate.setWidth 64).toNat = immediate.toNat :=
    BitVec.toNat_setWidth_of_le (by decide)
  have hlt := immediate.isLt
  rw [Rv64i.extract_word_split _ _ _ _ _ hwidth, Slices.extract_append_low _ _ (by omega),
    BitVec.extractLsb'_eq_self, hwide, Slices.toInt_eq_toNat_of_nonneg _ hnonneg,
    BitVec.toInt_eq_toNat_of_lt (by rw [hnat]; omega), hnat]

theorem carries {encoder : Encoder} {operands : Operands} (h : encoder.Admits operands)
    (operation : Operation) :
    encoder.Carries operands (encoder.decoded (encoder.layout operands) operation) := by
  have hamount := h.amountFits
  cases encoder with
  | r opcode funct3 funct7 =>
    exact ⟨Rv64i.rd_upperWord _ _ _, Rv64i.rs1_word _ _ _ _ _ _, Rv64i.rs2_word _ _ _ _ _ _⟩
  | i opcode funct3 =>
    obtain ⟨hlow, hhigh⟩ := h
    exact ⟨Rv64i.rd_upperWord _ _ _, Rv64i.rs1_word _ _ _ _ _ _,
      signed_field (Rv64i.immediateI_word _ _ _ _ _) (by decide) (by omega) (by omega)⟩
  | shift6 opcode funct3 funct6 =>
    exact ⟨Rv64i.rd_upperWord _ _ _, Rv64i.rs1_word _ _ _ _ _ _,
      shift_carries _ _ _ _ (by decide) h.1 hamount⟩
  | shift5 opcode funct3 funct7 =>
    exact ⟨Rv64i.rd_upperWord _ _ _, Rv64i.rs1_word _ _ _ _ _ _,
      shift_carries _ _ _ _ (by decide) h.1 hamount⟩
  | s opcode funct3 =>
    obtain ⟨hlow, hhigh⟩ := h
    exact ⟨Rv64i.rs1_word _ _ _ _ _ _, Rv64i.rs2_word _ _ _ _ _ _,
      signed_field (Rv64i.immediateS_word _ _ _ _ _) (by decide) (by omega) (by omega)⟩
  | b funct3 =>
    obtain ⟨hlow, hhigh, heven⟩ := h
    have hbit := Slices.extract_low_zero operands.immediate (show 1 ≤ 32 by decide) heven
    exact ⟨Rv64i.rs1_word _ _ _ _ _ _, Rv64i.rs2_word _ _ _ _ _ _,
      signed_field (Rv64i.immediateB_word _ _ _ _ _ hbit) (by decide) (by omega) (by omega)⟩
  | u opcode =>
    have hzero := Slices.extract_low_zero operands.immediate (show 12 ≤ 32 by decide) h
    have hlow := operands.immediate.le_two_mul_toInt
    have hhigh := operands.immediate.two_mul_toInt_lt
    exact ⟨Rv64i.rd_upperWord _ _ _,
      signed_field (Rv64i.immediateU_upperWord _ _ _ hzero) (by decide) hlow hhigh⟩
  | j =>
    obtain ⟨hlow, hhigh, heven⟩ := h
    have hbit := Slices.extract_low_zero operands.immediate (show 1 ≤ 32 by decide) heven
    exact ⟨Rv64i.rd_upperWord _ _ _,
      signed_field (Rv64i.immediateJ_upperWord _ _ _ hbit) (by decide) (by omega) (by omega)⟩
  | csr funct3 =>
    have hnumber := Rv64i.extract_word_split operands.rs1 funct3 operands.rd 0x73#7 operands.csr
      (show 12 ≤ 12 from le_rfl)
    refine ⟨Rv64i.rd_upperWord _ _ _, Rv64i.rs1_word _ _ _ _ _ _, ?_⟩
    rw [BitVec.extractLsb'_eq_self] at hnumber
    rw [decoded, layout, hnumber, BitVec.toNat_setWidth_of_le (by decide)]
  | sfenceVma => exact ⟨Rv64i.rs1_word _ _ _ _ _ _, Rv64i.rs2_word _ _ _ _ _ _⟩
  | fence => exact ⟨Rv64i.rd_upperWord _ _ _, Rv64i.rs1_word _ _ _ _ _ _, rfl⟩
  | fixed word => trivial

theorem field_inj {bits : Nat} {field code : BitVec bits} (hbits : bits ≤ 32)
    (h : field.setWidth 32 = code.setWidth 32) : field = code := by
  have hnarrow := congrArg (BitVec.setWidth bits) h
  rwa [BitVec.setWidth_setWidth (by omega), BitVec.setWidth_setWidth (by omega), BitVec.setWidth_eq,
    BitVec.setWidth_eq] at hnarrow

section Recovers
variable {raw : BitVec 32} {opcode : BitVec 7} {funct3 : BitVec 3} {funct7 : BitVec 7}

theorem opcode_code (h : (Format.opcode (opcode.setWidth 32)).Fits raw) :
    raw.extractLsb' 0 7 = opcode :=
  field_inj (by decide) ((opcode_slice raw).symm.trans h)

theorem funct3_codes (h : (Format.funct3 (opcode.setWidth 32) (funct3.setWidth 32)).Fits raw) :
    raw.extractLsb' 0 7 = opcode ∧ raw.extractLsb' 12 3 = funct3 :=
  ⟨opcode_code h.1, field_inj (by decide) ((funct3_slice raw).symm.trans h.2)⟩

theorem funct6_codes {funct6 : BitVec 6}
    (h : (Format.funct6 (opcode.setWidth 32) (funct3.setWidth 32) (funct6.setWidth 32)).Fits raw) :
    raw.extractLsb' 0 7 = opcode ∧ raw.extractLsb' 12 3 = funct3 ∧ raw.extractLsb' 26 6 = funct6 :=
  have hfunct6 := field_inj (by decide) ((funct6_slice raw).symm.trans h.2)
  ⟨(funct3_codes h.1).1, (funct3_codes h.1).2, hfunct6⟩

theorem funct7_codes
    (h : (Format.funct7 (opcode.setWidth 32) (funct3.setWidth 32) (funct7.setWidth 32)).Fits raw) :
    raw.extractLsb' 0 7 = opcode ∧ raw.extractLsb' 12 3 = funct3 ∧ raw.extractLsb' 25 7 = funct7 :=
  have hfunct7 := field_inj (by decide) ((funct7_slice raw).symm.trans h.2)
  ⟨(funct3_codes h.1).1, (funct3_codes h.1).2, hfunct7⟩

theorem narrowed_amount {low : Nat} (amount : BitVec low) (hlow : low ≤ 32) :
    ((amount.setWidth 64).setWidth 32).extractLsb' 0 low = amount := by
  rw [BitVec.setWidth_setWidth (by omega), Slices.extract_setWidth _ (by omega),
    BitVec.extractLsb'_eq_self]

theorem widened_amount {low : Nat} (amount : BitVec low) (hlow : low ≤ 32) :
    (((amount.setWidth 64).setWidth 32).extractLsb' 0 low).setWidth 32 =
      (amount.setWidth 64).setWidth 32 := by
  rw [narrowed_amount _ hlow, BitVec.setWidth_setWidth (by omega)]

theorem shift_field {high low : Nat} (hwidth : high + low = 12) :
    (raw.extractLsb' (20 + low) high ++ (((raw.extractLsb' 20 low).setWidth 64).setWidth
      32).extractLsb' 0 low).extractLsb' 0 12 = raw.extractLsb' 20 12 := by
  have hjoin : raw.extractLsb' (20 + low) high ++ raw.extractLsb' 20 low =
      raw.extractLsb' 20 (high + low) :=
    BitVec.extractLsb'_append_extractLsb'_eq_extractLsb' rfl
  rw [narrowed_amount _ (by omega), hjoin]
  exact Slices.extract_extract raw (by omega)

end Recovers

theorem layout_decoded {encoder : Encoder} {raw : BitVec 32} (h : encoder.format.Fits raw)
    (hfence : encoder ≠ .fence) (operation : Operation) :
    encoder.layout (encoder.decoded raw operation).operands = raw := by
  cases encoder with
  | r opcode funct3 funct7 =>
    obtain ⟨rfl, rfl, rfl⟩ := funct7_codes h
    exact Rv64i.word_slices raw
  | i opcode funct3 =>
    obtain ⟨rfl, rfl⟩ := funct3_codes h
    exact Rv64i.word_twelve_slices _ (Rv64i.immediateI_field raw)
  | shift6 opcode funct3 funct6 =>
    obtain ⟨rfl, rfl, rfl⟩ := funct6_codes h
    exact Rv64i.word_twelve_slices _ (shift_field rfl)
  | shift5 opcode funct3 funct7 =>
    obtain ⟨rfl, rfl, rfl⟩ := funct7_codes h
    exact Rv64i.word_twelve_slices _ (shift_field rfl)
  | s opcode funct3 =>
    obtain ⟨rfl, rfl⟩ := funct3_codes h
    have hword := Rv64i.word_slices raw
    rw [← Rv64i.immediateS_high, ← Rv64i.immediateS_low] at hword
    exact hword
  | b funct3 =>
    obtain ⟨hopcode, rfl⟩ : raw.extractLsb' 0 7 = 0x63#7 ∧ _ := funct3_codes h
    have hword := Rv64i.word_slices raw
    rw [← Rv64i.immediateB_high, ← Rv64i.immediateB_low, hopcode] at hword
    exact hword
  | u opcode =>
    obtain rfl := opcode_code h
    have hword := Rv64i.upperWord_slices raw
    rw [← Rv64i.immediateU_upper] at hword
    exact hword
  | j =>
    have hopcode : raw.extractLsb' 0 7 = 0x6f#7 := opcode_code h
    have hword := Rv64i.upperWord_slices raw
    rw [← Rv64i.immediateJ_upper, hopcode] at hword
    exact hword
  | csr funct3 =>
    obtain ⟨hopcode, rfl⟩ : raw.extractLsb' 0 7 = 0x73#7 ∧ _ := funct3_codes h
    have hcsr : ((raw.extractLsb' 20 12).setWidth 16).setWidth 12 = raw.extractLsb' 20 12 := by
      rw [BitVec.setWidth_setWidth (by decide), BitVec.setWidth_eq]
    have hword := Rv64i.word_twelve_slices _ (BitVec.extractLsb'_eq_self.trans hcsr)
    rw [hopcode] at hword
    exact hword
  | sfenceVma =>
    obtain ⟨hfunct7, hzero⟩ := h
    obtain ⟨hopcode, hfunct3, hfunct7⟩ : raw.extractLsb' 0 7 = 0x73#7 ∧
      raw.extractLsb' 12 3 = 0#3 ∧ raw.extractLsb' 25 7 = 0x09#7 := funct7_codes hfunct7
    have hrd : Rv64i.rd raw = 0#5 := field_inj (by decide) ((rd_slice raw).symm.trans hzero)
    have hword := Rv64i.word_slices raw
    rw [hopcode, hfunct3, hfunct7, hrd] at hword
    exact hword
  | fence => exact absurd rfl hfence
  | fixed word => exact Eq.symm h

theorem decoded_amountFits (encoder : Encoder) (raw : BitVec 32) (operation : Operation) :
    encoder.AmountFits (encoder.decoded raw operation).operands.immediate := by
  cases encoder with
  | shift6 opcode funct3 funct6 => exact widened_amount _ (by decide)
  | shift5 opcode funct3 funct7 => exact widened_amount _ (by decide)
  | _ => trivial

end Encoder

theorem decode_assemble {operation : Operation} {operands : Operands}
    (h : (encoderOf operation).Admits operands) :
    decode (assemble operation operands) =
      .ok ((encoderOf operation).decoded (assemble operation operands) operation) := by
  have hfits : (encoding operation).Fits (assemble operation operands) := by
    rw [Encoder.encoding_eq, assemble, Encoder.word_eq_layout h.amountFits]
    exact Encoder.layout_fits _ _
  rw [decode_of_fits hfits, instruction_eq, Encoder.decodedAs_eq]

theorem encoderOf_fence {operation : Operation} (h : encoderOf operation = .fence) :
    operation = .fence := by
  cases operation <;> first | rfl | cases h

theorem assemble_decoded {raw : BitVec 32} {operation : Operation}
    (h : (encoding operation).Fits raw) (hfence : operation ≠ .fence) :
    assemble operation ((encoderOf operation).decoded raw operation).operands = raw := by
  rw [Encoder.encoding_eq] at h
  rw [assemble, Encoder.word_eq_layout (Encoder.decoded_amountFits _ raw operation)]
  exact Encoder.layout_decoded h (fun hencoder => hfence (encoderOf_fence hencoder)) operation

theorem assemble_decode {raw : BitVec 32} {decoded : DecodedInstruction}
    (h : decode raw = .ok decoded) (hfence : decoded.operation ≠ .fence) :
    assemble decoded.operation decoded.operands = raw := by
  have hoperation : (decode raw).operation = some decoded.operation := by
    rw [h]
    rfl
  have hdecoded : decoded = (encoderOf decoded.operation).decoded raw decoded.operation :=
    (decode_eq h).trans (Encoder.decodedAs_eq raw _)
  have hassemble := assemble_decoded (decode_fits hoperation) hfence
  rw [← hdecoded] at hassemble
  exact hassemble

theorem decode_undoes_encode :
    (∀ operation operands, (encoderOf operation).Admits operands →
      ∃ decoded, decode (assemble operation operands) = .ok decoded ∧
        decoded.operation = operation ∧ (encoderOf operation).Carries operands decoded) ∧
    ∀ raw decoded, decode raw = .ok decoded → decoded.operation ≠ .fence →
      assemble decoded.operation decoded.operands = raw := by
  refine ⟨?_, fun raw decoded => assemble_decode⟩
  intro operation operands h
  refine ⟨_, decode_assemble h, rfl, ?_⟩
  rw [assemble, Encoder.word_eq_layout h.amountFits]
  exact Encoder.carries h operation

example : (decode (assemble .jal ⟨1#5, 0#5, 0#5, BitVec.ofInt 32 (-1048576), 0#12⟩)).toOption.map
    (fun decoded => (decoded.rd, decoded.immediate.toInt)) = some (1#5, -1048576) := by
  decide +kernel

end Northstar64
