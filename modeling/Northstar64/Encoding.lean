import Northstar64.Decode
import Northstar64.Library.Slices

namespace Northstar64

inductive Format where
  | opcode (opc : BitVec 32)
  | funct3 (opc f3 : BitVec 32)
  | funct6 (opc f3 f6 : BitVec 32)
  | funct7 (opc f3 f7 : BitVec 32)
  | funct7NoRd (opc f3 f7 : BitVec 32)
  | word (fixed : BitVec 32)
  deriving DecidableEq, Repr

namespace Format

def mask : Format → BitVec 32
  | .opcode _ => 0x7f#32
  | .funct3 _ _ => 0x7f#32 ||| 0x7#32 <<< 12
  | .funct6 _ _ _ => 0x7f#32 ||| 0x7#32 <<< 12 ||| 0x3f#32 <<< 26
  | .funct7 _ _ _ => 0x7f#32 ||| 0x7#32 <<< 12 ||| 0x7f#32 <<< 25
  | .funct7NoRd _ _ _ => 0x7f#32 ||| 0x7#32 <<< 12 ||| 0x7f#32 <<< 25 ||| 0x1f#32 <<< 7
  | .word _ => BitVec.allOnes 32

def value : Format → BitVec 32
  | .opcode opc => opc
  | .funct3 opc f3 => opc ||| f3 <<< 12
  | .funct6 opc f3 f6 => opc ||| f3 <<< 12 ||| f6 <<< 26
  | .funct7 opc f3 f7 => opc ||| f3 <<< 12 ||| f7 <<< 25
  | .funct7NoRd opc f3 f7 => opc ||| f3 <<< 12 ||| f7 <<< 25 ||| 0#32 <<< 7
  | .word fixed => fixed

def InRange : Format → Prop
  | .opcode opc => opc &&& 0x7f#32 = opc
  | .funct3 opc f3 => opc &&& 0x7f#32 = opc ∧ f3 &&& 0x7#32 = f3
  | .funct6 opc f3 f6 => opc &&& 0x7f#32 = opc ∧ f3 &&& 0x7#32 = f3 ∧ f6 &&& 0x3f#32 = f6
  | .funct7 opc f3 f7 | .funct7NoRd opc f3 f7 =>
    opc &&& 0x7f#32 = opc ∧ f3 &&& 0x7#32 = f3 ∧ f7 &&& 0x7f#32 = f7
  | .word _ => True

def Fits (raw : BitVec 32) : Format → Prop
  | .opcode opc => raw &&& 0x7f#32 = opc
  | .funct3 opc f3 => raw &&& 0x7f#32 = opc ∧ raw >>> 12 &&& 0x7#32 = f3
  | .funct6 opc f3 f6 =>
    (raw &&& 0x7f#32 = opc ∧ raw >>> 12 &&& 0x7#32 = f3) ∧ raw >>> 26 &&& 0x3f#32 = f6
  | .funct7 opc f3 f7 =>
    (raw &&& 0x7f#32 = opc ∧ raw >>> 12 &&& 0x7#32 = f3) ∧ raw >>> 25 &&& 0x7f#32 = f7
  | .funct7NoRd opc f3 f7 =>
    ((raw &&& 0x7f#32 = opc ∧ raw >>> 12 &&& 0x7#32 = f3) ∧ raw >>> 25 &&& 0x7f#32 = f7) ∧
      raw >>> 7 &&& 0x1f#32 = 0#32
  | .word fixed => raw = fixed

theorem funct3_iff {opc f3 : BitVec 32} (hopc : opc &&& 0x7f#32 = opc) (hf3 : f3 &&& 0x7#32 = f3)
    (raw : BitVec 32) :
    raw &&& (0x7f#32 ||| 0x7#32 <<< 12) = opc ||| f3 <<< 12 ↔
      raw &&& 0x7f#32 = opc ∧ raw >>> 12 &&& 0x7#32 = f3 := by
  rw [BitMask.and_union_eq_iff (by decide) hopc (by rw [← BitVec.shiftLeft_and_distrib, hf3]),
    BitMask.field_eq_iff (by decide) hf3]

theorem within_funct3 {opc f3 : BitVec 32} (hopc : opc &&& 0x7f#32 = opc)
    (hf3 : f3 &&& 0x7#32 = f3) :
    (opc ||| f3 <<< 12) &&& (0x7f#32 ||| 0x7#32 <<< 12) = opc ||| f3 <<< 12 := by
  refine BitMask.Within.or ?_ ?_
  · have hwithin : BitMask.Within 0x7f#32 opc := hopc
    exact hwithin.trans (by decide)
  · have hwithin : BitMask.Within (0x7#32 <<< 12) (f3 <<< 12) := by
      rw [BitMask.Within, ← BitVec.shiftLeft_and_distrib, hf3]
    exact hwithin.trans (by decide)

theorem funct7_iff {opc f3 f7 : BitVec 32} (hopc : opc &&& 0x7f#32 = opc)
    (hf3 : f3 &&& 0x7#32 = f3) (hf7 : f7 &&& 0x7f#32 = f7) (raw : BitVec 32) :
    raw &&& (0x7f#32 ||| 0x7#32 <<< 12 ||| 0x7f#32 <<< 25) = opc ||| f3 <<< 12 ||| f7 <<< 25 ↔
      (raw &&& 0x7f#32 = opc ∧ raw >>> 12 &&& 0x7#32 = f3) ∧ raw >>> 25 &&& 0x7f#32 = f7 := by
  rw [BitMask.and_union_eq_iff (by decide) (within_funct3 hopc hf3)
    (by rw [← BitVec.shiftLeft_and_distrib, hf7]), funct3_iff hopc hf3,
    BitMask.field_eq_iff (by decide) hf7]

theorem within_funct7 {opc f3 f7 : BitVec 32} (hopc : opc &&& 0x7f#32 = opc)
    (hf3 : f3 &&& 0x7#32 = f3) (hf7 : f7 &&& 0x7f#32 = f7) :
    (opc ||| f3 <<< 12 ||| f7 <<< 25) &&& (0x7f#32 ||| 0x7#32 <<< 12 ||| 0x7f#32 <<< 25) =
      opc ||| f3 <<< 12 ||| f7 <<< 25 := by
  refine BitMask.Within.or ?_ ?_
  · exact BitMask.Within.trans (within_funct3 hopc hf3) (by decide)
  · have hwithin : BitMask.Within (0x7f#32 <<< 25) (f7 <<< 25) := by
      rw [BitMask.Within, ← BitVec.shiftLeft_and_distrib, hf7]
    exact hwithin.trans (by decide)

theorem fits_iff {format : Format} (h : format.InRange) (raw : BitVec 32) :
    raw &&& format.mask = format.value ↔ format.Fits raw := by
  cases format with
  | opcode opc => exact Iff.rfl
  | funct3 opc f3 => exact funct3_iff h.1 h.2 raw
  | funct6 opc f3 f6 =>
    rw [mask, value, BitMask.and_union_eq_iff (by decide) (within_funct3 h.1 h.2.1)
      (by rw [← BitVec.shiftLeft_and_distrib, h.2.2]), funct3_iff h.1 h.2.1,
      BitMask.field_eq_iff (by decide) h.2.2]
    exact Iff.rfl
  | funct7 opc f3 f7 => exact funct7_iff h.1 h.2.1 h.2.2 raw
  | funct7NoRd opc f3 f7 =>
    rw [mask, value, BitMask.and_union_eq_iff (by decide) (within_funct7 h.1 h.2.1 h.2.2) (by decide),
      funct7_iff h.1 h.2.1 h.2.2, BitMask.field_eq_iff (by decide) (by decide)]
    exact Iff.rfl
  | word fixed =>
    rw [mask, BitVec.and_allOnes]
    exact Iff.rfl

end Format

def encoding : Operation → Format
  | .lui => .opcode 0x37#32
  | .auipc => .opcode 0x17#32
  | .jal => .opcode 0x6f#32
  | .jalr => .funct3 0x67#32 0#32
  | .beq => .funct3 0x63#32 0#32
  | .bne => .funct3 0x63#32 1#32
  | .blt => .funct3 0x63#32 4#32
  | .bge => .funct3 0x63#32 5#32
  | .bltu => .funct3 0x63#32 6#32
  | .bgeu => .funct3 0x63#32 7#32
  | .lb => .funct3 0x03#32 0#32
  | .lh => .funct3 0x03#32 1#32
  | .lw => .funct3 0x03#32 2#32
  | .ld => .funct3 0x03#32 3#32
  | .lbu => .funct3 0x03#32 4#32
  | .lhu => .funct3 0x03#32 5#32
  | .lwu => .funct3 0x03#32 6#32
  | .sb => .funct3 0x23#32 0#32
  | .sh => .funct3 0x23#32 1#32
  | .sw => .funct3 0x23#32 2#32
  | .sd => .funct3 0x23#32 3#32
  | .addi => .funct3 0x13#32 0#32
  | .slti => .funct3 0x13#32 2#32
  | .sltiu => .funct3 0x13#32 3#32
  | .xori => .funct3 0x13#32 4#32
  | .ori => .funct3 0x13#32 6#32
  | .andi => .funct3 0x13#32 7#32
  | .slli => .funct6 0x13#32 1#32 0x00#32
  | .srli => .funct6 0x13#32 5#32 0x00#32
  | .srai => .funct6 0x13#32 5#32 0x10#32
  | .add => .funct7 0x33#32 0#32 0x00#32
  | .sub => .funct7 0x33#32 0#32 0x20#32
  | .sll => .funct7 0x33#32 1#32 0x00#32
  | .slt => .funct7 0x33#32 2#32 0x00#32
  | .sltu => .funct7 0x33#32 3#32 0x00#32
  | .xor => .funct7 0x33#32 4#32 0x00#32
  | .srl => .funct7 0x33#32 5#32 0x00#32
  | .sra => .funct7 0x33#32 5#32 0x20#32
  | .or => .funct7 0x33#32 6#32 0x00#32
  | .and => .funct7 0x33#32 7#32 0x00#32
  | .addiw => .funct3 0x1b#32 0#32
  | .slliw => .funct7 0x1b#32 1#32 0x00#32
  | .srliw => .funct7 0x1b#32 5#32 0x00#32
  | .sraiw => .funct7 0x1b#32 5#32 0x20#32
  | .addw => .funct7 0x3b#32 0#32 0x00#32
  | .subw => .funct7 0x3b#32 0#32 0x20#32
  | .sllw => .funct7 0x3b#32 1#32 0x00#32
  | .srlw => .funct7 0x3b#32 5#32 0x00#32
  | .sraw => .funct7 0x3b#32 5#32 0x20#32
  | .fence => .funct3 0x0f#32 0#32
  | .fenceI => .word 0x0000100f#32
  | .sfenceVma => .funct7NoRd 0x73#32 0#32 0x09#32
  | .ecall => .word 0x00000073#32
  | .ebreak => .word 0x00100073#32
  | .sret => .word 0x10200073#32
  | .mret => .word 0x30200073#32
  | .wfi => .word 0x10500073#32
  | .csrrw => .funct3 0x73#32 1#32
  | .csrrs => .funct3 0x73#32 2#32
  | .csrrc => .funct3 0x73#32 3#32
  | .csrrwi => .funct3 0x73#32 5#32
  | .csrrsi => .funct3 0x73#32 6#32
  | .csrrci => .funct3 0x73#32 7#32

def Encodes (raw : BitVec 32) (operation : Operation) : Prop :=
  raw &&& (encoding operation).mask = (encoding operation).value

theorem encoding_inRange (operation : Operation) : (encoding operation).InRange := by
  cases operation <;> simp [encoding, Format.InRange]

theorem encodes_iff_fits {raw : BitVec 32} {operation : Operation} :
    Encodes raw operation ↔ (encoding operation).Fits raw :=
  Format.fits_iff (encoding_inRange operation) raw

def immediateOf (raw : BitVec 32) : Operation → BitVec 64
  | .lui | .auipc => immediateU raw
  | .jal => immediateJ raw
  | .jalr | .lb | .lh | .lw | .ld | .lbu | .lhu | .lwu | .addi | .slti | .sltiu | .xori | .ori
  | .andi | .addiw => immediateI raw
  | .beq | .bne | .blt | .bge | .bltu | .bgeu => immediateB raw
  | .sb | .sh | .sw | .sd => immediateS raw
  | .slli | .srli | .srai => (raw >>> 20 &&& 0x3f#32).setWidth 64
  | .slliw | .srliw | .sraiw => (raw >>> 20 &&& 0x1f#32).setWidth 64
  | _ => 0#64

namespace DecodeResult

def operation (result : DecodeResult) : Option Operation :=
  result.toOption.map DecodedInstruction.operation

@[simp] theorem operation_instruction (raw : BitVec 32) (op : Operation) (immediate : BitVec 64) :
    operation (instruction raw op immediate) = some op := rfl

@[simp] theorem operation_error (raw : BitVec 32) (detail : String) :
    operation (decodeError raw detail) = none := rfl

end DecodeResult

section Accepts
variable {raw : BitVec 32}

theorem uncompressed {opc : BitVec 32} (h : raw &&& 0x7f#32 = opc) (hopc : opc &&& 0x3#32 = 0x3#32) :
    raw &&& 0x3#32 = 0x3#32 := by
  rw [← h, BitVec.and_assoc] at hopc
  exact hopc

theorem funct3_field {f3 : BitVec 32} (h : raw >>> 12 &&& 0x7#32 = f3) :
    field raw 12 0x7#32 = f3.setWidth 8 := by
  rw [field, h]

theorem funct7_shift (raw : BitVec 32) : raw >>> 25 &&& 0x7f#32 = raw >>> 25 :=
  (Slices.shift_and_low raw 25 7).trans (Slices.shift_top raw rfl).symm

theorem funct6_shift (raw : BitVec 32) : raw >>> 26 &&& 0x3f#32 = raw >>> 26 :=
  (Slices.shift_and_low raw 26 6).trans (Slices.shift_top raw rfl).symm

theorem decode_of_fits {op : Operation} (h : (encoding op).Fits raw) :
    decode raw = instruction raw op (immediateOf raw op) := by
  cases op
  case lui | auipc | jal =>
    rw [decode, uncompressed h (by decide), h]
    rfl
  case jalr | beq | bne | blt | bge | bltu | bgeu | lb | lh | lw | ld | lbu | lhu | lwu | sb | sh
      | sw | sd | addi | slti | sltiu | xori | ori | andi | addiw | fence | csrrw | csrrs | csrrc
      | csrrwi | csrrsi | csrrci =>
    obtain ⟨hopcode, hfunct3⟩ := h
    rw [decode, uncompressed hopcode (by decide), hopcode, funct3_field hfunct3]
    rfl
  case slli | srli | srai =>
    obtain ⟨⟨hopcode, hfunct3⟩, hfunct6⟩ := h
    rw [decode, uncompressed hopcode (by decide), hopcode, funct3_field hfunct3]
    have hshift := (funct6_shift raw).symm.trans hfunct6
    simp [decodeOpImm, hshift, immediateOf]
  case add | sub | sll | slt | sltu | xor | srl | sra | or | and =>
    obtain ⟨⟨hopcode, hfunct3⟩, hfunct7⟩ := h
    rw [decode, uncompressed hopcode (by decide), hopcode, funct3_field hfunct3]
    simp [decodeOp, hfunct7, immediateOf]
  case slliw | srliw | sraiw | addw | subw | sllw | srlw | sraw =>
    obtain ⟨⟨hopcode, hfunct3⟩, hfunct7⟩ := h
    rw [decode, uncompressed hopcode (by decide), hopcode, funct3_field hfunct3]
    rw [funct7_shift] at hfunct7
    simp [decodeOpImm32, decodeOp32, hfunct7, immediateOf]
  case sfenceVma =>
    have hpattern := encodes_iff_fits.mpr h
    obtain ⟨⟨⟨hopcode, hfunct3⟩, -⟩, -⟩ := h
    rw [decode, uncompressed hopcode (by decide), hopcode, funct3_field hfunct3]
    have hword : raw &&& 0xfe007fff#32 = 0x12000073#32 := hpattern
    simp [decodeSystem, hword, immediateOf]
  case fenceI | ecall | ebreak | sret | mret | wfi =>
    obtain rfl := h
    rfl

theorem funct3_cases (raw : BitVec 32) :
    field raw 12 0x7#32 = 0#8 ∨ field raw 12 0x7#32 = 1#8 ∨ field raw 12 0x7#32 = 2#8 ∨
      field raw 12 0x7#32 = 3#8 ∨ field raw 12 0x7#32 = 4#8 ∨ field raw 12 0x7#32 = 5#8 ∨
      field raw 12 0x7#32 = 6#8 ∨ field raw 12 0x7#32 = 7#8 := by
  have hlt : (field raw 12 0x7#32).toNat < 8 := by
    rw [field, BitVec.toNat_setWidth, BitVec.toNat_and, show (0x7#32).toNat = 2 ^ 3 - 1 from rfl,
      Nat.and_two_pow_sub_one_eq_mod]
    omega
  generalize field raw 12 0x7#32 = funct3 at hlt
  bv_omega

theorem field_widened (raw : BitVec 32) :
    (field raw 12 0x7#32).setWidth 32 = raw >>> 12 &&& 0x7#32 := by
  apply BitVec.eq_of_toNat_eq
  rw [field, BitVec.toNat_setWidth, BitVec.toNat_setWidth, BitVec.toNat_and,
    show (0x7#32).toNat = 2 ^ 3 - 1 from rfl, Nat.and_two_pow_sub_one_eq_mod]
  omega

variable {op : Operation}

theorem decodeBranch_format (h : (decodeBranch raw (field raw 12 0x7#32)).operation = some op) :
    encoding op = .funct3 0x63#32 (raw >>> 12 &&& 0x7#32) := by
  rw [← field_widened]
  rcases funct3_cases raw with h3 | h3 | h3 | h3 | h3 | h3 | h3 | h3 <;> rw [h3] at h ⊢ <;>
    first | (obtain rfl := Option.some.inj h; rfl) | cases h

theorem decodeLoad_format (h : (decodeLoad raw (field raw 12 0x7#32)).operation = some op) :
    encoding op = .funct3 0x03#32 (raw >>> 12 &&& 0x7#32) := by
  rw [← field_widened]
  rcases funct3_cases raw with h3 | h3 | h3 | h3 | h3 | h3 | h3 | h3 <;> rw [h3] at h ⊢ <;>
    first | (obtain rfl := Option.some.inj h; rfl) | cases h

theorem decodeStore_format (h : (decodeStore raw (field raw 12 0x7#32)).operation = some op) :
    encoding op = .funct3 0x23#32 (raw >>> 12 &&& 0x7#32) := by
  rw [← field_widened]
  rcases funct3_cases raw with h3 | h3 | h3 | h3 | h3 | h3 | h3 | h3 <;> rw [h3] at h ⊢ <;>
    first | (obtain rfl := Option.some.inj h; rfl) | cases h

theorem decodeOpImm_format (h : (decodeOpImm raw (field raw 12 0x7#32)).operation = some op) :
    encoding op = .funct3 0x13#32 (raw >>> 12 &&& 0x7#32) ∨
      encoding op = .funct6 0x13#32 (raw >>> 12 &&& 0x7#32) (raw >>> 26 &&& 0x3f#32) := by
  rw [← field_widened]
  rcases funct3_cases raw with h3 | h3 | h3 | h3 | h3 | h3 | h3 | h3 <;> rw [h3] at h ⊢
  · obtain rfl := Option.some.inj h
    exact .inl rfl
  · right
    rw [funct6_shift]
    change (if raw >>> 26 ≠ 0#32 then decodeError raw _ else instruction raw .slli _).operation =
      some op at h
    split_ifs at h with hfunct6
    · cases h
    · rw [not_not.mp hfunct6]
      obtain rfl := Option.some.inj h
      rfl
  · obtain rfl := Option.some.inj h
    exact .inl rfl
  · obtain rfl := Option.some.inj h
    exact .inl rfl
  · obtain rfl := Option.some.inj h
    exact .inl rfl
  · right
    change (if raw >>> 26 &&& 0x3f#32 = 0#32 then instruction raw .srli _
      else if raw >>> 26 &&& 0x3f#32 = 0x10#32 then instruction raw .srai _
      else decodeError raw _).operation = some op at h
    split_ifs at h with hlogical harithmetic
    · rw [hlogical]
      obtain rfl := Option.some.inj h
      rfl
    · rw [harithmetic]
      obtain rfl := Option.some.inj h
      rfl
    · cases h
  · obtain rfl := Option.some.inj h
    exact .inl rfl
  · obtain rfl := Option.some.inj h
    exact .inl rfl

theorem decodeOp_format (h : (decodeOp raw (field raw 12 0x7#32)).operation = some op) :
    encoding op = .funct7 0x33#32 (raw >>> 12 &&& 0x7#32) (raw >>> 25 &&& 0x7f#32) := by
  rw [← field_widened]
  unfold decodeOp at h
  dsimp only at h
  by_cases halternate : raw >>> 25 &&& 0x7f#32 = 0x20#32
  · rw [halternate] at h ⊢
    rcases funct3_cases raw with h3 | h3 | h3 | h3 | h3 | h3 | h3 | h3 <;> rw [h3] at h ⊢ <;>
      first | (obtain rfl := Option.some.inj h; rfl) | cases h
  · rw [if_neg halternate] at h
    by_cases hbase : raw >>> 25 &&& 0x7f#32 = 0#32
    · rw [hbase] at h ⊢
      rcases funct3_cases raw with h3 | h3 | h3 | h3 | h3 | h3 | h3 | h3 <;> rw [h3] at h ⊢ <;>
        (obtain rfl := Option.some.inj h; rfl)
    · rw [if_pos hbase] at h
      cases h

theorem decodeOp32_format (h : (decodeOp32 raw (field raw 12 0x7#32)).operation = some op) :
    encoding op = .funct7 0x3b#32 (raw >>> 12 &&& 0x7#32) (raw >>> 25 &&& 0x7f#32) := by
  rw [← field_widened, funct7_shift]
  unfold decodeOp32 at h
  dsimp only at h
  by_cases halternate : raw >>> 25 = 0x20#32
  · rw [halternate] at h ⊢
    rcases funct3_cases raw with h3 | h3 | h3 | h3 | h3 | h3 | h3 | h3 <;> rw [h3] at h ⊢ <;>
      first | (obtain rfl := Option.some.inj h; rfl) | cases h
  · rw [if_neg halternate] at h
    by_cases hbase : raw >>> 25 = 0#32
    · rw [hbase] at h ⊢
      rcases funct3_cases raw with h3 | h3 | h3 | h3 | h3 | h3 | h3 | h3 <;> rw [h3] at h ⊢ <;>
        first | (obtain rfl := Option.some.inj h; rfl) | cases h
    · rw [if_pos hbase] at h
      cases h

theorem decodeOpImm32_format (h : (decodeOpImm32 raw (field raw 12 0x7#32)).operation = some op) :
    encoding op = .funct3 0x1b#32 (raw >>> 12 &&& 0x7#32) ∨
      encoding op = .funct7 0x1b#32 (raw >>> 12 &&& 0x7#32) (raw >>> 25 &&& 0x7f#32) := by
  rw [← field_widened, funct7_shift]
  unfold decodeOpImm32 at h
  dsimp only at h
  split_ifs at h with hadd hleft hlogical harithmetic
  · rw [hadd]
    obtain rfl := Option.some.inj h
    exact .inl rfl
  · rw [hleft.1, hleft.2]
    obtain rfl := Option.some.inj h
    exact .inr rfl
  · rw [hlogical.1, hlogical.2]
    obtain rfl := Option.some.inj h
    exact .inr rfl
  · rw [harithmetic.1, harithmetic.2]
    obtain rfl := Option.some.inj h
    exact .inr rfl
  · cases h

theorem decodeSystem_encodes (hopcode : raw &&& 0x7f#32 = 0x73#32)
    (h : (decodeSystem raw (field raw 12 0x7#32)).operation = some op) : Encodes raw op := by
  have hfunct3 := field_widened raw
  rw [encodes_iff_fits]
  rcases funct3_cases raw with h3 | h3 | h3 | h3 | h3 | h3 | h3 | h3 <;> rw [h3] at h hfunct3
  · unfold decodeSystem at h
    rw [if_pos rfl] at h
    split_ifs at h with hfence hecall hebreak hsret hmret hwfi
    · obtain rfl := Option.some.inj h
      exact encodes_iff_fits.mp hfence
    · obtain rfl := Option.some.inj h
      exact hecall
    · obtain rfl := Option.some.inj h
      exact hebreak
    · obtain rfl := Option.some.inj h
      exact hsret
    · obtain rfl := Option.some.inj h
      exact hmret
    · obtain rfl := Option.some.inj h
      exact hwfi
    · cases h
  all_goals first | (obtain rfl := Option.some.inj h; exact ⟨hopcode, hfunct3.symm⟩) | cases h

theorem opcode_eq {k : Nat} (h : (raw &&& 0x7f#32).toNat = k) :
    raw &&& 0x7f#32 = BitVec.ofNat 32 k :=
  BitVec.eq_of_toNat_eq (by rw [h, BitVec.toNat_ofNat, Nat.mod_eq_of_lt (h ▸ BitVec.isLt _)])

theorem decode_fits (h : (decode raw).operation = some op) : (encoding op).Fits raw := by
  unfold decode at h
  split_ifs at h with hcompressed
  · cases h
  · dsimp only at h
    split at h
    case h_1 hopcode | h_2 hopcode | h_3 hopcode =>
      obtain rfl := Option.some.inj h
      exact opcode_eq hopcode
    case h_4 hopcode =>
      split_ifs at h with hfunct3
      · cases h
      · obtain rfl := Option.some.inj h
        refine ⟨opcode_eq hopcode, ?_⟩
        rw [← field_widened, not_not.mp hfunct3]
        rfl
    case h_5 hopcode =>
      rw [decodeBranch_format h]
      exact ⟨opcode_eq hopcode, rfl⟩
    case h_6 hopcode =>
      rw [decodeLoad_format h]
      exact ⟨opcode_eq hopcode, rfl⟩
    case h_7 hopcode =>
      rw [decodeStore_format h]
      exact ⟨opcode_eq hopcode, rfl⟩
    case h_8 hopcode =>
      rcases decodeOpImm_format h with hformat | hformat <;> rw [hformat]
      · exact ⟨opcode_eq hopcode, rfl⟩
      · exact ⟨⟨opcode_eq hopcode, rfl⟩, rfl⟩
    case h_9 hopcode =>
      rw [decodeOp_format h]
      exact ⟨⟨opcode_eq hopcode, rfl⟩, rfl⟩
    case h_10 hopcode =>
      rcases decodeOpImm32_format h with hformat | hformat <;> rw [hformat]
      · exact ⟨opcode_eq hopcode, rfl⟩
      · exact ⟨⟨opcode_eq hopcode, rfl⟩, rfl⟩
    case h_11 hopcode =>
      rw [decodeOp32_format h]
      exact ⟨⟨opcode_eq hopcode, rfl⟩, rfl⟩
    case h_12 hopcode =>
      split_ifs at h with hfence hfenceI
      · obtain rfl := Option.some.inj h
        refine ⟨opcode_eq hopcode, ?_⟩
        rw [← field_widened, hfence]
        rfl
      · obtain rfl := Option.some.inj h
        exact hfenceI.2
      · cases h
    case h_13 hopcode => exact encodes_iff_fits.mp (decodeSystem_encodes (opcode_eq hopcode) h)
    case h_14 => cases h

theorem decode_operation_iff : (decode raw).operation = some op ↔ Encodes raw op :=
  ⟨fun h => encodes_iff_fits.mpr (decode_fits h), fun h => by
    rw [decode_of_fits (encodes_iff_fits.mp h)]
    rfl⟩

theorem decode_accepts_exactly (raw : BitVec 32) :
    (∀ op, (decode raw).operation = some op ↔ Encodes raw op) ∧
    (∀ first second, Encodes raw first → Encodes raw second → first = second) ∧
    ((∀ op, ¬ Encodes raw op) → ∃ error, decode raw = .error error) := by
  refine ⟨fun op => decode_operation_iff, ?_, ?_⟩
  · intro first second hfirst hsecond
    have hdecoded := decode_operation_iff.mpr hfirst
    rw [decode_operation_iff.mpr hsecond] at hdecoded
    exact (Option.some.inj hdecoded).symm
  · intro hnone
    cases hdecode : decode raw with
    | error error => exact ⟨error, rfl⟩
    | ok decoded =>
      have hoperation : (decode raw).operation = some decoded.operation := by
        rw [hdecode]
        rfl
      exact absurd (decode_operation_iff.mp hoperation) (hnone decoded.operation)

end Accepts

end Northstar64
