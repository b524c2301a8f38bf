import Northstar64.Issue
import Northstar64.Alignment
import Northstar64.Immediates

namespace Northstar64

theorem arithmeticShiftRight_eq (value : BitVec 64) (amount : Nat) :
    arithmeticShiftRight value amount = value.sshiftRight (amount % 64) :=
  (SignBit.sshiftRight_eq_ite value (Nat.mod_lt _ (by decide))).symm

theorem arithmeticShiftRightWord_eq (value : BitVec 32) (amount : Nat) :
    arithmeticShiftRightWord value amount = value.sshiftRight (amount % 32) :=
  (SignBit.sshiftRight_eq_ite value (Nat.mod_lt _ (by decide))).symm

def integerForm (raw : BitVec 32) (operation : Operation) : Option Rv64i.Instruction :=
  let rd := Rv64i.rd raw
  let rs1 := Rv64i.rs1 raw
  let rs2 := Rv64i.rs2 raw
  let immediate := Rv64i.immediateI raw
  match operation with
  | .lui => some (.lui rd (Rv64i.immediateU raw))
  | .auipc => some (.auipc rd (Rv64i.immediateU raw))
  | .jal => some (.jal rd (Rv64i.immediateJ raw))
  | .jalr => some (.jalr rd rs1 immediate)
  | .beq => some (.branch .eq rs1 rs2 (Rv64i.immediateB raw))
  | .bne => some (.branch .ne rs1 rs2 (Rv64i.immediateB raw))
  | .blt => some (.branch .lt rs1 rs2 (Rv64i.immediateB raw))
  | .bge => some (.branch .ge rs1 rs2 (Rv64i.immediateB raw))
  | .bltu => some (.branch .ltu rs1 rs2 (Rv64i.immediateB raw))
  | .bgeu => some (.branch .geu rs1 rs2 (Rv64i.immediateB raw))
  | .addi => some (.opImmediate .add rd rs1 immediate)
  | .slti => some (.opImmediate .slt rd rs1 immediate)
  | .sltiu => some (.opImmediate .sltu rd rs1 immediate)
  | .xori => some (.opImmediate .xor rd rs1 immediate)
  | .ori => some (.opImmediate .or rd rs1 immediate)
  | .andi => some (.opImmediate .and rd rs1 immediate)
  | .slli => some (.opImmediate .sll rd rs1 immediate)
  | .srli => some (.opImmediate .srl rd rs1 immediate)
  | .srai => some (.opImmediate .sra rd rs1 immediate)
  | .add => some (.op .add rd rs1 rs2)
  | .sub => some (.op .sub rd rs1 rs2)
  | .sll => some (.op .sll rd rs1 rs2)
  | .slt => some (.op .slt rd rs1 rs2)
  | .sltu => some (.op .sltu rd rs1 rs2)
  | .xor => some (.op .xor rd rs1 rs2)
  | .srl => some (.op .srl rd rs1 rs2)
  | .sra => some (.op .sra rd rs1 rs2)
  | .or => some (.op .or rd rs1 rs2)
  | .and => some (.op .and rd rs1 rs2)
  | .addiw => some (.opImmediate32 .addw rd rs1 immediate)
  | .slliw => some (.opImmediate32 .sllw rd rs1 immediate)
  | .srliw => some (.opImmediate32 .srlw rd rs1 immediate)
  | .sraiw => some (.opImmediate32 .sraw rd rs1 immediate)
  | .addw => some (.op32 .addw rd rs1 rs2)
  | .subw => some (.op32 .subw rd rs1 rs2)
  | .sllw => some (.op32 .sllw rd rs1 rs2)
  | .srlw => some (.op32 .srlw rd rs1 rs2)
  | .sraw => some (.op32 .sraw rd rs1 rs2)
  | _ => none

section Values
variable (x y : BitVec 64) (raw : BitVec 32)

theorem low_six_toNat : (y &&& 0x3f#64).toNat = (y.extractLsb' 0 6).toNat := by
  rw [show (0x3f#64) = BitMask.low 64 6 from rfl, BitMask.toNat_and_low, BitVec.extractLsb'_toNat,
    Nat.shiftRight_zero]

theorem low_five_toNat :
    (y &&& 0x1f#64).toNat = ((y.setWidth 32).extractLsb' 0 5).toNat := by
  rw [show (0x1f#64) = BitMask.low 64 5 from rfl, BitMask.toNat_and_low, BitVec.extractLsb'_toNat,
    Nat.shiftRight_zero, BitVec.toNat_setWidth, Nat.mod_mod_of_dvd _ (by decide)]

theorem shamt_six_toNat :
    ((raw >>> 20 &&& 0x3f#32).setWidth 64).toNat =
      ((Rv64i.immediateI raw).extractLsb' 0 6).toNat := by
  have hbits : (Rv64i.immediateI raw).extractLsb' 0 6 = raw.extractLsb' 20 6 :=
    (Slices.extract_signExtend _ (by decide) (by decide)).trans (Slices.extract_extract _ (by decide))
  rw [hbits, show (0x3f#32) = BitMask.low 32 6 from rfl,
    Slices.shift_and_low_setWidth raw 20 6 64 (by decide), BitVec.toNat_setWidth_of_le (by decide)]

theorem shamt_five_toNat :
    ((raw >>> 20 &&& 0x1f#32).setWidth 64).toNat =
      (((Rv64i.immediateI raw).setWidth 32).extractLsb' 0 5).toNat := by
  have hbits : ((Rv64i.immediateI raw).setWidth 32).extractLsb' 0 5 = raw.extractLsb' 20 5 :=
    (Slices.extract_narrowed _ (by decide) (by decide) (by decide)).trans
      (Slices.extract_extract _ (by decide))
  rw [hbits, show (0x1f#32) = BitMask.low 32 5 from rfl,
    Slices.shift_and_low_setWidth raw 20 5 64 (by decide), BitVec.toNat_setWidth_of_le (by decide)]

theorem signed_less_eq :
    (if signedValue x < signedValue y then 1#64 else 0#64) =
      (BitVec.ofBool (x.slt y)).setWidth 64 := by
  rw [BitVec.slt_eq_decide]
  unfold signedValue
  split_ifs with hlt
  · rw [decide_eq_true hlt]
    rfl
  · rw [decide_eq_false hlt]
    rfl

theorem unsigned_less_eq :
    (if x < y then 1#64 else 0#64) = (BitVec.ofBool (x.ult y)).setWidth 64 := by
  split_ifs with hlt
  · rw [BitVec.ult_iff_lt.mpr hlt]
    rfl
  · rw [Bool.eq_false_iff.mpr (fun h => hlt (BitVec.ult_iff_lt.mp h))]
    rfl

theorem shift_arithmetic_eq {amount : Nat} {low : BitVec 6} (h : amount = low.toNat) :
    arithmeticShiftRight x amount = x.sshiftRight low.toNat := by
  rw [arithmeticShiftRight_eq, h, Nat.mod_eq_of_lt low.isLt]

theorem shift_arithmetic_word_eq (word : BitVec 32) {amount : Nat} {low : BitVec 5}
    (h : amount = low.toNat) :
    arithmeticShiftRightWord word amount = word.sshiftRight low.toNat := by
  rw [arithmeticShiftRightWord_eq, h, Nat.mod_eq_of_lt low.isLt]

theorem signExtendWord_widen {word expected : BitVec 32} (h : word = expected) :
    signExtendWord (word.setWidth 64) = expected.signExtend 64 := by
  rw [signExtendWord, BitVec.setWidth_setWidth_of_le _ (by decide), BitVec.setWidth_eq, h]

theorem signExtendWord_add :
    signExtendWord (x + y) = Rv64i.WordArithmetic.eval .addw x y := by
  rw [signExtendWord, BitVec.setWidth_add _ _ (by decide)]
  rfl

theorem clearBitZero_eq : x &&& ~~~1#64 = Rv64i.clearBitZero x := by
  apply BitVec.eq_of_toNat_eq
  rw [show (1#64) = BitMask.low 64 1 from rfl, BitMask.toNat_clear_low, Rv64i.clearBitZero,
    BitVec.toNat_append, BitVec.extractLsb'_toNat, Nat.shiftRight_eq_div_pow, Nat.shiftLeft_eq,
    BitVec.toNat_ofNat, Nat.zero_mod, Nat.or_zero]
  have hlt := x.isLt
  omega

end Values

def setRegister (s : StepState) : Option Rv64i.RegisterWrite → StepState
  | none => s
  | some write => s.writeRegister write.rd write.value

def Delivers (s : StepState) (t : StepState) : Rv64i.Result → Prop
  | .advance write next => t = (setRegister (s.setPc next) write).complete
  | .misaligned target =>
    ∃ detail, t = (s.setPc (s.record.pc + kInstructionBytes)).raiseTrap
      .instructionAddressMisaligned target detail

section Delivers
variable (s : StepState) (decoded : DecodedInstruction)

theorem delivers_register {value expected : BitVec 64} (h : value = expected) :
    Delivers s ((s.setPc (s.record.pc + kInstructionBytes)).executeRegister decoded value)
      (.advance (some ⟨decoded.rd, expected⟩) (s.record.pc + 4#64)) := by
  subst h
  rfl

theorem isMisaligned_iff (target : Address) : isMisaligned target = true ↔ target.toNat % 4 ≠ 0 := by
  rw [← Bool.not_eq_false, Ne, ← alignedAddress_iff, isMisaligned_eq_false_iff]

theorem writeRegister_setPc (index : RegisterIndex) (value : BitVec 64) (pc : Address) :
    (s.writeRegister index value).setPc pc = (s.setPc pc).writeRegister index value := by
  unfold StepState.writeRegister
  split_ifs <;> rfl

theorem delivers_jump {target expected : Address} (h : target = expected) :
    Delivers s ((s.setPc (s.record.pc + kInstructionBytes)).jump decoded target)
      (Rv64i.transfer (some ⟨decoded.rd, s.record.pc + 4#64⟩) expected) := by
  subst h
  unfold StepState.jump Rv64i.transfer
  by_cases haligned : target.toNat % 4 = 0
  · rw [if_pos haligned, if_neg (fun hmisaligned => (isMisaligned_iff target).mp hmisaligned haligned),
      writeRegister_setPc]
    rfl
  · rw [if_neg haligned, if_pos ((isMisaligned_iff target).mpr haligned)]
    exact ⟨_, rfl⟩

theorem delivers_branch {taken expected : Bool} (h : taken = expected) :
    Delivers s ((s.setPc (s.record.pc + kInstructionBytes)).branch decoded taken).complete
      (if expected then Rv64i.transfer none (s.record.pc + decoded.immediate)
        else .advance none (s.record.pc + 4#64)) := by
  subst h
  cases taken with
  | false => rfl
  | true =>
    have hbranch : (s.setPc (s.record.pc + kInstructionBytes)).branch decoded true =
        if isMisaligned (s.record.pc + decoded.immediate) then
          (s.setPc (s.record.pc + kInstructionBytes)).raiseTrap .instructionAddressMisaligned
            (s.record.pc + decoded.immediate) (text "taken branch target is not four-byte aligned")
        else s.setPc (s.record.pc + decoded.immediate) := rfl
    have htarget := isMisaligned_iff (s.record.pc + decoded.immediate)
    rw [hbranch, if_pos rfl, Rv64i.transfer]
    by_cases haligned : (s.record.pc + decoded.immediate).toNat % 4 = 0
    · rw [if_pos haligned, if_neg (fun hmisaligned => htarget.mp hmisaligned haligned)]
      rfl
    · rw [if_neg haligned, if_pos (htarget.mpr haligned), Cpu.complete_raiseTrap]
      exact ⟨_, rfl⟩

end Delivers

theorem execute_integer (s : StepState) (raw : BitVec 32) {operation : Operation}
    {reference : Rv64i.Instruction} (h : integerForm raw operation = some reference) :
    Delivers s (s.execute (decodedAs raw operation))
      (reference.result s.cpu.registers.values s.record.pc) := by
  let x := s.cpu.registers.values (Rv64i.rs1 raw)
  let y := s.cpu.registers.values (Rv64i.rs2 raw)
  let word (value : BitVec 64) : BitVec 32 := value.setWidth 32
  have hI := immediateI_eq raw
  have hB := immediateB_eq raw
  have hlow := low_six_toNat y
  have hlowWord := low_five_toNat y
  have hshamt := shamt_six_toNat raw
  have hshamtWord := shamt_five_toNat raw
  cases operation <;> cases h
  case lui => exact delivers_register s (decodedAs raw .lui) (immediateU_eq raw)
  case auipc =>
    exact delivers_register s (decodedAs raw .auipc) (congrArg (s.record.pc + ·) (immediateU_eq raw))
  case jal =>
    exact delivers_jump s (decodedAs raw .jal) (congrArg (s.record.pc + ·) (immediateJ_eq raw))
  case jalr =>
    rw [← hI]
    exact delivers_jump s (decodedAs raw .jalr) (clearBitZero_eq (x + immediateI raw))
  case bne =>
    rw [← hB]
    exact delivers_branch s (decodedAs raw .bne) decide_not
  case beq | blt | bge | bltu | bgeu =>
    rw [← hB]
    exact delivers_branch s (decodedAs raw _) rfl
  case add | sub | xor | or | and => exact delivers_register s (decodedAs raw _) rfl
  case addi | xori | ori | andi =>
    rw [← hI]
    exact delivers_register s (decodedAs raw _) rfl
  case slt => exact delivers_register s (decodedAs raw .slt) (signed_less_eq x y)
  case sltu => exact delivers_register s (decodedAs raw .sltu) (unsigned_less_eq x y)
  case slti =>
    rw [← hI]
    exact delivers_register s (decodedAs raw .slti) (signed_less_eq x (immediateI raw))
  case sltiu =>
    rw [← hI]
    exact delivers_register s (decodedAs raw .sltiu) (unsigned_less_eq x (immediateI raw))
  case sll =>
    exact delivers_register s (decodedAs raw .sll) (congrArg (fun n : Nat => x <<< n) hlow)
  case srl =>
    exact delivers_register s (decodedAs raw .srl) (congrArg (fun n : Nat => x >>> n) hlow)
  case sra => exact delivers_register s (decodedAs raw .sra) (shift_arithmetic_eq x hlow)
  case slli =>
    exact delivers_register s (decodedAs raw .slli) (congrArg (fun n : Nat => x <<< n) hshamt)
  case srli =>
    exact delivers_register s (decodedAs raw .srli) (congrArg (fun n : Nat => x >>> n) hshamt)
  case srai => exact delivers_register s (decodedAs raw .srai) (shift_arithmetic_eq x hshamt)
  case addiw =>
    rw [← hI]
    exact delivers_register s (decodedAs raw .addiw) (signExtendWord_add x (immediateI raw))
  case addw | subw => exact delivers_register s (decodedAs raw _) (signExtendWord_widen rfl)
  case sllw =>
    exact delivers_register s (decodedAs raw .sllw)
      (signExtendWord_widen (congrArg (fun n : Nat => word x <<< n) hlowWord))
  case srlw =>
    exact delivers_register s (decodedAs raw .srlw)
      (signExtendWord_widen (congrArg (fun n : Nat => word x >>> n) hlowWord))
  case sraw =>
    exact delivers_register s (decodedAs raw .sraw)
      (signExtendWord_widen (shift_arithmetic_word_eq (word x) hlowWord))
  case slliw =>
    exact delivers_register s (decodedAs raw .slliw)
      (signExtendWord_widen (congrArg (fun n : Nat => word x <<< n) hshamtWord))
  case srliw =>
    exact delivers_register s (decodedAs raw .srliw)
      (signExtendWord_widen (congrArg (fun n : Nat => word x >>> n) hshamtWord))
  case sraiw =>
    exact delivers_register s (decodedAs raw .sraiw)
      (signExtendWord_widen (shift_arithmetic_word_eq (word x) hshamtWord))

namespace Cpu
variable (cpu : Cpu)

structure Advances (write : Option Rv64i.RegisterWrite) (next : Address) : Prop where
  trap : cpu.stepped.record.trap = none
  retired : cpu.stepped.record.retired = true
  registers : cpu.stepped.cpu.registers.values = Rv64i.writeBack cpu.registers.values write
  bus : cpu.stepped.cpu.bus = cpu.bus
  pc : cpu.stepped.cpu.pc = next
  nextPc : cpu.stepped.record.nextPc = next

def RejectsTarget (target : Address) : Prop :=
  ∃ detail, cpu.TrapEffect cpu.stepped ⟨.instructionAddressMisaligned, cpu.pc, target, detail⟩

def Realises : Rv64i.Result → Prop
  | .advance write next => cpu.Advances write next
  | .misaligned target => cpu.RejectsTarget target

variable {cpu}

theorem set_values (registers : RegisterFile) (index : RegisterIndex) (value : BitVec 64) :
    (registers.set index value).values = Rv64i.writeBack registers.values (some ⟨index, value⟩) := by
  unfold RegisterFile.set
  dsimp only [Rv64i.writeBack]
  split_ifs <;> rfl

theorem advances_of_eq {f : Scratch} {write : Option Rv64i.RegisterWrite} {next : Address}
    (h : cpu.stepped = (setRegister ((cpu.prepared f).setPc next) write).complete.retire) :
    cpu.Advances write next := by
  cases write with
  | none =>
    rw [setRegister, StepState.retire_complete rfl] at h
    constructor <;> rw [h] <;> rfl
  | some write =>
    have hrecord := StepState.writeRegister_record ((cpu.prepared f).setPc next) write.rd write.value
    have hcpu := StepState.writeRegister_cpu ((cpu.prepared f).setPc next) write.rd write.value
    rw [setRegister, StepState.retire_complete (by rw [hrecord]; rfl)] at h
    constructor <;> rw [h]
    · exact congrArg StepRecord.trap hrecord
    · rfl
    · rw [StepState.finished_registers, hcpu]
      exact set_values _ _ _
    · rw [StepState.finished_bus, hcpu]
      rfl
    · exact congrArg Cpu.pc hcpu
    · exact congrArg Cpu.pc hcpu

theorem realises_of_delivers {f : Scratch} {t : StepState} {result : Rv64i.Result}
    (hstep : cpu.stepped = t.retire) (h : Delivers (cpu.prepared f) t result) :
    cpu.Realises result := by
  cases result with
  | advance write next =>
    obtain rfl : t = _ := h
    exact advances_of_eq hstep
  | misaligned target =>
    obtain ⟨detail, rfl⟩ := h
    rw [retire_raiseTrap] at hstep
    exact ⟨detail, hstep ▸ cpu.trapEffect_raiseTrap _ _ _ _⟩

theorem integer_semantics (cpu : Cpu) (raw : BitVec 32) (decoded : DecodedInstruction)
    (reference : Rv64i.Instruction) (running : cpu.halted = false)
    (fetched : cpu.fetchedWord = some raw) (hdecode : decode raw = .ok decoded)
    (form : integerForm raw decoded.operation = some reference) :
    cpu.Realises (reference.result cpu.registers.values cpu.pc) := by
  have hstep := stepped_decoded running fetched hdecode
  have hdelivers := execute_integer (cpu.prepared (cpu.dataScratch decoded)) raw form
  rw [← decode_eq hdecode] at hdelivers
  exact realises_of_delivers hstep hdelivers

-- sraw x3, x1, x2
theorem integer_semantics_sraw :
    ({ codeCpu 0x4020d1bb#64 with
        registers := (RegisterFile.cleared.set 1#5 0x80000000#64).set 2#5 36#64 } : Cpu).Realises
      (.advance (some ⟨3#5, 0xfffffffff8000000#64⟩) 4#64) :=
  integer_semantics _ 0x4020d1bb#32 ⟨.sraw, 0x4020d1bb#32, 3#5, 1#5, 2#5, 0#64, 0x402#16⟩
    (.op32 .sraw 3#5 1#5 2#5) rfl (by decide +kernel) (by decide) (by decide)

end Cpu

end Northstar64
