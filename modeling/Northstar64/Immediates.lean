import Northstar64.Encoding
import Northstar64.Library.SignBit
import Northstar64.Library.Rv64i

namespace Northstar64

theorem signExtend_mask {bits : Nat} (h : bits ≤ 64) :
    (if bits = 64 then BitVec.allOnes 64 else 1#64 <<< bits - 1#64) = BitMask.low 64 bits := by
  split_ifs with hbits
  · subst hbits
    rfl
  · exact BitMask.shifted_sub_one bits

theorem and_low_eq_setWidth {bits : Nat} (h : bits ≤ 64) (value : BitVec 64) :
    value &&& BitMask.low 64 bits = (value.setWidth bits).setWidth 64 := by
  apply BitVec.eq_of_toNat_eq
  rw [BitMask.toNat_and_low, BitVec.toNat_setWidth_of_le h, BitVec.toNat_setWidth]

theorem signExtend_eq {bits : Nat} (hpos : 0 < bits) (h : bits ≤ 64) (value : BitVec 64) :
    signExtend value bits = (value.setWidth bits).signExtend 64 := by
  unfold signExtend
  dsimp only
  rw [signExtend_mask h, and_low_eq_setWidth h, SignBit.xor_sub_top hpos h]

variable (raw : BitVec 32)

theorem field_eq (shift : Nat) :
    (field raw shift 0x1f#32).setWidth 5 = raw.extractLsb' shift 5 := by
  rw [field, show (0x1f#32) = BitMask.low 32 5 from rfl,
    Slices.shift_and_low_setWidth raw shift 5 8 (by decide), BitVec.setWidth_setWidth (by decide),
    BitVec.setWidth_eq]

def decodedAs (operation : Operation) : DecodedInstruction :=
  ⟨operation, raw, Rv64i.rd raw, Rv64i.rs1 raw, Rv64i.rs2 raw, immediateOf raw operation,
    (raw >>> 20 &&& 0xfff#32).setWidth 16⟩

theorem instruction_eq (operation : Operation) :
    instruction raw operation (immediateOf raw operation) = .ok (decodedAs raw operation) := by
  rw [instruction, field_eq, field_eq, field_eq]
  rfl

variable {raw} in
theorem decode_eq {decoded : DecodedInstruction} (h : decode raw = .ok decoded) :
    decoded = decodedAs raw decoded.operation := by
  have hoperation : (decode raw).operation = some decoded.operation := by
    rw [h]
    rfl
  rw [decode_of_fits (decode_fits hoperation), instruction_eq] at h
  exact (Except.ok.inj h).symm

theorem signExtend_slices {value : BitVec 32} {bits : Nat} {slices : BitVec bits}
    (h : value = slices.setWidth 32) (hpos : 0 < bits) (hbits : bits ≤ 32) :
    signExtend (value.setWidth 64) bits = slices.signExtend 64 := by
  rw [signExtend_eq hpos (hbits.trans (by decide)), h, BitVec.setWidth_setWidth (by omega),
    BitVec.setWidth_setWidth (by omega), BitVec.setWidth_eq]

theorem immediateI_eq : immediateI raw = Rv64i.immediateI raw :=
  signExtend_slices (Slices.shift_top raw rfl) (by decide) (by decide)

theorem immediateS_eq : immediateS raw = Rv64i.immediateS raw := by
  have hhigh := Slices.shift_top raw (show 25 + 7 = 32 from rfl)
  have hlow := Slices.shift_and_low raw 7 5
  refine signExtend_slices ?_ (by decide) (by decide)
  rw [Slices.setWidth_append, ← hhigh, ← hlow]
  rfl

theorem immediateB_eq : immediateB raw = Rv64i.immediateB raw := by
  have hsign := Slices.shift_top raw (show 31 + 1 = 32 from rfl)
  have heleventh := Slices.shift_and_low raw 7 1
  have hmiddle := Slices.shift_and_low raw 25 6
  have hbottom := Slices.shift_and_low raw 8 4
  refine signExtend_slices ?_ (by decide) (by decide)
  simp only [Slices.setWidth_append, BitVec.shiftLeft_or_distrib, ← BitVec.shiftLeft_add,
    ← hsign, ← heleventh, ← hmiddle, ← hbottom]
  exact BitVec.or_zero.symm

theorem immediateU_eq : immediateU raw = Rv64i.immediateU raw := by
  have hupper := Slices.clear_low raw (show 12 + 20 = 32 from rfl)
  refine signExtend_slices ?_ (by decide) (by decide)
  rw [Slices.setWidth_append, ← hupper]
  exact BitVec.or_zero.symm

theorem immediateJ_eq : immediateJ raw = Rv64i.immediateJ raw := by
  have hsign := Slices.shift_top raw (show 31 + 1 = 32 from rfl)
  have hmiddle := Slices.shift_and_low raw 12 8
  have heleventh := Slices.shift_and_low raw 20 1
  have hbottom := Slices.shift_and_low raw 21 10
  refine signExtend_slices ?_ (by decide) (by decide)
  simp only [Slices.setWidth_append, BitVec.shiftLeft_or_distrib, ← BitVec.shiftLeft_add,
    ← hsign, ← hmiddle, ← heleventh, ← hbottom]
  exact BitVec.or_zero.symm

end Northstar64
