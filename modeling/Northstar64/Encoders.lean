import Northstar64.Immediates

namespace Northstar64

def encodeR (opcode rd funct3 rs1 rs2 funct7 : BitVec 8) : BitVec 32 :=
  funct7.setWidth 32 <<< 25 ||| rs2.setWidth 32 <<< 20 ||| rs1.setWidth 32 <<< 15 |||
    funct3.setWidth 32 <<< 12 ||| rd.setWidth 32 <<< 7 ||| opcode.setWidth 32

def encodeI (opcode rd funct3 rs1 : BitVec 8) (immediate : BitVec 32) : BitVec 32 :=
  (immediate &&& 0xfff#32) <<< 20 ||| rs1.setWidth 32 <<< 15 ||| funct3.setWidth 32 <<< 12 |||
    rd.setWidth 32 <<< 7 ||| opcode.setWidth 32

def encodeS (opcode funct3 rs1 rs2 : BitVec 8) (immediate : BitVec 32) : BitVec 32 :=
  let encoded := immediate &&& 0xfff#32
  (encoded >>> 5) <<< 25 ||| rs2.setWidth 32 <<< 20 ||| rs1.setWidth 32 <<< 15 |||
    funct3.setWidth 32 <<< 12 ||| (encoded &&& 0x1f#32) <<< 7 ||| opcode.setWidth 32

def encodeB (funct3 rs1 rs2 : BitVec 8) (immediate : BitVec 32) : BitVec 32 :=
  let encoded := immediate &&& 0x1fff#32
  (encoded >>> 12 &&& 0x1#32) <<< 31 ||| (encoded >>> 5 &&& 0x3f#32) <<< 25 |||
    rs2.setWidth 32 <<< 20 ||| rs1.setWidth 32 <<< 15 ||| funct3.setWidth 32 <<< 12 |||
    (encoded >>> 1 &&& 0xf#32) <<< 8 ||| (encoded >>> 11 &&& 0x1#32) <<< 7 ||| 0x63#32

def encodeU (opcode rd : BitVec 8) (immediate : BitVec 32) : BitVec 32 :=
  immediate &&& 0xfffff000#32 ||| rd.setWidth 32 <<< 7 ||| opcode.setWidth 32

def encodeJ (rd : BitVec 8) (immediate : BitVec 32) : BitVec 32 :=
  let encoded := immediate &&& 0x1fffff#32
  (encoded >>> 20 &&& 0x1#32) <<< 31 ||| (encoded >>> 1 &&& 0x3ff#32) <<< 21 |||
    (encoded >>> 11 &&& 0x1#32) <<< 20 ||| (encoded >>> 12 &&& 0xff#32) <<< 12 |||
    rd.setWidth 32 <<< 7 ||| 0x6f#32

def encodeCsr (rd funct3 rs1 : BitVec 8) (address : BitVec 16) : BitVec 32 :=
  address.setWidth 32 <<< 20 ||| rs1.setWidth 32 <<< 15 ||| funct3.setWidth 32 <<< 12 |||
    rd.setWidth 32 <<< 7 ||| 0x73#32

def encodeSfenceVma (rs1 rs2 : BitVec 8) : BitVec 32 :=
  0x12000073#32 ||| rs1.setWidth 32 <<< 15 ||| rs2.setWidth 32 <<< 20

def kEcall : BitVec 32 := 0x00000073#32
def kEbreak : BitVec 32 := 0x00100073#32
def kSret : BitVec 32 := 0x10200073#32
def kMret : BitVec 32 := 0x30200073#32

section Words
open Rv64i
variable (funct7 : BitVec 7) (rs2 rs1 : BitVec 5) (funct3 : BitVec 3) (rd : BitVec 5)
  (opcode : BitVec 7)

theorem encodeR_eq :
    encodeR (opcode.setWidth 8) (rd.setWidth 8) (funct3.setWidth 8) (rs1.setWidth 8)
      (rs2.setWidth 8) (funct7.setWidth 8) = word funct7 rs2 rs1 funct3 rd opcode := by
  rw [word_eq_or]
  simp [encodeR]

theorem encodeI_eq (immediate : BitVec 32) :
    encodeI (opcode.setWidth 8) (rd.setWidth 8) (funct3.setWidth 8) (rs1.setWidth 8) immediate =
      word (immediate.extractLsb' 5 7) (immediate.extractLsb' 0 5) rs1 funct3 rd opcode := by
  have himmediate : immediate &&& 0xfff#32 =
      (immediate.extractLsb' 5 7).setWidth 32 <<< 5 ||| (immediate.extractLsb' 0 5).setWidth 32 := by
    rw [← Slices.setWidth_append, Slices.extract_zero_split]
    exact Slices.and_low immediate 12
  rw [word_eq_or, encodeI, himmediate, BitVec.shiftLeft_or_distrib, ← BitVec.shiftLeft_add]
  simp

theorem encodeS_eq (immediate : BitVec 32) :
    encodeS (opcode.setWidth 8) (funct3.setWidth 8) (rs1.setWidth 8) (rs2.setWidth 8) immediate =
      word (immediate.extractLsb' 5 7) rs2 rs1 funct3 (immediate.extractLsb' 0 5) opcode := by
  have hlower : immediate &&& BitMask.low 32 12 &&& BitMask.low 32 5 =
      (immediate.extractLsb' 0 5).setWidth 32 := by
    rw [Slices.and_low, Slices.extract_and_low _ (by decide)]
  have hupper := Slices.low_shift (w := 32) (k := 12) immediate (show 12 = 5 + 7 from rfl)
  rw [word_eq_or, ← hupper, ← hlower]
  simp [encodeS, BitMask.low]

theorem encodeB_eq (immediate : BitVec 32) :
    encodeB (funct3.setWidth 8) (rs1.setWidth 8) (rs2.setWidth 8) immediate =
      word (immediate.extractLsb' 12 1 ++ immediate.extractLsb' 5 6) rs2 rs1 funct3
        (immediate.extractLsb' 1 4 ++ immediate.extractLsb' 11 1) 0x63#7 := by
  have hfield := Slices.masked_field immediate 13
  have hupper : (immediate.extractLsb' 12 1 ++ immediate.extractLsb' 5 6 : BitVec 7).setWidth 32 =
      (immediate.extractLsb' 12 1).setWidth 32 <<< 6 ||| (immediate.extractLsb' 5 6).setWidth 32 :=
    Slices.setWidth_append _ _ 32
  have hlower : (immediate.extractLsb' 1 4 ++ immediate.extractLsb' 11 1 : BitVec 5).setWidth 32 =
      (immediate.extractLsb' 1 4).setWidth 32 <<< 1 ||| (immediate.extractLsb' 11 1).setWidth 32 :=
    Slices.setWidth_append _ _ 32
  rw [word_eq_or, hupper, hlower, ← hfield 12 1 (by decide), ← hfield 5 6 (by decide),
    ← hfield 1 4 (by decide), ← hfield 11 1 (by decide)]
  simp only [BitVec.shiftLeft_or_distrib, ← BitVec.shiftLeft_add]
  simp [encodeB, BitVec.or_assoc, BitMask.low]

theorem encodeU_eq (immediate : BitVec 32) :
    encodeU (opcode.setWidth 8) (rd.setWidth 8) immediate =
      upperWord (immediate.extractLsb' 12 20) rd opcode := by
  have hupper : immediate &&& 0xfffff000#32 = (immediate.extractLsb' 12 20).setWidth 32 <<< 12 :=
    Slices.clear_low immediate (show 12 + 20 = 32 from rfl)
  rw [upperWord_eq_or, encodeU, hupper]
  simp

theorem encodeJ_eq (immediate : BitVec 32) :
    encodeJ (rd.setWidth 8) immediate =
      upperWord (immediate.extractLsb' 20 1 ++ immediate.extractLsb' 1 10 ++
        immediate.extractLsb' 11 1 ++ immediate.extractLsb' 12 8) rd 0x6f#7 := by
  have hfield := Slices.masked_field immediate 21
  have hupper : (immediate.extractLsb' 20 1 ++ immediate.extractLsb' 1 10 ++
      immediate.extractLsb' 11 1 ++ immediate.extractLsb' 12 8 : BitVec 20).setWidth 32 =
        (immediate.extractLsb' 20 1 ++ immediate.extractLsb' 1 10 ++
          immediate.extractLsb' 11 1 ++ immediate.extractLsb' 12 8).setWidth 32 := rfl
  rw [upperWord_eq_or, hupper]
  simp only [Slices.setWidth_append, BitVec.shiftLeft_or_distrib, ← BitVec.shiftLeft_add,
    ← hfield 20 1 (by decide), ← hfield 1 10 (by decide), ← hfield 11 1 (by decide),
    ← hfield 12 8 (by decide)]
  simp [encodeJ, BitVec.or_assoc, BitMask.low]

theorem encodeCsr_eq (address : BitVec 12) :
    encodeCsr (rd.setWidth 8) (funct3.setWidth 8) (rs1.setWidth 8) (address.setWidth 16) =
      word (address.extractLsb' 5 7) (address.extractLsb' 0 5) rs1 funct3 rd 0x73#7 := by
  have haddress : address.setWidth 32 =
      (address.extractLsb' 5 7).setWidth 32 <<< 5 ||| (address.extractLsb' 0 5).setWidth 32 := by
    rw [← Slices.setWidth_append, Slices.extract_zero_split]
    exact congrArg _ BitVec.extractLsb'_eq_self.symm
  rw [word_eq_or, encodeCsr, BitVec.setWidth_setWidth (by decide), haddress,
    BitVec.shiftLeft_or_distrib, ← BitVec.shiftLeft_add]
  simp

theorem encodeSfenceVma_eq :
    encodeSfenceVma (rs1.setWidth 8) (rs2.setWidth 8) = word 0x09#7 rs2 rs1 0#3 0#5 0x73#7 := by
  have hfunct7 : (0x09#7).setWidth 32 <<< 25 = 0x12000000#32 := rfl
  have hfunct3 : (0#3).setWidth 32 <<< 12 = 0#32 := rfl
  have hrd : (0#5).setWidth 32 <<< 7 = 0#32 := rfl
  have hopcode : (0x73#7).setWidth 32 = 0x73#32 := rfl
  have hfixed : (0x12000073#32) = 0x12000000#32 ||| 0x73#32 := rfl
  rw [word_eq_or, hfunct7, hfunct3, hrd, hopcode, BitVec.or_zero, BitVec.or_zero, encodeSfenceVma,
    BitVec.setWidth_setWidth (by decide), BitVec.setWidth_setWidth (by decide), hfixed]
  generalize rs1.setWidth 32 <<< 15 = source
  generalize rs2.setWidth 32 <<< 20 = target
  ac_rfl

end Words

end Northstar64
