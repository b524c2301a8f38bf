import Northstar64.Library.Slices

namespace Rv64i

section Fields
variable (raw : BitVec 32)

def rd : BitVec 5 := raw.extractLsb' 7 5

def rs1 : BitVec 5 := raw.extractLsb' 15 5

def rs2 : BitVec 5 := raw.extractLsb' 20 5

def immediateI : BitVec 64 := (raw.extractLsb' 20 12).signExtend 64

def immediateS : BitVec 64 := (raw.extractLsb' 25 7 ++ raw.extractLsb' 7 5).signExtend 64

def immediateB : BitVec 64 :=
  (raw.extractLsb' 31 1 ++ raw.extractLsb' 7 1 ++ raw.extractLsb' 25 6 ++ raw.extractLsb' 8 4 ++
    0#1).signExtend 64

def immediateU : BitVec 64 := (raw.extractLsb' 12 20 ++ 0#12).signExtend 64

def immediateJ : BitVec 64 :=
  (raw.extractLsb' 31 1 ++ raw.extractLsb' 12 8 ++ raw.extractLsb' 20 1 ++ raw.extractLsb' 21 10 ++
    0#1).signExtend 64

end Fields

def upperWord (upper : BitVec 20) (rd : BitVec 5) (opcode : BitVec 7) : BitVec 32 :=
  upper ++ rd ++ opcode

def word (funct7 : BitVec 7) (rs2 rs1 : BitVec 5) (funct3 : BitVec 3) (rd : BitVec 5)
    (opcode : BitVec 7) : BitVec 32 :=
  upperWord (funct7 ++ rs2 ++ rs1 ++ funct3) rd opcode

section Words
variable (upper : BitVec 20) (funct7 : BitVec 7) (rs2' rs1' : BitVec 5) (funct3 : BitVec 3)
  (rd' : BitVec 5) (opcode : BitVec 7)

theorem upperWord_eq_or :
    upperWord upper rd' opcode =
      upper.setWidth 32 <<< 12 ||| rd'.setWidth 32 <<< 7 ||| opcode.setWidth 32 := by
  have hwide : upperWord upper rd' opcode = (upper ++ rd' ++ opcode).setWidth 32 :=
    (BitVec.setWidth_eq _).symm
  rw [hwide]
  simp only [Slices.setWidth_append, BitVec.shiftLeft_or_distrib, ← BitVec.shiftLeft_add]

theorem word_eq_or :
    word funct7 rs2' rs1' funct3 rd' opcode =
      funct7.setWidth 32 <<< 25 ||| rs2'.setWidth 32 <<< 20 ||| rs1'.setWidth 32 <<< 15 |||
        funct3.setWidth 32 <<< 12 ||| rd'.setWidth 32 <<< 7 ||| opcode.setWidth 32 := by
  have hupper : (funct7 ++ rs2' ++ rs1' ++ funct3 : BitVec 20).setWidth 32 =
      (funct7 ++ rs2' ++ rs1' ++ funct3).setWidth 32 := rfl
  rw [word, upperWord_eq_or, hupper]
  simp only [Slices.setWidth_append, BitVec.shiftLeft_or_distrib, ← BitVec.shiftLeft_add]

theorem opcode_upperWord : (upperWord upper rd' opcode).extractLsb' 0 7 = opcode :=
  (Slices.extract_append_low _ _ (by decide)).trans BitVec.extractLsb'_eq_self

theorem rd_upperWord : rd (upperWord upper rd' opcode) = rd' :=
  (Slices.extract_append_high _ _ (by decide)).trans
    ((Slices.extract_append_low _ _ (by decide)).trans BitVec.extractLsb'_eq_self)

theorem extract_upperWord (start len : Nat) (h : 12 ≤ start) :
    (upperWord upper rd' opcode).extractLsb' start len = upper.extractLsb' (start - 12) len := by
  have hrd : (upper ++ rd').extractLsb' (start - 7) len = upper.extractLsb' (start - 7 - 5) len :=
    Slices.extract_append_high _ _ (by omega)
  rw [show start - 12 = start - 7 - 5 by omega, ← hrd]
  exact Slices.extract_append_high _ _ (by omega)

theorem funct3_word :
    (word funct7 rs2' rs1' funct3 rd' opcode).extractLsb' 12 3 = funct3 :=
  (extract_upperWord _ _ _ _ _ (by decide)).trans
    ((Slices.extract_append_low _ _ (by decide)).trans BitVec.extractLsb'_eq_self)

theorem rs1_word : rs1 (word funct7 rs2' rs1' funct3 rd' opcode) = rs1' :=
  (extract_upperWord _ _ _ _ _ (by decide)).trans
    ((Slices.extract_append_high _ _ (by decide)).trans
      ((Slices.extract_append_low _ _ (by decide)).trans BitVec.extractLsb'_eq_self))

theorem rs2_word : rs2 (word funct7 rs2' rs1' funct3 rd' opcode) = rs2' :=
  (extract_upperWord _ _ _ _ _ (by decide)).trans
    ((Slices.extract_append_high _ _ (by decide)).trans
      ((Slices.extract_append_high _ _ (by decide)).trans
        ((Slices.extract_append_low _ _ (by decide)).trans BitVec.extractLsb'_eq_self)))

theorem extract_word_high {start len : Nat} (h : 25 ≤ start) :
    (word funct7 rs2' rs1' funct3 rd' opcode).extractLsb' start len =
      funct7.extractLsb' (start - 25) len := by
  rw [word, extract_upperWord _ _ _ _ _ (by omega), Slices.extract_append_high _ _ (by omega),
    Slices.extract_append_high _ _ (by omega), Slices.extract_append_high _ _ (by omega)]
  congr 1

theorem extract_word_twelve :
    (word funct7 rs2' rs1' funct3 rd' opcode).extractLsb' 20 12 = funct7 ++ rs2' := by
  rw [word, extract_upperWord _ _ _ _ _ (by decide), Slices.extract_append_high _ _ (by decide),
    Slices.extract_append_high _ _ (by decide)]
  exact BitVec.extractLsb'_eq_self

theorem upperWord_slices (raw : BitVec 32) :
    upperWord (raw.extractLsb' 12 20) (raw.extractLsb' 7 5) (raw.extractLsb' 0 7) = raw := by
  have hlow : raw.extractLsb' 12 20 ++ raw.extractLsb' 7 5 = raw.extractLsb' 7 25 :=
    BitVec.extractLsb'_append_extractLsb'_eq_extractLsb' rfl
  have hall : raw.extractLsb' 7 25 ++ raw.extractLsb' 0 7 = raw.extractLsb' 0 32 :=
    BitVec.extractLsb'_append_extractLsb'_eq_extractLsb' rfl
  rw [upperWord, hlow, hall, BitVec.extractLsb'_eq_self]

theorem word_slices (raw : BitVec 32) :
    word (raw.extractLsb' 25 7) (rs2 raw) (rs1 raw) (raw.extractLsb' 12 3) (rd raw)
      (raw.extractLsb' 0 7) = raw := by
  have hfirst : raw.extractLsb' 25 7 ++ rs2 raw = raw.extractLsb' 20 12 :=
    BitVec.extractLsb'_append_extractLsb'_eq_extractLsb' rfl
  have hsecond : raw.extractLsb' 20 12 ++ rs1 raw = raw.extractLsb' 15 17 :=
    BitVec.extractLsb'_append_extractLsb'_eq_extractLsb' rfl
  have hthird : raw.extractLsb' 15 17 ++ raw.extractLsb' 12 3 = raw.extractLsb' 12 20 :=
    BitVec.extractLsb'_append_extractLsb'_eq_extractLsb' rfl
  rw [word, hfirst, hsecond, hthird]
  exact upperWord_slices raw

theorem extract_word_rd (start len : Nat) (h : start + len ≤ 5) :
    (word funct7 rs2' rs1' funct3 rd' opcode).extractLsb' (7 + start) len =
      rd'.extractLsb' start len := by
  rw [← Slices.extract_extract _ h]
  exact congrArg (fun field => BitVec.extractLsb' start len field) (rd_upperWord _ rd' opcode)

variable {w : Nat} (x : BitVec w)

theorem extract_word_split {len : Nat} (h : len ≤ 12) :
    (word (x.extractLsb' 5 7) (x.extractLsb' 0 5) rs1' funct3 rd' opcode).extractLsb' 20 len =
      x.extractLsb' 0 len := by
  have hfield := extract_word_twelve (x.extractLsb' 5 7) (x.extractLsb' 0 5) rs1' funct3 rd' opcode
  generalize word (x.extractLsb' 5 7) (x.extractLsb' 0 5) rs1' funct3 rd' opcode = raw at hfield ⊢
  have hnested : (raw.extractLsb' 20 12).extractLsb' 0 len = raw.extractLsb' 20 len :=
    Slices.extract_extract _ (by omega)
  rw [← hnested, hfield, Slices.extract_zero_split, Slices.extract_extract _ (by omega)]

theorem immediateI_word :
    immediateI (word (x.extractLsb' 5 7) (x.extractLsb' 0 5) rs1' funct3 rd' opcode) =
      (x.extractLsb' 0 12).signExtend 64 :=
  congrArg (BitVec.signExtend 64) (extract_word_split _ _ _ _ x (by decide))

theorem immediateS_word :
    immediateS (word (x.extractLsb' 5 7) rs2' rs1' funct3 (x.extractLsb' 0 5) opcode) =
      (x.extractLsb' 0 12).signExtend 64 := by
  have hlower := extract_word_rd (x.extractLsb' 5 7) rs2' rs1' funct3 (x.extractLsb' 0 5) opcode
    0 5 (by decide)
  rw [immediateS, extract_word_high _ _ _ _ _ _ (by decide), Nat.sub_self,
    BitVec.extractLsb'_eq_self, hlower, BitVec.extractLsb'_eq_self, Slices.extract_zero_split]

theorem immediateB_word (heven : x.extractLsb' 0 1 = 0#1) :
    immediateB (word (x.extractLsb' 12 1 ++ x.extractLsb' 5 6) rs2' rs1' funct3
      (x.extractLsb' 1 4 ++ x.extractLsb' 11 1) opcode) = (x.extractLsb' 0 13).signExtend 64 := by
  have hhigh := @extract_word_high (x.extractLsb' 12 1 ++ x.extractLsb' 5 6) rs2' rs1' funct3
    (x.extractLsb' 1 4 ++ x.extractLsb' 11 1) opcode
  have hlow := extract_word_rd (x.extractLsb' 12 1 ++ x.extractLsb' 5 6) rs2' rs1' funct3
    (x.extractLsb' 1 4 ++ x.extractLsb' 11 1) opcode
  generalize word (x.extractLsb' 12 1 ++ x.extractLsb' 5 6) rs2' rs1' funct3
    (x.extractLsb' 1 4 ++ x.extractLsb' 11 1) opcode = raw at hhigh hlow ⊢
  have hsign : raw.extractLsb' 31 1 = x.extractLsb' 12 1 :=
    (hhigh (by decide)).trans
      ((Slices.extract_append_high _ _ (by decide)).trans BitVec.extractLsb'_eq_self)
  have hmiddle : raw.extractLsb' 25 6 = x.extractLsb' 5 6 :=
    (hhigh (by decide)).trans
      ((Slices.extract_append_low _ _ (by decide)).trans BitVec.extractLsb'_eq_self)
  have hbottom : raw.extractLsb' 8 4 = x.extractLsb' 1 4 :=
    (hlow 1 4 (by decide)).trans
      ((Slices.extract_append_high _ _ (by decide)).trans BitVec.extractLsb'_eq_self)
  have heleventh : raw.extractLsb' 7 1 = x.extractLsb' 11 1 :=
    (hlow 0 1 (by decide)).trans
      ((Slices.extract_append_low _ _ (by decide)).trans BitVec.extractLsb'_eq_self)
  have heleven : x.extractLsb' 12 1 ++ x.extractLsb' 11 1 = x.extractLsb' 11 2 :=
    BitVec.extractLsb'_append_extractLsb'_eq_extractLsb' rfl
  have hfive : x.extractLsb' 11 2 ++ x.extractLsb' 5 6 = x.extractLsb' 5 8 :=
    BitVec.extractLsb'_append_extractLsb'_eq_extractLsb' rfl
  have hone : x.extractLsb' 5 8 ++ x.extractLsb' 1 4 = x.extractLsb' 1 12 :=
    BitVec.extractLsb'_append_extractLsb'_eq_extractLsb' rfl
  rw [immediateB, hsign, heleventh, hmiddle, hbottom, heleven, hfive, hone, ← heven,
    Slices.extract_zero_split]

theorem immediateU_upperWord (hzero : x.extractLsb' 0 12 = 0#12) :
    immediateU (upperWord (x.extractLsb' 12 20) rd' opcode) =
      (x.extractLsb' 0 32).signExtend 64 := by
  rw [immediateU, extract_upperWord _ _ _ _ _ (by decide), Nat.sub_self, BitVec.extractLsb'_eq_self,
    ← hzero, Slices.extract_zero_split]

theorem immediateJ_upperWord (heven : x.extractLsb' 0 1 = 0#1) :
    immediateJ (upperWord (x.extractLsb' 20 1 ++ x.extractLsb' 1 10 ++ x.extractLsb' 11 1 ++
      x.extractLsb' 12 8) rd' opcode) = (x.extractLsb' 0 21).signExtend 64 := by
  have hslice := extract_upperWord (x.extractLsb' 20 1 ++ x.extractLsb' 1 10 ++
    x.extractLsb' 11 1 ++ x.extractLsb' 12 8) rd' opcode
  generalize upperWord (x.extractLsb' 20 1 ++ x.extractLsb' 1 10 ++ x.extractLsb' 11 1 ++
    x.extractLsb' 12 8) rd' opcode = raw at hslice ⊢
  have hsign : raw.extractLsb' 31 1 = x.extractLsb' 20 1 := by
    rw [hslice 31 1 (by decide), Slices.extract_append_high _ _ (by decide),
      Slices.extract_append_high _ _ (by decide), Slices.extract_append_high _ _ (by decide)]
    exact BitVec.extractLsb'_eq_self
  have hbottom : raw.extractLsb' 21 10 = x.extractLsb' 1 10 := by
    rw [hslice 21 10 (by decide), Slices.extract_append_high _ _ (by decide),
      Slices.extract_append_high _ _ (by decide), Slices.extract_append_low _ _ (by decide)]
    exact BitVec.extractLsb'_eq_self
  have heleventh : raw.extractLsb' 20 1 = x.extractLsb' 11 1 := by
    rw [hslice 20 1 (by decide), Slices.extract_append_high _ _ (by decide),
      Slices.extract_append_low _ _ (by decide)]
    exact BitVec.extractLsb'_eq_self
  have hmiddle : raw.extractLsb' 12 8 = x.extractLsb' 12 8 := by
    rw [hslice 12 8 (by decide), Slices.extract_append_low _ _ (by decide)]
    exact BitVec.extractLsb'_eq_self
  have htwelve : x.extractLsb' 20 1 ++ x.extractLsb' 12 8 = x.extractLsb' 12 9 :=
    BitVec.extractLsb'_append_extractLsb'_eq_extractLsb' rfl
  have heleven : x.extractLsb' 12 9 ++ x.extractLsb' 11 1 = x.extractLsb' 11 10 :=
    BitVec.extractLsb'_append_extractLsb'_eq_extractLsb' rfl
  have hone : x.extractLsb' 11 10 ++ x.extractLsb' 1 10 = x.extractLsb' 1 20 :=
    BitVec.extractLsb'_append_extractLsb'_eq_extractLsb' rfl
  rw [immediateJ, hsign, hmiddle, heleventh, hbottom, htwelve, heleven, hone, ← heven,
    Slices.extract_zero_split]

theorem word_twelve_slices {raw : BitVec 32} (h : x.extractLsb' 0 12 = raw.extractLsb' 20 12) :
    word (x.extractLsb' 5 7) (x.extractLsb' 0 5) (rs1 raw) (raw.extractLsb' 12 3) (rd raw)
      (raw.extractLsb' 0 7) = raw := by
  have hslice (start len : Nat) (hle : start + len ≤ 12) :
      x.extractLsb' start len = raw.extractLsb' (20 + start) len := by
    rw [← Slices.extract_extract raw hle, ← h, Slices.extract_extract x hle, Nat.zero_add]
  rw [hslice 5 7 (by decide), hslice 0 5 (by decide)]
  exact word_slices raw

end Words

section Recovered
variable (raw : BitVec 32)

theorem immediateI_field : ((immediateI raw).setWidth 32).extractLsb' 0 12 = raw.extractLsb' 20 12 :=
  (Slices.extract_narrowed _ (by decide) (by decide) (by decide)).trans BitVec.extractLsb'_eq_self

theorem immediateS_high : ((immediateS raw).setWidth 32).extractLsb' 5 7 = raw.extractLsb' 25 7 :=
  (Slices.extract_narrowed _ (by decide) (by decide) (by decide)).trans
    ((Slices.extract_append_high _ _ (by decide)).trans BitVec.extractLsb'_eq_self)

theorem immediateS_low : ((immediateS raw).setWidth 32).extractLsb' 0 5 = rd raw :=
  (Slices.extract_narrowed _ (by decide) (by decide) (by decide)).trans
    ((Slices.extract_append_low _ _ (by decide)).trans BitVec.extractLsb'_eq_self)

theorem immediateB_high :
    ((immediateB raw).setWidth 32).extractLsb' 12 1 ++ ((immediateB raw).setWidth 32).extractLsb' 5 6 =
      raw.extractLsb' 25 7 := by
  have hsign : ((immediateB raw).setWidth 32).extractLsb' 12 1 = raw.extractLsb' 31 1 := by
    rw [immediateB, Slices.extract_narrowed _ (by decide) (by decide) (by decide),
      Slices.extract_append_high _ _ (by decide), Slices.extract_append_high _ _ (by decide),
      Slices.extract_append_high _ _ (by decide), Slices.extract_append_high _ _ (by decide)]
    exact BitVec.extractLsb'_eq_self
  have hmiddle : ((immediateB raw).setWidth 32).extractLsb' 5 6 = raw.extractLsb' 25 6 := by
    rw [immediateB, Slices.extract_narrowed _ (by decide) (by decide) (by decide),
      Slices.extract_append_high _ _ (by decide), Slices.extract_append_high _ _ (by decide),
      Slices.extract_append_low _ _ (by decide)]
    exact BitVec.extractLsb'_eq_self
  rw [hsign, hmiddle]
  exact BitVec.extractLsb'_append_extractLsb'_eq_extractLsb' rfl

theorem immediateB_low :
    ((immediateB raw).setWidth 32).extractLsb' 1 4 ++ ((immediateB raw).setWidth 32).extractLsb' 11 1 =
      rd raw := by
  have hbottom : ((immediateB raw).setWidth 32).extractLsb' 1 4 = raw.extractLsb' 8 4 := by
    rw [immediateB, Slices.extract_narrowed _ (by decide) (by decide) (by decide),
      Slices.extract_append_high _ _ (by decide), Slices.extract_append_low _ _ (by decide)]
    exact BitVec.extractLsb'_eq_self
  have heleventh : ((immediateB raw).setWidth 32).extractLsb' 11 1 = raw.extractLsb' 7 1 := by
    rw [immediateB, Slices.extract_narrowed _ (by decide) (by decide) (by decide),
      Slices.extract_append_high _ _ (by decide), Slices.extract_append_high _ _ (by decide),
      Slices.extract_append_high _ _ (by decide), Slices.extract_append_low _ _ (by decide)]
    exact BitVec.extractLsb'_eq_self
  rw [hbottom, heleventh]
  exact BitVec.extractLsb'_append_extractLsb'_eq_extractLsb' rfl

theorem immediateU_upper : ((immediateU raw).setWidth 32).extractLsb' 12 20 = raw.extractLsb' 12 20 :=
  (Slices.extract_narrowed _ (by decide) (by decide) (by decide)).trans
    ((Slices.extract_append_high _ _ (by decide)).trans BitVec.extractLsb'_eq_self)

theorem immediateJ_upper :
    ((immediateJ raw).setWidth 32).extractLsb' 20 1 ++ ((immediateJ raw).setWidth 32).extractLsb' 1 10 ++
        ((immediateJ raw).setWidth 32).extractLsb' 11 1 ++
        ((immediateJ raw).setWidth 32).extractLsb' 12 8 = raw.extractLsb' 12 20 := by
  have hsign : ((immediateJ raw).setWidth 32).extractLsb' 20 1 = raw.extractLsb' 31 1 := by
    rw [immediateJ, Slices.extract_narrowed _ (by decide) (by decide) (by decide),
      Slices.extract_append_high _ _ (by decide), Slices.extract_append_high _ _ (by decide),
      Slices.extract_append_high _ _ (by decide), Slices.extract_append_high _ _ (by decide)]
    exact BitVec.extractLsb'_eq_self
  have hbottom : ((immediateJ raw).setWidth 32).extractLsb' 1 10 = raw.extractLsb' 21 10 := by
    rw [immediateJ, Slices.extract_narrowed _ (by decide) (by decide) (by decide),
      Slices.extract_append_high _ _ (by decide), Slices.extract_append_low _ _ (by decide)]
    exact BitVec.extractLsb'_eq_self
  have heleventh : ((immediateJ raw).setWidth 32).extractLsb' 11 1 = raw.extractLsb' 20 1 := by
    rw [immediateJ, Slices.extract_narrowed _ (by decide) (by decide) (by decide),
      Slices.extract_append_high _ _ (by decide), Slices.extract_append_high _ _ (by decide),
      Slices.extract_append_low _ _ (by decide)]
    exact BitVec.extractLsb'_eq_self
  have hmiddle : ((immediateJ raw).setWidth 32).extractLsb' 12 8 = raw.extractLsb' 12 8 := by
    rw [immediateJ, Slices.extract_narrowed _ (by decide) (by decide) (by decide),
      Slices.extract_append_high _ _ (by decide), Slices.extract_append_high _ _ (by decide),
      Slices.extract_append_high _ _ (by decide), Slices.extract_append_low _ _ (by decide)]
    exact BitVec.extractLsb'_eq_self
  have htop : raw.extractLsb' 31 1 ++ raw.extractLsb' 21 10 = raw.extractLsb' 21 11 :=
    BitVec.extractLsb'_append_extractLsb'_eq_extractLsb' rfl
  have htwenty : raw.extractLsb' 21 11 ++ raw.extractLsb' 20 1 = raw.extractLsb' 20 12 :=
    BitVec.extractLsb'_append_extractLsb'_eq_extractLsb' rfl
  rw [hsign, hbottom, heleventh, hmiddle, htop, htwenty]
  exact BitVec.extractLsb'_append_extractLsb'_eq_extractLsb' rfl

end Recovered

inductive Arithmetic where
  | add
  | sub
  | sll
  | slt
  | sltu
  | xor
  | srl
  | sra
  | or
  | and
  deriving DecidableEq, Repr

def Arithmetic.eval (operation : Arithmetic) (x y : BitVec 64) : BitVec 64 :=
  let amount := (y.extractLsb' 0 6).toNat
  match operation with
  | .add => x + y
  | .sub => x - y
  | .sll => x <<< amount
  | .slt => (BitVec.ofBool (x.slt y)).setWidth 64
  | .sltu => (BitVec.ofBool (x.ult y)).setWidth 64
  | .xor => x ^^^ y
  | .srl => x >>> amount
  | .sra => x.sshiftRight amount
  | .or => x ||| y
  | .and => x &&& y

inductive WordArithmetic where
  | addw
  | subw
  | sllw
  | srlw
  | sraw
  deriving DecidableEq, Repr

def WordArithmetic.word (operation : WordArithmetic) (x y : BitVec 32) : BitVec 32 :=
  let amount := (y.extractLsb' 0 5).toNat
  match operation with
  | .addw => x + y
  | .subw => x - y
  | .sllw => x <<< amount
  | .srlw => x >>> amount
  | .sraw => x.sshiftRight amount

def WordArithmetic.eval (operation : WordArithmetic) (x y : BitVec 64) : BitVec 64 :=
  (operation.word (x.setWidth 32) (y.setWidth 32)).signExtend 64

inductive Condition where
  | eq
  | ne
  | lt
  | ge
  | ltu
  | geu
  deriving DecidableEq, Repr

def Condition.holds (condition : Condition) (x y : BitVec 64) : Bool :=
  match condition with
  | .eq => x == y
  | .ne => x != y
  | .lt => x.slt y
  | .ge => y.sle x
  | .ltu => x.ult y
  | .geu => y.ule x

inductive Instruction where
  | lui (rd : BitVec 5) (immediate : BitVec 64)
  | auipc (rd : BitVec 5) (immediate : BitVec 64)
  | jal (rd : BitVec 5) (immediate : BitVec 64)
  | jalr (rd rs1 : BitVec 5) (immediate : BitVec 64)
  | branch (condition : Condition) (rs1 rs2 : BitVec 5) (immediate : BitVec 64)
  | op (operation : Arithmetic) (rd rs1 rs2 : BitVec 5)
  | opImmediate (operation : Arithmetic) (rd rs1 : BitVec 5) (immediate : BitVec 64)
  | op32 (operation : WordArithmetic) (rd rs1 rs2 : BitVec 5)
  | opImmediate32 (operation : WordArithmetic) (rd rs1 : BitVec 5) (immediate : BitVec 64)
  deriving DecidableEq, Repr

abbrev Registers := BitVec 5 → BitVec 64

structure RegisterWrite where
  rd : BitVec 5
  value : BitVec 64
  deriving DecidableEq, Repr

inductive Result where
  | advance (write : Option RegisterWrite) (next : BitVec 64)
  | misaligned (target : BitVec 64)
  deriving DecidableEq, Repr

def transfer (write : Option RegisterWrite) (target : BitVec 64) : Result :=
  if target.toNat % 4 = 0 then .advance write target else .misaligned target

def clearBitZero (target : BitVec 64) : BitVec 64 := target.extractLsb' 1 63 ++ 0#1

def Instruction.result (registers : Registers) (pc : BitVec 64) : Instruction → Result
  | .lui rd immediate => .advance (some ⟨rd, immediate⟩) (pc + 4#64)
  | .auipc rd immediate => .advance (some ⟨rd, pc + immediate⟩) (pc + 4#64)
  | .jal rd immediate => transfer (some ⟨rd, pc + 4#64⟩) (pc + immediate)
  | .jalr rd rs1 immediate =>
    transfer (some ⟨rd, pc + 4#64⟩) (clearBitZero (registers rs1 + immediate))
  | .branch condition rs1 rs2 immediate =>
    if condition.holds (registers rs1) (registers rs2) then transfer none (pc + immediate)
    else .advance none (pc + 4#64)
  | .op operation rd rs1 rs2 =>
    .advance (some ⟨rd, operation.eval (registers rs1) (registers rs2)⟩) (pc + 4#64)
  | .opImmediate operation rd rs1 immediate =>
    .advance (some ⟨rd, operation.eval (registers rs1) immediate⟩) (pc + 4#64)
  | .op32 operation rd rs1 rs2 =>
    .advance (some ⟨rd, operation.eval (registers rs1) (registers rs2)⟩) (pc + 4#64)
  | .opImmediate32 operation rd rs1 immediate =>
    .advance (some ⟨rd, operation.eval (registers rs1) immediate⟩) (pc + 4#64)

def writeBack (registers : Registers) : Option RegisterWrite → Registers
  | none => registers
  | some write => if write.rd = 0#5 then registers else Function.update registers write.rd write.value

end Rv64i
