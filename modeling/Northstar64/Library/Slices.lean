import Northstar64.Library.BitMask

namespace Slices
variable {w n m : Nat}

theorem extract_append_low (x : BitVec n) (y : BitVec m) {start len : Nat} (h : start + len ≤ m) :
    (x ++ y).extractLsb' start len = y.extractLsb' start len := by
  apply BitVec.eq_of_getLsbD_eq
  intro i hi
  simp [BitVec.getLsbD_append, show start + i < m by omega]

theorem extract_append_high (x : BitVec n) (y : BitVec m) {start len : Nat} (h : m ≤ start) :
    (x ++ y).extractLsb' start len = x.extractLsb' (start - m) len := by
  apply BitVec.eq_of_getLsbD_eq
  intro i hi
  simp [BitVec.getLsbD_append, show ¬ start + i < m by omega,
    show start + i - m = start - m + i by omega]

theorem extract_extract (x : BitVec w) {outer width start len : Nat} (h : start + len ≤ width) :
    (x.extractLsb' outer width).extractLsb' start len = x.extractLsb' (outer + start) len := by
  apply BitVec.eq_of_getLsbD_eq
  intro i hi
  simp [show start + i < width by omega, Nat.add_assoc]

theorem extract_setWidth (x : BitVec w) {width start len : Nat} (h : start + len ≤ width) :
    (x.setWidth width).extractLsb' start len = x.extractLsb' start len :=
  BitVec.extractLsb'_setWidth_of_le h

theorem extract_signExtend (x : BitVec n) {start len : Nat} (h : start + len ≤ n) (hle : n ≤ w) :
    (x.signExtend w).extractLsb' start len = x.extractLsb' start len := by
  apply BitVec.eq_of_getLsbD_eq
  intro i hi
  simp [BitVec.getElem_signExtend, show start + i < w by omega, show start + i < n by omega]

theorem extract_and_low (x : BitVec w) {k start len : Nat} (h : start + len ≤ k) :
    (x &&& BitMask.low w k).extractLsb' start len = x.extractLsb' start len := by
  apply BitVec.eq_of_getLsbD_eq
  intro i hi
  by_cases hw : start + i < w
  · simp [BitMask.getElem_low, hw, show start + i < k by omega]
  · simp [BitVec.getLsbD_of_ge _ _ (Nat.le_of_not_lt hw)]

theorem shift_and_low (x : BitVec w) (start k : Nat) :
    x >>> start &&& BitMask.low w k = (x.extractLsb' start k).setWidth w := by
  apply BitVec.eq_of_getLsbD_eq
  intro i hi
  simp [BitMask.getElem_low, hi, Bool.and_comm]

theorem shift_and_low_setWidth (x : BitVec w) (start k v : Nat) (h : k ≤ w) :
    (x >>> start &&& BitMask.low w k).setWidth v = (x.extractLsb' start k).setWidth v := by
  rw [shift_and_low, BitVec.setWidth_setWidth (by omega)]

theorem and_low (x : BitVec w) (k : Nat) :
    x &&& BitMask.low w k = (x.extractLsb' 0 k).setWidth w := by
  rw [← shift_and_low, BitVec.ushiftRight_zero]

theorem shift_top (x : BitVec w) {start len : Nat} (h : start + len = w) :
    x >>> start = (x.extractLsb' start len).setWidth w := by
  apply BitVec.eq_of_getLsbD_eq
  intro i hi
  by_cases hlen : i < len
  · simp [hi, hlen]
  · simp [hlen, BitVec.getLsbD_of_ge x (start + i) (by omega)]

theorem clear_low (x : BitVec w) {k len : Nat} (h : k + len = w) :
    x &&& ~~~BitMask.low w k = (x.extractLsb' k len).setWidth w <<< k := by
  apply BitVec.eq_of_getLsbD_eq
  intro i hi
  by_cases hlow : i < k
  · simp [BitMask.getElem_low, hi, hlow]
  · simp [BitMask.getElem_low, hi, hlow, show i - k < len by omega, show k + (i - k) = i by omega]

theorem low_shift (x : BitVec w) {start len k : Nat} (h : k = start + len) :
    (x &&& BitMask.low w k) >>> start = (x.extractLsb' start len).setWidth w := by
  subst h
  apply BitVec.eq_of_getLsbD_eq
  intro i hi
  by_cases hw : start + i < w
  · simp [BitMask.getElem_low, hi, hw, Bool.and_comm]
  · simp [hi, BitVec.getLsbD_of_ge x _ (Nat.le_of_not_lt hw)]

theorem masked_field (x : BitVec w) (k start len : Nat) (h : start + len ≤ k) :
    (x &&& BitMask.low w k) >>> start &&& BitMask.low w len = (x.extractLsb' start len).setWidth w := by
  rw [shift_and_low, extract_and_low _ h]

theorem setWidth_append (x : BitVec n) (y : BitVec m) (w : Nat) :
    (x ++ y).setWidth w = x.setWidth w <<< m ||| y.setWidth w := by
  apply BitVec.eq_of_getLsbD_eq
  intro i hi
  by_cases hlow : i < m
  · simp [BitVec.getLsbD_append, hi, hlow]
  · simp [BitVec.getLsbD_append, hi, hlow, BitVec.getLsbD_of_ge y i (by omega)]

theorem extract_zero_split (x : BitVec w) {start len : Nat} :
    x.extractLsb' start len ++ x.extractLsb' 0 start = x.extractLsb' 0 (len + start) :=
  BitVec.extractLsb'_append_extractLsb'_eq_extractLsb' (Nat.zero_add start).symm

theorem extract_narrowed {v : Nat} (x : BitVec n) {start len : Nat} (h : start + len ≤ n)
    (hw : n ≤ w) (hv : n ≤ v) :
    ((x.signExtend v).setWidth w).extractLsb' start len = x.extractLsb' start len := by
  rw [extract_setWidth _ (h.trans hw), extract_signExtend _ h hv]

theorem toInt_signExtend_low (x : BitVec w) {v : Nat} (hw : n ≤ w) (hv : n ≤ v)
    (hlow : -2 ^ n ≤ 2 * x.toInt) (hhigh : 2 * x.toInt < 2 ^ n) :
    ((x.extractLsb' 0 n).signExtend v).toInt = x.toInt := by
  have hbmod : (x.toNat : Int).bmod (2 ^ n) = x.toInt.bmod (2 ^ n) := by
    rw [BitVec.toInt_eq_toNat_bmod, Int.bmod_bmod_of_dvd (Nat.pow_dvd_pow 2 hw)]
  rw [← BitVec.setWidth_eq_extractLsb' hw, BitVec.toInt_signExtend_of_le hv, BitVec.toInt_setWidth, hbmod]
  apply Int.bmod_eq_of_le_mul_two <;> push_cast <;> omega

theorem toInt_eq_toNat_of_nonneg (x : BitVec w) (h : 0 ≤ x.toInt) : x.toInt = x.toNat := by
  rw [BitVec.toInt_eq_toNat_cond] at h ⊢
  split_ifs at h ⊢ with hmsb
  · rfl
  · have hbound : (x.toNat : Int) < (2 ^ w : Nat) := by exact_mod_cast x.isLt
    exact absurd h (by omega)

theorem extract_low_zero (x : BitVec w) (hw : n ≤ w) (h : x.toInt % 2 ^ n = 0) :
    x.extractLsb' 0 n = 0#n := by
  have hdvd : (2 : Int) ^ n ∣ 2 ^ w := pow_dvd_pow 2 hw
  have hmod : x.toInt % 2 ^ n = x.toNat % 2 ^ n := by
    rw [BitVec.toInt_eq_toNat_bmod, ← Int.emod_emod_of_dvd _ hdvd,
      ← Int.emod_emod_of_dvd (x.toNat : Int) hdvd]
    congr 1
    exact Int.bmod_emod
  apply BitVec.eq_of_toNat_eq
  rw [BitVec.extractLsb'_toNat, Nat.shiftRight_zero, BitVec.toNat_ofNat, Nat.zero_mod]
  rw [hmod] at h
  exact_mod_cast h

theorem extract_low_eq (x : BitVec w) (hlow : 0 ≤ x.toInt) (hhigh : x.toInt < 2 ^ n) :
    (x.extractLsb' 0 n).setWidth w = x := by
  have hvalue := toInt_eq_toNat_of_nonneg x hlow
  have hlt : x.toNat < 2 ^ n := by exact_mod_cast hvalue ▸ hhigh
  apply BitVec.eq_of_toNat_eq
  rw [BitVec.toNat_setWidth, BitVec.extractLsb'_toNat, Nat.shiftRight_zero, Nat.mod_eq_of_lt hlt,
    Nat.mod_eq_of_lt x.isLt]

end Slices
