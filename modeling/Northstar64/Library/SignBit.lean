import Mathlib

namespace SignBit
variable {w : Nat}

theorem and_top_eq_zero_iff (x : BitVec w) : x &&& 1#w <<< (w - 1) = 0#w ↔ x.msb = false := by
  rw [← BitVec.twoPow_eq, BitVec.and_twoPow, BitVec.msb_eq_getLsbD_last]
  cases hbit : x.getLsbD (w - 1) with
  | false => simp
  | true =>
    have hlt : w - 1 < w := by
      by_contra hge
      rw [BitVec.getLsbD_of_ge x _ (by omega)] at hbit
      cases hbit
    have hpow := BitVec.toNat_twoPow_of_lt hlt
    have hpos : 0 < 2 ^ (w - 1) := Nat.two_pow_pos _
    have hne : BitVec.twoPow w (w - 1) ≠ 0#w := by
      intro hzero
      rw [hzero, BitVec.toNat_ofNat, Nat.zero_mod] at hpow
      omega
    simp [hne]

theorem sshiftRight_eq_fill (x : BitVec w) {amount : Nat} (h : amount ≤ w) :
    x.sshiftRight amount =
      if x.msb then x >>> amount ||| BitVec.allOnes w <<< (w - amount) else x >>> amount := by
  apply BitVec.eq_of_getLsbD_eq
  intro i hi
  rw [BitVec.getLsbD_sshiftRight]
  cases hmsb : x.msb with
  | false =>
    by_cases hin : amount + i < w
    · simp [hi, hin]
    · simp [hi, hin, BitVec.getLsbD_of_ge x (amount + i) (by omega)]
  | true =>
    by_cases hin : amount + i < w
    · simp [hi, hin, show i < w - amount by omega]
    · simp [hi, hin, show ¬ i < w - amount by omega]

theorem sshiftRight_eq_ite (x : BitVec w) {amount : Nat} (h : amount < w) :
    x.sshiftRight amount =
      if amount = 0 then x
      else if x &&& 1#w <<< (w - 1) = 0#w then x >>> amount
      else x >>> amount ||| BitVec.allOnes w <<< (w - amount) := by
  have htop := and_top_eq_zero_iff x
  rw [sshiftRight_eq_fill x (Nat.le_of_lt h)]
  by_cases hzero : amount = 0
  · subst hzero
    simp
  · rw [if_neg hzero]
    cases hmsb : x.msb with
    | false => rw [if_pos (htop.mpr hmsb), if_neg Bool.false_ne_true]
    | true =>
      have hset : x &&& 1#w <<< (w - 1) ≠ 0#w := fun hclear => by
        rw [htop.mp hclear] at hmsb
        cases hmsb
      rw [if_neg hset, if_pos rfl]

theorem xor_eq_add_of_disjoint {x y : BitVec w} (h : x &&& y = 0#w) : x ^^^ y = x + y := by
  rw [BitVec.add_eq_or_of_and_eq_zero x y h]
  ext i hi
  have hbit : (x &&& y)[i] = false := by rw [h, BitVec.getElem_zero]
  rw [BitVec.getElem_and] at hbit
  rw [BitVec.getElem_xor, BitVec.getElem_or]
  cases hx : x[i] <;> cases hy : y[i] <;> simp_all

theorem xor_sub_top {n : Nat} (hpos : 0 < n) (hle : n ≤ w) (x : BitVec n) :
    (x.setWidth w ^^^ 1#w <<< (n - 1)) - 1#w <<< (n - 1) = x.signExtend w := by
  rw [← BitVec.twoPow_eq]
  have hbit : (x.setWidth w).getLsbD (n - 1) = x.msb := by
    rw [BitVec.getLsbD_setWidth, BitVec.msb_eq_getLsbD_last, decide_eq_true (by omega),
      Bool.true_and]
  have hand := BitVec.and_twoPow (x.setWidth w) (n - 1)
  rw [hbit] at hand
  cases hmsb : x.msb with
  | false =>
    rw [hmsb] at hand
    rw [xor_eq_add_of_disjoint hand, BitVec.add_sub_cancel,
      BitVec.signExtend_eq_setWidth_of_msb_false hmsb]
  | true =>
    rw [hmsb, if_pos rfl] at hand
    have hdisjoint : (x.setWidth w ^^^ BitVec.twoPow w (n - 1)) &&& BitVec.twoPow w (n - 1) =
        0#w := by
      rw [BitVec.and_twoPow, BitVec.getLsbD_xor, hbit, hmsb, BitVec.getLsbD_twoPow]
      simp [show n - 1 < w by omega]
    have hsum := xor_eq_add_of_disjoint hdisjoint
    rw [BitVec.xor_assoc, BitVec.xor_self, BitVec.xor_zero] at hsum
    have hge : 2 ^ (n - 1) ≤ x.toNat := by simpa [BitVec.msb_eq_decide] using hmsb
    have hlt := x.isLt
    have hpow : 2 ^ n = 2 * 2 ^ (n - 1) := by
      rw [← Nat.pow_succ', Nat.succ_eq_add_one, Nat.sub_add_cancel hpos]
    have hwide : 2 ^ n ≤ 2 ^ w := Nat.pow_le_pow_right (by omega) hle
    have htop := BitVec.toNat_twoPow_of_lt (show n - 1 < w by omega)
    have hx : (x.setWidth w).toNat = x.toNat := BitVec.toNat_setWidth_of_le hle
    have hfirst : (2 ^ w - 2 ^ (n - 1) + x.toNat) % 2 ^ w = x.toNat - 2 ^ (n - 1) := by
      rw [show 2 ^ w - 2 ^ (n - 1) + x.toNat = x.toNat - 2 ^ (n - 1) + 2 ^ w by omega,
        Nat.add_mod_right, Nat.mod_eq_of_lt (by omega)]
    rw [BitVec.eq_sub_iff_add_eq.mpr hsum.symm]
    apply BitVec.eq_of_toNat_eq
    rw [BitVec.toNat_signExtend, hmsb, if_pos rfl, BitVec.toNat_sub, BitVec.toNat_sub, htop, hx,
      hfirst, Nat.mod_eq_of_lt (by omega)]
    omega

end SignBit
