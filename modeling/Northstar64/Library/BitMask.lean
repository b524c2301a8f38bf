import Mathlib

namespace BitMask
variable {w : Nat}

theorem or_and_of_disjoint {b k : BitVec w} (h : b &&& k = 0#w) (x : BitVec w) :
    (x ||| b) &&& k = x &&& k := by
  rw [BitVec.and_or_distrib_right, h, BitVec.or_zero]

theorem clear_and_of_disjoint {b k : BitVec w} (h : b &&& k = 0#w) (x : BitVec w) :
    (x &&& ~~~b) &&& k = x &&& k := by
  ext i hi
  have hb : (b &&& k)[i] = false := by rw [h, BitVec.getElem_zero]
  rw [BitVec.getElem_and] at hb
  simp only [BitVec.getElem_and, BitVec.getElem_not]
  cases hbi : b[i] <;> cases hki : k[i] <;> simp_all

theorem merge_and_of_disjoint {m k : BitVec w} (h : m &&& k = 0#w) (x v : BitVec w) :
    ((x &&& ~~~m) ||| (v &&& m)) &&& k = x &&& k := by
  have hv : (v &&& m) &&& k = 0#w := by rw [BitVec.and_assoc, h, BitVec.and_zero]
  rw [or_and_of_disjoint hv, clear_and_of_disjoint h]

def low (w k : Nat) : BitVec w := BitVec.ofNat w (2 ^ k - 1)

theorem shifted_sub_one (k : Nat) : 1#w <<< k - 1#w = low w k := by
  rcases Nat.eq_zero_or_pos w with rfl | hw
  · exact Subsingleton.elim _ _
  · have hone : 1 < 2 ^ w := Nat.one_lt_two_pow (by omega)
    have hshift : 1#w <<< k = BitVec.ofNat w (2 ^ k) := by
      apply BitVec.eq_of_toNat_eq
      rw [BitVec.toNat_shiftLeft, BitVec.toNat_ofNat, BitVec.toNat_ofNat, Nat.mod_eq_of_lt hone,
        Nat.one_shiftLeft]
    rw [hshift, BitVec.ofNat_sub_ofNat_of_le _ _ hone Nat.one_le_two_pow, low]

theorem getLsbD_low (k i : Nat) : (low w k).getLsbD i = (decide (i < w) && decide (i < k)) := by
  simp [low, BitVec.getLsbD_ofNat, Nat.testBit_two_pow_sub_one]

theorem getElem_low {k i : Nat} (h : i < w) : (low w k)[i] = decide (i < k) := by
  rw [← BitVec.getLsbD_eq_getElem h, getLsbD_low, decide_eq_true h, Bool.true_and]

theorem toNat_and_low (x : BitVec w) (k : Nat) : (x &&& low w k).toNat = x.toNat % 2 ^ k := by
  apply Nat.eq_of_testBit_eq
  intro i
  rw [Nat.testBit_mod_two_pow, BitVec.testBit_toNat, BitVec.testBit_toNat, BitVec.getLsbD_and,
    getLsbD_low]
  by_cases hi : i < w
  · simp [hi, Bool.and_comm]
  · simp [BitVec.getLsbD_of_ge x i (by omega)]

theorem toNat_clear_low (x : BitVec w) (k : Nat) :
    (x &&& ~~~low w k).toNat = x.toNat / 2 ^ k * 2 ^ k := by
  apply Nat.eq_of_testBit_eq
  intro i
  rw [Nat.testBit_mul_two_pow, Nat.testBit_div_two_pow, BitVec.testBit_toNat, BitVec.testBit_toNat,
    BitVec.getLsbD_and, BitVec.getLsbD_not, getLsbD_low]
  by_cases hk : k ≤ i
  · rw [Nat.sub_add_cancel hk]
    by_cases hw : i < w
    · simp [hw, hk]
    · simp [BitVec.getLsbD_of_ge x i (by omega)]
  · have hk' : i < k := by omega
    simp [hk, hk']

theorem toNat_blend (a b : BitVec w) (k : Nat) :
    ((a &&& ~~~low w k) ||| (b &&& low w k)).toNat =
      a.toNat / 2 ^ k * 2 ^ k + b.toNat % 2 ^ k := by
  have hlt : b.toNat % 2 ^ k < 2 ^ k := Nat.mod_lt _ (Nat.two_pow_pos k)
  rw [BitVec.toNat_or, toNat_clear_low, toNat_and_low, Nat.mul_comm]
  exact (Nat.two_pow_add_eq_or_of_lt hlt _).symm

theorem clear_low_umod (x : BitVec w) (k : Nat) : (x &&& ~~~low w k).toNat % 2 ^ k = 0 := by
  rw [toNat_clear_low, Nat.mul_mod_left]

theorem clear_low_eq_self_iff (x : BitVec w) (k : Nat) :
    x &&& ~~~low w k = x ↔ x.toNat % 2 ^ k = 0 := by
  rw [← BitVec.toNat_inj, toNat_clear_low]
  constructor
  · intro h
    rw [← h, Nat.mul_mod_left]
  · intro h
    exact Nat.div_mul_cancel (Nat.dvd_of_mod_eq_zero h)

theorem and_twoPow_eq_zero_iff (x : BitVec w) {i : Nat} (hi : i < w) :
    x &&& BitVec.twoPow w i = 0#w ↔ x.getLsbD i = false := by
  rw [BitVec.and_twoPow]
  cases h : x.getLsbD i with
  | false => simp
  | true =>
    simp only [if_true, reduceCtorEq, iff_false]
    intro hz
    have hbit := congrArg (fun b => b.getLsbD i) hz
    simp [hi] at hbit

theorem or_and_self (x b : BitVec w) : (x ||| b) &&& b = b := by
  ext i hi
  simp only [BitVec.getElem_and, BitVec.getElem_or]
  cases x[i] <;> cases b[i] <;> rfl

theorem clear_and_self (x b : BitVec w) : (x &&& ~~~b) &&& b = 0#w := by
  rw [BitVec.and_assoc, BitVec.not_and_self]
  exact BitVec.and_zero

theorem masked_and_compl (x m : BitVec w) : (x &&& m) &&& ~~~m = 0#w := by
  rw [BitVec.and_assoc, BitVec.and_not_self]
  exact BitVec.and_zero

theorem merge_and_self (x v m : BitVec w) : ((x &&& ~~~m) ||| (v &&& m)) &&& m = v &&& m := by
  rw [BitVec.and_or_distrib_right, clear_and_self, BitVec.and_assoc, BitVec.and_self,
    BitVec.zero_or]

theorem merge_and_compl (x v m : BitVec w) :
    ((x &&& ~~~m) ||| (v &&& m)) &&& ~~~m = x &&& ~~~m :=
  merge_and_of_disjoint (BitVec.and_not_self m) x v

theorem merge_self (x m : BitVec w) : (x &&& ~~~m) ||| (x &&& m) = x := by
  rw [← BitVec.and_or_distrib_left, BitVec.or_comm, BitVec.or_not_self]
  exact BitVec.and_allOnes

theorem merge_merge (x v m : BitVec w) :
    (((x &&& ~~~m) ||| (v &&& m)) &&& ~~~m) ||| (v &&& m) = (x &&& ~~~m) ||| (v &&& m) := by
  rw [merge_and_compl]

theorem disjoint_mono {a m k : BitVec w} (ha : a &&& m = a) (h : m &&& k = 0#w) :
    a &&& k = 0#w := by
  rw [← ha, BitVec.and_assoc, h, BitVec.and_zero]

theorem single {b : BitVec w} {i : Nat} (hb : b = BitVec.twoPow w i) (x : BitVec w) :
    x &&& b = if x &&& b ≠ 0#w then b else 0#w := by
  have hand := BitVec.and_twoPow x i
  rw [← hb] at hand
  by_cases hzero : x &&& b = 0#w
  · rw [if_neg (not_not_intro hzero), hzero]
  · rw [if_pos hzero]
    rw [hand] at hzero ⊢
    split_ifs at hzero ⊢
    · rfl
    · exact absurd rfl hzero

theorem and_union {x y a b : BitVec w} (ha : x &&& a = y &&& a) (hb : x &&& b = y &&& b) :
    x &&& (a ||| b) = y &&& (a ||| b) := by
  rw [BitVec.and_or_distrib_left, ha, hb, ← BitVec.and_or_distrib_left]

theorem and_mono {x y k m : BitVec w} (hk : k &&& m = k) (h : x &&& m = y &&& m) :
    x &&& k = y &&& k := by
  rw [← hk, BitVec.and_comm k, ← BitVec.and_assoc, h, BitVec.and_assoc]

theorem and_union_eq_iff {a b p q : BitVec w} (hab : a &&& b = 0#w) (hp : p &&& a = p)
    (hq : q &&& b = q) (x : BitVec w) : x &&& (a ||| b) = p ||| q ↔ x &&& a = p ∧ x &&& b = q := by
  have hba : b &&& a = 0#w := by rw [BitVec.and_comm, hab]
  have hqa : q &&& a = 0#w := disjoint_mono hq hba
  have hpb : p &&& b = 0#w := disjoint_mono hp hab
  constructor
  · intro h
    have ha := congrArg (fun y => y &&& a) h
    have hb := congrArg (fun y => y &&& b) h
    simp only [BitVec.and_assoc, BitVec.and_or_distrib_right, BitVec.and_self, hab, hba, hp, hq,
      hqa, hpb, BitVec.or_zero, BitVec.zero_or] at ha hb
    exact ⟨ha, hb⟩
  · rintro ⟨rfl, rfl⟩
    exact BitVec.and_or_distrib_left

theorem shifted_eq_iff {m v : BitVec w} {s : Nat} (hm : m <<< s >>> s = m) (hv : v <<< s >>> s = v)
    (x : BitVec w) : x &&& m <<< s = v <<< s ↔ x >>> s &&& m = v := by
  constructor
  · intro h
    rw [← hv, ← h, BitVec.ushiftRight_and_distrib, hm]
  · rintro rfl
    ext i hi
    simp only [BitVec.getElem_and, BitVec.getElem_shiftLeft, BitVec.getElem_ushiftRight]
    by_cases his : i < s
    · simp [his]
    · simp [his, Nat.add_sub_cancel' (Nat.le_of_not_lt his), BitVec.getLsbD_eq_getElem hi]

theorem shift_back {m v : BitVec w} {s : Nat} (hm : m <<< s >>> s = m) (hv : v &&& m = v) :
    v <<< s >>> s = v := by
  ext i hi
  have hmi := congrArg (fun y => y.getLsbD i) hm
  have hvi := congrArg (fun y => y.getLsbD i) hv
  simp only [BitVec.getLsbD_ushiftRight, BitVec.getLsbD_shiftLeft, BitVec.getLsbD_and] at hmi hvi
  rw [← BitVec.getLsbD_eq_getElem hi, ← BitVec.getLsbD_eq_getElem hi]
  simp only [BitVec.getLsbD_ushiftRight, BitVec.getLsbD_shiftLeft]
  cases hbit : v.getLsbD i with
  | false => simp [hbit]
  | true =>
    rw [hbit, Bool.true_and] at hvi
    rw [hvi] at hmi
    have hlt : s + i < w ∧ m.getLsbD i = true := by simpa using hmi
    simp [hbit, hlt.1]

theorem field_eq_iff {m v : BitVec w} {s : Nat} (hm : m <<< s >>> s = m) (hv : v &&& m = v)
    (x : BitVec w) : x &&& m <<< s = v <<< s ↔ x >>> s &&& m = v :=
  shifted_eq_iff hm (shift_back hm hv) x

section Assignment
variable {b k : BitVec w} {P : Prop} [Decidable P]

theorem assign_and_self (x b : BitVec w) :
    (if P then x ||| b else x &&& ~~~b) &&& b = if P then b else 0#w := by
  split_ifs
  · exact or_and_self x b
  · exact clear_and_self x b

theorem assign_and_of_disjoint (h : b &&& k = 0#w) (x : BitVec w) :
    (if P then x ||| b else x &&& ~~~b) &&& k = x &&& k := by
  split_ifs
  · exact or_and_of_disjoint h x
  · exact clear_and_of_disjoint h x

end Assignment

def Within (mask x : BitVec w) : Prop := x &&& mask = x

instance (mask x : BitVec w) : Decidable (Within mask x) :=
  inferInstanceAs (Decidable (x &&& mask = x))

namespace Within
variable {mask x y : BitVec w}

theorem zero (mask : BitVec w) : Within mask 0#w := BitVec.zero_and

theorem masked (mask x : BitVec w) : Within mask (x &&& mask) := by
  rw [Within, BitVec.and_assoc, BitVec.and_self]

theorem or (hx : Within mask x) (hy : Within mask y) : Within mask (x ||| y) := by
  rw [Within, BitVec.and_or_distrib_right, hx, hy]

theorem and (hx : Within mask x) (y : BitVec w) : Within mask (x &&& y) := by
  rw [Within, BitVec.and_assoc, BitVec.and_comm y, ← BitVec.and_assoc, hx]

theorem trans {narrow wide : BitVec w} (hx : Within narrow x) (h : Within wide narrow) :
    Within wide x := by
  rw [Within, ← hx, BitVec.and_assoc, h]

theorem merge {m : BitVec w} (hx : Within mask x) (hm : Within mask m) (v : BitVec w) :
    Within mask ((x &&& ~~~m) ||| (v &&& m)) :=
  (hx.and _).or ((masked m v).trans hm)

theorem assign {b : BitVec w} {P : Prop} [Decidable P] (hx : Within mask x) (hb : Within mask b) :
    Within mask (if P then x ||| b else x &&& ~~~b) := by
  split_ifs
  · exact hx.or hb
  · exact hx.and _

end Within

theorem merge_and_of_within {m k : BitVec w} (h : Within k m) (x v : BitVec w) :
    ((x &&& ~~~m) ||| (v &&& m)) &&& k = (x &&& k &&& ~~~m) ||| (v &&& m) := by
  rw [BitVec.and_or_distrib_right, BitVec.and_assoc, BitVec.and_comm (~~~m), ← BitVec.and_assoc,
    BitVec.and_assoc v, h]

end BitMask
