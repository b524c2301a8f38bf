import Northstar64.Sv39
import Northstar64.PhysicalMemory
import Northstar64.Library.BitMask

namespace Northstar64

theorem mod_add_lt_of_mod_eight {x i k : Nat} (hk : 3 ≤ k) (h : x % 8 + i < 8) :
    x % 2 ^ k + i < 2 ^ k := by
  obtain ⟨m, rfl⟩ := Nat.exists_eq_add_of_le hk
  have hpow : 2 ^ (3 + m) = 8 * 2 ^ m := by rw [Nat.pow_add]
  have hlt : x / 8 % 2 ^ m < 2 ^ m := Nat.mod_lt _ (Nat.two_pow_pos m)
  rw [hpow, Nat.mod_mul]
  omega

theorem add_mod_of_mod_eight {x i k : Nat} (hk : 3 ≤ k) (h : x % 8 + i < 8) :
    (x + i) % 2 ^ k = x % 2 ^ k + i := by
  have hlt := mod_add_lt_of_mod_eight hk h
  rw [Nat.add_mod, Nat.mod_eq_of_lt (a := i) (by omega), Nat.mod_eq_of_lt hlt]

theorem add_div_of_mod_eight {x i k : Nat} (hk : 3 ≤ k) (h : x % 8 + i < 8) :
    (x + i) / 2 ^ k = x / 2 ^ k := by
  have hlt := mod_add_lt_of_mod_eight hk h
  have hdecompose := Nat.div_add_mod x (2 ^ k)
  rw [Nat.div_eq_of_lt_le]
  · have := Nat.div_mul_le_self x (2 ^ k)
    omega
  · rw [Nat.add_mul, Nat.one_mul, Nat.mul_comm]
    omega

variable (virtualAddress : Address) (context : Sv39Context)

theorem walkFrom_snd (remaining : Nat) (tableAddress : Address) (bus : Bus) :
    (walkFrom virtualAddress context remaining tableAddress bus).2 = bus := by
  induction remaining generalizing tableAddress with
  | zero => rfl
  | succ level ih =>
    simp only [walkFrom]
    split_ifs with hoverflow
    · rfl
    · have hbus := bus.read_snd (tableAddress + virtualPageNumber virtualAddress level * 8#64) 8
        .pageTableWalk
      rcases hread : bus.read (tableAddress + virtualPageNumber virtualAddress level * 8#64) 8
        .pageTableWalk with ⟨result, bus'⟩
      rw [hread] at hbus
      subst hbus
      cases result with
      | error fault => rfl
      | ok pte =>
        dsimp only
        cases inspectPte context level pte with
        | fault reason detail => rfl
        | table next => exact ih next
        | leaf => rfl

@[simp] theorem walkSv39_snd (bus : Bus) : (walkSv39 bus virtualAddress context).2 = bus := by
  unfold walkSv39
  split_ifs
  · rfl
  · rfl
  · exact walkFrom_snd _ _ _ _ _

def pteReadsFrom : Nat → Address → Bus → List Address
  | 0, _, _ => []
  | level + 1, tableAddress, bus =>
    let pteAddress := tableAddress + virtualPageNumber virtualAddress level * 8#64
    if addOverflows tableAddress (virtualPageNumber virtualAddress level * 8#64) then []
    else
      match (bus.read pteAddress 8 .pageTableWalk).1 with
      | .error _ => []
      | .ok pte =>
        match inspectPte context level pte with
        | .table next => pteAddress :: pteReadsFrom level next bus
        | _ => [pteAddress]

def pteReads (bus : Bus) : List Address :=
  if !isSv39Canonical virtualAddress then []
  else if context.privilege ≠ .supervisor ∧ context.privilege ≠ .user then []
  else pteReadsFrom virtualAddress context 3 ((context.rootPpn &&& kPpnMask) <<< 12) bus

def entryByte (pteAddress p : Address) : Prop := (p - pteAddress).toNat < 8

def AgreeOnEntries (bus other : Bus) (entries : List Address) : Prop :=
  ∀ pteAddress ∈ entries, ∀ p, entryByte pteAddress p → bus.ramByte p = other.ramByte p

theorem read_entry_congr {bus other : Bus} (hlayout : bus.layout = other.layout)
    {pteAddress : Address}
    (h : ∀ p, entryByte pteAddress p → bus.ramByte p = other.ramByte p) :
    (bus.read pteAddress 8 .pageTableWalk).1 = (other.read pteAddress 8 .pageTableWalk).1 := by
  refine Bus.read_congr hlayout (fun i hi => h _ ?_) _
  rw [entryByte, distance_add pteAddress (by omega)]
  exact hi

theorem walkFrom_succ (level : Nat) (tableAddress : Address) (bus : Bus) :
    (walkFrom virtualAddress context (level + 1) tableAddress bus).1 =
      let pteAddress := tableAddress + virtualPageNumber virtualAddress level * 8#64
      if addOverflows tableAddress (virtualPageNumber virtualAddress level * 8#64) then
        .error ⟨.pageTableAccess, virtualAddress, level, tableAddress, 0#64,
          text "page-table entry address overflows physical address space"⟩
      else
        match (bus.read pteAddress 8 .pageTableWalk).1 with
        | .error busFault =>
          .error ⟨.pageTableAccess, virtualAddress, level, pteAddress, 0#64, busFault.detail⟩
        | .ok pte =>
          match inspectPte context level pte with
          | .fault reason detail =>
            .error ⟨reason, virtualAddress, level, pteAddress, pte, detail⟩
          | .table next => (walkFrom virtualAddress context level next bus).1
          | .leaf => .ok ⟨leafAddress virtualAddress level pte, level, pteAddress, pte⟩ := by
  have hbus := bus.read_snd (tableAddress + virtualPageNumber virtualAddress level * 8#64) 8
    .pageTableWalk
  simp only [walkFrom]
  split_ifs with hoverflow
  · rfl
  · rcases hread : bus.read (tableAddress + virtualPageNumber virtualAddress level * 8#64) 8
      .pageTableWalk with ⟨result, bus'⟩
    rw [hread] at hbus
    subst hbus
    cases result with
    | error fault => rfl
    | ok pte =>
      dsimp only
      cases inspectPte context level pte <;> rfl

theorem walkFrom_congr {bus other : Bus} (hlayout : bus.layout = other.layout) (remaining : Nat)
    (tableAddress : Address)
    (h : AgreeOnEntries bus other
      (pteReadsFrom virtualAddress context remaining tableAddress bus)) :
    (walkFrom virtualAddress context remaining tableAddress bus).1 =
        (walkFrom virtualAddress context remaining tableAddress other).1 ∧
      pteReadsFrom virtualAddress context remaining tableAddress bus =
        pteReadsFrom virtualAddress context remaining tableAddress other := by
  induction remaining generalizing tableAddress with
  | zero => exact ⟨rfl, rfl⟩
  | succ level ih =>
    simp only [pteReadsFrom] at h ⊢
    rw [walkFrom_succ, walkFrom_succ]
    dsimp only
    split_ifs at h ⊢ with hoverflow
    · exact ⟨rfl, rfl⟩
    · cases hread : (bus.read (tableAddress + virtualPageNumber virtualAddress level * 8#64) 8
        .pageTableWalk).1 with
      | error fault =>
        rw [Bus.read_error_congr hlayout hread]
        exact ⟨rfl, rfl⟩
      | ok pte =>
        have hhead : ∀ p, entryByte
            (tableAddress + virtualPageNumber virtualAddress level * 8#64) p →
            bus.ramByte p = other.ramByte p := by
          rw [hread] at h
          dsimp only at h
          cases hinspect : inspectPte context level pte <;>
            rw [hinspect] at h <;> exact h _ (List.mem_cons_self ..)
        rw [← read_entry_congr hlayout hhead, hread]
        rw [hread] at h
        dsimp only at h ⊢
        cases hinspect : inspectPte context level pte with
        | fault reason detail => exact ⟨rfl, rfl⟩
        | leaf => exact ⟨rfl, rfl⟩
        | table next =>
          rw [hinspect] at h
          obtain ⟨hwalk, hreads⟩ := ih next (fun entry hentry =>
            h entry (List.mem_cons_of_mem _ hentry))
          exact ⟨hwalk, congrArg _ hreads⟩

theorem walkSv39_fst (bus : Bus) :
    (walkSv39 bus virtualAddress context).1 =
      if !isSv39Canonical virtualAddress then
        .error ⟨.nonCanonicalAddress, virtualAddress, -1, 0#64, 0#64,
          text "virtual address is not sign-extended from bit 38"⟩
      else if context.privilege ≠ .supervisor ∧ context.privilege ≠ .user then
        .error ⟨.privilegeViolation, virtualAddress, -1, 0#64, 0#64,
          text "Sv39 translation context requires supervisor or user privilege"⟩
      else (walkFrom virtualAddress context 3 ((context.rootPpn &&& kPpnMask) <<< 12) bus).1 := by
  unfold walkSv39
  split_ifs <;> rfl

theorem walkSv39_congr {bus other : Bus} (hlayout : bus.layout = other.layout)
    (h : AgreeOnEntries bus other (pteReads virtualAddress context bus)) :
    (walkSv39 bus virtualAddress context).1 = (walkSv39 other virtualAddress context).1 ∧
      pteReads virtualAddress context bus = pteReads virtualAddress context other := by
  rw [walkSv39_fst, walkSv39_fst]
  unfold pteReads at h ⊢
  split_ifs at h ⊢
  · exact ⟨rfl, rfl⟩
  · exact ⟨rfl, rfl⟩
  · exact walkFrom_congr _ _ hlayout _ _ h

def SameRegion (level : Nat) (first second : Address) : Prop :=
  first >>> (12 + level * 9) = second >>> (12 + level * 9)

theorem virtualPageNumber_congr {other : Address} {leafLevel level : Nat} (hle : leafLevel ≤ level)
    (h : SameRegion leafLevel other virtualAddress) :
    virtualPageNumber other level = virtualPageNumber virtualAddress level := by
  have hsplit : 12 + 9 * level = (12 + leafLevel * 9) + 9 * (level - leafLevel) := by omega
  rw [virtualPageNumber, virtualPageNumber, hsplit, BitVec.shiftRight_add _ (12 + leafLevel * 9),
    BitVec.shiftRight_add _ (12 + leafLevel * 9), h]

theorem leafAddress_toNat (level : Nat) (pte : BitVec 64) :
    (leafAddress virtualAddress level pte).toNat =
      ((pte >>> 10 &&& kPpnMask) <<< 12).toNat / 2 ^ (12 + level * 9) * 2 ^ (12 + level * 9) +
        virtualAddress.toNat % 2 ^ (12 + level * 9) := by
  rw [leafAddress, BitMask.shifted_sub_one]
  exact BitMask.toNat_blend _ _ _

theorem walkFrom_region {remaining : Nat} {tableAddress : Address} {bus : Bus}
    {translation : Sv39Translation}
    (h : (walkFrom virtualAddress context remaining tableAddress bus).1 = .ok translation) :
    ∃ level < remaining, translation.leafLevel = level ∧
      translation.physicalAddress = leafAddress virtualAddress level translation.pte ∧
      ∀ other, SameRegion level other virtualAddress →
        (walkFrom other context remaining tableAddress bus).1 = .ok
          ⟨leafAddress other level translation.pte, translation.leafLevel, translation.pteAddress,
            translation.pte⟩ := by
  induction remaining generalizing tableAddress with
  | zero => cases h
  | succ level ih =>
    rw [walkFrom_succ] at h
    dsimp only at h
    split_ifs at h with hoverflow
    cases hread : (bus.read (tableAddress + virtualPageNumber virtualAddress level * 8#64) 8
      .pageTableWalk).1 with
    | error fault => simp [hread] at h
    | ok pte =>
      rw [hread] at h
      dsimp only at h
      cases hinspect : inspectPte context level pte with
      | fault reason detail => simp [hinspect] at h
      | leaf =>
        rw [hinspect] at h
        obtain rfl := Except.ok.inj h
        refine ⟨level, by omega, rfl, rfl, ?_⟩
        intro other hregion
        rw [walkFrom_succ]
        simp [virtualPageNumber_congr virtualAddress (Nat.le_refl level) hregion, hoverflow, hread,
          hinspect]
      | table next =>
        rw [hinspect] at h
        obtain ⟨leafLevel, hlt, hlevel, haddress, hother⟩ := ih h
        refine ⟨leafLevel, by omega, hlevel, haddress, ?_⟩
        intro other hregion
        rw [walkFrom_succ]
        simp [virtualPageNumber_congr virtualAddress (show leafLevel ≤ level by omega) hregion,
          hoverflow, hread, hinspect, hother other hregion]

theorem isSv39Canonical_congr {level : Nat} (hlevel : level ≤ 2) {other : Address}
    (h : SameRegion level other virtualAddress) :
    isSv39Canonical other = isSv39Canonical virtualAddress := by
  have hshift (bits : Nat) (hbits : 12 + level * 9 ≤ bits) :
      other >>> bits = virtualAddress >>> bits := by
    rw [← Nat.add_sub_cancel' hbits, BitVec.shiftRight_add _ (12 + level * 9),
      BitVec.shiftRight_add _ (12 + level * 9), h]
  simp only [isSv39Canonical, hshift 38 (by omega), hshift 39 (by omega)]

theorem walkSv39_region {bus : Bus} {translation : Sv39Translation}
    (h : (walkSv39 bus virtualAddress context).1 = .ok translation) :
    ∃ level : Nat, level ≤ 2 ∧ translation.leafLevel = level ∧
      translation.physicalAddress = leafAddress virtualAddress level translation.pte ∧
      ∀ other, SameRegion level other virtualAddress →
        (walkSv39 bus other context).1 = .ok
          ⟨leafAddress other level translation.pte, translation.leafLevel, translation.pteAddress,
            translation.pte⟩ := by
  rw [walkSv39_fst] at h
  split_ifs at h with hcanonical hprivilege
  obtain ⟨level, hlt, hlevel, haddress, hother⟩ := walkFrom_region virtualAddress context h
  refine ⟨level, by omega, hlevel, haddress, ?_⟩
  intro other hregion
  rw [walkSv39_fst, isSv39Canonical_congr virtualAddress (by omega) hregion, if_neg hcanonical,
    if_neg hprivilege]
  exact hother other hregion

theorem toNat_add_of_mod_eight {i : Nat} (h : virtualAddress.toNat % 8 + i < 8) :
    (virtualAddress + BitVec.ofNat 64 i).toNat = virtualAddress.toNat + i := by
  have hlt := virtualAddress.isLt
  rw [BitVec.toNat_add, BitVec.toNat_ofNat]
  omega

theorem sameRegion_add {level i : Nat} (h : virtualAddress.toNat % 8 + i < 8) :
    SameRegion level (virtualAddress + BitVec.ofNat 64 i) virtualAddress := by
  apply BitVec.eq_of_toNat_eq
  rw [BitVec.toNat_ushiftRight, BitVec.toNat_ushiftRight, Nat.shiftRight_eq_div_pow,
    Nat.shiftRight_eq_div_pow, toNat_add_of_mod_eight virtualAddress h]
  exact add_div_of_mod_eight (by omega) h

theorem leafAddress_add {level i : Nat} (hlevel : level ≤ 2) (pte : BitVec 64)
    (h : virtualAddress.toNat % 8 + i < 8) :
    leafAddress (virtualAddress + BitVec.ofNat 64 i) level pte =
      leafAddress virtualAddress level pte + BitVec.ofNat 64 i := by
  have hmod := add_mod_of_mod_eight (k := 12 + level * 9) (by omega) h
  have hother := leafAddress_toNat (virtualAddress + BitVec.ofNat 64 i) level pte
  rw [toNat_add_of_mod_eight virtualAddress h, hmod, ← Nat.add_assoc,
    ← leafAddress_toNat] at hother
  apply BitVec.eq_of_toNat_eq
  rw [hother, BitVec.toNat_add, BitVec.toNat_ofNat, Nat.mod_eq_of_lt (a := i) (by omega),
    Nat.mod_eq_of_lt]
  rw [← hother]
  exact (leafAddress _ level pte).isLt

theorem walkSv39_byte {bus : Bus} {translation : Sv39Translation}
    (h : (walkSv39 bus virtualAddress context).1 = .ok translation) {i : Nat}
    (hi : virtualAddress.toNat % 8 + i < 8) :
    (walkSv39 bus (virtualAddress + BitVec.ofNat 64 i) context).1 = .ok
      { translation with
        physicalAddress := translation.physicalAddress + BitVec.ofNat 64 i } := by
  obtain ⟨level, hle, hlevel, haddress, hother⟩ := walkSv39_region virtualAddress context h
  rw [hother _ (sameRegion_add virtualAddress hi), leafAddress_add virtualAddress hle _ hi,
    ← haddress]

end Northstar64
