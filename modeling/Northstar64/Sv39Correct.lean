import Northstar64.Sv39Spec

namespace Northstar64

namespace Sv39Spec

theorem and_bit_iff (pte : BitVec 64) {mask : BitVec 64} {i : Nat} (hi : i < 64)
    (hmask : mask = BitVec.twoPow 64 i) : pte &&& mask = 0#64 ↔ pte.getLsbD i = false := by
  rw [hmask]
  exact BitMask.and_twoPow_eq_zero_iff pte hi

theorem and_or_iff (pte first second : BitVec 64) :
    pte &&& (first ||| second) = 0#64 ↔ pte &&& first = 0#64 ∧ pte &&& second = 0#64 := by
  rw [BitVec.and_or_distrib_left, BitVec.or_eq_zero_iff]

variable (pte : BitVec 64)

theorem kPteV_iff : pte &&& kPteV = 0#64 ↔ valid pte = false :=
  and_bit_iff pte (by decide) (by decide)

theorem kPteR_iff : pte &&& kPteR = 0#64 ↔ readable pte = false :=
  and_bit_iff pte (by decide) (by decide)

theorem kPteW_iff : pte &&& kPteW = 0#64 ↔ writable pte = false :=
  and_bit_iff pte (by decide) (by decide)

theorem kPteX_iff : pte &&& kPteX = 0#64 ↔ executable pte = false :=
  and_bit_iff pte (by decide) (by decide)

theorem kPteU_iff : pte &&& kPteU = 0#64 ↔ userPage pte = false :=
  and_bit_iff pte (by decide) (by decide)

theorem kPteA_iff : pte &&& kPteA = 0#64 ↔ accessed pte = false :=
  and_bit_iff pte (by decide) (by decide)

theorem kPteD_iff : pte &&& kPteD = 0#64 ↔ dirty pte = false :=
  and_bit_iff pte (by decide) (by decide)

theorem kPteReservedHighMask_iff : pte &&& kPteReservedHighMask = 0#64 ↔ highBits pte = 0 := by
  rw [kPteReservedHighMask, BitMask.shifted_sub_one, ← BitVec.toNat_inj, BitMask.toNat_clear_low,
    highBits]
  simp only [BitVec.toNat_ofNat, Nat.zero_mod, Nat.mul_eq_zero]
  exact or_iff_left (by decide)

theorem ppn_toNat : (pte >>> 10 &&& kPpnMask).toNat = ppn pte := by
  rw [kPpnMask, BitMask.shifted_sub_one, BitMask.toNat_and_low, BitVec.toNat_ushiftRight,
    Nat.shiftRight_eq_div_pow, ppn]

theorem ppn_lt : ppn pte < 2 ^ 44 := Nat.mod_lt _ (by decide)

theorem tableAddress_toNat {page : BitVec 64} (h : page.toNat < 2 ^ 44) :
    (page <<< 12).toNat = page.toNat * 4096 := by
  rw [BitVec.toNat_shiftLeft, Nat.shiftLeft_eq, Nat.mod_eq_of_lt]
  omega

theorem lowMask_iff (level : Nat) :
    (level * 9 ≠ 0 ∧ pte >>> 10 &&& kPpnMask &&& ((1#64 <<< (level * 9)) - 1#64) ≠ 0#64) ↔
      ppn pte % 2 ^ (9 * level) ≠ 0 := by
  rw [BitMask.shifted_sub_one, ne_eq (_ &&& _), ← BitVec.toNat_inj, BitMask.toNat_and_low, ppn_toNat,
    Nat.mul_comm level]
  simp only [BitVec.toNat_ofNat, Nat.zero_mod, ne_eq, and_iff_right_iff_imp]
  intro hmod hzero
  rw [hzero, Nat.pow_zero, Nat.mod_one] at hmod
  exact hmod rfl

theorem accessIsPermitted_eq (access : VirtualAccess) (mxr : Bool) :
    accessIsPermitted pte access mxr = permits pte access mxr := by
  cases access <;> simp [accessIsPermitted, permits, kPteX_iff, kPteR_iff, kPteW_iff]

def Explained (checks : List Check) (passed : PteOutcome → Prop) : PteOutcome → Prop
  | .fault reason _ => firstFailing checks = some reason
  | outcome => firstFailing checks = none ∧ passed outcome

theorem explained_check {condition : Prop} [Decidable condition] {reason : Sv39FaultReason}
    {detail : Text} {pass : Bool} {checks : List Check} {passed : PteOutcome → Prop}
    {rest : PteOutcome} (hcondition : condition ↔ pass = false)
    (hrest : Explained checks passed rest) :
    Explained ((reason, pass) :: checks) passed
      (if condition then .fault reason detail else rest) := by
  by_cases h : condition
  · rw [if_pos h]
    exact (firstFailing_cons _ _).trans (by rw [hcondition.mp h]; rfl)
  · have hpass : pass = true := by
      rw [← Bool.not_eq_false, ← hcondition]
      exact h
    have hcons : firstFailing ((reason, pass) :: checks) = firstFailing checks :=
      (firstFailing_cons _ _).trans (by rw [hpass]; rfl)
    rw [if_neg h]
    cases rest with
    | fault reason detail => exact hcons.trans hrest
    | table next => exact ⟨hcons.trans hrest.1, hrest.2⟩
    | leaf => exact ⟨hcons.trans hrest.1, hrest.2⟩

def PassedTo (level : Nat) : PteOutcome → Prop
  | .fault _ _ => False
  | .table next => isLeaf pte = false ∧ level ≠ 0 ∧ next.toNat = ppn pte * 4096
  | .leaf => isLeaf pte = true

theorem inspectPte_explained (context : Sv39Context) (level : Nat) :
    Explained (entryChecks context level pte) (PassedTo pte level)
      (inspectPte context level pte) := by
  have hnext : ((pte >>> 10 &&& kPpnMask) <<< 12).toNat = ppn pte * 4096 := by
    rw [tableAddress_toNat, ppn_toNat]
    rw [ppn_toNat]
    exact ppn_lt pte
  unfold inspectPte
  simp only [ne_eq, kPteReservedHighMask_iff, kPteV_iff, kPteR_iff, kPteW_iff, and_or_iff,
    kPteX_iff, kPteU_iff, kPteA_iff, kPteD_iff, lowMask_iff, accessIsPermitted_eq]
  refine explained_check (by simp) (explained_check Iff.rfl (explained_check ?_ ?_))
  · cases readable pte <;> cases writable pte <;> simp
  · cases hleaf : isLeaf pte with
    | false =>
      have hpermissions := hleaf
      simp only [isLeaf, Bool.or_eq_false_iff] at hpermissions
      rw [if_neg Bool.false_ne_true, if_pos (not_not.mpr hpermissions)]
      refine explained_check ?_ ?_
      · cases userPage pte <;> cases accessed pte <;> cases dirty pte <;> simp
      · by_cases hlevel : level = 0
        · rw [if_pos hlevel]
          simp [Explained, firstFailing, hlevel]
        · rw [if_neg hlevel]
          exact ⟨by simp [firstFailing, hlevel], hleaf, hlevel, hnext⟩
    | true =>
      have hpermissions := hleaf
      simp only [isLeaf, Bool.or_eq_true] at hpermissions
      rw [if_pos rfl, if_neg ?_]
      · refine explained_check (by simp) (explained_check ?_ (explained_check ?_
          (explained_check Iff.rfl (explained_check Iff.rfl (explained_check ?_ ?_)))))
        · cases userPage pte <;> simp
        · cases userPage pte <;> cases context.sum <;> simp
        · cases dirty pte <;> simp
        · exact ⟨rfl, hleaf⟩
      · intro hneither
        rcases hpermissions with h | h <;> simp [h] at hneither

section Inspect
variable {pte} {context : Sv39Context} {level : Nat}

theorem inspectPte_of_fault {reason : Sv39FaultReason}
    (h : firstFailing (entryChecks context level pte) = some reason) :
    ∃ detail, inspectPte context level pte = .fault reason detail := by
  have hexplained := inspectPte_explained pte context level
  cases hinspect : inspectPte context level pte with
  | fault other detail =>
    rw [hinspect] at hexplained
    rw [Option.some.inj (h.symm.trans hexplained)]
    exact ⟨detail, rfl⟩
  | table next =>
    rw [hinspect] at hexplained
    cases h.symm.trans hexplained.1
  | leaf =>
    rw [hinspect] at hexplained
    cases h.symm.trans hexplained.1

theorem inspectPte_of_pointer (context : Sv39Context) (hlevel : level ≠ 0)
    (h : PointerEntry pte) :
    ∃ next, inspectPte context level pte = .table next ∧ next.toNat = ppn pte * 4096 := by
  obtain ⟨hchecks, hleaf⟩ := (pointerEntry_iff context hlevel pte).mp h
  have hexplained := inspectPte_explained pte context level
  cases hinspect : inspectPte context level pte with
  | fault other detail =>
    rw [hinspect] at hexplained
    cases hchecks.symm.trans hexplained
  | table next =>
    rw [hinspect] at hexplained
    exact ⟨next, rfl, hexplained.2.2.2⟩
  | leaf =>
    rw [hinspect] at hexplained
    cases hleaf.symm.trans hexplained.2

theorem inspectPte_of_leaf (h : LeafEntry context level pte) :
    inspectPte context level pte = .leaf := by
  obtain ⟨hchecks, hleaf⟩ := (leafEntry_iff context level pte).mp h
  have hexplained := inspectPte_explained pte context level
  cases hinspect : inspectPte context level pte with
  | fault other detail =>
    rw [hinspect] at hexplained
    cases hchecks.symm.trans hexplained
  | table next =>
    rw [hinspect] at hexplained
    cases hleaf.symm.trans hexplained.2.1
  | leaf => rfl

theorem firstFailing_of_inspectPte {reason : Sv39FaultReason} {detail : Text}
    (h : inspectPte context level pte = .fault reason detail) :
    firstFailing (entryChecks context level pte) = some reason := by
  have hexplained := inspectPte_explained pte context level
  rwa [h] at hexplained

theorem pointer_of_inspectPte {next : Address} (h : inspectPte context level pte = .table next) :
    level ≠ 0 ∧ PointerEntry pte ∧ next.toNat = ppn pte * 4096 := by
  have hexplained := inspectPte_explained pte context level
  rw [h] at hexplained
  obtain ⟨hchecks, hleaf, hlevel, hnext⟩ := hexplained
  exact ⟨hlevel, (pointerEntry_iff context hlevel pte).mpr ⟨hchecks, hleaf⟩, hnext⟩

theorem leaf_of_inspectPte (h : inspectPte context level pte = .leaf) :
    LeafEntry context level pte := by
  have hexplained := inspectPte_explained pte context level
  rw [h] at hexplained
  exact (leafEntry_iff context level pte).mpr hexplained

end Inspect

theorem signExtended_iff (virtualAddress : Address) :
    SignExtended virtualAddress ↔
      ∀ i, 39 ≤ i → i < 64 → virtualAddress.getLsbD i = virtualAddress.getLsbD 38 := by
  have hmsb : (virtualAddress.setWidth 39).msb = virtualAddress.getLsbD 38 := by
    rw [BitVec.msb_eq_getLsbD_last, BitVec.getLsbD_setWidth]
    rfl
  constructor
  · intro h i hlow hhigh
    have hbit := congrArg (fun b => b.getLsbD i) h
    simp only [BitVec.getLsbD_signExtend, hmsb] at hbit
    rw [← hbit]
    simp [hhigh, Nat.not_lt.mpr hlow]
  · intro h
    apply BitVec.eq_of_getLsbD_eq
    intro i hi
    rw [BitVec.getLsbD_signExtend, hmsb, BitVec.getLsbD_setWidth]
    by_cases hlow : i < 39
    · simp [hi, hlow]
    · rw [h i (by omega) hi]
      simp [hi, hlow]

theorem isSv39Canonical_iff (virtualAddress : Address) :
    isSv39Canonical virtualAddress = true ↔ SignExtended virtualAddress := by
  rw [signExtended_iff]
  have hsign : virtualAddress >>> 38 &&& 1#64 = 0#64 ↔ virtualAddress.getLsbD 38 = false := by
    have h := BitMask.and_twoPow_eq_zero_iff (virtualAddress >>> 38) (i := 0) (by decide)
    rwa [BitVec.getLsbD_ushiftRight] at h
  have hupper (sign : Bool) :
      virtualAddress >>> 39 = (if sign then (1#64 <<< 25) - 1#64 else 0#64) ↔
        ∀ i, 39 ≤ i → i < 64 → virtualAddress.getLsbD i = sign := by
    have hbits (j : Nat) : (if sign then (1#64 <<< 25) - 1#64 else 0#64).getLsbD j =
        (decide (j < 25) && sign) := by
      cases sign with
      | false => simp
      | true =>
        rw [if_pos rfl, BitMask.shifted_sub_one, BitMask.getLsbD_low]
        by_cases hj : j < 25
        · simp [hj, Nat.lt_trans hj (show 25 < 64 by decide)]
        · simp [hj]
    constructor
    · intro h i hlow hhigh
      have hbit := congrArg (fun b => b.getLsbD (i - 39)) h
      simp only [BitVec.getLsbD_ushiftRight, hbits, Nat.add_sub_cancel' hlow] at hbit
      simpa [show i - 39 < 25 by omega] using hbit
    · intro h
      apply BitVec.eq_of_getLsbD_eq
      intro j hj
      rw [BitVec.getLsbD_ushiftRight, hbits]
      by_cases hlow : j < 25
      · rw [h (39 + j) (by omega) (by omega)]
        simp [hlow]
      · rw [BitVec.getLsbD_of_ge _ _ (by omega)]
        simp [hlow]
  simp only [isSv39Canonical, beq_iff_eq, ne_eq, hsign, Bool.not_eq_false]
  rw [← hupper]

section Walk
variable {bus : Bus} {virtualAddress : Address} {context : Sv39Context} {root level table : Nat}
  {tableAddress pteAddress : Address} {translation : Sv39Translation}

def tableLimit : Nat := 2 ^ 56

theorem tableAt_lt (hroot : root < tableLimit) (h : TableAt bus virtualAddress root level table) :
    table < tableLimit := by
  cases h with
  | root => exact hroot
  | @descend _ _ _ pte =>
    have := ppn_lt pte
    rw [tableLimit]
    omega

theorem virtualPageNumber_toNat (virtualAddress : Address) (level : Nat) :
    (virtualPageNumber virtualAddress level).toNat = vpn virtualAddress level := by
  have hmask : kVpnMask = BitMask.low 64 9 := by decide
  rw [virtualPageNumber, hmask, BitMask.toNat_and_low, BitVec.toNat_ushiftRight,
    Nat.shiftRight_eq_div_pow, vpn]

theorem entry_address (hlt : tableAddress.toNat < tableLimit) (virtualAddress : Address)
    (level : Nat) :
    addOverflows tableAddress (virtualPageNumber virtualAddress level * 8#64) = false ∧
      (tableAddress + virtualPageNumber virtualAddress level * 8#64).toNat =
        tableAddress.toNat + 8 * vpn virtualAddress level := by
  have hvpn : vpn virtualAddress level < 2 ^ 9 := Nat.mod_lt _ (by decide)
  have hoffset : (virtualPageNumber virtualAddress level * 8#64).toNat =
      8 * vpn virtualAddress level := by
    rw [BitVec.toNat_mul, virtualPageNumber_toNat, BitVec.toNat_ofNat]
    omega
  rw [tableLimit] at hlt
  rw [addOverflows_eq_false_iff, BitVec.toNat_add, hoffset]
  omega

theorem entryRead_iff (htable : tableAddress.toNat = table) (hlt : table < tableLimit)
    (pte : BitVec 64) :
    EntryRead bus virtualAddress level table pteAddress pte ↔
      pteAddress = tableAddress + virtualPageNumber virtualAddress level * 8#64 ∧
        (bus.read pteAddress 8 .pageTableWalk).1 = .ok pte := by
  have haddress := (entry_address (htable ▸ hlt) virtualAddress level).2
  rw [htable] at haddress
  constructor
  · rintro ⟨hpte, hread⟩
    exact ⟨BitVec.eq_of_toNat_eq (hpte.trans haddress.symm), hread⟩
  · rintro ⟨rfl, hread⟩
    exact ⟨haddress, hread⟩

theorem walkFrom_at (hlt : tableAddress.toNat < tableLimit) :
    (walkFrom virtualAddress context (level + 1) tableAddress bus).1 =
      match (bus.read (tableAddress + virtualPageNumber virtualAddress level * 8#64) 8
        .pageTableWalk).1 with
      | .error busFault =>
        .error ⟨.pageTableAccess, virtualAddress, level,
          tableAddress + virtualPageNumber virtualAddress level * 8#64, 0#64, busFault.detail⟩
      | .ok pte =>
        match inspectPte context level pte with
        | .fault reason detail =>
          .error ⟨reason, virtualAddress, level,
            tableAddress + virtualPageNumber virtualAddress level * 8#64, pte, detail⟩
        | .table next => (walkFrom virtualAddress context level next bus).1
        | .leaf => .ok ⟨leafAddress virtualAddress level pte, level,
            tableAddress + virtualPageNumber virtualAddress level * 8#64, pte⟩ := by
  rw [walkFrom_succ, (entry_address hlt virtualAddress level).1]
  rfl

theorem walkFrom_entry (hlt : table < tableLimit) (htable : tableAddress.toNat = table)
    {pte : BitVec 64} (hentry : EntryRead bus virtualAddress level table pteAddress pte)
    (context : Sv39Context) :
    (walkFrom virtualAddress context (level + 1) tableAddress bus).1 =
      match inspectPte context level pte with
      | .fault reason detail => .error ⟨reason, virtualAddress, level, pteAddress, pte, detail⟩
      | .table next => (walkFrom virtualAddress context level next bus).1
      | .leaf => .ok ⟨leafAddress virtualAddress level pte, level, pteAddress, pte⟩ := by
  obtain ⟨rfl, hread⟩ := (entryRead_iff htable hlt pte).mp hentry
  rw [walkFrom_at (by rw [htable]; exact hlt), hread]

theorem walkFrom_pointer (hlt : table < tableLimit) (htable : tableAddress.toNat = table)
    {pte : BitVec 64} (hentry : EntryRead bus virtualAddress level table pteAddress pte)
    {next : Address} (hinspect : inspectPte context level pte = .table next) :
    (walkFrom virtualAddress context (level + 1) tableAddress bus).1 =
      (walkFrom virtualAddress context level next bus).1 := by
  rw [walkFrom_entry hlt htable hentry, hinspect]

theorem walk_resumes {rootAddress : Address} (hroot : rootAddress.toNat = root)
    (hlt : root < tableLimit) (context : Sv39Context)
    (h : TableAt bus virtualAddress root level table) :
    ∃ tableAddress : Address, tableAddress.toNat = table ∧
      (walkFrom virtualAddress context 3 rootAddress bus).1 =
        (walkFrom virtualAddress context (level + 1) tableAddress bus).1 := by
  induction h with
  | root => exact ⟨rootAddress, hroot, rfl⟩
  | descend above entry pointer ih =>
    obtain ⟨tableAddress, htable, hwalk⟩ := ih
    obtain ⟨next, hinspect, hnext⟩ :=
      inspectPte_of_pointer context (Nat.succ_ne_zero _) pointer
    exact ⟨next, hnext, hwalk.trans
      (walkFrom_pointer (tableAt_lt hlt above) htable entry hinspect)⟩

def TranslatesAt (bus : Bus) (virtualAddress : Address) (context : Sv39Context) (root : Nat)
    (translation : Sv39Translation) : Prop :=
  ∃ level table, TableAt bus virtualAddress root level table ∧
    EntryRead bus virtualAddress level table translation.pteAddress translation.pte ∧
    LeafEntry context level translation.pte ∧
    translation.leafLevel = level ∧
    translation.physicalAddress = leafAddress virtualAddress level translation.pte

inductive FaultsAt (bus : Bus) (virtualAddress : Address) (context : Sv39Context) (root : Nat) :
    Sv39FaultReason → Int → Prop where
  | unreadable {level table : Nat} (reached : TableAt bus virtualAddress root level table)
      (unread : ∀ pteAddress pte, ¬ EntryRead bus virtualAddress level table pteAddress pte) :
      FaultsAt bus virtualAddress context root .pageTableAccess level
  | entry {level table : Nat} {pteAddress : Address} {pte : BitVec 64} {reason : Sv39FaultReason}
      (reached : TableAt bus virtualAddress root level table)
      (read : EntryRead bus virtualAddress level table pteAddress pte)
      (failing : firstFailing (entryChecks context level pte) = some reason) :
      FaultsAt bus virtualAddress context root reason level

def Sound (bus : Bus) (virtualAddress : Address) (context : Sv39Context) (root : Nat) :
    Sv39Result → Prop
  | .ok translation => TranslatesAt bus virtualAddress context root translation
  | .error fault => fault.virtualAddress = virtualAddress ∧
      FaultsAt bus virtualAddress context root fault.reason fault.level

theorem walkFrom_cases (context : Sv39Context) (hlt : root < tableLimit) (htable : tableAddress.toNat = table)
    (hreached : TableAt bus virtualAddress root level table) :
    Sound bus virtualAddress context root
        (walkFrom virtualAddress context (level + 1) tableAddress bus).1 ∨
      ∃ next pteAddress pte, level ≠ 0 ∧ EntryRead bus virtualAddress level table pteAddress pte ∧
        PointerEntry pte ∧ next.toNat = ppn pte * 4096 ∧
        (walkFrom virtualAddress context (level + 1) tableAddress bus).1 =
          (walkFrom virtualAddress context level next bus).1 := by
  have htableLt := tableAt_lt hlt hreached
  have hentry (pteAddress : Address) (pte : BitVec 64) :
      EntryRead bus virtualAddress level table pteAddress pte ↔
        pteAddress = tableAddress + virtualPageNumber virtualAddress level * 8#64 ∧
          (bus.read pteAddress 8 .pageTableWalk).1 = .ok pte :=
    entryRead_iff htable htableLt pte
  rw [walkFrom_at (by rw [htable]; exact htableLt)]
  cases hread : (bus.read (tableAddress + virtualPageNumber virtualAddress level * 8#64) 8
    .pageTableWalk).1 with
  | error busFault =>
    refine .inl ⟨rfl, .unreadable hreached ?_⟩
    intro pteAddress pte h
    obtain ⟨rfl, hok⟩ := (hentry _ _).mp h
    rw [hread] at hok
    cases hok
  | ok pte =>
    have hentryRead := (hentry _ pte).mpr ⟨rfl, hread⟩
    dsimp only
    cases hinspect : inspectPte context level pte with
    | fault reason detail =>
      exact .inl ⟨rfl, .entry hreached hentryRead (firstFailing_of_inspectPte hinspect)⟩
    | leaf =>
      exact .inl ⟨level, table, hreached, hentryRead, leaf_of_inspectPte hinspect, rfl, rfl⟩
    | table next =>
      obtain ⟨hlevel, hpointer, hnext⟩ := pointer_of_inspectPte hinspect
      exact .inr ⟨next, _, pte, hlevel, hentryRead, hpointer, hnext, rfl⟩

theorem walkFrom_sound (hlt : root < tableLimit) (htable : tableAddress.toNat = table)
    (hreached : TableAt bus virtualAddress root level table) :
    Sound bus virtualAddress context root
      (walkFrom virtualAddress context (level + 1) tableAddress bus).1 := by
  induction level generalizing table tableAddress with
  | zero =>
    rcases walkFrom_cases context hlt htable hreached with hsound | ⟨_, _, _, hlevel, -⟩
    · exact hsound
    · exact absurd rfl hlevel
  | succ level ih =>
    rcases walkFrom_cases context hlt htable hreached with
      hsound | ⟨next, pteAddress, pte, -, hentry, hpointer, hnext, hwalk⟩
    · exact hsound
    · rw [hwalk]
      exact ih hnext (.descend hreached hentry hpointer)

theorem walk_sound {rootAddress : Address} {remaining : Nat} (hremaining : remaining = 2 + 1)
    (hroot : rootAddress.toNat = root) (hlt : root < tableLimit) :
    Sound bus virtualAddress context root
      (walkFrom virtualAddress context remaining rootAddress bus).1 := by
  subst hremaining
  exact walkFrom_sound hlt hroot .root

theorem walkFrom_translates {rootAddress : Address} (hroot : rootAddress.toNat = root)
    (hlt : root < tableLimit) (h : TranslatesAt bus virtualAddress context root translation) :
    (walkFrom virtualAddress context 3 rootAddress bus).1 = .ok translation := by
  obtain ⟨level, table, hreached, hentry, hleaf, hlevel, hphysical⟩ := h
  obtain ⟨tableAddress, htable, hwalk⟩ := walk_resumes hroot hlt context hreached
  rw [hwalk, walkFrom_entry (tableAt_lt hlt hreached) htable hentry, inspectPte_of_leaf hleaf,
    ← hphysical, ← hlevel]

theorem walkFrom_faults {rootAddress : Address} (hroot : rootAddress.toNat = root)
    (hlt : root < tableLimit) {reason : Sv39FaultReason} {faultLevel : Int}
    (h : FaultsAt bus virtualAddress context root reason faultLevel) :
    ∃ fault, (walkFrom virtualAddress context 3 rootAddress bus).1 = .error fault ∧
      fault.reason = reason ∧ fault.level = faultLevel := by
  cases h with
  | @unreadable level table reached unread =>
    obtain ⟨tableAddress, htable, hwalk⟩ := walk_resumes hroot hlt context reached
    have htableLt := tableAt_lt hlt reached
    rw [hwalk, walkFrom_at (by rw [htable]; exact htableLt)]
    cases hread : (bus.read (tableAddress + virtualPageNumber virtualAddress level * 8#64) 8
      .pageTableWalk).1 with
    | error busFault => exact ⟨_, rfl, rfl, rfl⟩
    | ok pte =>
      exact absurd ((entryRead_iff htable htableLt pte).mpr ⟨rfl, hread⟩) (unread _ _)
  | entry reached read failing =>
    obtain ⟨tableAddress, htable, hwalk⟩ := walk_resumes hroot hlt context reached
    obtain ⟨detail, hinspect⟩ := inspectPte_of_fault failing
    rw [hwalk, walkFrom_entry (tableAt_lt hlt reached) htable read, hinspect]
    exact ⟨_, rfl, rfl, rfl⟩

theorem translates_iff (walkable : Walkable virtualAddress context) :
    Translates bus virtualAddress context root translation ↔
      TranslatesAt bus virtualAddress context root translation := by
  have hphysical (level : Nat) :
      translation.physicalAddress.toNat =
          ppn translation.pte * 4096 / 2 ^ (12 + 9 * level) * 2 ^ (12 + 9 * level) +
            virtualAddress.toNat % 2 ^ (12 + 9 * level) ↔
        translation.physicalAddress = leafAddress virtualAddress level translation.pte := by
    have hleaf := leafAddress_toNat virtualAddress level translation.pte
    rw [tableAddress_toNat (by rw [ppn_toNat]; exact ppn_lt _), ppn_toNat,
      Nat.mul_comm level] at hleaf
    rw [← BitVec.toNat_inj, hleaf]
  simp only [Translates, TranslatesAt, walkable, true_and, hphysical]

theorem faults_of_walkable (walkable : Walkable virtualAddress context)
    {reason : Sv39FaultReason} {faultLevel : Int} :
    Faults bus virtualAddress context root reason faultLevel ↔
      FaultsAt bus virtualAddress context root reason faultLevel := by
  constructor
  · intro h
    cases h with
    | nonCanonical address => exact absurd walkable.1 address
    | privilege address unprivileged => exact absurd walkable.2 unprivileged
    | unreadable _ reached unread => exact .unreadable reached unread
    | entry _ reached read failing => exact .entry reached read failing
  · intro h
    cases h with
    | unreadable reached unread => exact .unreadable walkable reached unread
    | entry reached read failing => exact .entry walkable reached read failing

end Walk

def rootTable (context : Sv39Context) : Nat := context.rootPpn.toNat % 2 ^ 44 * 4096

theorem rootTable_lt (context : Sv39Context) : rootTable context < tableLimit := by
  have hmod := Nat.mod_lt context.rootPpn.toNat (show 0 < 2 ^ 44 by decide)
  rw [rootTable, tableLimit]
  omega

theorem rootAddress_toNat (context : Sv39Context) :
    ((context.rootPpn &&& kPpnMask) <<< 12).toNat = rootTable context := by
  have hpage : (context.rootPpn &&& kPpnMask).toNat = context.rootPpn.toNat % 2 ^ 44 := by
    rw [kPpnMask, BitMask.shifted_sub_one, BitMask.toNat_and_low]
  rw [tableAddress_toNat, hpage, rootTable]
  rw [hpage]
  exact Nat.mod_lt _ (by decide)

structure Correct (bus : Bus) (virtualAddress : Address) (context : Sv39Context) (root : Nat)
    (result : Sv39Result × Bus) : Prop where
  translation : ∀ translation, result.1 = .ok translation ↔
    Translates bus virtualAddress context root translation
  original_address : ∀ fault, result.1 = .error fault → fault.virtualAddress = virtualAddress
  fault : ∀ reason level,
    (∃ fault, result.1 = .error fault ∧ fault.reason = reason ∧ fault.level = level) ↔
      Faults bus virtualAddress context root reason level
  unchanged : result.2 = bus

section Result
variable {bus : Bus} {virtualAddress : Address} {context : Sv39Context} {root : Nat}

theorem correct_of_sound (walkable : Walkable virtualAddress context) {result : Sv39Result}
    (hsound : Sound bus virtualAddress context root result)
    (htranslates : ∀ translation, TranslatesAt bus virtualAddress context root translation →
      result = .ok translation)
    (hfaults : ∀ reason level, FaultsAt bus virtualAddress context root reason level →
      ∃ fault, result = .error fault ∧ fault.reason = reason ∧ fault.level = level) :
    Correct bus virtualAddress context root (result, bus) := by
  constructor
  · intro translation
    rw [translates_iff walkable]
    refine ⟨fun h => ?_, htranslates translation⟩
    subst h
    exact hsound
  · intro fault h
    subst h
    exact hsound.1
  · intro reason level
    rw [faults_of_walkable walkable]
    refine ⟨?_, hfaults reason level⟩
    rintro ⟨fault, rfl, rfl, rfl⟩
    exact hsound.2
  · rfl

theorem correct_of_walkable (walkable : Walkable virtualAddress context)
    {rootAddress : Address} (hroot : rootAddress.toNat = root) (hlt : root < tableLimit) :
    Correct bus virtualAddress context root
      ((walkFrom virtualAddress context 3 rootAddress bus).1, bus) :=
  correct_of_sound walkable (walk_sound rfl hroot hlt)
    (fun _ => walkFrom_translates hroot hlt) (fun _ _ => walkFrom_faults hroot hlt)

theorem correct_of_rejected {fault : Sv39Fault} (hwalkable : ¬ Walkable virtualAddress context)
    (haddress : fault.virtualAddress = virtualAddress)
    (hfaults : ∀ reason level, Faults bus virtualAddress context root reason level ↔
      fault.reason = reason ∧ fault.level = level) :
    Correct bus virtualAddress context root (.error fault, bus) := by
  constructor
  · intro translation
    refine ⟨fun h => ?_, fun h => absurd h.1 hwalkable⟩
    cases h
  · rintro _ ⟨⟩
    exact haddress
  · intro reason level
    rw [hfaults]
    constructor
    · rintro ⟨_, ⟨⟩, hreason, hlevel⟩
      exact ⟨hreason, hlevel⟩
    · exact fun h => ⟨fault, rfl, h⟩
  · rfl

theorem faults_iff_nonCanonical (haddress : ¬ SignExtended virtualAddress)
    (reason : Sv39FaultReason) (level : Int) :
    Faults bus virtualAddress context root reason level ↔
      Sv39FaultReason.nonCanonicalAddress = reason ∧ -1 = level := by
  constructor
  · intro h
    cases h with
    | nonCanonical => exact ⟨rfl, rfl⟩
    | privilege address => exact absurd address haddress
    | unreadable walkable => exact absurd walkable.1 haddress
    | entry walkable => exact absurd walkable.1 haddress
  · rintro ⟨rfl, rfl⟩
    exact .nonCanonical haddress

theorem faults_iff_privilege (haddress : SignExtended virtualAddress)
    (hprivilege : ¬ (context.privilege = .supervisor ∨ context.privilege = .user))
    (reason : Sv39FaultReason) (level : Int) :
    Faults bus virtualAddress context root reason level ↔
      Sv39FaultReason.privilegeViolation = reason ∧ -1 = level := by
  constructor
  · intro h
    cases h with
    | nonCanonical address => exact absurd haddress address
    | privilege => exact ⟨rfl, rfl⟩
    | unreadable walkable => exact absurd walkable.2 hprivilege
    | entry walkable => exact absurd walkable.2 hprivilege
  · rintro ⟨rfl, rfl⟩
    exact .privilege haddress hprivilege

end Result

end Sv39Spec

open Sv39Spec

theorem walkSv39_correct (bus : Bus) (virtualAddress : Address) (context : Sv39Context) :
    Correct bus virtualAddress context (rootTable context)
      (walkSv39 bus virtualAddress context) := by
  have hresult : walkSv39 bus virtualAddress context =
      ((walkSv39 bus virtualAddress context).1, bus) :=
    Prod.ext rfl (walkSv39_snd virtualAddress context bus)
  rw [hresult, walkSv39_fst]
  by_cases haddress : SignExtended virtualAddress
  · rw [(isSv39Canonical_iff virtualAddress).mpr haddress, Bool.not_true, if_neg Bool.false_ne_true]
    by_cases hprivilege : context.privilege = .supervisor ∨ context.privilege = .user
    · rw [if_neg (by rwa [← not_or, not_not])]
      exact correct_of_walkable ⟨haddress, hprivilege⟩ (rootAddress_toNat context)
        (rootTable_lt context)
    · rw [if_pos (not_or.mp hprivilege)]
      exact correct_of_rejected (fun h => hprivilege h.2) rfl
        (faults_iff_privilege haddress hprivilege)
  · have hcanonical : isSv39Canonical virtualAddress = false := by
      rw [← Bool.not_eq_true, isSv39Canonical_iff]
      exact haddress
    rw [hcanonical, Bool.not_false, if_pos rfl]
    exact correct_of_rejected (fun h => haddress h.1) rfl (faults_iff_nonCanonical haddress)

def gigapageTable : SparseRam :=
  .unwritten ⟨0#64, 0x1000#64, text "gigapage", by decide, by decide, by decide⟩

def gigapageBus : Bus :=
  ⟨[.sparseRam (gigapageTable.write 0#64 8 0xdf#64).1], List.pairwise_singleton _ _⟩

-- The page number has bit 44 set, which the walker masks away.
def wideContext : Sv39Context := ⟨1#64 <<< 44, .user, .load, false, false⟩

theorem wide_root_unread (pteAddress : Address) (pte : BitVec 64) :
    ¬ EntryRead gigapageBus 0#64 2 (wideContext.rootPpn.toNat * 4096) pteAddress pte := by
  rintro ⟨haddress, hread⟩
  have hpte : pteAddress = 1#64 <<< 56 := BitVec.eq_of_toNat_eq (haddress.trans (by decide))
  have herror : ∃ fault, (gigapageBus.read (1#64 <<< 56) 8 .pageTableWalk).1 = .error fault :=
    ⟨_, rfl⟩
  obtain ⟨fault, hfault⟩ := herror
  rw [hpte, hfault] at hread
  cases hread

theorem wide_root_only {level table : Nat}
    (h : TableAt gigapageBus 0#64 (wideContext.rootPpn.toNat * 4096) level table) :
    level = 2 ∧ table = wideContext.rootPpn.toNat * 4096 := by
  induction h with
  | root => exact ⟨rfl, rfl⟩
  | descend above entry pointer ih =>
    rw [ih.1, ih.2] at entry
    exact absurd entry (wide_root_unread _ _)

theorem walk_masks_wide_root :
    ¬ ∀ (bus : Bus) (virtualAddress : Address) (context : Sv39Context),
      Correct bus virtualAddress context (context.rootPpn.toNat * 4096)
        (walkSv39 bus virtualAddress context) := by
  intro h
  have htranslated : ∃ translation, (walkSv39 gigapageBus 0#64 wideContext).1 = .ok translation :=
    ⟨_, rfl⟩
  obtain ⟨translation, hresult⟩ := htranslated
  obtain ⟨-, level, table, hreached, hentry, -⟩ :=
    ((h gigapageBus 0#64 wideContext).translation translation).mp hresult
  obtain ⟨rfl, rfl⟩ := wide_root_only hreached
  exact wide_root_unread _ _ hentry

end Northstar64
