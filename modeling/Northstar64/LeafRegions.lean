import Northstar64.UserMemory
import Northstar64.Sv39Correct
import Northstar64.Library.Results

namespace Northstar64

def AgreeFrom (start : Nat) (first second : Address) : Prop :=
  ∀ bit, start ≤ bit → first.getLsbD bit = second.getLsbD bit

def withLow (count : Nat) (address low : Address) : Address :=
  BitVec.ofNat 64 (address.toNat / 2 ^ count * 2 ^ count + low.toNat % 2 ^ count)

theorem sameRegion_of_agreeFrom {level : Nat} {first second : Address}
    (h : AgreeFrom (12 + 9 * level) first second) : SameRegion level first second := by
  rw [SameRegion, Nat.mul_comm level]
  apply BitVec.eq_of_getLsbD_eq
  intro bit _
  rw [BitVec.getLsbD_ushiftRight, BitVec.getLsbD_ushiftRight]
  exact h _ (Nat.le_add_right _ _)

theorem leafAddress_withLow (address other : Address) (level : Nat) (pte : BitVec 64) :
    leafAddress other level pte = withLow (12 + 9 * level) (leafAddress address level pte) other := by
  have hlow : address.toNat % 2 ^ (12 + level * 9) < 2 ^ (12 + level * 9) :=
    Nat.mod_lt _ (Nat.two_pow_pos _)
  have hbase : (leafAddress address level pte).toNat / 2 ^ (12 + level * 9) =
      ((pte >>> 10 &&& kPpnMask) <<< 12).toNat / 2 ^ (12 + level * 9) := by
    rw [leafAddress_toNat, Nat.add_comm, Nat.add_mul_div_right _ _ (Nat.two_pow_pos _),
      Nat.div_eq_of_lt hlow, Nat.zero_add]
  rw [withLow, Nat.mul_comm 9, hbase, ← leafAddress_toNat, BitVec.ofNat_toNat, BitVec.setWidth_eq]

variable (virtualAddress : Address) (context : Sv39Context)

theorem walkFrom_page {other : Address} (h : SameRegion 0 other virtualAddress) {remaining : Nat}
    {tableAddress : Address} {bus : Bus} {fault : Sv39Fault}
    (hfault : (walkFrom virtualAddress context remaining tableAddress bus).1 = .error fault) :
    (walkFrom other context remaining tableAddress bus).1 =
      .error { fault with virtualAddress := other } := by
  induction remaining generalizing tableAddress with
  | zero =>
    obtain rfl := Except.error.inj hfault
    rfl
  | succ level ih =>
    rw [walkFrom_succ] at hfault ⊢
    rw [virtualPageNumber_congr virtualAddress (Nat.zero_le level) h]
    dsimp only at hfault ⊢
    split_ifs at hfault ⊢ with hoverflow
    · obtain rfl := Except.error.inj hfault
      rfl
    · cases hread : (bus.read (tableAddress + virtualPageNumber virtualAddress level * 8#64) 8
        .pageTableWalk).1 with
      | error busFault =>
        rw [hread] at hfault
        obtain rfl := Except.error.inj hfault
        rfl
      | ok pte =>
        rw [hread] at hfault
        dsimp only at hfault ⊢
        cases hinspect : inspectPte context level pte with
        | fault reason detail =>
          rw [hinspect] at hfault
          obtain rfl := Except.error.inj hfault
          rfl
        | leaf =>
          rw [hinspect] at hfault
          cases hfault
        | table next =>
          rw [hinspect] at hfault
          exact ih hfault

theorem walkSv39_page {other : Address} (h : SameRegion 0 other virtualAddress) {bus : Bus}
    {fault : Sv39Fault} (hfault : (walkSv39 bus virtualAddress context).1 = .error fault) :
    (walkSv39 bus other context).1 = .error { fault with virtualAddress := other } := by
  rw [walkSv39_fst] at hfault ⊢
  rw [isSv39Canonical_congr virtualAddress (Nat.zero_le 2) h]
  split_ifs at hfault ⊢ with hcanonical hprivilege
  · obtain rfl := Except.error.inj hfault
    rfl
  · obtain rfl := Except.error.inj hfault
    rfl
  · exact walkFrom_page virtualAddress context h hfault

namespace StepState

theorem translate_fst (s : StepState) (address : Address) (access : VirtualAccess) :
    (s.translate address access).1 = s.cpu.physicalAddress address access := by
  unfold translate Cpu.physicalAddress
  by_cases hidentity : usesIdentity s.cpu = true
  · rw [if_pos hidentity, if_pos hidentity]
  · rw [if_neg hidentity, if_neg hidentity]
    dsimp only
    cases (walkSv39 s.cpu.bus address (walkContext s.cpu access)).1 with
    | error fault =>
      dsimp only
      split_ifs <;> rfl
    | ok translation => rfl

end StepState

theorem Cpu.physicalAddress_byte {cpu : Cpu} {address physical : Address} {access : VirtualAccess}
    (h : cpu.physicalAddress address access = some physical) {i : Nat}
    (hi : address.toNat % 8 + i < 8) :
    cpu.physicalAddress (address + BitVec.ofNat 64 i) access =
      some (physical + BitVec.ofNat 64 i) := by
  unfold physicalAddress at h ⊢
  split_ifs at h ⊢ with hidentity
  · rw [Option.some.inj h]
  · cases hwalk : (walkSv39 cpu.bus address (StepState.walkContext cpu access)).1 with
    | error fault =>
      rw [hwalk] at h
      cases h
    | ok translation =>
      rw [hwalk] at h
      rw [walkSv39_byte address _ hwalk hi]
      exact congrArg (fun p => some (p + BitVec.ofNat 64 i)) (Option.some.inj h)

theorem translation_uniform :
    (∀ bus virtualAddress context translation,
      (walkSv39 bus virtualAddress context).1 = .ok translation →
      ∃ level : Nat, translation.leafLevel = level ∧
        ∀ other, AgreeFrom (12 + 9 * level) other virtualAddress →
          (walkSv39 bus other context).1 = .ok { translation with
            physicalAddress := withLow (12 + 9 * level) translation.physicalAddress other }) ∧
    (∀ bus virtualAddress context fault,
      (walkSv39 bus virtualAddress context).1 = .error fault →
      ∀ other, AgreeFrom 12 other virtualAddress →
        (walkSv39 bus other context).1 = .error { fault with virtualAddress := other }) ∧
    ∀ (s : StepState) address width access physical, width ∈ [1, 2, 4, 8] →
      StepState.isUnaligned address width = false →
      (s.translate address access).1 = some physical →
      ∀ i < width, (s.translate (address + BitVec.ofNat 64 i) access).1 =
        some (physical + BitVec.ofNat 64 i) := by
  refine ⟨?_, ?_, ?_⟩
  · intro bus virtualAddress context translation h
    obtain ⟨level, -, hlevel, haddress, hregion⟩ := walkSv39_region virtualAddress context h
    refine ⟨level, hlevel, fun other hagree => ?_⟩
    rw [hregion other (sameRegion_of_agreeFrom hagree), haddress,
      ← leafAddress_withLow virtualAddress other]
  · intro bus virtualAddress context fault h other hagree
    exact walkSv39_page virtualAddress context (sameRegion_of_agreeFrom hagree) h
  · intro s address width access physical hwidth haligned htranslate i hi
    have hvalid : validWidth width = true := by
      simpa [validWidth, or_assoc] using hwidth
    rw [StepState.translate_fst] at htranslate ⊢
    exact Cpu.physicalAddress_byte htranslate (Cpu.aligned_offset hvalid haligned hi)

def userLoadContext : Sv39Context := ⟨0#64, .user, .load, false, false⟩

def gigapageCpu : Cpu :=
  { Cpu.reset gigapageBus ⟨.vector, false, false⟩ 0#64 with
    privilege := .user
    csrs := { CsrFile.reset with satp := kSatpModeSv39 } }

theorem translation_uniform_gigapage :
    (∃ translation : Sv39Translation, ∀ other, AgreeFrom 30 other 0x1238#64 →
      (walkSv39 gigapageBus other userLoadContext).1 = .ok { translation with
        physicalAddress := withLow 30 translation.physicalAddress other }) ∧
    (∃ fault : Sv39Fault, ∀ other, AgreeFrom 12 other 0x40000000#64 →
      (walkSv39 gigapageBus other userLoadContext).1 =
        .error { fault with virtualAddress := other }) ∧
    ∀ i < 8, (gigapageCpu.start.translate (0x1238#64 + BitVec.ofNat 64 i) .load).1 =
      some (0x1238#64 + BitVec.ofNat 64 i) := by
  obtain ⟨hleaf, hfault, hbytes⟩ := translation_uniform
  refine ⟨?_, ?_, ?_⟩
  · have hwalk : ((walkSv39 gigapageBus 0x1238#64 userLoadContext).1.toOption.any
        fun translation => decide (translation.leafLevel = 2)) = true := by decide +kernel
    obtain ⟨translation, htranslated, hlevel⟩ := Results.exists_of_any hwalk
    obtain ⟨level, hlevel', hregion⟩ := hleaf gigapageBus 0x1238#64 userLoadContext _ htranslated
    obtain rfl : level = 2 := Int.ofNat.inj (hlevel'.symm.trans (of_decide_eq_true hlevel))
    exact ⟨translation, hregion⟩
  · have hinvalid : (walkSv39 gigapageBus 0x40000000#64 userLoadContext).1.isOk = false := by
      decide +kernel
    obtain ⟨fault, hfaulted⟩ := Results.exists_error hinvalid
    exact ⟨fault, hfault gigapageBus 0x40000000#64 userLoadContext fault hfaulted⟩
  · exact hbytes gigapageCpu.start 0x1238#64 8 .load 0x1238#64 (by decide) (by decide)
      (by decide +kernel)

end Northstar64
