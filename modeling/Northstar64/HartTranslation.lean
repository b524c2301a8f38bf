import Northstar64.Hart
import Northstar64.Sv39Correct

namespace Northstar64

open Sv39Spec

namespace TranslationFault

def ofFault (fault : Sv39Fault) : TranslationFault :=
  if fault.reason = .pageTableAccess then .access else .page

end TranslationFault

theorem entryChecks_reason {context : Sv39Context} {level : Nat} {pte : BitVec 64} {check : Check}
    (h : check ∈ entryChecks context level pte) : check.1 ≠ .pageTableAccess := by
  rw [entryChecks] at h
  split_ifs at h
  all_goals
    simp only [commonChecks, leafChecks, pointerChecks, List.cons_append, List.nil_append,
      List.mem_cons, List.not_mem_nil, or_false] at h
    rcases h with rfl | rfl | rfl | rfl | rfl | rfl | rfl | rfl | rfl
    all_goals exact Sv39FaultReason.noConfusion

theorem firstFailing_reason {context : Sv39Context} {level : Nat} {pte : BitVec 64}
    {reason : Sv39FaultReason} (h : firstFailing (entryChecks context level pte) = some reason) :
    reason ≠ .pageTableAccess := by
  obtain ⟨check, hfind, rfl⟩ := Option.map_eq_some_iff.mp h
  exact entryChecks_reason (List.mem_of_find?_eq_some hfind)

section Walk
variable (virtualAddress : Address) (context : Sv39Context) (bus : Bus)

theorem leafAddress_eq (level : Nat) (pte : BitVec 64) :
    leafAddress virtualAddress level pte = BitVec.ofNat 64
      (ppn pte * 4096 / 2 ^ (12 + 9 * level) * 2 ^ (12 + 9 * level) +
        virtualAddress.toNat % 2 ^ (12 + 9 * level)) := by
  have hvalue := @leafAddress_toNat virtualAddress level pte
  have hpage : ((pte >>> 10 &&& kPpnMask) <<< 12).toNat = ppn pte * 4096 := by
    rw [tableAddress_toNat (by rw [ppn_toNat]; exact ppn_lt pte), ppn_toNat]
  rw [hpage, Nat.mul_comm level 9] at hvalue
  rw [← hvalue, BitVec.ofNat_toNat, BitVec.setWidth_eq]

theorem lookup_walkFrom (remaining : Nat) {tableAddress : Address}
    (hlt : tableAddress.toNat < tableLimit) :
    bus.flat.lookup context virtualAddress remaining tableAddress.toNat =
      ((walkFrom virtualAddress context remaining tableAddress bus).1.map
        Sv39Translation.physicalAddress).mapError TranslationFault.ofFault := by
  induction remaining generalizing tableAddress with
  | zero => rfl
  | succ level ih =>
    have haddress : BitVec.ofNat 64 (tableAddress.toNat + 8 * vpn virtualAddress level) =
        tableAddress + virtualPageNumber virtualAddress level * 8#64 := by
      rw [← (entry_address hlt virtualAddress level).2, BitVec.ofNat_toNat, BitVec.setWidth_eq]
    rw [FlatMemory.lookup, haddress, walkFrom_at hlt, Bus.flat_load _ _ _ .pageTableWalk]
    cases (bus.read (tableAddress + virtualPageNumber virtualAddress level * 8#64) 8
      .pageTableWalk).1 with
    | error fault => rfl
    | ok pte =>
      simp only [Except.toOption]
      cases hinspect : inspectPte context level pte with
      | fault reason detail =>
        have hfailing := firstFailing_of_inspectPte hinspect
        rw [if_pos (by rw [hfailing]; exact Option.some_ne_none reason)]
        exact congrArg Except.error (if_neg (firstFailing_reason hfailing)).symm
      | leaf =>
        obtain ⟨hpassed, hleaf⟩ := (leafEntry_iff context level pte).mp (leaf_of_inspectPte hinspect)
        rw [if_neg (not_not_intro hpassed), if_pos hleaf, leafAddress_eq]
        rfl
      | table next =>
        obtain ⟨hlevel, hpointer, hnext⟩ := pointer_of_inspectPte hinspect
        obtain ⟨hpassed, hleaf⟩ := (pointerEntry_iff context hlevel pte).mp hpointer
        have hbound : next.toNat < tableLimit := by
          have := ppn_lt pte
          rw [hnext, tableLimit]
          omega
        rw [if_neg (not_not_intro hpassed), if_neg (by rw [hleaf]; exact Bool.false_ne_true),
          ← hnext]
        exact ih hbound

end Walk

namespace Cpu
variable (cpu : Cpu)

def hart (cpu : Cpu) : Hart where
  registers := cpu.registers.values
  pc := cpu.pc
  privilege := cpu.privilege
  csrs := cpu.csrs
  memory := cpu.bus.flat

theorem status_bit (status fixed : BitVec 64) {mask : BitVec 64} {i : Nat} (hi : i < 64)
    (hmask : mask = BitVec.twoPow 64 i) (hfixed : fixed.getLsbD i = false) :
    decide ((status ||| fixed) &&& mask ≠ 0#64) = status.getLsbD i := by
  have hbit : ((status ||| fixed) &&& mask = 0#64) ↔ status.getLsbD i = false := by
    rw [hmask, BitMask.and_twoPow_eq_zero_iff _ hi, BitVec.getLsbD_or, hfixed, Bool.or_false]
  cases hstatus : status.getLsbD i with
  | false => exact decide_eq_false (not_not_intro (hbit.mpr hstatus))
  | true => exact decide_eq_true (fun h => by rw [hbit.mp h] at hstatus; cases hstatus)

theorem hart_context (access : VirtualAccess) :
    cpu.hart.context access = StepState.walkContext cpu access := by
  have hroot : cpu.csrs.satpValue &&& StepState.kSatpPpnMask =
      (cpu.csrs.satp.extractLsb' 0 44).setWidth 64 := by
    rw [StepState.kSatpPpnMask, BitMask.shifted_sub_one, Slices.and_low]
    rfl
  have hsum := status_bit cpu.csrs.mstatus status.kMstatusFixedValue (by decide)
    (show status.kSum = BitVec.twoPow 64 18 by decide) (by decide)
  have hmxr := status_bit cpu.csrs.mstatus status.kMstatusFixedValue (by decide)
    (show status.kMxr = BitVec.twoPow 64 19 by decide) (by decide)
  rw [StepState.walkContext, hroot, CsrFile.mstatusValue, hsum, hmxr]
  rfl

theorem satpMode_iff (satp : BitVec 64) :
    satp &&& kSatpModeMask = kSatpModeSv39 ↔ satp.extractLsb' 60 4 = 8#4 := by
  have hfield := BitMask.field_eq_iff (m := 0xf#64) (v := 8#64) (s := 60) (by decide) (by decide) satp
  rw [kSatpModeMask, kSatpModeSv39, hfield, show (0xf#64) = BitMask.low 64 4 from rfl,
    Slices.shift_and_low]
  constructor
  · intro h
    have hnarrow := congrArg (BitVec.setWidth 4) h
    rwa [BitVec.setWidth_setWidth_of_le _ (by decide), BitVec.setWidth_eq] at hnarrow
  · intro h
    rw [h]
    rfl

theorem hart_paged : cpu.hart.paged = !StepState.usesIdentity cpu := by
  have hmode := satpMode_iff cpu.csrs.satp
  rw [StepState.usesIdentity, Hart.paged, CsrFile.satpValue, Bool.not_or]
  congr 1
  · exact (decide_not (p := cpu.privilege = .machine))
  · rw [decide_not, Bool.not_not]
    exact decide_eq_decide.mpr hmode.symm

theorem hart_root (access : VirtualAccess) :
    (cpu.hart.context access).rootPpn.toNat * 4096 =
      (((StepState.walkContext cpu access).rootPpn &&& kPpnMask) <<< 12).toNat := by
  have hlt : (cpu.hart.context access).rootPpn.toNat < 2 ^ 44 := by
    rw [Hart.context, BitVec.toNat_setWidth_of_le (by decide)]
    exact BitVec.isLt _
  rw [rootAddress_toNat, rootTable, ← hart_context, Nat.mod_eq_of_lt hlt]

theorem hart_lookup (paging : StepState.usesIdentity cpu = false) (address : Address)
    (access : VirtualAccess) :
    cpu.hart.lookup access address =
      ((walkSv39 cpu.bus address (StepState.walkContext cpu access)).1.map
        Sv39Translation.physicalAddress).mapError TranslationFault.ofFault := by
  have hprivileged : ¬ ((StepState.walkContext cpu access).privilege ≠ .supervisor ∧
      (StepState.walkContext cpu access).privilege ≠ .user) := by
    change ¬ (cpu.privilege ≠ .supervisor ∧ cpu.privilege ≠ .user)
    cases h : cpu.privilege with
    | machine => simp [StepState.usesIdentity, h] at paging
    | supervisor => exact fun hboth => hboth.1 rfl
    | user => exact fun hboth => hboth.2 rfl
  have hcanonical := isSv39Canonical_iff address
  rw [SignExtended] at hcanonical
  rw [Hart.lookup, walkSv39_fst, if_neg hprivileged]
  by_cases haddress : (address.setWidth 39).signExtend 64 = address
  · rw [if_pos haddress, hcanonical.mpr haddress, Bool.not_true, if_neg Bool.false_ne_true,
      hart_root, hart_context]
    exact lookup_walkFrom address _ cpu.bus 3 (by
      rw [rootAddress_toNat]
      exact rootTable_lt _)
  · rw [if_neg haddress, Bool.eq_false_iff.mpr (mt hcanonical.mp haddress), Bool.not_false,
      if_pos rfl]
    rfl

theorem hart_translate (address : Address) (access : VirtualAccess) :
    cpu.hart.translate access address =
      if StepState.usesIdentity cpu then .ok address
      else ((walkSv39 cpu.bus address (StepState.walkContext cpu access)).1.map
        Sv39Translation.physicalAddress).mapError (fun fault =>
          ⟨(TranslationFault.ofFault fault).cause access, address⟩) := by
  rw [Hart.translate, hart_paged, Bool.not_not]
  cases hidentity : StepState.usesIdentity cpu with
  | true => rfl
  | false =>
    rw [if_neg Bool.false_ne_true, if_neg Bool.false_ne_true, cpu.hart_lookup hidentity]
    cases (walkSv39 cpu.bus address (StepState.walkContext cpu access)).1 <;> rfl

theorem translate_hart (f : Scratch) (address : Address) (access : VirtualAccess) :
    (∃ physical, cpu.hart.translate access address = .ok physical ∧
      (cpu.prepared f).translate address access =
        (some physical, cpu.prepared (f.setTranslation access ⟨address, physical⟩))) ∨
    (∃ cause detail, cpu.hart.translate access address = .error ⟨cause, address⟩ ∧
      (cpu.prepared f).translate address access =
        (none, (cpu.prepared f).raiseTrap cause address detail)) := by
  rw [hart_translate]
  simp only [StepState.translate, prepared_usesIdentity, prepared_walkContext, prepared_bus,
    walkSv39_snd, prepared_setBus]
  split_ifs with hidentity
  · exact .inl ⟨address, rfl, by rw [prepared_setTranslation]⟩
  · cases (walkSv39 cpu.bus address (StepState.walkContext cpu access)).1 with
    | ok translation =>
      exact .inl ⟨_, rfl, Prod.ext rfl (cpu.prepared_setTranslation f access _)⟩
    | error fault =>
      right
      dsimp only [Except.map, Except.mapError, TranslationFault.ofFault]
      split_ifs <;> exact ⟨_, _, rfl, by cases access <;> rfl⟩

end Cpu

end Northstar64
