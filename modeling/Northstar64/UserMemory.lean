import Northstar64.LowerModes

namespace Northstar64

namespace Cpu

def rootPpn (cpu : Cpu) : BitVec 64 := cpu.csrs.satpValue &&& StepState.kSatpPpnMask

def UsesSv39 (cpu : Cpu) : Prop := cpu.csrs.satpValue &&& kSatpModeMask = kSatpModeSv39

def userContext (cpu : Cpu) (access : VirtualAccess) : Sv39Context :=
  { StepState.walkContext cpu access with privilege := .user }

def PageTableByte (cpu : Cpu) (p : Address) : Prop :=
  ∃ virtualAddress context, context.rootPpn = cpu.rootPpn ∧
    ∃ pteAddress ∈ pteReads virtualAddress context cpu.bus, entryByte pteAddress p

def UserTranslates (cpu : Cpu) (access : VirtualAccess) (p : Address) : Prop :=
  ∃ virtualAddress translation,
    (walkSv39 cpu.bus virtualAddress (cpu.userContext access)).1 = .ok translation ∧
      translation.physicalAddress = p

structure SameTranslation (cpu other : Cpu) : Prop where
  satp : other.csrs.satp = cpu.csrs.satp
  mstatus : other.csrs.mstatus = cpu.csrs.mstatus
  layout : cpu.bus.layout = other.bus.layout
  tables : ∀ p, cpu.PageTableByte p → cpu.bus.ramByte p = other.bus.ramByte p

variable {cpu other : Cpu}

theorem SameTranslation.rootPpn (h : SameTranslation cpu other) : other.rootPpn = cpu.rootPpn := by
  rw [Cpu.rootPpn, Cpu.rootPpn, CsrFile.satpValue, CsrFile.satpValue, h.satp]

theorem SameTranslation.usesSv39 (h : SameTranslation cpu other) (hmode : cpu.UsesSv39) :
    other.UsesSv39 := by
  rw [UsesSv39, CsrFile.satpValue, h.satp]
  exact hmode

theorem SameTranslation.userContext (h : SameTranslation cpu other) (access : VirtualAccess) :
    other.userContext access = cpu.userContext access := by
  have hsatp : other.csrs.satpValue = cpu.csrs.satpValue := h.satp
  have hmstatus : other.csrs.mstatusValue = cpu.csrs.mstatusValue :=
    congrArg (fun mstatus => mstatus ||| status.kMstatusFixedValue) h.mstatus
  rw [Cpu.userContext, Cpu.userContext, StepState.walkContext, StepState.walkContext, hsatp,
    hmstatus]

theorem SameTranslation.walk (h : SameTranslation cpu other) (virtualAddress : Address)
    {context : Sv39Context} (hroot : context.rootPpn = cpu.rootPpn) :
    (walkSv39 cpu.bus virtualAddress context).1 = (walkSv39 other.bus virtualAddress context).1 ∧
      pteReads virtualAddress context cpu.bus = pteReads virtualAddress context other.bus :=
  walkSv39_congr virtualAddress context h.layout (fun pteAddress hmem p hp =>
    h.tables p ⟨virtualAddress, context, hroot, pteAddress, hmem, hp⟩)

theorem SameTranslation.pageTableByte (h : SameTranslation cpu other) (p : Address) :
    other.PageTableByte p ↔ cpu.PageTableByte p := by
  constructor
  · rintro ⟨virtualAddress, context, hroot, pteAddress, hmem, hp⟩
    rw [h.rootPpn] at hroot
    rw [← (h.walk virtualAddress hroot).2] at hmem
    exact ⟨virtualAddress, context, hroot, pteAddress, hmem, hp⟩
  · rintro ⟨virtualAddress, context, hroot, pteAddress, hmem, hp⟩
    rw [(h.walk virtualAddress hroot).2] at hmem
    exact ⟨virtualAddress, context, hroot.trans h.rootPpn.symm, pteAddress, hmem, hp⟩

theorem SameTranslation.userWalk (h : SameTranslation cpu other) (virtualAddress : Address)
    (access : VirtualAccess) :
    (walkSv39 other.bus virtualAddress (other.userContext access)).1 =
      (walkSv39 cpu.bus virtualAddress (cpu.userContext access)).1 := by
  rw [h.userContext]
  exact (h.walk virtualAddress rfl).1.symm

theorem SameTranslation.userTranslates (h : SameTranslation cpu other) (access : VirtualAccess)
    (p : Address) : other.UserTranslates access p ↔ cpu.UserTranslates access p := by
  simp only [UserTranslates, h.userWalk]

theorem walkContext_user (huser : cpu.privilege = .user) (access : VirtualAccess) :
    StepState.walkContext cpu access = cpu.userContext access := by
  rw [userContext, StepState.walkContext, huser]

section User
variable (huser : cpu.privilege = .user) (hmode : cpu.UsesSv39)
include huser hmode

theorem usesIdentity_user : StepState.usesIdentity cpu = false := by
  have hne : cpu.csrs.satpValue &&& kSatpModeMask = kSatpModeSv39 := hmode
  simp [StepState.usesIdentity, huser, hne]

theorem physicalAddress_user (address : Address) (access : VirtualAccess) :
    cpu.physicalAddress address access =
      match (walkSv39 cpu.bus address (cpu.userContext access)).1 with
      | .error _ => none
      | .ok translation => some translation.physicalAddress := by
  have hidentity : ¬ StepState.usesIdentity cpu = true :=
    Bool.eq_false_iff.mp (usesIdentity_user huser hmode)
  rw [physicalAddress, walkContext_user huser]
  exact if_neg hidentity

theorem userTranslates_byte {address physical : Address} {access : VirtualAccess}
    (h : cpu.physicalAddress address access = some physical) {i : Nat}
    (hi : address.toNat % 8 + i < 8) :
    cpu.UserTranslates access (physical + BitVec.ofNat 64 i) := by
  rw [physicalAddress_user huser hmode] at h
  cases hwalk : (walkSv39 cpu.bus address (cpu.userContext access)).1 with
  | error fault =>
    rw [hwalk] at h
    cases h
  | ok translation =>
    rw [hwalk] at h
    obtain rfl := Option.some.inj h
    exact ⟨_, _, walkSv39_byte address (cpu.userContext access) hwalk hi, rfl⟩

end User

theorem aligned_offset {address : Address} {width i : Nat} (hwidth : validWidth width = true)
    (haligned : StepState.isUnaligned address width = false) (hi : i < width) :
    address.toNat % 8 + i < 8 := by
  rcases validWidth_cases hwidth with rfl | rfl | rfl | rfl
  · have := Nat.mod_lt address.toNat (show 0 < 8 by decide)
    omega
  all_goals
    simp [StepState.isUnaligned, ← BitVec.toNat_inj] at haligned
    omega

theorem validWidth_of_write {bus bus' : Bus} {address : Address} {width : Nat} {value : BitVec 64}
    {kind : AccessKind} (h : bus.write address width value kind = (bus', none)) :
    validWidth width = true := by
  cases hwidth : validWidth width with
  | true => rfl
  | false => simp [Bus.write, hwidth] at h

theorem StoreEffect.userTranslates {address : Address} {width : Nat} {write : MemoryWrite}
    {bus : Bus} (h : cpu.StoreEffect address width write bus) (huser : cpu.privilege = .user)
    (hmode : cpu.UsesSv39) {i : Nat} (hi : i < write.width) :
    cpu.UserTranslates .store (write.physicalAddress + BitVec.ofNat 64 i) :=
  userTranslates_byte huser hmode h.translated
    (aligned_offset (validWidth_of_write h.written) h.aligned (h.width_eq ▸ hi))

end Cpu

end Northstar64
