import Northstar64.UserMemory
import Northstar64.Sv39Correct

namespace Northstar64

namespace Cpu

def TablesReadOnly (cpu : Cpu) : Prop :=
  ∀ p, cpu.PageTableByte p → ¬ cpu.UserTranslates .store p

structure Confined (first cpu : Cpu) : Prop where
  satp : cpu.csrs.satp = first.csrs.satp
  mstatus : cpu.privilege = .user → cpu.csrs.mstatus = first.csrs.mstatus
  layout : first.bus.layout = cpu.bus.layout
  outside : ∀ p, ¬ first.UserTranslates .store p → cpu.bus.ramByte p = first.bus.ramByte p

def WritesConfined (first : Cpu) (record : StepRecord) : Prop :=
  ∀ write, record.memoryWrite = some write → ∀ i < write.width,
    first.UserTranslates .store (write.physicalAddress + BitVec.ofNat 64 i)

variable {first cpu : Cpu} {s : StepState}

theorem Confined.refl (cpu : Cpu) : Confined cpu cpu := ⟨rfl, fun _ => rfl, rfl, fun _ _ => rfl⟩

theorem Confined.sameTranslation (h : Confined first cpu) (hreadonly : first.TablesReadOnly)
    (huser : cpu.privilege = .user) : SameTranslation first cpu :=
  ⟨h.satp, h.mstatus huser, h.layout, fun p hp => (h.outside p (hreadonly p hp)).symm⟩

theorem enterTrap_satp (csrs : CsrFile) (trap : Trap) (origin : PrivilegeLevel) :
    (csrs.enterTrap trap origin).1.satp = csrs.satp := by
  cases h : csrs.isDelegated trap origin with
  | true => rw [CsrFile.enterTrap_delegated h]
  | false => rw [CsrFile.enterTrap_not_delegated h]

theorem enterTrap_target_ne_user (csrs : CsrFile) (trap : Trap) (origin : PrivilegeLevel) :
    (csrs.enterTrap trap origin).2.target ≠ .user := by
  rw [CsrFile.enterTrap_target]
  split_ifs <;> decide

theorem TrapEffect.confined {trap : Trap} (heffect : cpu.TrapEffect s trap)
    (h : Confined first cpu) : Confined first s.cpu ∧ WritesConfined first s.record := by
  refine ⟨⟨?_, ?_, ?_, ?_⟩, ?_⟩
  · rw [heffect.csrs, enterTrap_satp]
    exact h.satp
  · intro huser
    rw [heffect.privilege] at huser
    exact absurd huser (enterTrap_target_ne_user _ _ _)
  · rw [heffect.bus]
    exact h.layout
  · rw [heffect.bus]
    exact h.outside
  · intro write hwrite
    rw [heffect.memoryWrite] at hwrite
    cases hwrite

theorem StoreEffect.ramByte_outside {address : Address} {width : Nat} {write : MemoryWrite}
    {bus : Bus} (heffect : cpu.StoreEffect address width write bus) {p : Address}
    (hp : ∀ i < write.width, p ≠ write.physicalAddress + BitVec.ofNat 64 i) :
    bus.ramByte p = cpu.bus.ramByte p := by
  have hview := Bus.write_view (congrArg Prod.snd heffect.written)
  rw [heffect.written, ← heffect.width_eq] at hview
  have hram := congrArg (fun memory => memory.ram p) hview
  refine hram.trans (if_neg ?_)
  intro hinside
  exact hp _ hinside (add_distance write.physicalAddress p).symm

theorem Completes.confined {f : Scratch} {instruction : DecodedInstruction}
    (hcompletes : cpu.Completes f instruction s) (h : Confined first cpu)
    (hreadonly : first.TablesReadOnly) (hmode : first.UsesSv39) (huser : cpu.privilege = .user) :
    Confined first s.finished.cpu ∧ WritesConfined first s.finished.record := by
  have hsame := h.sameTranslation hreadonly huser
  have hcsrs := hcompletes.user_csrs huser
  have hsatp : s.finished.cpu.csrs.satp = first.csrs.satp := by
    simp only [StepState.finished, hcsrs]
    exact h.satp
  have hmstatus : s.finished.cpu.csrs.mstatus = first.csrs.mstatus := by
    simp only [StepState.finished, hcsrs]
    exact h.mstatus huser
  have hlayout := h.layout.trans hcompletes.recorded.layout.symm
  rcases hcompletes.bus_cases with ⟨hnone, hbus⟩ | ⟨address, width, write, heffect, hsome⟩
  · refine ⟨⟨hsatp, fun _ => hmstatus, hlayout, ?_⟩, ?_⟩
    · change ∀ p, _ → s.cpu.bus.ramByte p = _
      rw [hbus]
      exact h.outside
    · intro write hwrite
      cases hnone.symm.trans hwrite
  · have hwritten (i : Nat) (hi : i < write.width) :
        first.UserTranslates .store (write.physicalAddress + BitVec.ofNat 64 i) :=
      (hsame.userTranslates .store _).mp (heffect.userTranslates huser (hsame.usesSv39 hmode) hi)
    refine ⟨⟨hsatp, fun _ => hmstatus, hlayout, ?_⟩, ?_⟩
    · intro p hp
      refine (heffect.ramByte_outside fun i hi heq => ?_).trans (h.outside p hp)
      rw [heq] at hp
      exact hp (hwritten i hi)
    · intro other hother
      rw [← Option.some.inj (hsome.symm.trans hother)]
      exact hwritten

theorem step_confined (cpu : Cpu) (h : Confined first cpu) (hreadonly : first.TablesReadOnly)
    (hmode : first.UsesSv39) (huser : cpu.privilege = .user) :
    Confined first cpu.step.1 ∧ WritesConfined first cpu.step.2 := by
  refine cpu.stepped_cases
    (P := fun s => Confined first s.cpu ∧ WritesConfined first s.record) ?_ ?_ ?_
  · intro _
    refine ⟨⟨h.satp, h.mstatus, h.layout, h.outside⟩, ?_⟩
    intro write hwrite
    cases hwrite
  · exact fun _ _ _ heffect => heffect.confined h
  · exact fun _ _ _ _ _ _ hcompletes => hcompletes.confined h hreadonly hmode huser

theorem steps_confined (hreadonly : first.TablesReadOnly) (hmode : first.UsesSv39) {n : Nat}
    (huser : ∀ k < n, (steps.state k first).privilege = .user) :
    Confined first (steps.state n first) :=
  steps.invariant_guarded (G := fun s => s.privilege = .user)
    (fun s _ hs hs' => (step_confined s hs hreadonly hmode hs').1) (.refl first) huser

theorem user_writes_are_isolated (cpu : Cpu) (hmode : cpu.UsesSv39)
    (hreadonly : cpu.TablesReadOnly) (n : Nat) (hsteps : ∀ k < n, (steps.state k cpu).privilege = .user) :
    (steps.state n cpu).csrs.satp = cpu.csrs.satp ∧
      (∀ p, cpu.PageTableByte p → (steps.state n cpu).bus.ramByte p = cpu.bus.ramByte p) ∧
      (∀ p, ¬ cpu.UserTranslates .store p →
        (steps.state n cpu).bus.ramByte p = cpu.bus.ramByte p) ∧
      ∀ record ∈ steps.records n cpu, cpu.WritesConfined record := by
  have hconfined := steps_confined hreadonly hmode hsteps
  refine ⟨hconfined.satp, fun p hp => hconfined.outside p (hreadonly p hp), hconfined.outside, ?_⟩
  intro record hrecord
  obtain ⟨k, hk, -, rfl⟩ := steps.record_of_mem hrecord
  have hprefix := steps_confined hreadonly hmode (fun j hj => hsteps j (Nat.lt_trans hj hk))
  exact (step_confined _ hprefix hreadonly hmode (hsteps k hk)).2

def sandboxCode : SparseRam :=
  .unwritten ⟨0#64, 0x2000#64, text "code", by decide, by decide, by decide⟩

def sandboxTable : SparseRam :=
  .unwritten ⟨0x80000000#64, 8#64, text "table", by decide, by decide, by decide⟩

def sandboxSecret : SparseRam :=
  .unwritten ⟨0x90000000#64, 8#64, text "secret", by decide, by decide, by decide⟩

-- One gigapage maps the code; the program is `sd x0, 8(x0)`, `ecall`.
def sandboxDevices (secret : BitVec 64) : List Device :=
  [.sparseRam (sandboxCode.write 0#64 8 0x0000007300003423#64).1,
    .sparseRam (sandboxTable.write 0#64 8 0xdf#64).1,
    .sparseRam (sandboxSecret.write 0#64 8 secret).1]

theorem sandboxDevices_mapped (secret : BitVec 64) :
    (sandboxDevices secret).map Device.mapped =
      [sandboxCode.toMappedDevice, sandboxTable.toMappedDevice, sandboxSecret.toMappedDevice] := by
  simp only [sandboxDevices, List.map_cons, List.map_nil, Device.mapped,
    SparseRam.write_eq_writeLoop (show sandboxCode.exceeds 0#64 8 = false by decide),
    SparseRam.write_eq_writeLoop (show sandboxTable.exceeds 0#64 8 = false by decide),
    SparseRam.write_eq_writeLoop (show sandboxSecret.exceeds 0#64 8 = false by decide),
    SparseRam.writeLoop_mapped]

def sandboxBus (secret : BitVec 64) : Bus where
  devices := sandboxDevices secret
  sorted := by
    have hsorted : ((sandboxDevices secret).map Device.mapped).Pairwise
        (fun left right => left.last < right.base) := by
      rw [sandboxDevices_mapped]
      decide
    rwa [List.pairwise_map] at hsorted

def sandboxCpu (secret : BitVec 64) : Cpu :=
  { reset (sandboxBus secret) ⟨.vector, true, true⟩ 0#64 with
    privilege := .user
    csrs := { CsrFile.reset with satp := kSatpModeSv39 ||| 0x80000#64 } }

def sandboxRoot : Address := 0x80000000#64

theorem sandbox_unmapped (secret : BitVec 64) {pteAddress : Address}
    (hlow : sandboxRoot.toNat < pteAddress.toNat)
    (hhigh : pteAddress.toNat < sandboxRoot.toNat + 4096) :
    (sandboxBus secret).find pteAddress 8 = none := by
  have houtside : ∀ mapped ∈ (sandboxDevices secret).map Device.mapped,
      ¬ mapped.contains pteAddress 8 = true := by
    rw [sandboxDevices_mapped]
    simp only [sandboxRoot, BitVec.toNat_ofNat] at hlow hhigh
    simp only [List.forall_mem_cons, MappedDevice.contains_iff, sandboxCode, sandboxTable,
      sandboxSecret, SparseRam.unwritten, BitVec.toNat_ofNat]
    refine ⟨by omega, by omega, by omega, ?_⟩
    intro mapped hmem
    cases hmem
  rw [List.forall_mem_map] at houtside
  exact List.find?_eq_none.mpr houtside

theorem sandbox_read (secret : BitVec 64) {pteAddress : Address} {pte : BitVec 64}
    (hlow : sandboxRoot.toNat ≤ pteAddress.toNat)
    (hhigh : pteAddress.toNat < sandboxRoot.toNat + 4096)
    (hread : ((sandboxBus secret).read pteAddress 8 .pageTableWalk).1 = .ok pte) :
    pteAddress = sandboxRoot ∧ pte = 0xdf#64 := by
  by_cases hroot : pteAddress = sandboxRoot
  · subst hroot
    have htable : ((sandboxBus secret).read sandboxRoot 8 .pageTableWalk).1 = .ok 0xdf#64 := rfl
    exact ⟨rfl, (Except.ok.inj (htable.symm.trans hread)).symm⟩
  · have hne : pteAddress.toNat ≠ sandboxRoot.toNat := fun h => hroot (BitVec.eq_of_toNat_eq h)
    have hunmapped := sandbox_unmapped secret (Nat.lt_of_le_of_ne hlow hne.symm) hhigh
    rw [Bus.read_unmapped rfl hunmapped] at hread
    cases hread

theorem sandbox_entry (secret : BitVec 64) {virtualAddress : Address} {pte : BitVec 64}
    (hread : ((sandboxBus secret).read
      (sandboxRoot + virtualPageNumber virtualAddress 2 * 8#64) 8 .pageTableWalk).1 = .ok pte) :
    sandboxRoot + virtualPageNumber virtualAddress 2 * 8#64 = sandboxRoot ∧ pte = 0xdf#64 := by
  have haddress := (Sv39Spec.entry_address (show sandboxRoot.toNat < Sv39Spec.tableLimit by decide)
    virtualAddress 2).2
  have hvpn : Sv39Spec.vpn virtualAddress 2 < 512 := Nat.mod_lt _ (by decide)
  exact sandbox_read secret (by omega) (by omega) hread

theorem sandbox_not_table (context : Sv39Context) (next : Address) :
    inspectPte context 2 0xdf#64 ≠ .table next := by
  intro h
  have hpointer := (Sv39Spec.pointer_of_inspectPte h).2.1
  exact absurd hpointer.permissions.1 (by decide)

theorem sandbox_reads (secret : BitVec 64) {virtualAddress : Address} {context : Sv39Context}
    (hroot : (context.rootPpn &&& kPpnMask) <<< 12 = sandboxRoot) {pteAddress : Address}
    (hmem : pteAddress ∈ pteReads virtualAddress context (sandboxBus secret)) :
    pteAddress = sandboxRoot := by
  unfold pteReads at hmem
  split_ifs at hmem
  · cases hmem
  · cases hmem
  · rw [hroot, pteReadsFrom] at hmem
    split_ifs at hmem
    · cases hmem
    · cases hread : ((sandboxBus secret).read
          (sandboxRoot + virtualPageNumber virtualAddress 2 * 8#64) 8 .pageTableWalk).1 with
      | error fault =>
        rw [hread] at hmem
        cases hmem
      | ok pte =>
        obtain ⟨haddress, rfl⟩ := sandbox_entry secret hread
        rw [hread] at hmem
        dsimp only at hmem
        cases hinspect : inspectPte context 2 0xdf#64 with
        | table next => exact absurd hinspect (sandbox_not_table context next)
        | fault reason detail =>
          rw [hinspect] at hmem
          exact (List.mem_singleton.mp hmem).trans haddress
        | leaf =>
          rw [hinspect] at hmem
          exact (List.mem_singleton.mp hmem).trans haddress

theorem sandbox_translates (secret : BitVec 64) {virtualAddress : Address} {context : Sv39Context}
    (hroot : (context.rootPpn &&& kPpnMask) <<< 12 = sandboxRoot) {translation : Sv39Translation}
    (h : (walkSv39 (sandboxBus secret) virtualAddress context).1 = .ok translation) :
    translation.physicalAddress.toNat < 2 ^ 30 := by
  rw [walkSv39_fst] at h
  split_ifs at h
  rw [hroot, walkFrom_succ] at h
  dsimp only at h
  split_ifs at h
  cases hread : ((sandboxBus secret).read
      (sandboxRoot + virtualPageNumber virtualAddress 2 * 8#64) 8 .pageTableWalk).1 with
  | error fault =>
    rw [hread] at h
    cases h
  | ok pte =>
    obtain ⟨-, rfl⟩ := sandbox_entry secret hread
    rw [hread] at h
    dsimp only at h
    cases hinspect : inspectPte context 2 0xdf#64 with
    | table next => exact absurd hinspect (sandbox_not_table context next)
    | fault reason detail =>
      rw [hinspect] at h
      cases h
    | leaf =>
      rw [hinspect] at h
      obtain rfl := Except.ok.inj h
      have hleaf := leafAddress_toNat virtualAddress 2 0xdf#64
      have hpage : ((0xdf#64 >>> 10 &&& kPpnMask) <<< 12).toNat = 0 := by decide
      rw [hpage] at hleaf
      dsimp only
      rw [hleaf]
      omega

theorem sandbox_rootPpn (secret : BitVec 64) :
    ((sandboxCpu secret).rootPpn &&& kPpnMask) <<< 12 = sandboxRoot := by
  change ((kSatpModeSv39 ||| 0x80000#64) &&& StepState.kSatpPpnMask &&& kPpnMask) <<< 12 = _
  decide

theorem sandbox_tablesReadOnly (secret : BitVec 64) : (sandboxCpu secret).TablesReadOnly := by
  rintro p ⟨_, context, hcontext, pteAddress, hmem, hentry⟩ ⟨virtualAddress, translation, hwalk, hp⟩
  have hbus : (sandboxCpu secret).bus = sandboxBus secret := rfl
  have hstore : (((sandboxCpu secret).userContext .store).rootPpn &&& kPpnMask) <<< 12 =
      sandboxRoot := sandbox_rootPpn secret
  have hroot : (context.rootPpn &&& kPpnMask) <<< 12 = sandboxRoot := by
    rw [hcontext]
    exact sandbox_rootPpn secret
  rw [hbus] at hmem hwalk
  have hlow := sandbox_translates secret hstore hwalk
  rw [hp] at hlow
  rw [entryByte, sandbox_reads secret hroot hmem, BitVec.toNat_sub, sandboxRoot,
    BitVec.toNat_ofNat] at hentry
  omega

theorem user_writes_are_isolated_sandbox :
    (steps.state 1 (sandboxCpu 0#64)).csrs.satp = (sandboxCpu 0#64).csrs.satp ∧
      (∀ p, (sandboxCpu 0#64).PageTableByte p →
        (steps.state 1 (sandboxCpu 0#64)).bus.ramByte p = (sandboxCpu 0#64).bus.ramByte p) ∧
      (∀ p, ¬ (sandboxCpu 0#64).UserTranslates .store p →
        (steps.state 1 (sandboxCpu 0#64)).bus.ramByte p = (sandboxCpu 0#64).bus.ramByte p) ∧
      ∀ record ∈ steps.records 1 (sandboxCpu 0#64), (sandboxCpu 0#64).WritesConfined record :=
  user_writes_are_isolated (sandboxCpu 0#64) rfl (sandbox_tablesReadOnly 0#64) 1 (by decide)

end Cpu

end Northstar64
