import Northstar64.Erasure
import Northstar64.Privilege
import Northstar64.Replay
import Northstar64.UserIsolation

namespace Northstar64

theorem ReplayState.memoryAfter_ram {first second : PhysicalMemory} {p : Address}
    (write : Option MemoryWrite) (h : first.ram p = second.ram p) :
    (memoryAfter first write).ram p = (memoryAfter second write).ram p := by
  cases write with
  | none => exact h
  | some write => simp only [memoryAfter, PhysicalMemory.store, h]

namespace Cpu

structure Matching (first second : Cpu) : Prop where
  layout : first.bus.layout = second.bus.layout
  config : first.config = second.config
  registers : first.registers = second.registers
  pc : first.pc = second.pc
  privilege : first.privilege = second.privilege
  csrs : first.csrs = second.csrs

def UserVisible (cpu : Cpu) (p : Address) : Prop :=
  cpu.PageTableByte p ∨ ∃ access, cpu.UserTranslates access p

def AgreeOnVisible (first second : Cpu) : Prop :=
  ∀ p, first.UserVisible p → first.bus.ramByte p = second.bus.ramByte p

structure Twin (first second : Cpu) : Prop where
  erase : first.erase = second.erase
  user : first.privilege = .user
  mode : first.UsesSv39
  readonly : first.TablesReadOnly
  layout : first.bus.layout = second.bus.layout
  visible : AgreeOnVisible first second

theorem isUnaligned_pc {pc : Address} (h : ¬ isMisaligned pc = true) :
    StepState.isUnaligned pc kInstructionBytes.toNat = false := by
  rw [isMisaligned, decide_eq_true_eq, not_not] at h
  simpa [StepState.isUnaligned, kInstructionBytes] using h

theorem SameTranslation.userVisible {cpu other : Cpu} (h : SameTranslation cpu other)
    (p : Address) : other.UserVisible p ↔ cpu.UserVisible p := by
  simp only [UserVisible, h.pageTableByte, h.userTranslates]

theorem step_stays_user (cpu : Cpu) (huser : cpu.privilege = .user)
    (htrap : cpu.step.2.trap = none) : cpu.step.1.privilege = .user := by
  revert htrap
  refine cpu.stepped_cases
    (P := fun s => s.record.trap = none → s.cpu.privilege = .user) ?_ ?_ ?_
  · exact fun _ _ => huser
  · intro s trap _ heffect hnone
    rw [heffect.recorded] at hnone
    cases hnone
  · intro f instruction t _ _ _ hcompletes _
    rcases hcompletes.privilege_cases with ⟨hsame, -⟩ | ⟨-, hbefore, -⟩ | ⟨-, hmachine⟩
    · exact hsame.trans huser
    · exact absurd huser hbefore
    · rw [huser] at hmachine
      cases hmachine

namespace Twin
variable {first second : Cpu} (h : Twin first second) (f : Scratch)
include h

theorem csrs : second.csrs = first.csrs := (congrArg Cpu.csrs h.erase).symm

theorem registers : second.registers = first.registers := (congrArg Cpu.registers h.erase).symm

theorem pc : second.pc = first.pc := (congrArg Cpu.pc h.erase).symm

theorem user_second : second.privilege = .user :=
  (congrArg Cpu.privilege h.erase).symm.trans h.user

theorem sameTranslation : SameTranslation first second :=
  ⟨congrArg CsrFile.satp h.csrs, congrArg CsrFile.mstatus h.csrs, h.layout,
    fun p hp => h.visible p (.inl hp)⟩

theorem prepared : (first.prepared f).erase = (second.prepared f).erase :=
  congrArg (fun cpu => cpu.prepared f) h.erase

theorem raiseTrap (cause : TrapCause) (value : BitVec 64) (detail : Text) :
    ((first.prepared f).raiseTrap cause value detail).erase =
      ((second.prepared f).raiseTrap cause value detail).erase := by
  rw [StepState.raiseTrap_erase, h.prepared, ← StepState.raiseTrap_erase]

theorem walk (address : Address) (access : VirtualAccess) :
    (walkSv39 second.bus address (StepState.walkContext second access)).1 =
      (walkSv39 first.bus address (StepState.walkContext first access)).1 := by
  rw [walkContext_user h.user_second, walkContext_user h.user]
  exact h.sameTranslation.userWalk address access

theorem translate (address : Address) (access : VirtualAccess) :
    (∃ physical, first.physicalAddress address access = some physical ∧
      (first.prepared f).translate address access =
        (some physical, first.prepared (f.setTranslation access ⟨address, physical⟩)) ∧
      (second.prepared f).translate address access =
        (some physical, second.prepared (f.setTranslation access ⟨address, physical⟩))) ∨
    (∃ cause value detail,
      (first.prepared f).translate address access =
        (none, (first.prepared f).raiseTrap cause value detail) ∧
      (second.prepared f).translate address access =
        (none, (second.prepared f).raiseTrap cause value detail)) := by
  have hidentity := usesIdentity_user h.user h.mode
  have hidentity' := usesIdentity_user h.user_second (h.sameTranslation.usesSv39 h.mode)
  simp only [StepState.translate, prepared_usesIdentity, prepared_walkContext, prepared_bus,
    walkSv39_snd, prepared_setBus, h.walk, physicalAddress, hidentity, hidentity',
    Bool.false_eq_true, if_false]
  cases (walkSv39 first.bus address (StepState.walkContext first access)).1 with
  | ok translation =>
    exact .inl ⟨_, rfl, Prod.ext rfl (first.prepared_setTranslation f access _),
      Prod.ext rfl (second.prepared_setTranslation f access _)⟩
  | error fault =>
    right
    dsimp only
    split_ifs <;> exact ⟨_, _, _, rfl, rfl⟩

theorem read {address physical : Address} {access : VirtualAccess} {width : Nat}
    (htranslated : first.physicalAddress address access = some physical)
    (hbytes : ∀ i < width, address.toNat % 8 + i < 8) (kind : AccessKind) :
    (second.bus.read physical width kind).1 = (first.bus.read physical width kind).1 := by
  refine (Bus.read_congr h.layout (fun i hi => h.visible _ (.inr ⟨access, ?_⟩)) kind).symm
  exact userTranslates_byte h.user h.mode htranslated (hbytes i hi)

theorem load (address : Address) {width : Nat} (hwidth : validWidth width = true)
    (signExtendValue : Bool) :
    ((first.prepared f).load address width signExtendValue).1 =
        ((second.prepared f).load address width signExtendValue).1 ∧
      ((first.prepared f).load address width signExtendValue).2.erase =
        ((second.prepared f).load address width signExtendValue).2.erase := by
  unfold StepState.load
  by_cases hunaligned : StepState.isUnaligned address width = true
  · rw [if_pos hunaligned, if_pos hunaligned]
    exact ⟨rfl, h.raiseTrap f _ _ _⟩
  · rw [if_neg hunaligned, if_neg hunaligned]
    rcases h.translate f address .load with
      ⟨physical, hphysical, hfirst, hsecond⟩ | ⟨cause, value, detail, hfirst, hsecond⟩
    · have hread := h.read hphysical
        (fun i hi => aligned_offset hwidth (by simpa using hunaligned) hi) .load
      rw [hfirst, hsecond]
      simp only [prepared_bus, Bus.read_snd, prepared_setBus, hread]
      cases (first.bus.read physical width .load).1 with
      | error fault => exact ⟨rfl, h.raiseTrap _ _ _ _⟩
      | ok value => exact ⟨rfl, h.prepared _⟩
    · rw [hfirst, hsecond]
      exact ⟨rfl, h.raiseTrap f _ _ _⟩

theorem store (address : Address) (width : Nat) (value : BitVec 64) :
    ((first.prepared f).store address width value).1 =
        ((second.prepared f).store address width value).1 ∧
      ((first.prepared f).store address width value).2.erase =
        ((second.prepared f).store address width value).2.erase := by
  unfold StepState.store
  by_cases hunaligned : StepState.isUnaligned address width = true
  · rw [if_pos hunaligned, if_pos hunaligned]
    exact ⟨rfl, h.raiseTrap f _ _ _⟩
  · rw [if_neg hunaligned, if_neg hunaligned]
    dsimp only
    rcases h.translate f address .store with
      ⟨physical, -, hfirst, hsecond⟩ | ⟨cause, value', detail, hfirst, hsecond⟩
    · have hresult := Bus.write_result_congr h.layout physical width
        (value &&& maskForWidth width) .store
      rw [hfirst, hsecond]
      simp only [prepared_bus, ← hresult]
      cases hwrite : (first.bus.write physical width (value &&& maskForWidth width) .store).2 with
      | some fault =>
        rw [hwrite] at hresult
        rw [Bus.write_fault hwrite, Bus.write_fault hresult.symm, prepared_setBus, prepared_setBus]
        exact ⟨rfl, h.raiseTrap _ _ _ _⟩
      | none =>
        refine ⟨rfl, ?_⟩
        exact congrArg (fun s : StepState => { s with record := { s.record with
          memoryWrite := some ⟨address, width, value &&& maskForWidth width, physical⟩ } })
          (h.prepared _)
    · rw [hfirst, hsecond]
      exact ⟨rfl, h.raiseTrap f _ _ _⟩

theorem executeLoad (instruction : DecodedInstruction) {width : Nat}
    (hwidth : validWidth width = true) (signExtendValue : Bool) :
    ((first.prepared f).executeLoad instruction width signExtendValue).erase =
      ((second.prepared f).executeLoad instruction width signExtendValue).erase := by
  unfold StepState.executeLoad
  rw [prepared_registers, prepared_registers, h.registers]
  dsimp only
  obtain ⟨hvalue, hstate⟩ := h.load f
    (addOffset (first.registers.values instruction.rs1) instruction.immediate) hwidth
    signExtendValue
  generalize (first.prepared f).load _ width signExtendValue = loaded at hvalue hstate ⊢
  generalize (second.prepared f).load _ width signExtendValue = loaded' at hvalue hstate ⊢
  obtain ⟨value, s⟩ := loaded
  obtain ⟨value', s'⟩ := loaded'
  obtain rfl : value = value' := hvalue
  cases value with
  | none => exact hstate
  | some value =>
    dsimp only at hstate ⊢
    rw [StepState.complete_erase, StepState.complete_erase, StepState.writeRegister_erase,
      StepState.writeRegister_erase, hstate]

theorem executeStore (instruction : DecodedInstruction) (width : Nat) :
    ((first.prepared f).executeStore instruction width).erase =
      ((second.prepared f).executeStore instruction width).erase := by
  unfold StepState.executeStore
  rw [prepared_registers, prepared_registers, h.registers]
  dsimp only
  obtain ⟨hdone, hstate⟩ := h.store f
    (addOffset (first.registers.values instruction.rs1) instruction.immediate) width
    (first.registers.values instruction.rs2)
  generalize (first.prepared f).store _ width _ = stored at hdone hstate ⊢
  generalize (second.prepared f).store _ width _ = stored' at hdone hstate ⊢
  obtain ⟨done, s⟩ := stored
  obtain ⟨done', s'⟩ := stored'
  obtain rfl : done = done' := hdone
  cases done with
  | false => exact hstate
  | true =>
    dsimp only at hstate ⊢
    rw [StepState.complete_erase, StepState.complete_erase, hstate]

theorem execute (instruction : DecodedInstruction) :
    ((first.prepared f).execute instruction).erase =
      ((second.prepared f).execute instruction).erase := by
  let g : Scratch := { f with pc := first.pc + kInstructionBytes }
  cases hmemory : StepState.accessesMemory instruction.operation with
  | false =>
    rw [StepState.execute_erase _ hmemory, h.prepared, ← StepState.execute_erase _ hmemory]
  | true =>
    cases hoperation : instruction.operation
    all_goals
      simp only [StepState.execute, hoperation, prepared_record_pc, prepared_setPc, h.pc]
    case lb | lh | lw | ld | lbu | lhu | lwu => exact h.executeLoad g instruction rfl _
    case sb | sh | sw | sd => exact h.executeStore g instruction _
    all_goals
      rw [hoperation] at hmemory
      cases hmemory

theorem decodeAndExecute (word : BitVec 32) :
    ((first.prepared f).decodeAndExecute word).erase =
      ((second.prepared f).decodeAndExecute word).erase := by
  unfold StepState.decodeAndExecute
  cases decode word with
  | error error =>
    dsimp only
    rw [prepared_setAssembly, prepared_setAssembly]
    exact h.raiseTrap _ _ _ _
  | ok instruction =>
    dsimp only
    rw [prepared_setAssembly, prepared_setAssembly, StepState.retire_erase,
      StepState.retire_erase, h.execute]

theorem fetch :
    (∃ word g, first.start.fetch = (some word, first.prepared g) ∧
      second.start.fetch = (some word, second.prepared g)) ∨
    (∃ cause value detail g,
      first.start.fetch = (none, (first.prepared g).raiseTrap cause value detail) ∧
      second.start.fetch = (none, (second.prepared g).raiseTrap cause value detail)) := by
  have hstart : second.start = second.prepared first.initialScratch := by
    rw [start_eq_prepared, initialScratch, initialScratch, h.pc]
  have hinitial : first.initialScratch.pc = first.pc := rfl
  rw [hstart, start_eq_prepared]
  unfold StepState.fetch
  simp only [prepared_pc, hinitial]
  by_cases hmisaligned : isMisaligned first.pc = true
  · simp only [hmisaligned, if_true]
    exact .inr ⟨_, _, _, _, rfl, rfl⟩
  · simp only [hmisaligned, Bool.false_eq_true, if_false]
    rcases h.translate first.initialScratch first.pc .instructionFetch with
      ⟨physical, hphysical, hfirst, hsecond⟩ | ⟨cause, value, detail, hfirst, hsecond⟩
    · have hread := h.read hphysical
        (fun i hi => aligned_offset rfl (isUnaligned_pc hmisaligned) hi) .instructionFetch
      rw [hfirst, hsecond]
      simp only [prepared_bus, Bus.read_snd, prepared_setBus, hread]
      cases (first.bus.read physical kInstructionBytes.toNat .instructionFetch).1 with
      | error fault => exact .inr ⟨_, _, _, _, rfl, rfl⟩
      | ok value =>
        exact .inl ⟨value.setWidth 32, { first.initialScratch.setTranslation .instructionFetch
          ⟨first.pc, physical⟩ with instruction := value.setWidth 32 }, rfl, rfl⟩
    · rw [hfirst, hsecond]
      exact .inr ⟨_, _, _, _, rfl, rfl⟩

theorem stepped : first.stepped.erase = second.stepped.erase := by
  have hhalted : second.halted = first.halted := (congrArg Cpu.halted h.erase).symm
  cases hrunning : first.halted with
  | true =>
    rw [first.stepped_halted hrunning, second.stepped_halted (hhalted.trans hrunning)]
    exact congrArg (fun cpu => StepState.mk cpu.numbered cpu.openRecord) h.erase
  | false =>
    unfold Cpu.stepped Cpu.step
    rw [hhalted, hrunning, if_neg Bool.false_ne_true, if_neg Bool.false_ne_true]
    rcases h.fetch with ⟨word, g, hfirst, hsecond⟩ | ⟨cause, value, detail, g, hfirst, hsecond⟩
    · rw [hfirst, hsecond]
      exact h.decodeAndExecute g word
    · rw [hfirst, hsecond]
      exact h.raiseTrap g _ _ _

theorem record : second.step.2 = first.step.2 := (congrArg StepState.record h.stepped).symm

theorem next_erase : first.step.1.erase = second.step.1.erase := congrArg StepState.cpu h.stepped

theorem next (htrap : first.step.2.trap = none) : Twin first.step.1 second.step.1 := by
  have huser := first.step_stays_user h.user htrap
  have hsame : SameTranslation first first.step.1 :=
    (step_confined first (.refl first) h.readonly h.mode h.user).1.sameTranslation h.readonly huser
  refine ⟨h.next_erase, huser, hsame.usesSv39 h.mode, ?_, ?_, ?_⟩
  · intro p htable
    rw [hsame.userTranslates]
    exact h.readonly p ((hsame.pageTableByte p).mp htable)
  · exact first.step_recorded.layout.trans (h.layout.trans second.step_recorded.layout.symm)
  · intro p hvisible
    have hmemory : first.step.1.bus.view =
        ReplayState.memoryAfter first.bus.view first.step.2.memoryWrite :=
      first.stepped_replays.memory
    have hmemory' : second.step.1.bus.view =
        ReplayState.memoryAfter second.bus.view second.step.2.memoryWrite :=
      second.stepped_replays.memory
    rw [h.record] at hmemory'
    change first.step.1.bus.view.ram p = second.step.1.bus.view.ram p
    rw [hmemory, hmemory']
    exact ReplayState.memoryAfter_ram _ (h.visible p ((hsame.userVisible p).mp hvisible))

end Twin

def throughTrap : List StepRecord → List StepRecord
  | [] => []
  | record :: records => if record.trap.isSome then [record] else record :: throughTrap records

theorem Twin.records (n : Nat) {first second : Cpu} (h : Twin first second) :
    throughTrap (steps.records n first) = throughTrap (steps.records n second) := by
  induction n generalizing first second with
  | zero => rfl
  | succ n ih =>
    rw [steps.records_succ rfl, steps.records_succ rfl]
    change throughTrap (first.step.2 :: steps.records n first.step.1) =
      throughTrap (second.step.2 :: steps.records n second.step.1)
    rw [h.record, throughTrap, throughTrap]
    cases htrap : first.step.2.trap with
    | some trap => rfl
    | none => rw [ih (h.next htrap)]

theorem user_runs_are_confidential (first second : Cpu) (hmatching : Matching first second)
    (hsequence : first.sequence = second.sequence) (hhalted : first.halted = second.halted)
    (huser : first.privilege = .user) (hmode : first.UsesSv39)
    (hreadonly : first.TablesReadOnly) (hagree : AgreeOnVisible first second) (n : Nat) :
    throughTrap (steps.records n first) = throughTrap (steps.records n second) := by
  have herase : first.erase = second.erase :=
    Cpu.ext rfl hmatching.config hmatching.registers hmatching.pc hmatching.privilege
      hmatching.csrs hsequence hhalted rfl rfl
  exact Twin.records n ⟨herase, huser, hmode, hreadonly, hmatching.layout, hagree⟩

theorem sandboxSecret_mapped (secret : BitVec 64) :
    (Device.sparseRam (sandboxSecret.write 0#64 8 secret).1).mapped =
      sandboxSecret.toMappedDevice := by
  rw [SparseRam.write_eq_writeLoop (show sandboxSecret.exceeds 0#64 8 = false by decide)]
  exact SparseRam.writeLoop_mapped _ _ _ _

theorem sandbox_layout (first second : BitVec 64) :
    (sandboxBus first).layout = (sandboxBus second).layout := by
  simp only [Bus.layout, sandboxBus, sandboxDevices, List.map_cons, List.map_nil, Device.shape,
    sandboxSecret_mapped, Device.acceptsImage]

theorem sandbox_ramByte (first second : BitVec 64) {p : Address} (hp : p.toNat < 0x90000000) :
    (sandboxBus first).ramByte p = (sandboxBus second).ramByte p := by
  have hsecret (secret : BitVec 64) :
      (Device.sparseRam (sandboxSecret.write 0#64 8 secret).1).contains p 1 = false := by
    rw [Device.contains, sandboxSecret_mapped, Bool.eq_false_iff, ne_eq, MappedDevice.contains_iff]
    simp [sandboxSecret, SparseRam.unwritten, hp]
  simp only [Bus.ramByte, Bus.find, sandboxBus, sandboxDevices, List.find?_cons, hsecret]

theorem sandbox_agreeOnVisible (first second : BitVec 64) :
    AgreeOnVisible (sandboxCpu first) (sandboxCpu second) := by
  rintro p (⟨virtualAddress, context, hcontext, pteAddress, hmem, hentry⟩ |
    ⟨access, virtualAddress, translation, hwalk, rfl⟩)
  · have hroot : (context.rootPpn &&& kPpnMask) <<< 12 = sandboxRoot := by
      rw [hcontext]
      exact sandbox_rootPpn first
    have haddress : pteAddress = sandboxRoot := sandbox_reads first hroot hmem
    rw [entryByte, haddress, BitVec.toNat_sub, sandboxRoot, BitVec.toNat_ofNat] at hentry
    exact sandbox_ramByte first second (by omega)
  · have hroot : (((sandboxCpu first).userContext access).rootPpn &&& kPpnMask) <<< 12 =
        sandboxRoot := sandbox_rootPpn first
    have hlow := sandbox_translates first hroot hwalk
    exact sandbox_ramByte first second (by omega)

theorem sandbox_matching (first second : BitVec 64) :
    Matching (sandboxCpu first) (sandboxCpu second) := by
  refine ⟨sandbox_layout first second, ?_, ?_, ?_, ?_, ?_⟩ <;> simp only [sandboxCpu, reset]

theorem user_runs_are_confidential_sandbox :
    throughTrap (steps.records 3 (sandboxCpu 1#64)) =
      throughTrap (steps.records 3 (sandboxCpu 2#64)) :=
  user_runs_are_confidential (sandboxCpu 1#64) (sandboxCpu 2#64)
    (sandbox_matching 1#64 2#64) (by simp only [sandboxCpu, reset])
    (by simp only [sandboxCpu, reset]) rfl rfl (sandbox_tablesReadOnly 1#64)
    (sandbox_agreeOnVisible 1#64 2#64) 3

structure ToldApart (first second : Cpu) : Prop where
  matching : Matching first second
  user : first.privilege = .user
  mode : first.UsesSv39
  readonly : first.TablesReadOnly
  visible : AgreeOnVisible first second
  differ : throughTrap (steps.records 1 first) ≠ throughTrap (steps.records 1 second)

theorem user_records_show_sequence_and_halt :
    ToldApart (sandboxCpu 0#64) { sandboxCpu 0#64 with sequence := 1#64 } ∧
      ToldApart (sandboxCpu 0#64) { sandboxCpu 0#64 with halted := true } := by
  refine ⟨⟨⟨rfl, rfl, rfl, rfl, rfl, rfl⟩, rfl, rfl, sandbox_tablesReadOnly 0#64,
    fun _ _ => rfl, ?_⟩, ⟨⟨rfl, rfl, rfl, rfl, rfl, rfl⟩, rfl, rfl, sandbox_tablesReadOnly 0#64,
    fun _ _ => rfl, ?_⟩⟩
  · decide
  · decide

end Cpu

end Northstar64
