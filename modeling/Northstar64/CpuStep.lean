import Northstar64.Cpu
import Northstar64.Sv39Walk

namespace Northstar64

structure Scratch where
  pc : Address
  instruction : BitVec 32
  assembly : Text
  instructionTranslation : Option AddressTranslation
  dataTranslation : Option AddressTranslation

namespace Scratch

def setTranslation (f : Scratch) (access : VirtualAccess) (translation : AddressTranslation) :
    Scratch :=
  match access with
  | .instructionFetch => { f with instructionTranslation := some translation }
  | _ => { f with dataTranslation := some translation }

end Scratch

namespace Cpu

def initialScratch (cpu : Cpu) : Scratch := ⟨cpu.pc, 0#32, [], none, none⟩

def prepared (cpu : Cpu) (f : Scratch) : StepState where
  cpu := { cpu.numbered.ticked with pc := f.pc }
  record := { cpu.openRecord with
    instruction := f.instruction
    assembly := f.assembly
    instructionTranslation := f.instructionTranslation
    dataTranslation := f.dataTranslation }

def physicalAddress (cpu : Cpu) (address : Address) (access : VirtualAccess) : Option Address :=
  if StepState.usesIdentity cpu then some address
  else
    match (walkSv39 cpu.bus address (StepState.walkContext cpu access)).1 with
    | .error _ => none
    | .ok translation => some translation.physicalAddress

def fetchedWord (cpu : Cpu) : Option (BitVec 32) := cpu.start.fetch.1

theorem start_eq_prepared (cpu : Cpu) : cpu.start = cpu.prepared cpu.initialScratch := rfl

variable (cpu : Cpu) (f : Scratch)

@[simp] theorem prepared_setPc (pc : Address) :
    (cpu.prepared f).setPc pc = cpu.prepared { f with pc := pc } := rfl

@[simp] theorem prepared_setBus : (cpu.prepared f).setBus cpu.bus = cpu.prepared f := rfl

@[simp] theorem prepared_setInstruction (word : BitVec 32) :
    (cpu.prepared f).setInstruction word = cpu.prepared { f with instruction := word } := rfl

@[simp] theorem prepared_setAssembly (assembly : Text) :
    (cpu.prepared f).setAssembly assembly = cpu.prepared { f with assembly := assembly } := rfl

@[simp] theorem prepared_setTranslation (access : VirtualAccess)
    (translation : AddressTranslation) :
    (cpu.prepared f).setTranslation access translation =
      cpu.prepared (f.setTranslation access translation) := by
  cases access <;> rfl

@[simp] theorem setTranslation_pc (access : VirtualAccess) (translation : AddressTranslation) :
    (f.setTranslation access translation).pc = f.pc := by
  cases access <;> rfl

@[simp] theorem setTranslation_instruction (access : VirtualAccess)
    (translation : AddressTranslation) :
    (f.setTranslation access translation).instruction = f.instruction := by
  cases access <;> rfl

@[simp] theorem prepared_bus : (cpu.prepared f).cpu.bus = cpu.bus := rfl

@[simp] theorem prepared_pc : (cpu.prepared f).cpu.pc = f.pc := rfl

@[simp] theorem prepared_config : (cpu.prepared f).cpu.config = cpu.config := rfl

@[simp] theorem prepared_registers : (cpu.prepared f).cpu.registers = cpu.registers := rfl

@[simp] theorem prepared_privilege : (cpu.prepared f).cpu.privilege = cpu.privilege := rfl

@[simp] theorem prepared_csrs : (cpu.prepared f).cpu.csrs = cpu.csrs.tickCycle := rfl

@[simp] theorem prepared_csrOperand (instruction : DecodedInstruction) :
    (cpu.prepared f).csrOperand instruction = cpu.start.csrOperand instruction := rfl

@[simp] theorem prepared_record_pc : (cpu.prepared f).record.pc = cpu.pc := rfl

theorem prepared_usesIdentity :
    StepState.usesIdentity (cpu.prepared f).cpu = StepState.usesIdentity cpu := rfl

theorem prepared_walkContext (access : VirtualAccess) :
    StepState.walkContext (cpu.prepared f).cpu access = StepState.walkContext cpu access := rfl

theorem translate_prepared (address : Address) (access : VirtualAccess) :
    (∃ physical, cpu.physicalAddress address access = some physical ∧
      (cpu.prepared f).translate address access =
        (some physical, cpu.prepared (f.setTranslation access ⟨address, physical⟩))) ∨
    (∃ cause value detail, cpu.physicalAddress address access = none ∧
      (cpu.prepared f).translate address access =
        (none, (cpu.prepared f).raiseTrap cause value detail)) := by
  simp only [StepState.translate, prepared_usesIdentity, prepared_walkContext, physicalAddress,
    prepared_bus, walkSv39_snd, prepared_setBus]
  split_ifs with hidentity
  · exact .inl ⟨address, rfl, by rw [prepared_setTranslation]⟩
  · cases (walkSv39 cpu.bus address (StepState.walkContext cpu access)).1 with
    | ok translation =>
      exact .inl ⟨_, rfl, Prod.ext rfl (cpu.prepared_setTranslation f access _)⟩
    | error fault =>
      right
      dsimp only
      split_ifs <;> exact ⟨_, _, _, rfl, rfl⟩

theorem load_prepared (address : Address) (width : Nat) (signExtendValue : Bool) :
    (∃ value g, g.pc = f.pc ∧ g.instruction = f.instruction ∧
      (cpu.prepared f).load address width signExtendValue = (some value, cpu.prepared g)) ∨
    (∃ cause value detail g,
      (cpu.prepared f).load address width signExtendValue =
        (none, (cpu.prepared g).raiseTrap cause value detail)) := by
  unfold StepState.load
  by_cases hunaligned : StepState.isUnaligned address width = true
  · rw [if_pos hunaligned]
    exact .inr ⟨_, _, _, _, rfl⟩
  · rw [if_neg hunaligned]
    rcases cpu.translate_prepared f address .load with
      ⟨physical, -, htranslate⟩ | ⟨cause, value, detail, -, htranslate⟩
    · rw [htranslate]
      simp only [prepared_bus, Bus.read_snd, prepared_setBus]
      cases (cpu.bus.read physical width .load).1 with
      | error fault => exact .inr ⟨_, _, _, _, rfl⟩
      | ok value => exact .inl ⟨_, _, by simp, by simp, rfl⟩
    · rw [htranslate]
      exact .inr ⟨_, _, _, _, rfl⟩

structure StoreEffect (address : Address) (width : Nat) (write : MemoryWrite) (bus : Bus) :
    Prop where
  aligned : StepState.isUnaligned address width = false
  translated : cpu.physicalAddress address .store = some write.physicalAddress
  written : cpu.bus.write write.physicalAddress width write.value .store = (bus, none)
  address_eq : write.address = address
  width_eq : write.width = width

theorem store_prepared (address : Address) (width : Nat) (value : BitVec 64) :
    (∃ write bus g, cpu.StoreEffect address width write bus ∧ g.pc = f.pc ∧
      g.instruction = f.instruction ∧
      (cpu.prepared f).store address width value =
        (true, { (cpu.prepared g).setBus bus with
          record := { (cpu.prepared g).record with memoryWrite := some write } })) ∨
    (∃ cause value' detail g,
      (cpu.prepared f).store address width value =
        (false, (cpu.prepared g).raiseTrap cause value' detail)) := by
  unfold StepState.store
  by_cases hunaligned : StepState.isUnaligned address width = true
  · rw [if_pos hunaligned]
    exact .inr ⟨_, _, _, _, rfl⟩
  · rw [if_neg hunaligned]
    dsimp only
    rcases cpu.translate_prepared f address .store with
      ⟨physical, hphysical, htranslate⟩ | ⟨cause, value', detail, -, htranslate⟩
    · rw [htranslate]
      simp only [prepared_bus]
      cases hwrite : (cpu.bus.write physical width (value &&& maskForWidth width) .store).2 with
      | some fault =>
        rw [Bus.write_fault hwrite, prepared_setBus]
        exact .inr ⟨_, _, _, _, rfl⟩
      | none =>
        refine .inl ⟨⟨address, width, value &&& maskForWidth width, physical⟩, _, _,
          ⟨by simpa using hunaligned, hphysical, Prod.ext rfl hwrite, rfl, rfl⟩, ?_, ?_, rfl⟩
        · simp
        · simp
    · rw [htranslate]
      exact .inr ⟨_, _, _, _, rfl⟩

def csrOperation : Operation → Bool
  | .csrrw | .csrrs | .csrrc | .csrrwi | .csrrsi | .csrrci => true
  | _ => false

def changesCsrs (operation : Operation) : Bool :=
  csrOperation operation || operation = .sret || operation = .mret

inductive Completes (f : Scratch) (instruction : DecodedInstruction) : StepState → Prop where
  | advance (index : RegisterIndex) (value : BitVec 64)
      (target : isMisaligned f.pc = false ∨ f.pc = cpu.pc + kInstructionBytes)
      (other : changesCsrs instruction.operation = false) :
      Completes f instruction ((cpu.prepared f).writeRegister index value)
  | store (address : Address) (width : Nat) (write : MemoryWrite) (bus : Bus)
      (target : f.pc = cpu.pc + kInstructionBytes)
      (other : changesCsrs instruction.operation = false)
      (effect : cpu.StoreEffect address width write bus) :
      Completes f instruction { (cpu.prepared f).setBus bus with
        record := { (cpu.prepared f).record with memoryWrite := some write } }
  | csrRead (oldValue : BitVec 64) (target : f.pc = cpu.pc + kInstructionBytes)
      (operation : csrOperation instruction.operation = true)
      (read : cpu.csrs.tickCycle.read instruction.csr cpu.privilege = .ok oldValue)
      (skipped : StepState.csrShouldWrite instruction.operation
        (cpu.start.csrOperand instruction) = false) :
      Completes f instruction ((cpu.prepared f).writeRegister instruction.rd oldValue)
  | csrWrite (oldValue : BitVec 64) (csrs : CsrFile) (target : f.pc = cpu.pc + kInstructionBytes)
      (operation : csrOperation instruction.operation = true)
      (read : cpu.csrs.tickCycle.read instruction.csr cpu.privilege = .ok oldValue)
      (performed : StepState.csrShouldWrite instruction.operation
        (cpu.start.csrOperand instruction) = true)
      (written : cpu.csrs.tickCycle.write instruction.csr
        (StepState.csrNewValue instruction.operation oldValue (cpu.start.csrOperand instruction))
        cpu.privilege = .ok csrs) :
      Completes f instruction
        (((cpu.prepared f).setCsrs csrs).writeRegister instruction.rd oldValue)
  | sret (operation : instruction.operation = .sret) (permitted : cpu.privilege ≠ .user) :
      Completes f instruction ((cpu.prepared f).applyReturn .supervisor)
  | mret (operation : instruction.operation = .mret) (permitted : cpu.privilege = .machine) :
      Completes f instruction ((cpu.prepared f).applyReturn .machine)
  | wfi (target : f.pc = cpu.pc + kInstructionBytes) (operation : instruction.operation = .wfi)
      (configured : cpu.config.haltOnWfi = true) :
      Completes f instruction (cpu.prepared f).haltAtWfi

inductive Outcome : StepState → Prop where
  | trap (f : Scratch) (cause : TrapCause) (value : BitVec 64) (detail : Text) :
      Outcome ((cpu.prepared f).raiseTrap cause value detail)
  | breakpoint (f : Scratch) (detail : Text) (halting : cpu.config.haltOnEbreak = true)
      (policy : cpu.config.trapPolicy = .vector) :
      Outcome ((cpu.prepared f).raiseTrap .breakpoint 0#64 detail).haltAtBreakpoint
  | retired (f : Scratch) (instruction : DecodedInstruction) (s : StepState)
      (fetched : cpu.fetchedWord = some f.instruction)
      (decoded : decode f.instruction = .ok instruction)
      (completes : cpu.Completes f instruction s) : Outcome s.complete.retire

theorem retire_raiseTrap (s : StepState) (cause : TrapCause) (value : BitVec 64) (detail : Text) :
    (s.raiseTrap cause value detail).retire = s.raiseTrap cause value detail := by
  simp [StepState.retire, StepState.raiseTrap]

theorem retire_haltAtBreakpoint (s : StepState) (cause : TrapCause) (value : BitVec 64)
    (detail : Text) :
    (s.raiseTrap cause value detail).haltAtBreakpoint.retire =
      (s.raiseTrap cause value detail).haltAtBreakpoint := by
  simp [StepState.retire, StepState.raiseTrap, StepState.haltAtBreakpoint]

theorem complete_raiseTrap (s : StepState) (cause : TrapCause) (value : BitVec 64)
    (detail : Text) :
    (s.raiseTrap cause value detail).complete = s.raiseTrap cause value detail := by
  simp [StepState.complete, StepState.raiseTrap]

@[simp] theorem raiseTrap_config (s : StepState) (cause : TrapCause) (value : BitVec 64)
    (detail : Text) : (s.raiseTrap cause value detail).cpu.config = s.cpu.config := by
  simp only [StepState.raiseTrap]
  split_ifs <;> rfl

theorem outcome_trap (cause : TrapCause) (value : BitVec 64) (detail : Text) :
    cpu.Outcome ((cpu.prepared f).raiseTrap cause value detail).retire := by
  rw [retire_raiseTrap]
  exact .trap f cause value detail

theorem outcome_ebreak : cpu.Outcome (cpu.prepared f).executeEbreak.retire := by
  unfold StepState.executeEbreak
  dsimp only
  split_ifs with hhalting
  · rw [retire_haltAtBreakpoint]
    have hconfig : cpu.config.haltOnEbreak = true ∧ cpu.config.trapPolicy = .vector := by
      simpa using hhalting
    exact .breakpoint f _ hconfig.1 hconfig.2
  · exact cpu.outcome_trap f _ _ _

theorem outcome_ecall : cpu.Outcome (cpu.prepared f).executeEcall.retire := by
  unfold StepState.executeEcall
  rw [prepared_privilege]
  cases cpu.privilege <;> exact cpu.outcome_trap f _ _ _

section Execute
variable {cpu f} {instruction : DecodedInstruction}
  (hfetch : cpu.fetchedWord = some f.instruction) (hdecode : decode f.instruction = .ok instruction)
include hfetch hdecode

theorem outcome_advance (index : RegisterIndex) (value : BitVec 64)
    (htarget : isMisaligned f.pc = false ∨ f.pc = cpu.pc + kInstructionBytes)
    (hother : changesCsrs instruction.operation = false) :
    cpu.Outcome ((cpu.prepared f).writeRegister index value).complete.retire :=
  .retired f instruction _ hfetch hdecode (.advance index value htarget hother)

theorem outcome_complete
    (htarget : isMisaligned f.pc = false ∨ f.pc = cpu.pc + kInstructionBytes)
    (hother : changesCsrs instruction.operation = false) :
    cpu.Outcome (cpu.prepared f).complete.retire :=
  outcome_advance hfetch hdecode 0#5 0#64 htarget hother

theorem outcome_jump (hother : changesCsrs instruction.operation = false) (target : Address) :
    cpu.Outcome ((cpu.prepared f).jump instruction target).retire := by
  unfold StepState.jump
  by_cases hmisaligned : isMisaligned target = true
  · rw [if_pos hmisaligned]
    exact cpu.outcome_trap f _ _ _
  · rw [if_neg hmisaligned]
    have hset : ((cpu.prepared f).writeRegister instruction.rd (cpu.pc + kInstructionBytes)).setPc
        target = (cpu.prepared { f with pc := target }).writeRegister instruction.rd
          (cpu.pc + kInstructionBytes) := by
      unfold StepState.writeRegister
      split_ifs <;> rfl
    rw [prepared_record_pc, hset]
    exact outcome_advance (f := { f with pc := target }) hfetch hdecode _ _
      (.inl (by simpa using hmisaligned)) hother

theorem outcome_branch (hpc : f.pc = cpu.pc + kInstructionBytes)
    (hother : changesCsrs instruction.operation = false) (taken : Bool) :
    cpu.Outcome ((cpu.prepared f).branch instruction taken).complete.retire := by
  unfold StepState.branch
  cases taken with
  | false => exact outcome_complete hfetch hdecode (.inr hpc) hother
  | true =>
    simp only [Bool.not_true, Bool.false_eq_true, if_false]
    by_cases hmisaligned :
        isMisaligned (addOffset (cpu.prepared f).record.pc instruction.immediate) = true
    · rw [if_pos hmisaligned, complete_raiseTrap]
      exact cpu.outcome_trap f _ _ _
    · rw [if_neg hmisaligned]
      exact outcome_complete (f := { f with pc := _ }) hfetch hdecode
        (.inl (Bool.eq_false_iff.mpr hmisaligned)) hother

theorem outcome_load (hpc : f.pc = cpu.pc + kInstructionBytes)
    (hother : changesCsrs instruction.operation = false) (width : Nat) (signExtendValue : Bool) :
    cpu.Outcome ((cpu.prepared f).executeLoad instruction width signExtendValue).retire := by
  unfold StepState.executeLoad
  dsimp only
  rcases cpu.load_prepared f
      (addOffset (cpu.registers.values instruction.rs1) instruction.immediate) width
      signExtendValue with ⟨value, g, hg, hword, hload⟩ | ⟨cause, value, detail, g, hload⟩
  · rw [prepared_registers, hload]
    rw [← hword] at hfetch hdecode
    exact outcome_advance hfetch hdecode _ _ (.inr (hg.trans hpc)) hother
  · rw [prepared_registers, hload]
    exact cpu.outcome_trap g _ _ _

theorem outcome_store (hpc : f.pc = cpu.pc + kInstructionBytes)
    (hother : changesCsrs instruction.operation = false) (width : Nat) :
    cpu.Outcome ((cpu.prepared f).executeStore instruction width).retire := by
  unfold StepState.executeStore
  dsimp only
  rcases cpu.store_prepared f
      (addOffset (cpu.registers.values instruction.rs1) instruction.immediate) width
      (cpu.registers.values instruction.rs2) with
    ⟨write, bus, g, heffect, hg, hword, hstore⟩ | ⟨cause, value, detail, g, hstore⟩
  · rw [prepared_registers, hstore]
    rw [← hword] at hfetch hdecode
    exact .retired g instruction _ hfetch hdecode (.store _ _ write bus (hg.trans hpc) hother heffect)
  · rw [prepared_registers, hstore]
    exact cpu.outcome_trap g _ _ _

theorem outcome_csr (hpc : f.pc = cpu.pc + kInstructionBytes)
    (hoperation : csrOperation instruction.operation = true) :
    cpu.Outcome ((cpu.prepared f).executeCsr instruction).retire := by
  unfold StepState.executeCsr
  rw [prepared_csrs, prepared_privilege, prepared_csrOperand]
  cases hread : cpu.csrs.tickCycle.read instruction.csr cpu.privilege with
  | error error => exact cpu.outcome_trap f _ _ _
  | ok oldValue =>
    dsimp only
    cases hshould : StepState.csrShouldWrite instruction.operation
        (cpu.start.csrOperand instruction) with
    | false =>
      rw [if_neg (by decide)]
      exact .retired f instruction _ hfetch hdecode (.csrRead oldValue hpc hoperation hread hshould)
    | true =>
      rw [if_pos rfl]
      cases hwrite : cpu.csrs.tickCycle.write instruction.csr
          (StepState.csrNewValue instruction.operation oldValue
            (cpu.start.csrOperand instruction)) cpu.privilege with
      | error error => exact cpu.outcome_trap f _ _ _
      | ok csrs =>
        exact .retired f instruction _ hfetch hdecode
          (.csrWrite oldValue csrs hpc hoperation hread hshould hwrite)

theorem outcome_sret (hoperation : instruction.operation = .sret) :
    cpu.Outcome ((cpu.prepared f).executeSret instruction).retire := by
  unfold StepState.executeSret
  rw [prepared_privilege]
  split_ifs with hprivilege
  · exact cpu.outcome_trap f _ _ _
  · exact .retired f instruction _ hfetch hdecode (.sret hoperation hprivilege)

theorem outcome_mret (hoperation : instruction.operation = .mret) :
    cpu.Outcome ((cpu.prepared f).executeMret instruction).retire := by
  unfold StepState.executeMret
  rw [prepared_privilege]
  split_ifs with hprivilege
  · exact cpu.outcome_trap f _ _ _
  · exact .retired f instruction _ hfetch hdecode (.mret hoperation (not_not.mp hprivilege))

theorem outcome_sfenceVma (hpc : f.pc = cpu.pc + kInstructionBytes)
    (hother : changesCsrs instruction.operation = false) :
    cpu.Outcome ((cpu.prepared f).executeSfenceVma instruction).retire := by
  unfold StepState.executeSfenceVma
  rw [prepared_privilege]
  split_ifs with hprivilege
  · exact cpu.outcome_trap f _ _ _
  · exact outcome_complete hfetch hdecode (.inr hpc) hother

theorem outcome_wfi (hpc : f.pc = cpu.pc + kInstructionBytes)
    (hoperation : instruction.operation = .wfi) :
    cpu.Outcome (cpu.prepared f).executeWfi.retire := by
  unfold StepState.executeWfi
  rw [prepared_config]
  split_ifs with hconfigured
  · exact .retired f instruction _ hfetch hdecode (.wfi hpc hoperation hconfigured)
  · exact outcome_complete hfetch hdecode (.inr hpc) (by rw [hoperation]; rfl)

theorem outcome_execute : cpu.Outcome ((cpu.prepared f).execute instruction).retire := by
  let g : Scratch := { f with pc := cpu.pc + kInstructionBytes }
  have hregister (hother : changesCsrs instruction.operation = false) (value : BitVec 64) :
      cpu.Outcome ((cpu.prepared g).executeRegister instruction value).retire :=
    outcome_advance (f := g) hfetch hdecode _ _ (.inr rfl) hother
  cases hoperation : instruction.operation
  all_goals
    have hkind := congrArg changesCsrs hoperation
    have hcsr := congrArg csrOperation hoperation
    simp only [StepState.execute, hoperation, prepared_record_pc, prepared_setPc]
  case beq | bne | blt | bge | bltu | bgeu =>
    exact outcome_branch (f := g) hfetch hdecode rfl hkind _
  case jal | jalr => exact outcome_jump (f := g) hfetch hdecode hkind _
  case lb | lh | lw | ld | lbu | lhu | lwu =>
    exact outcome_load (f := g) hfetch hdecode rfl hkind _ _
  case sb | sh | sw | sd => exact outcome_store (f := g) hfetch hdecode rfl hkind _
  case fence | fenceI => exact outcome_complete (f := g) hfetch hdecode (.inr rfl) hkind
  case sfenceVma => exact outcome_sfenceVma (f := g) hfetch hdecode rfl hkind
  case ecall => exact cpu.outcome_ecall g
  case ebreak => exact cpu.outcome_ebreak g
  case sret => exact outcome_sret (f := g) hfetch hdecode hoperation
  case mret => exact outcome_mret (f := g) hfetch hdecode hoperation
  case wfi => exact outcome_wfi (f := g) hfetch hdecode rfl hoperation
  case csrrw | csrrs | csrrc | csrrwi | csrrsi | csrrci =>
    exact outcome_csr (f := g) hfetch hdecode rfl hcsr
  all_goals exact hregister hkind _

end Execute

theorem fetch_prepared :
    (∃ g, cpu.fetchedWord = some g.instruction ∧
      cpu.start.fetch = (some g.instruction, cpu.prepared g)) ∨
    (∃ cause value detail g, cpu.fetchedWord = none ∧
      cpu.start.fetch = (none, (cpu.prepared g).raiseTrap cause value detail)) := by
  unfold fetchedWord StepState.fetch
  by_cases hmisaligned : isMisaligned cpu.start.cpu.pc = true
  · rw [if_pos hmisaligned]
    exact .inr ⟨_, _, _, cpu.initialScratch, rfl, rfl⟩
  · rw [if_neg hmisaligned]
    rcases cpu.translate_prepared cpu.initialScratch cpu.pc .instructionFetch with
      ⟨physical, -, htranslate⟩ | ⟨cause, value, detail, -, htranslate⟩
    · have hstart : cpu.start.translate cpu.start.cpu.pc .instructionFetch = _ := htranslate
      rw [hstart]
      simp only [prepared_bus, Bus.read_snd, prepared_setBus]
      cases (cpu.bus.read physical kInstructionBytes.toNat .instructionFetch).1 with
      | error fault => exact .inr ⟨_, _, _, _, rfl, rfl⟩
      | ok value => exact .inl ⟨{ cpu.initialScratch.setTranslation .instructionFetch
          ⟨cpu.pc, physical⟩ with instruction := value.setWidth 32 }, rfl, rfl⟩
    · have hstart : cpu.start.translate cpu.start.cpu.pc .instructionFetch = _ := htranslate
      rw [hstart]
      exact .inr ⟨_, _, _, _, rfl, rfl⟩

theorem outcome_decodeAndExecute (hfetch : cpu.fetchedWord = some f.instruction) :
    cpu.Outcome ((cpu.prepared f).decodeAndExecute f.instruction) := by
  unfold StepState.decodeAndExecute
  cases hdecode : decode f.instruction with
  | error error =>
    dsimp only
    rw [prepared_setAssembly]
    exact .trap _ _ _ _
  | ok instruction =>
    dsimp only
    rw [prepared_setAssembly]
    exact outcome_execute (f := { f with assembly := disassemble instruction }) hfetch hdecode

theorem step_halted (h : cpu.halted = true) : cpu.step = (cpu.numbered, cpu.openRecord) := by
  rw [step, if_pos h]

def stepped (cpu : Cpu) : StepState := ⟨cpu.step.1, cpu.step.2⟩

theorem stepped_halted (h : cpu.halted = true) : cpu.stepped = ⟨cpu.numbered, cpu.openRecord⟩ := by
  rw [stepped, cpu.step_halted h]

theorem step_outcome (h : cpu.halted = false) : cpu.Outcome cpu.stepped := by
  unfold stepped step
  rw [if_neg (by simp [h])]
  rcases cpu.fetch_prepared with ⟨g, hfetch, hstart⟩ | ⟨cause, value, detail, g, -, hstart⟩
  · rw [hstart]
    exact cpu.outcome_decodeAndExecute g hfetch
  · rw [hstart]
    exact .trap g cause value detail

end Cpu

namespace StepState

def finished (s : StepState) : StepState where
  cpu := { s.cpu with csrs := s.cpu.csrs.retireInstruction }
  record := { s.record with
    retired := true
    nextPc := s.cpu.pc
    nextPrivilege := s.cpu.privilege
    halted := s.cpu.halted }

@[simp] theorem finished_config (s : StepState) : s.finished.cpu.config = s.cpu.config := rfl

@[simp] theorem finished_registers (s : StepState) :
    s.finished.cpu.registers = s.cpu.registers := rfl

@[simp] theorem finished_bus (s : StepState) : s.finished.cpu.bus = s.cpu.bus := rfl

@[simp] theorem applyReturn_config (s : StepState) (mode : TrapReturnMode) :
    (s.applyReturn mode).cpu.config = s.cpu.config := rfl

@[simp] theorem applyReturn_registers (s : StepState) (mode : TrapReturnMode) :
    (s.applyReturn mode).cpu.registers = s.cpu.registers := rfl

@[simp] theorem applyReturn_bus (s : StepState) (mode : TrapReturnMode) :
    (s.applyReturn mode).cpu.bus = s.cpu.bus := rfl

@[simp] theorem haltAtWfi_config (s : StepState) : s.haltAtWfi.cpu.config = s.cpu.config := rfl

@[simp] theorem haltAtWfi_registers (s : StepState) :
    s.haltAtWfi.cpu.registers = s.cpu.registers := rfl

@[simp] theorem haltAtWfi_bus (s : StepState) : s.haltAtWfi.cpu.bus = s.cpu.bus := rfl

theorem retire_complete {s : StepState} (h : s.record.trap = none) :
    s.complete.retire = s.finished := by
  simp [complete, retire, h, setCsrs, finished]

theorem writeRegister_cpu (s : StepState) (index : RegisterIndex) (value : BitVec 64) :
    (s.writeRegister index value).cpu =
      { s.cpu with registers := s.cpu.registers.set index value } := by
  unfold writeRegister RegisterFile.set
  split_ifs <;> rfl

theorem writeRegister_record (s : StepState) (index : RegisterIndex) (value : BitVec 64) :
    (s.writeRegister index value).record = { s.record with
      registerWrite := if index = 0#5 then s.record.registerWrite
        else some ⟨index.setWidth 8, value⟩ } := by
  unfold writeRegister
  split_ifs <;> rfl

end StepState

namespace Cpu
variable (cpu : Cpu) {s : StepState}

structure TrapEffect (s : StepState) (trap : Trap) : Prop where
  recorded : s.record.trap = some trap
  pc : trap.pc = cpu.pc
  not_retired : s.record.retired = false
  registerWrite : s.record.registerWrite = none
  memoryWrite : s.record.memoryWrite = none
  registers : s.cpu.registers = cpu.registers
  bus : s.cpu.bus = cpu.bus
  csrs : s.cpu.csrs = (cpu.csrs.tickCycle.enterTrap trap cpu.privilege).1
  privilege : s.cpu.privilege = (cpu.csrs.tickCycle.enterTrap trap cpu.privilege).2.target
  target : (s.cpu.halted = true ∧ s.cpu.pc = cpu.pc) ∨
    (s.cpu.halted = cpu.halted ∧
      s.cpu.pc = (cpu.csrs.tickCycle.enterTrap trap cpu.privilege).2.vector)

theorem trapEffect_raiseTrap (f : Scratch) (cause : TrapCause) (value : BitVec 64)
    (detail : Text) :
    cpu.TrapEffect ((cpu.prepared f).raiseTrap cause value detail) ⟨cause, cpu.pc, value, detail⟩ := by
  unfold StepState.raiseTrap
  dsimp only
  split_ifs
  · exact ⟨rfl, rfl, rfl, rfl, rfl, rfl, rfl, rfl, rfl, .inr ⟨rfl, rfl⟩⟩
  · exact ⟨rfl, rfl, rfl, rfl, rfl, rfl, rfl, rfl, rfl, .inl ⟨rfl, rfl⟩⟩

variable {cpu}

theorem TrapEffect.haltAtBreakpoint {trap : Trap} (h : cpu.TrapEffect s trap)
    (hpc : s.record.pc = cpu.pc) : cpu.TrapEffect s.haltAtBreakpoint trap :=
  ⟨h.recorded, h.pc, h.not_retired, h.registerWrite, h.memoryWrite, h.registers, h.bus, h.csrs,
    h.privilege, .inl ⟨rfl, hpc⟩⟩

theorem Completes.record_eq {f : Scratch} {instruction : DecodedInstruction}
    (h : cpu.Completes f instruction s) : ∃ registerWrite memoryWrite halted,
      s.record = { (cpu.prepared f).record with
        registerWrite := registerWrite, memoryWrite := memoryWrite, halted := halted } := by
  cases h with
  | advance index value => exact ⟨_, _, _, StepState.writeRegister_record _ index value⟩
  | store => exact ⟨_, _, _, rfl⟩
  | csrRead oldValue => exact ⟨_, _, _, StepState.writeRegister_record _ _ oldValue⟩
  | csrWrite oldValue => exact ⟨_, _, _, StepState.writeRegister_record _ _ oldValue⟩
  | sret => exact ⟨_, _, _, rfl⟩
  | mret => exact ⟨_, _, _, rfl⟩
  | wfi => exact ⟨_, _, _, rfl⟩

theorem Completes.trap_eq_none {f : Scratch} {instruction : DecodedInstruction}
    (h : cpu.Completes f instruction s) : s.record.trap = none := by
  obtain ⟨_, _, _, hrecord⟩ := h.record_eq
  rw [hrecord]
  rfl

theorem Completes.instruction_eq {f : Scratch} {instruction : DecodedInstruction}
    (h : cpu.Completes f instruction s) : s.record.instruction = f.instruction := by
  obtain ⟨_, _, _, hrecord⟩ := h.record_eq
  rw [hrecord]
  rfl

theorem Completes.bus_cases {f : Scratch} {instruction : DecodedInstruction}
    (h : cpu.Completes f instruction s) :
    (s.record.memoryWrite = none ∧ s.cpu.bus = cpu.bus) ∨
    ∃ address width write, cpu.StoreEffect address width write s.cpu.bus ∧
      s.record.memoryWrite = some write := by
  cases h with
  | advance index value =>
    rw [StepState.writeRegister_record, StepState.writeRegister_cpu]
    exact .inl ⟨rfl, rfl⟩
  | store address width write bus target other effect =>
    exact .inr ⟨address, width, write, effect, rfl⟩
  | csrRead =>
    rw [StepState.writeRegister_record, StepState.writeRegister_cpu]
    exact .inl ⟨rfl, rfl⟩
  | csrWrite =>
    rw [StepState.writeRegister_record, StepState.writeRegister_cpu]
    exact .inl ⟨rfl, rfl⟩
  | sret => exact .inl ⟨rfl, by simp⟩
  | mret => exact .inl ⟨rfl, by simp⟩
  | wfi => exact .inl ⟨rfl, by simp⟩

def Retires (cpu : Cpu) (s : StepState) : Prop :=
  ∃ f instruction t, cpu.fetchedWord = some f.instruction ∧
    decode f.instruction = .ok instruction ∧ cpu.Completes f instruction t ∧ s = t.finished

theorem Outcome.cases (h : cpu.Outcome s) : (∃ trap, cpu.TrapEffect s trap) ∨ cpu.Retires s := by
  cases h with
  | trap f cause value detail => exact .inl ⟨_, cpu.trapEffect_raiseTrap f cause value detail⟩
  | breakpoint f detail =>
    exact .inl ⟨_, (cpu.trapEffect_raiseTrap f _ _ detail).haltAtBreakpoint rfl⟩
  | retired f instruction t hfetch hdecode hcompletes =>
    exact .inr ⟨f, instruction, t, hfetch, hdecode, hcompletes,
      StepState.retire_complete hcompletes.trap_eq_none⟩

theorem Retires.retired (h : cpu.Retires s) : s.record.retired = true := by
  obtain ⟨f, instruction, t, -, -, -, rfl⟩ := h
  rfl

theorem Retires.trap_eq_none (h : cpu.Retires s) : s.record.trap = none := by
  obtain ⟨f, instruction, t, -, -, hcompletes, rfl⟩ := h
  exact hcompletes.trap_eq_none

theorem stepped_trap (h : cpu.halted = false) {trap : Trap}
    (htrap : cpu.stepped.record.trap = some trap) : cpu.TrapEffect cpu.stepped trap := by
  rcases (cpu.step_outcome h).cases with ⟨trap', heffect⟩ | hretires
  · rw [heffect.recorded] at htrap
    rwa [← Option.some.inj htrap]
  · rw [hretires.trap_eq_none] at htrap
    cases htrap

theorem running_of_trap {trap : Trap} (h : cpu.step.2.trap = some trap) : cpu.halted = false := by
  cases hhalted : cpu.halted with
  | false => rfl
  | true =>
    rw [cpu.step_halted hhalted] at h
    cases h

theorem stepped_cases (cpu : Cpu) {P : StepState → Prop}
    (halted : cpu.halted = true → P ⟨cpu.numbered, cpu.openRecord⟩)
    (trapped : ∀ s trap, cpu.halted = false → cpu.TrapEffect s trap → P s)
    (retired : ∀ f instruction t, cpu.halted = false → cpu.fetchedWord = some f.instruction →
      decode f.instruction = .ok instruction → cpu.Completes f instruction t → P t.finished) :
    P cpu.stepped := by
  cases hhalted : cpu.halted with
  | true =>
    rw [cpu.stepped_halted hhalted]
    exact halted hhalted
  | false =>
    rcases (cpu.step_outcome hhalted).cases with
      ⟨trap, heffect⟩ | ⟨f, instruction, t, hfetch, hdecode, hcompletes, heq⟩
    · exact trapped _ trap hhalted heffect
    · rw [heq]
      exact retired f instruction t hhalted hfetch hdecode hcompletes

structure Recorded (cpu : Cpu) (s : StepState) : Prop where
  sequence : s.record.sequence = cpu.sequence
  pc : s.record.pc = cpu.pc
  privilege : s.record.privilege = cpu.privilege
  nextSequence : s.cpu.sequence = cpu.sequence + 1#64
  nextPc : s.record.nextPc = s.cpu.pc
  nextPrivilege : s.record.nextPrivilege = s.cpu.privilege
  halted : s.record.halted = s.cpu.halted
  config : s.cpu.config = cpu.config
  layout : s.cpu.bus.layout = cpu.bus.layout

theorem recorded_raiseTrap (f : Scratch) (cause : TrapCause) (value : BitVec 64)
    (detail : Text) : cpu.Recorded ((cpu.prepared f).raiseTrap cause value detail) := by
  unfold StepState.raiseTrap
  dsimp only
  split_ifs <;> exact ⟨rfl, rfl, rfl, rfl, rfl, rfl, rfl, rfl, rfl⟩

theorem Recorded.haltAtBreakpoint (h : cpu.Recorded s) : cpu.Recorded s.haltAtBreakpoint :=
  ⟨h.sequence, h.pc, h.privilege, h.nextSequence, rfl, h.nextPrivilege, rfl, h.config, h.layout⟩

theorem Completes.recorded {f : Scratch} {instruction : DecodedInstruction}
    (h : cpu.Completes f instruction s) : cpu.Recorded s.finished := by
  cases h with
  | advance index value =>
    simp only [StepState.finished, StepState.writeRegister_cpu, StepState.writeRegister_record]
    exact ⟨rfl, rfl, rfl, rfl, rfl, rfl, rfl, rfl, rfl⟩
  | store address width write bus target other effect =>
    have hlayout := cpu.bus.write_layout write.physicalAddress width write.value .store
    rw [effect.written] at hlayout
    exact ⟨rfl, rfl, rfl, rfl, rfl, rfl, rfl, rfl, hlayout⟩
  | csrRead oldValue =>
    simp only [StepState.finished, StepState.writeRegister_cpu, StepState.writeRegister_record]
    exact ⟨rfl, rfl, rfl, rfl, rfl, rfl, rfl, rfl, rfl⟩
  | csrWrite oldValue csrs =>
    simp only [StepState.finished, StepState.writeRegister_cpu, StepState.writeRegister_record]
    exact ⟨rfl, rfl, rfl, rfl, rfl, rfl, rfl, rfl, rfl⟩
  | sret => exact ⟨rfl, rfl, rfl, rfl, rfl, rfl, rfl, by simp, by simp⟩
  | mret => exact ⟨rfl, rfl, rfl, rfl, rfl, rfl, rfl, by simp, by simp⟩
  | wfi => exact ⟨rfl, rfl, rfl, rfl, rfl, rfl, rfl, by simp, by simp⟩

theorem Outcome.recorded (h : cpu.Outcome s) : cpu.Recorded s := by
  cases h with
  | trap f cause value detail => exact recorded_raiseTrap f cause value detail
  | breakpoint f detail => exact (recorded_raiseTrap f _ _ detail).haltAtBreakpoint
  | retired f instruction t hfetch hdecode hcompletes =>
    rw [StepState.retire_complete hcompletes.trap_eq_none]
    exact hcompletes.recorded

theorem step_recorded (cpu : Cpu) : cpu.Recorded cpu.stepped := by
  cases hhalted : cpu.halted with
  | true =>
    rw [cpu.stepped_halted hhalted]
    exact ⟨rfl, rfl, rfl, rfl, rfl, rfl, rfl, rfl, rfl⟩
  | false => exact (cpu.step_outcome hhalted).recorded

end Cpu

end Northstar64
