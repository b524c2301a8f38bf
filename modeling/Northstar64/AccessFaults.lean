import Northstar64.TrapStack
import Northstar64.TranslationFrame

namespace Northstar64

structure MemoryAccess where
  kind : VirtualAccess
  address : Address
  width : Nat
  value : BitVec 64

namespace VirtualAccess

def misalignedCause : VirtualAccess → TrapCause
  | .instructionFetch => .instructionAddressMisaligned
  | .load => .loadAddressMisaligned
  | .store => .storeAddressMisaligned

def misalignedCode : VirtualAccess → BitVec 64
  | .instructionFetch => 0#64
  | .load => 4#64
  | .store => 6#64

def accessFaultCode : VirtualAccess → BitVec 64
  | .instructionFetch => 1#64
  | .load => 5#64
  | .store => 7#64

def pageFaultCode : VirtualAccess → BitVec 64
  | .instructionFetch => 12#64
  | .load => 13#64
  | .store => 15#64

theorem misalignedCause_code (access : VirtualAccess) :
    access.misalignedCause.code = access.misalignedCode := by
  cases access <;> rfl

theorem accessFaultCause_code (access : VirtualAccess) :
    (StepState.accessFaultCause access).code = access.accessFaultCode := by
  cases access <;> rfl

theorem pageFaultCause_code (access : VirtualAccess) :
    (StepState.pageFaultCause access).code = access.pageFaultCode := by
  cases access <;> rfl

def misalignedDetail : VirtualAccess → Text
  | .instructionFetch => text "program counter is not four-byte aligned"
  | .load => text "load address is not naturally aligned"
  | .store => text "store address is not naturally aligned"

def walkFaultCause (access : VirtualAccess) (reason : Sv39FaultReason) : TrapCause :=
  if reason = .pageTableAccess then StepState.accessFaultCause access
  else StepState.pageFaultCause access

end VirtualAccess

def Sv39Fault.trapDetail (fault : Sv39Fault) : Text :=
  if fault.reason = .pageTableAccess then
    text "Sv39 page-table access failed at level " ++ signedDecimal fault.level ++ text ": " ++
      fault.detail
  else
    sv39FaultReasonName fault.reason ++ text " at level " ++ signedDecimal fault.level ++
      text ": " ++ fault.detail

namespace Bus

def accessFault (bus : Bus) (access : MemoryAccess) (physical : Address) : Option BusFault :=
  match access.kind with
  | .instructionFetch =>
    match (bus.read physical access.width .instructionFetch).1 with
    | .error fault => some fault
    | .ok _ => none
  | .load =>
    match (bus.read physical access.width .load).1 with
    | .error fault => some fault
    | .ok _ => none
  | .store =>
    (bus.write physical access.width (access.value &&& maskForWidth access.width) .store).2

end Bus

namespace Cpu

inductive Reaches (cpu : Cpu) : MemoryAccess → Prop where
  | fetch (running : cpu.halted = false) :
      Reaches cpu ⟨.instructionFetch, cpu.pc, kInstructionBytes.toNat, 0#64⟩
  | load (running : cpu.halted = false) (word : BitVec 32) (instruction : DecodedInstruction)
      (fetched : cpu.fetchedWord = some word) (decoded : decode word = .ok instruction)
      (width : Nat) (signed : Bool)
      (operation : loadForm instruction.operation = some (width, signed)) :
      Reaches cpu ⟨.load, addOffset
        (cpu.registers.values instruction.rs1) instruction.immediate, width, 0#64⟩
  | store (running : cpu.halted = false) (word : BitVec 32) (instruction : DecodedInstruction)
      (fetched : cpu.fetchedWord = some word) (decoded : decode word = .ok instruction)
      (width : Nat) (operation : storeForm instruction.operation = some width) :
      Reaches cpu ⟨.store, addOffset
        (cpu.registers.values instruction.rs1) instruction.immediate, width,
        cpu.registers.values instruction.rs2⟩

def walk (cpu : Cpu) (access : MemoryAccess) : Sv39Result :=
  (walkSv39 cpu.bus access.address (StepState.walkContext cpu access.kind)).1

variable (cpu : Cpu) (f : Scratch)

theorem translate_prepared_sv39 (hmode : StepState.usesIdentity cpu = false)
    (access : MemoryAccess) :
    (cpu.prepared f).translate access.address access.kind =
      match cpu.walk access with
      | .error fault =>
        (none, (cpu.prepared f).raiseTrap (access.kind.walkFaultCause fault.reason) access.address
          fault.trapDetail)
      | .ok translation =>
        (some translation.physicalAddress, cpu.prepared (f.setTranslation access.kind
          ⟨access.address, translation.physicalAddress⟩)) := by
  unfold walk
  simp only [StepState.translate, prepared_usesIdentity, prepared_walkContext, prepared_bus, hmode,
    Bool.false_eq_true, if_false, walkSv39_snd, prepared_setBus]
  cases (walkSv39 cpu.bus access.address (StepState.walkContext cpu access.kind)).1 with
  | ok translation => simp only [prepared_setTranslation]
  | error fault =>
    simp only [VirtualAccess.walkFaultCause, Sv39Fault.trapDetail]
    by_cases hreason : fault.reason = .pageTableAccess
    · simp only [if_pos hreason]
    · simp only [if_neg hreason]

def attempt (access : MemoryAccess) : Except StepState Scratch :=
  if StepState.isUnaligned access.address access.width then
    .error ((cpu.prepared f).raiseTrap access.kind.misalignedCause access.address
      access.kind.misalignedDetail)
  else
    match cpu.walk access with
    | .error fault =>
      .error ((cpu.prepared f).raiseTrap (access.kind.walkFaultCause fault.reason) access.address
        fault.trapDetail)
    | .ok translation =>
      let g := f.setTranslation access.kind ⟨access.address, translation.physicalAddress⟩
      match cpu.bus.accessFault access translation.physicalAddress with
      | some fault =>
        .error ((cpu.prepared g).raiseTrap (StepState.accessFaultCause access.kind) access.address
          fault.detail)
      | none => .ok g

variable {cpu f}

theorem attempt_error_retire {access : MemoryAccess} {s : StepState}
    (h : cpu.attempt f access = .error s) : s.retire = s := by
  unfold attempt at h
  split at h
  · rw [← Except.error.inj h, retire_raiseTrap]
  · split at h
    · rw [← Except.error.inj h, retire_raiseTrap]
    · dsimp only at h
      split at h
      · rw [← Except.error.inj h, retire_raiseTrap]
      · cases h

theorem load_attempt (hmode : StepState.usesIdentity cpu = false) (address : Address) (width : Nat)
    (signed : Bool) :
    match cpu.attempt f ⟨.load, address, width, 0#64⟩ with
    | .error s => (cpu.prepared f).load address width signed = (none, s)
    | .ok g => ∃ value, (cpu.prepared f).load address width signed = (some value, cpu.prepared g) := by
  have htranslate := cpu.translate_prepared_sv39 f hmode ⟨.load, address, width, 0#64⟩
  dsimp only at htranslate
  unfold attempt StepState.load
  dsimp only
  by_cases hunaligned : StepState.isUnaligned address width = true
  · simp only [if_pos hunaligned]
    rfl
  · simp only [if_neg hunaligned, htranslate]
    cases hwalk : cpu.walk ⟨.load, address, width, 0#64⟩ with
    | error fault => rfl
    | ok translation =>
      simp only [Bus.accessFault, prepared_bus, Bus.read_snd, prepared_setBus]
      cases (cpu.bus.read translation.physicalAddress width .load).1 with
      | error fault => rfl
      | ok value => exact ⟨_, rfl⟩

theorem store_attempt (hmode : StepState.usesIdentity cpu = false) (address : Address)
    (width : Nat) (value : BitVec 64) :
    match cpu.attempt f ⟨.store, address, width, value⟩ with
    | .error s => (cpu.prepared f).store address width value = (false, s)
    | .ok g => ∃ bus write, (cpu.prepared f).store address width value =
        (true, { (cpu.prepared g).setBus bus with
          record := { (cpu.prepared g).record with memoryWrite := some write } }) := by
  have htranslate := cpu.translate_prepared_sv39 f hmode ⟨.store, address, width, value⟩
  dsimp only at htranslate
  unfold attempt StepState.store
  dsimp only
  by_cases hunaligned : StepState.isUnaligned address width = true
  · simp only [if_pos hunaligned]
    rfl
  · simp only [if_neg hunaligned, htranslate]
    cases hwalk : cpu.walk ⟨.store, address, width, value⟩ with
    | error fault => rfl
    | ok translation =>
      simp only [Bus.accessFault, prepared_bus]
      cases hwrite : (cpu.bus.write translation.physicalAddress width
          (value &&& maskForWidth width) .store).2 with
      | some fault =>
        simp only [Bus.write_fault hwrite, prepared_setBus]
        rfl
      | none => exact ⟨_, _, rfl⟩

theorem fetch_attempt (hmode : StepState.usesIdentity cpu = false) :
    match cpu.attempt cpu.initialScratch
      ⟨.instructionFetch, cpu.pc, kInstructionBytes.toNat, 0#64⟩ with
    | .error s => cpu.start.fetch = (none, s)
    | .ok g => ∃ word, cpu.start.fetch = (some word, cpu.prepared { g with instruction := word }) := by
  have htranslate := cpu.translate_prepared_sv39 cpu.initialScratch hmode
    ⟨.instructionFetch, cpu.pc, kInstructionBytes.toNat, 0#64⟩
  dsimp only at htranslate
  have haligned : StepState.isUnaligned cpu.pc kInstructionBytes.toNat = isMisaligned cpu.pc := rfl
  rw [start_eq_prepared]
  unfold attempt StepState.fetch
  dsimp only
  rw [haligned]
  have hpc : (cpu.prepared cpu.initialScratch).cpu.pc = cpu.pc := rfl
  simp only [hpc]
  by_cases hunaligned : isMisaligned cpu.pc = true
  · simp only [if_pos hunaligned]
    rfl
  · simp only [if_neg hunaligned, htranslate]
    cases hwalk : cpu.walk ⟨.instructionFetch, cpu.pc, kInstructionBytes.toNat, 0#64⟩ with
    | error fault => rfl
    | ok translation =>
      simp only [Bus.accessFault, prepared_bus, Bus.read_snd, prepared_setBus]
      cases (cpu.bus.read translation.physicalAddress kInstructionBytes.toNat
          .instructionFetch).1 with
      | error fault => rfl
      | ok value => exact ⟨_, rfl⟩

def dataScratch (cpu : Cpu) (instruction : DecodedInstruction) : Scratch where
  pc := cpu.pc + kInstructionBytes
  instruction := cpu.start.fetch.2.record.instruction
  assembly := disassemble instruction
  instructionTranslation := cpu.start.fetch.2.record.instructionTranslation
  dataTranslation := none

theorem fetch_dataTranslation (cpu : Cpu) :
    cpu.start.fetch.2.record.dataTranslation = none := by
  have htranslate : (cpu.start.translate cpu.start.cpu.pc .instructionFetch).2.record.dataTranslation =
      none := by
    unfold StepState.translate
    dsimp only
    split_ifs
    · rfl
    · split
      · split_ifs <;> rfl
      · rfl
  unfold StepState.fetch
  by_cases hmisaligned : isMisaligned cpu.start.cpu.pc = true
  · rw [if_pos hmisaligned]
    rfl
  · rw [if_neg hmisaligned]
    revert htranslate
    generalize cpu.start.translate cpu.start.cpu.pc .instructionFetch = translated
    obtain ⟨_ | physical, t⟩ := translated
    · exact id
    · intro htranslate
      dsimp only
      split <;> exact htranslate

variable {word : BitVec 32} {instruction : DecodedInstruction}

-- `execute` moves the pc before it looks at the operation.
theorem stepped_decoded (running : cpu.halted = false) (fetched : cpu.fetchedWord = some word)
    (decoded : decode word = .ok instruction) :
    cpu.stepped = ((cpu.prepared (cpu.dataScratch instruction)).execute instruction).retire := by
  rcases cpu.fetch_prepared with ⟨g, hfetched, hstart⟩ | ⟨_, _, _, _, hnone, -⟩
  · obtain rfl : g.instruction = word := Option.some.inj (hfetched.symm.trans fetched)
    have hdata := cpu.fetch_dataTranslation
    rw [hstart] at hdata
    have hscratch : cpu.dataScratch instruction =
        { g with
          pc := cpu.pc + kInstructionBytes
          assembly := disassemble instruction } := by
      rw [dataScratch, hstart]
      exact congrArg (Scratch.mk _ _ _ _) hdata.symm
    rw [hscratch]
    unfold stepped step
    rw [if_neg (by simp [running]), hstart]
    dsimp only
    unfold StepState.decodeAndExecute
    rw [decoded]
    rfl
  · rw [hnone] at fetched
    cases fetched

theorem stepped_load (hmode : StepState.usesIdentity cpu = false) (running : cpu.halted = false)
    (fetched : cpu.fetchedWord = some word) (decoded : decode word = .ok instruction) {width : Nat}
    {signed : Bool} (operation : loadForm instruction.operation = some (width, signed)) :
    match cpu.attempt (cpu.dataScratch instruction) ⟨.load, addOffset
      (cpu.registers.values instruction.rs1) instruction.immediate, width, 0#64⟩ with
    | .error s => cpu.stepped = s
    | .ok g => cpu.stepped.record.dataTranslation = g.dataTranslation := by
  have hattempt := load_attempt (f := cpu.dataScratch instruction) hmode
    (addOffset (cpu.registers.values instruction.rs1) instruction.immediate) width signed
  rw [stepped_decoded running fetched decoded, StepState.execute_load _ _ operation]
  have hpc : (cpu.prepared (cpu.dataScratch instruction)).setPc
      ((cpu.prepared (cpu.dataScratch instruction)).record.pc + kInstructionBytes) =
        cpu.prepared (cpu.dataScratch instruction) := rfl
  rw [hpc, StepState.executeLoad]
  dsimp only [prepared_registers]
  revert hattempt
  cases hcase : cpu.attempt (cpu.dataScratch instruction) ⟨.load, addOffset
    (cpu.registers.values instruction.rs1) instruction.immediate, width, 0#64⟩ with
  | error s =>
    intro hload
    dsimp only at hload ⊢
    rw [hload]
    exact attempt_error_retire hcase
  | ok g =>
    rintro ⟨value, hload⟩
    dsimp only
    rw [hload]
    exact (StepState.retire_translationOf _ .load).trans
      ((StepState.complete_translationOf _ .load).trans
        (StepState.writeRegister_translationOf _ _ _ .load))

theorem stepped_store (hmode : StepState.usesIdentity cpu = false) (running : cpu.halted = false)
    (fetched : cpu.fetchedWord = some word) (decoded : decode word = .ok instruction) {width : Nat}
    (operation : storeForm instruction.operation = some width) :
    match cpu.attempt (cpu.dataScratch instruction) ⟨.store, addOffset
      (cpu.registers.values instruction.rs1) instruction.immediate, width,
      cpu.registers.values instruction.rs2⟩ with
    | .error s => cpu.stepped = s
    | .ok g => cpu.stepped.record.dataTranslation = g.dataTranslation := by
  have hattempt := store_attempt (f := cpu.dataScratch instruction) hmode
    (addOffset (cpu.registers.values instruction.rs1) instruction.immediate) width
    (cpu.registers.values instruction.rs2)
  rw [stepped_decoded running fetched decoded, StepState.execute_store _ _ operation]
  have hpc : (cpu.prepared (cpu.dataScratch instruction)).setPc
      ((cpu.prepared (cpu.dataScratch instruction)).record.pc + kInstructionBytes) =
        cpu.prepared (cpu.dataScratch instruction) := rfl
  rw [hpc, StepState.executeStore]
  dsimp only [prepared_registers]
  revert hattempt
  cases hcase : cpu.attempt (cpu.dataScratch instruction) ⟨.store, addOffset
    (cpu.registers.values instruction.rs1) instruction.immediate, width,
    cpu.registers.values instruction.rs2⟩ with
  | error s =>
    intro hstore
    dsimp only at hstore ⊢
    rw [hstore]
    exact attempt_error_retire hcase
  | ok g =>
    rintro ⟨bus, write, hstore⟩
    dsimp only
    rw [hstore]
    exact (StepState.retire_translationOf _ .store).trans
      (StepState.complete_translationOf _ .store)

theorem stepped_fetch (hmode : StepState.usesIdentity cpu = false) (running : cpu.halted = false) :
    match cpu.attempt cpu.initialScratch
      ⟨.instructionFetch, cpu.pc, kInstructionBytes.toNat, 0#64⟩ with
    | .error s => cpu.stepped = s
    | .ok g => cpu.stepped.record.instructionTranslation = g.instructionTranslation := by
  have hattempt := fetch_attempt hmode
  unfold stepped step
  rw [if_neg (by simp [running])]
  revert hattempt
  cases cpu.attempt cpu.initialScratch
    ⟨.instructionFetch, cpu.pc, kInstructionBytes.toNat, 0#64⟩ with
  | error s =>
    intro hfetch
    dsimp only at hfetch ⊢
    rw [hfetch]
  | ok g =>
    rintro ⟨word, hfetch⟩
    dsimp only
    rw [hfetch]
    exact StepState.decodeAndExecute_fetched _ word

structure Faults (cpu : Cpu) (cause : TrapCause) (address : Address) : Prop where
  trap : ∃ detail, cpu.stepped.record.trap = some ⟨cause, cpu.pc, address, detail⟩
  xcause : (cpu.stepped.cpu.csrs.bank (.matching cpu.stepped.cpu.privilege)).cause = cause.code
  xtval : (cpu.stepped.cpu.csrs.bank (.matching cpu.stepped.cpu.privilege)).tval = address

def FaultsWithCode (cpu : Cpu) (code : BitVec 64) (address : Address) : Prop :=
  ∃ cause : TrapCause, cause.code = code ∧ cpu.Faults cause address

def onBus (cpu : Cpu) (bus : Bus) : Cpu := { cpu with bus := bus }

structure SameFetch (first second : Cpu) : Prop where
  word : second.start.fetch.1 = first.start.fetch.1
  record : second.start.fetch.2.record = first.start.fetch.2.record

structure Classified (cpu : Cpu) (access : MemoryAccess) : Prop where
  pageFault : StepState.isUnaligned access.address access.width = false →
    ∀ fault, cpu.walk access = .error fault → fault.reason ≠ .pageTableAccess →
      cpu.FaultsWithCode access.kind.pageFaultCode access.address
  tableAccess : StepState.isUnaligned access.address access.width = false →
    ∀ fault, cpu.walk access = .error fault → fault.reason = .pageTableAccess →
      cpu.FaultsWithCode access.kind.accessFaultCode access.address
  physicalAccess : StepState.isUnaligned access.address access.width = false →
    ∀ translation fault, cpu.walk access = .ok translation →
      cpu.bus.accessFault access translation.physicalAddress = some fault →
      cpu.FaultsWithCode access.kind.accessFaultCode access.address
  translated : StepState.isUnaligned access.address access.width = false →
    cpu.stepped.record.translationOf access.kind =
      match cpu.walk access with
      | .ok translation => some ⟨access.address, translation.physicalAddress⟩
      | .error _ => none
  misaligned : StepState.isUnaligned access.address access.width = true →
    cpu.FaultsWithCode access.kind.misalignedCode access.address ∧
      cpu.stepped.record.translationOf access.kind = none
  unwalked : StepState.isUnaligned access.address access.width = true →
    access.kind ≠ .instructionFetch → ∀ other, SameFetch cpu (cpu.onBus other) →
      (cpu.onBus other).stepped.record = cpu.stepped.record

theorem TrapEffect.faults {trap : Trap} (h : cpu.TrapEffect cpu.stepped trap) :
    cpu.Faults trap.cause trap.value := by
  have hbank := @CsrFile.enterTrap_bank cpu.csrs.tickCycle trap cpu.privilege
  dsimp only at hbank
  rw [← h.csrs, ← h.privilege] at hbank
  refine ⟨⟨trap.detail, ?_⟩, hbank.1, hbank.2⟩
  rw [h.recorded, ← h.pc]

theorem faults_raiseTrap {cause : TrapCause} {address : Address} {detail : Text}
    (h : cpu.stepped = (cpu.prepared f).raiseTrap cause address detail) :
    cpu.Faults cause address := by
  have heffect := cpu.trapEffect_raiseTrap f cause address detail
  rw [← h] at heffect
  exact heffect.faults

theorem attempt_unaligned {access : MemoryAccess}
    (h : StepState.isUnaligned access.address access.width = true) :
    cpu.attempt f access = .error ((cpu.prepared f).raiseTrap access.kind.misalignedCause
      access.address access.kind.misalignedDetail) := by
  rw [attempt, if_pos h]

theorem attempt_walk_error {access : MemoryAccess} {fault : Sv39Fault}
    (h : StepState.isUnaligned access.address access.width = false)
    (hwalk : cpu.walk access = .error fault) :
    cpu.attempt f access = .error ((cpu.prepared f).raiseTrap
      (access.kind.walkFaultCause fault.reason) access.address fault.trapDetail) := by
  rw [attempt, h, hwalk]
  rfl

theorem attempt_physical {access : MemoryAccess} {translation : Sv39Translation}
    (h : StepState.isUnaligned access.address access.width = false)
    (hwalk : cpu.walk access = .ok translation) :
    cpu.attempt f access =
      match cpu.bus.accessFault access translation.physicalAddress with
      | some fault =>
        .error ((cpu.prepared (f.setTranslation access.kind
          ⟨access.address, translation.physicalAddress⟩)).raiseTrap
            (StepState.accessFaultCause access.kind) access.address fault.detail)
      | none => .ok (f.setTranslation access.kind
          ⟨access.address, translation.physicalAddress⟩) := by
  rw [attempt, h, hwalk]
  rfl

def Attempted (cpu : Cpu) (f : Scratch) (access : MemoryAccess) : Prop :=
  match cpu.attempt f access with
  | .error s => cpu.stepped = s
  | .ok g => cpu.stepped.record.translationOf access.kind =
      (cpu.prepared g).record.translationOf access.kind

theorem prepared_translationOf (kind : VirtualAccess) (translation : AddressTranslation) :
    (cpu.prepared (f.setTranslation kind translation)).record.translationOf kind =
      some translation := by
  cases kind <;> rfl

namespace Attempted
variable {access : MemoryAccess}

theorem unaligned (h : cpu.Attempted f access)
    (hunaligned : StepState.isUnaligned access.address access.width = true) :
    cpu.stepped = (cpu.prepared f).raiseTrap access.kind.misalignedCause access.address
      access.kind.misalignedDetail := by
  unfold Attempted at h
  rwa [attempt_unaligned hunaligned] at h

theorem walk_error (h : cpu.Attempted f access)
    (haligned : StepState.isUnaligned access.address access.width = false) {fault : Sv39Fault}
    (hwalk : cpu.walk access = .error fault) :
    cpu.stepped = (cpu.prepared f).raiseTrap (access.kind.walkFaultCause fault.reason)
      access.address fault.trapDetail := by
  unfold Attempted at h
  rwa [attempt_walk_error haligned hwalk] at h

theorem physical_error (h : cpu.Attempted f access)
    (haligned : StepState.isUnaligned access.address access.width = false)
    {translation : Sv39Translation} (hwalk : cpu.walk access = .ok translation) {fault : BusFault}
    (hfault : cpu.bus.accessFault access translation.physicalAddress = some fault) :
    cpu.stepped = (cpu.prepared (f.setTranslation access.kind
      ⟨access.address, translation.physicalAddress⟩)).raiseTrap
        (StepState.accessFaultCause access.kind) access.address fault.detail := by
  unfold Attempted at h
  rwa [attempt_physical haligned hwalk, hfault] at h

theorem translationOf (h : cpu.Attempted f access)
    (hfresh : (cpu.prepared f).record.translationOf access.kind = none)
    (haligned : StepState.isUnaligned access.address access.width = false) :
    cpu.stepped.record.translationOf access.kind =
      match cpu.walk access with
      | .ok translation => some ⟨access.address, translation.physicalAddress⟩
      | .error _ => none := by
  cases hwalk : cpu.walk access with
  | error fault =>
    rw [h.walk_error haligned hwalk, StepState.raiseTrap_translationOf]
    exact hfresh
  | ok translation =>
    cases hfault : cpu.bus.accessFault access translation.physicalAddress with
    | some fault =>
      rw [h.physical_error haligned hwalk hfault, StepState.raiseTrap_translationOf]
      exact prepared_translationOf _ _
    | none =>
      unfold Attempted at h
      rw [attempt_physical haligned hwalk, hfault] at h
      exact h.trans (prepared_translationOf _ _)

theorem classified (h : cpu.Attempted f access)
    (hfresh : (cpu.prepared f).record.translationOf access.kind = none)
    (hunwalked : StepState.isUnaligned access.address access.width = true →
      access.kind ≠ .instructionFetch → ∀ other, SameFetch cpu (cpu.onBus other) →
        (cpu.onBus other).stepped.record = cpu.stepped.record) :
    cpu.Classified access where
  pageFault := by
    intro haligned fault hwalk hreason
    have hstep := h.walk_error haligned hwalk
    rw [VirtualAccess.walkFaultCause, if_neg hreason] at hstep
    exact ⟨_, access.kind.pageFaultCause_code, faults_raiseTrap hstep⟩
  tableAccess := by
    intro haligned fault hwalk hreason
    have hstep := h.walk_error haligned hwalk
    rw [VirtualAccess.walkFaultCause, if_pos hreason] at hstep
    exact ⟨_, access.kind.accessFaultCause_code, faults_raiseTrap hstep⟩
  physicalAccess := by
    intro haligned translation fault hwalk hfault
    exact ⟨_, access.kind.accessFaultCause_code,
      faults_raiseTrap (h.physical_error haligned hwalk hfault)⟩
  translated := h.translationOf hfresh
  misaligned := by
    intro hunaligned
    have hstep := h.unaligned hunaligned
    refine ⟨⟨_, access.kind.misalignedCause_code, faults_raiseTrap hstep⟩, ?_⟩
    rw [hstep, StepState.raiseTrap_translationOf]
    exact hfresh
  unwalked := hunwalked

end Attempted

theorem raiseTrap_onBus (other : Bus) (cause : TrapCause) (value : BitVec 64) (detail : Text) :
    (((cpu.onBus other).prepared f).raiseTrap cause value detail).record =
      ((cpu.prepared f).raiseTrap cause value detail).record := by
  have hconfig : ((cpu.onBus other).prepared f).cpu.config = (cpu.prepared f).cpu.config := rfl
  simp only [StepState.raiseTrap, hconfig]
  by_cases hpolicy : (cpu.prepared f).cpu.config.trapPolicy = .vector
  · simp only [if_pos hpolicy]
    rfl
  · simp only [if_neg hpolicy]
    rfl

theorem dataScratch_onBus {other : Bus} (h : SameFetch cpu (cpu.onBus other)) :
    (cpu.onBus other).dataScratch instruction = cpu.dataScratch instruction := by
  unfold dataScratch
  rw [h.record]
  rfl

theorem unwalked_of_attempted {access : MemoryAccess} {other : Bus}
    (hfetch : SameFetch cpu (cpu.onBus other))
    (hunaligned : StepState.isUnaligned access.address access.width = true)
    (h : cpu.Attempted (cpu.dataScratch instruction) access)
    (hother : (cpu.onBus other).Attempted ((cpu.onBus other).dataScratch instruction) access) :
    (cpu.onBus other).stepped.record = cpu.stepped.record := by
  rw [h.unaligned hunaligned, hother.unaligned hunaligned, dataScratch_onBus hfetch]
  exact raiseTrap_onBus other _ _ _

theorem fetchedWord_onBus {other : Bus} (h : SameFetch cpu (cpu.onBus other))
    (fetched : cpu.fetchedWord = some word) : (cpu.onBus other).fetchedWord = some word :=
  h.word.trans fetched

theorem sv39_faults_classified (cpu : Cpu) (access : MemoryAccess)
    (hprivilege : cpu.privilege ≠ .machine)
    (hmode : cpu.csrs.satp &&& kSatpModeMask = kSatpModeSv39) (h : cpu.Reaches access) :
    cpu.Classified access := by
  have hsv39 : StepState.usesIdentity cpu = false := by
    simp [StepState.usesIdentity, CsrFile.satpValue, hprivilege, hmode]
  cases h with
  | fetch running =>
    refine Attempted.classified (f := cpu.initialScratch) (stepped_fetch hsv39 running) rfl ?_
    exact fun _ hkind => absurd rfl hkind
  | load running word instruction fetched decoded width signed operation =>
    refine Attempted.classified (f := cpu.dataScratch instruction)
      (stepped_load hsv39 running fetched decoded operation) rfl ?_
    intro hunaligned _ other hfetch
    have hmode : StepState.usesIdentity (cpu.onBus other) = false := hsv39
    exact unwalked_of_attempted hfetch hunaligned
      (stepped_load hsv39 running fetched decoded operation)
      (stepped_load hmode running (fetchedWord_onBus hfetch fetched) decoded operation)
  | store running word instruction fetched decoded width operation =>
    refine Attempted.classified (f := cpu.dataScratch instruction)
      (stepped_store hsv39 running fetched decoded operation) rfl ?_
    intro hunaligned _ other hfetch
    have hmode : StepState.usesIdentity (cpu.onBus other) = false := hsv39
    exact unwalked_of_attempted hfetch hunaligned
      (stepped_store hsv39 running fetched decoded operation)
      (stepped_store hmode running (fetchedWord_onBus hfetch fetched) decoded operation)

def offCanonical : Cpu := { reset Bus.empty ⟨.vector, false, false⟩ 0x8000000000000000#64 with
  privilege := .supervisor
  csrs := { CsrFile.reset with satp := 8#64 <<< 60, medeleg := 0x1000#64 } }

def boundaryRam : SparseRam :=
  .unwritten ⟨0x80000000#64, 0x7000#64, text "boundary", by decide, by decide, by decide⟩

-- ld x1, 0(x0) ; sd x1, 0(x2), in a gigapage that reaches past the end of the RAM.
def boundaryBus : Bus where
  devices := [.sparseRam (((boundaryRam.write 0#64 8 0x0011302300003083#64).1).write
    0x1010#64 8 0x200000cf#64).1]
  sorted := List.pairwise_singleton _ _

def boundaryCpu (pc : Address) : Cpu :=
  { reset boundaryBus ⟨.vector, false, false⟩ pc with
    privilege := .supervisor
    registers := RegisterFile.cleared.set 2#5 0x80800000#64
    csrs := { CsrFile.reset with satp := kSatpModeSv39 ||| 0x80001#64 } }

theorem sv39_faults_classified_boundary :
    offCanonical.FaultsWithCode 12#64 0x8000000000000000#64 ∧
    (boundaryCpu 0x80000000#64).FaultsWithCode 13#64 0#64 ∧
    (boundaryCpu 0x80000004#64).FaultsWithCode 7#64 0x80800000#64 := by
  refine ⟨?_, ?_, ?_⟩
  · have hfetch := sv39_faults_classified offCanonical
      ⟨.instructionFetch, 0x8000000000000000#64, kInstructionBytes.toNat, 0#64⟩ (by decide)
      (by decide) (.fetch rfl)
    exact hfetch.pageFault (by decide) _ rfl (by decide)
  · have hload := sv39_faults_classified (boundaryCpu 0x80000000#64) ⟨.load, 0#64, 8, 0#64⟩
      (by decide) (by decide)
      (.load rfl 0x00003083#32 ⟨.ld, 0x00003083#32, 1#5, 0#5, 0#5, 0#64, 0#16⟩ (by decide +kernel)
        (by decide +kernel) 8 true rfl)
    exact hload.pageFault (by decide)
      ⟨.invalidPte, 0#64, 2, 0x80001000#64, 0#64, text "page-table entry is not valid"⟩
      (by decide +kernel) (by decide)
  · have hstore := sv39_faults_classified (boundaryCpu 0x80000004#64)
      ⟨.store, 0x80800000#64, 8, 0#64⟩ (by decide) (by decide)
      (.store rfl 0x00113023#32 ⟨.sd, 0x00113023#32, 0#5, 2#5, 1#5, 0#64, 1#16⟩ (by decide +kernel)
        (by decide +kernel) 8 rfl)
    have houtside : (boundaryBus.accessFault ⟨.store, 0x80800000#64, 8, 0#64⟩
        0x80800000#64).isSome = true := by decide +kernel
    obtain ⟨fault, hfault⟩ := Option.isSome_iff_exists.mp houtside
    exact hstore.physicalAccess (by decide)
      ⟨0x80800000#64, 2, 0x80001010#64, 0x200000cf#64⟩ fault (by decide +kernel) hfault

end Cpu

end Northstar64
