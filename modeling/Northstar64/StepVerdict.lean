import Northstar64.Issue
import Northstar64.Immediates

namespace Northstar64

namespace Cpu

def withPolicy (cpu : Cpu) (policy : TrapPolicy) : Cpu :=
  { cpu with config := { cpu.config with trapPolicy := policy } }

def transferTarget (cpu : Cpu) (instruction : DecodedInstruction) : Option Address :=
  let lhs := cpu.registers.values instruction.rs1
  let rhs := cpu.registers.values instruction.rs2
  let target := addOffset cpu.pc instruction.immediate
  let branch (taken : Bool) : Option Address := if taken then some target else none
  match instruction.operation with
  | .jal => some target
  | .jalr => some (addOffset lhs instruction.immediate &&& ~~~1#64)
  | .beq => branch (lhs = rhs)
  | .bne => branch (lhs ≠ rhs)
  | .blt => branch (signedValue lhs < signedValue rhs)
  | .bge => branch (signedValue lhs ≥ signedValue rhs)
  | .bltu => branch (lhs < rhs)
  | .bgeu => branch (lhs ≥ rhs)
  | _ => none

-- Every raise site of a step, with the cause and the value it raises.
inductive TrapReason (cpu : Cpu) : TrapCause → BitVec 64 → Prop where
  | misalignedPc (rejected : isMisaligned cpu.pc = true) :
      TrapReason cpu .instructionAddressMisaligned cpu.pc
  | misalignedTarget (instruction : DecodedInstruction) (target : Address)
      (issued : cpu.Issues instruction) (transfers : cpu.transferTarget instruction = some target)
      (rejected : isMisaligned target = true) :
      TrapReason cpu .instructionAddressMisaligned target
  | illegal (word : BitVec 32) (fetched : cpu.fetchedWord = some word) :
      TrapReason cpu .illegalInstruction (word.setWidth 64)
  | breakpoint (instruction : DecodedInstruction) (issued : cpu.Issues instruction)
      (operation : instruction.operation = .ebreak) : TrapReason cpu .breakpoint 0#64
  | environmentCall (instruction : DecodedInstruction) (issued : cpu.Issues instruction)
      (operation : instruction.operation = .ecall) :
      TrapReason cpu cpu.privilege.environmentCause 0#64
  | unaligned (access : MemoryAccess) (reached : cpu.Reaches access)
      (data : access.kind ≠ .instructionFetch)
      (rejected : StepState.isUnaligned access.address access.width = true) :
      TrapReason cpu access.kind.misalignedCause access.address
  | pageFault (access : MemoryAccess) (reached : cpu.Reaches access) :
      TrapReason cpu (StepState.pageFaultCause access.kind) access.address
  | accessFault (access : MemoryAccess) (reached : cpu.Reaches access) :
      TrapReason cpu (StepState.accessFaultCause access.kind) access.address

end Cpu

def StepState.withPolicy (s : StepState) (policy : TrapPolicy) : StepState :=
  { s with cpu := s.cpu.withPolicy policy }

inductive Verdict where
  | finishes (s : StepState)
  | traps (f : Scratch) (cause : TrapCause) (value : BitVec 64) (detail : Text)
  | breaks (f : Scratch)

namespace Verdict

def carryOut (cpu : Cpu) (policy : TrapPolicy) : Verdict → StepState
  | .finishes s => s.withPolicy policy
  | .traps f cause value detail =>
    ((cpu.withPolicy policy).prepared f).raiseTrap cause value detail
  | .breaks f => ((cpu.withPolicy policy).prepared f).executeEbreak

def trap (cpu : Cpu) : Verdict → Option Trap
  | .finishes _ => none
  | .traps _ cause value detail => some ⟨cause, cpu.pc, value, detail⟩
  | .breaks _ => some ⟨.breakpoint, cpu.pc, 0#64, text "EBREAK requested a debugger trap"⟩

def Justified (cpu : Cpu) : Verdict → Prop
  | .finishes s => s.record.trap = none
  | .traps _ cause value _ => cpu.TrapReason cause value
  | .breaks _ => cpu.TrapReason .breakpoint 0#64

theorem Justified.carryOut_trap {cpu : Cpu} {verdict : Verdict} (h : verdict.Justified cpu)
    (policy : TrapPolicy) : (verdict.carryOut cpu policy).record.trap = verdict.trap cpu := by
  cases verdict with
  | finishes s => exact h
  | traps f cause value detail => rfl
  | breaks f =>
    change StepRecord.trap (StepState.executeEbreak _).record = _
    unfold StepState.executeEbreak
    dsimp only
    split_ifs <;> rfl

end Verdict

namespace Cpu

-- The verdict is reached before the policy is known: it only decides how to carry it out.
def Decides (cpu : Cpu) (outcome : TrapPolicy → StepState) : Prop :=
  ∃ verdict : Verdict, verdict.Justified cpu ∧
    ∀ policy, outcome policy = verdict.carryOut cpu policy

variable {cpu : Cpu} {f : Scratch} {instruction : DecodedInstruction}
  {outcome : TrapPolicy → StepState}

@[simp] theorem withPolicy_bus (policy : TrapPolicy) : (cpu.withPolicy policy).bus = cpu.bus := rfl

@[simp] theorem withPolicy_registers (policy : TrapPolicy) :
    (cpu.withPolicy policy).registers = cpu.registers := rfl

@[simp] theorem withPolicy_csrs (policy : TrapPolicy) :
    (cpu.withPolicy policy).csrs = cpu.csrs := rfl

@[simp] theorem withPolicy_privilege (policy : TrapPolicy) :
    (cpu.withPolicy policy).privilege = cpu.privilege := rfl

@[simp] theorem withPolicy_setBus (policy : TrapPolicy) (f : Scratch) :
    ((cpu.withPolicy policy).prepared f).setBus cpu.bus = (cpu.withPolicy policy).prepared f := rfl

theorem decides_trap {cause : TrapCause} {value : BitVec 64} (reason : cpu.TrapReason cause value)
    (detail : Text)
    (h : ∀ policy, outcome policy =
      (((cpu.withPolicy policy).prepared f).raiseTrap cause value detail).retire) :
    cpu.Decides outcome :=
  ⟨.traps f cause value detail, reason, fun policy => (h policy).trans (retire_raiseTrap _ _ _ _)⟩

theorem decides_complete {s : StepState} (hs : s.record.trap = none)
    (h : ∀ policy, outcome policy = (s.withPolicy policy).complete.retire) :
    cpu.Decides outcome :=
  ⟨.finishes s.finished, hs, fun policy => (h policy).trans (StepState.retire_complete hs)⟩

theorem writeRegister_withPolicy (s : StepState) (policy : TrapPolicy) (index : RegisterIndex)
    (value : BitVec 64) :
    (s.withPolicy policy).writeRegister index value =
      (s.writeRegister index value).withPolicy policy := by
  unfold StepState.writeRegister
  split_ifs <;> rfl

theorem decides_register (index : RegisterIndex) (value : TrapPolicy → BitVec 64) {s : StepState}
    (hs : s.record.trap = none) (hvalue : ∀ policy, value policy = value .halt)
    (h : ∀ policy, outcome policy =
      ((s.withPolicy policy).writeRegister index (value policy)).complete.retire) :
    cpu.Decides outcome := by
  refine decides_complete (s := s.writeRegister index (value .halt)) ?_ (fun policy => ?_)
  · rw [StepState.writeRegister_record]
    exact hs
  · rw [h, hvalue, writeRegister_withPolicy]

theorem Issues.raw (h : cpu.Issues instruction) : cpu.fetchedWord = some instruction.raw := by
  obtain ⟨word, hfetched, hdecoded⟩ := h.fetched
  have hraw := congrArg DecodedInstruction.raw (decode_eq hdecoded)
  rw [hfetched, hraw]
  rfl

theorem Issues.illegal (h : cpu.Issues instruction) :
    cpu.TrapReason .illegalInstruction (instruction.raw.setWidth 64) :=
  .illegal instruction.raw h.raw

theorem translate_policies (cpu : Cpu) (f : Scratch) (address : Address) (access : VirtualAccess) :
    (∃ physical, ∀ policy, ((cpu.withPolicy policy).prepared f).translate address access =
      (some physical, (cpu.withPolicy policy).prepared
        (f.setTranslation access ⟨address, physical⟩))) ∨
    (∃ cause detail,
      (cause = StepState.pageFaultCause access ∨ cause = StepState.accessFaultCause access) ∧
      ∀ policy, ((cpu.withPolicy policy).prepared f).translate address access =
        (none, ((cpu.withPolicy policy).prepared f).raiseTrap cause address detail)) := by
  have hidentity (policy : TrapPolicy) :
      StepState.usesIdentity ((cpu.withPolicy policy).prepared f).cpu =
        StepState.usesIdentity cpu := rfl
  have hwalk (policy : TrapPolicy) :
      walkSv39 ((cpu.withPolicy policy).prepared f).cpu.bus address
          (StepState.walkContext ((cpu.withPolicy policy).prepared f).cpu access) =
        walkSv39 cpu.bus address (StepState.walkContext cpu access) := rfl
  simp only [StepState.translate, hidentity, hwalk, walkSv39_snd, withPolicy_setBus]
  split_ifs
  · exact .inl ⟨address, fun policy => by rw [prepared_setTranslation]⟩
  · cases (walkSv39 cpu.bus address (StepState.walkContext cpu access)).1 with
    | ok translation =>
      exact .inl ⟨_, fun policy => Prod.ext rfl (prepared_setTranslation _ f access _)⟩
    | error fault =>
      right
      dsimp only
      split_ifs
      · exact ⟨_, _, .inr rfl, fun _ => rfl⟩
      · exact ⟨_, _, .inl rfl, fun _ => rfl⟩

theorem translation_reason {access : MemoryAccess} (reached : cpu.Reaches access) {cause : TrapCause}
    (h : cause = StepState.pageFaultCause access.kind ∨
      cause = StepState.accessFaultCause access.kind) : cpu.TrapReason cause access.address := by
  rcases h with rfl | rfl
  · exact .pageFault access reached
  · exact .accessFault access reached

theorem load_policies {address : Address} {width : Nat}
    (reached : cpu.Reaches ⟨.load, address, width, 0#64⟩) (f : Scratch) (signed : Bool) :
    (∃ value g, ∀ policy, ((cpu.withPolicy policy).prepared f).load address width signed =
      (some value, (cpu.withPolicy policy).prepared g)) ∨
    (∃ cause detail g, cpu.TrapReason cause address ∧
      ∀ policy, ((cpu.withPolicy policy).prepared f).load address width signed =
        (none, ((cpu.withPolicy policy).prepared g).raiseTrap cause address detail)) := by
  unfold StepState.load
  by_cases hunaligned : StepState.isUnaligned address width = true
  · simp only [if_pos hunaligned]
    exact .inr ⟨_, _, f, .unaligned _ reached (by simp) hunaligned, fun _ => rfl⟩
  · simp only [if_neg hunaligned]
    rcases cpu.translate_policies f address .load with
      ⟨physical, htranslate⟩ | ⟨cause, detail, hcause, htranslate⟩
    · simp only [htranslate, prepared_bus, withPolicy_bus, Bus.read_snd, withPolicy_setBus]
      cases (cpu.bus.read physical width .load).1 with
      | error fault => exact .inr ⟨_, _, _, .accessFault _ reached, fun _ => rfl⟩
      | ok value => exact .inl ⟨_, _, fun _ => rfl⟩
    · simp only [htranslate]
      exact .inr ⟨_, _, f, translation_reason reached hcause, fun _ => rfl⟩

theorem store_policies {address : Address} {width : Nat} {value : BitVec 64}
    (reached : cpu.Reaches ⟨.store, address, width, value⟩) (f : Scratch) :
    (∃ s : StepState, s.record.trap = none ∧
      ∀ policy, ((cpu.withPolicy policy).prepared f).store address width value =
        (true, s.withPolicy policy)) ∨
    (∃ cause detail g, cpu.TrapReason cause address ∧
      ∀ policy, ((cpu.withPolicy policy).prepared f).store address width value =
        (false, ((cpu.withPolicy policy).prepared g).raiseTrap cause address detail)) := by
  unfold StepState.store
  by_cases hunaligned : StepState.isUnaligned address width = true
  · simp only [if_pos hunaligned]
    exact .inr ⟨_, _, f, .unaligned _ reached (by simp) hunaligned, fun _ => rfl⟩
  · simp only [if_neg hunaligned]
    rcases cpu.translate_policies f address .store with
      ⟨physical, htranslate⟩ | ⟨cause, detail, hcause, htranslate⟩
    · simp only [htranslate, prepared_bus, withPolicy_bus]
      cases hwrite : (cpu.bus.write physical width (value &&& maskForWidth width) .store).2 with
      | some fault =>
        simp only [Bus.write_fault hwrite, withPolicy_setBus]
        exact .inr ⟨_, _, _, .accessFault _ reached, fun _ => rfl⟩
      | none =>
        exact .inl ⟨{ (cpu.prepared (f.setTranslation .store ⟨address, physical⟩)).setBus
            (cpu.bus.write physical width (value &&& maskForWidth width) .store).1 with
          record := { (cpu.prepared (f.setTranslation .store ⟨address, physical⟩)).record with
            memoryWrite := some ⟨address, width, value &&& maskForWidth width, physical⟩ } }, rfl,
          fun _ => rfl⟩
    · simp only [htranslate]
      exact .inr ⟨_, _, f, translation_reason reached hcause, fun _ => rfl⟩

section Execute
variable (issued : cpu.Issues instruction) (f : Scratch)
include issued

theorem decides_jump {target : Address} (transfers : cpu.transferTarget instruction = some target)
    (h : ∀ policy, outcome policy =
      (((cpu.withPolicy policy).prepared f).jump instruction target).retire) :
    cpu.Decides outcome := by
  by_cases hmisaligned : isMisaligned target = true
  · exact decides_trap (.misalignedTarget instruction target issued transfers hmisaligned) _
      (fun policy => (h policy).trans (congrArg StepState.retire (if_pos hmisaligned)))
  · refine decides_complete
      (s := ((cpu.prepared f).writeRegister instruction.rd (cpu.pc + kInstructionBytes)).setPc target)
      (by rw [StepState.setPc, StepState.writeRegister_record]; rfl) (fun policy => ?_)
    have hregister := writeRegister_withPolicy (cpu.prepared f) policy instruction.rd
      (cpu.pc + kInstructionBytes)
    refine (h policy).trans ((congrArg StepState.retire (if_neg hmisaligned)).trans ?_)
    exact congrArg (fun s => (s.setPc target).complete.retire) hregister

theorem decides_branch {taken : Bool}
    (transfers : cpu.transferTarget instruction =
      if taken then some (addOffset cpu.pc instruction.immediate) else none)
    (h : ∀ policy, outcome policy =
      (((cpu.withPolicy policy).prepared f).branch instruction taken).complete.retire) :
    cpu.Decides outcome := by
  cases taken with
  | false => exact decides_complete (s := cpu.prepared f) rfl h
  | true =>
    by_cases hmisaligned : isMisaligned (addOffset cpu.pc instruction.immediate) = true
    · refine decides_trap (f := f) (.misalignedTarget instruction _ issued transfers hmisaligned)
        (text "taken branch target is not four-byte aligned") (fun policy => ?_)
      have hbranch : ((cpu.withPolicy policy).prepared f).branch instruction true = _ :=
        if_pos hmisaligned
      rw [h, hbranch, complete_raiseTrap]
      rfl
    · refine decides_complete (s := (cpu.prepared f).setPc (addOffset cpu.pc instruction.immediate))
        rfl (fun policy => ?_)
      have hbranch : ((cpu.withPolicy policy).prepared f).branch instruction true = _ :=
        if_neg hmisaligned
      rw [h, hbranch]
      rfl

theorem decides_load {width : Nat} {signed : Bool}
    (operation : loadForm instruction.operation = some (width, signed)) :
    cpu.Decides (fun policy =>
      (((cpu.withPolicy policy).prepared f).executeLoad instruction width signed).retire) := by
  obtain ⟨word, fetched, decoded⟩ := issued.fetched
  unfold StepState.executeLoad
  simp only [prepared_registers, withPolicy_registers]
  rcases load_policies (.load issued.running word instruction fetched decoded width signed operation)
      f signed with ⟨value, g, hload⟩ | ⟨cause, detail, g, hreason, hload⟩
  · simp only [hload]
    exact decides_register instruction.rd (fun _ => value) (s := cpu.prepared g) rfl
      (fun _ => rfl) (fun _ => rfl)
  · simp only [hload]
    exact decides_trap hreason _ (fun _ => rfl)

theorem decides_store {width : Nat} (operation : storeForm instruction.operation = some width) :
    cpu.Decides (fun policy =>
      (((cpu.withPolicy policy).prepared f).executeStore instruction width).retire) := by
  obtain ⟨word, fetched, decoded⟩ := issued.fetched
  unfold StepState.executeStore
  simp only [prepared_registers, withPolicy_registers]
  rcases store_policies (.store issued.running word instruction fetched decoded width operation) f
    with ⟨s, hs, hstore⟩ | ⟨cause, detail, g, hreason, hstore⟩
  · simp only [hstore]
    exact decides_complete hs (fun _ => rfl)
  · simp only [hstore]
    exact decides_trap hreason _ (fun _ => rfl)

theorem decides_csr :
    cpu.Decides (fun policy =>
      (((cpu.withPolicy policy).prepared f).executeCsr instruction).retire) := by
  have hoperand (policy : TrapPolicy) :
      ((cpu.withPolicy policy).prepared f).csrOperand instruction =
        cpu.start.csrOperand instruction := rfl
  unfold StepState.executeCsr
  simp only [prepared_csrs, prepared_privilege, withPolicy_csrs, withPolicy_privilege, hoperand]
  cases cpu.csrs.tickCycle.read instruction.csr cpu.privilege with
  | error error => exact decides_trap issued.illegal error.detail (fun _ => rfl)
  | ok oldValue =>
    dsimp only
    split_ifs
    · cases cpu.csrs.tickCycle.write instruction.csr
          (StepState.csrNewValue instruction.operation oldValue
            (cpu.start.csrOperand instruction)) cpu.privilege with
      | error error => exact decides_trap issued.illegal error.detail (fun _ => rfl)
      | ok csrs =>
        exact decides_register instruction.rd (fun _ => oldValue) rfl
          (s := (cpu.prepared f).setCsrs csrs) (fun _ => rfl) (fun _ => rfl)
    · exact decides_register instruction.rd (fun _ => oldValue) rfl (s := cpu.prepared f)
        (fun _ => rfl) (fun _ => rfl)

theorem decides_ecall (operation : instruction.operation = .ecall) :
    cpu.Decides (fun policy => ((cpu.withPolicy policy).prepared f).executeEcall.retire) := by
  have hreason := TrapReason.environmentCall instruction issued operation
  unfold StepState.executeEcall
  simp only [prepared_privilege, withPolicy_privilege]
  revert hreason
  cases cpu.privilege <;> exact fun hreason => decides_trap hreason _ (fun _ => rfl)

theorem decides_sret :
    cpu.Decides (fun policy =>
      (((cpu.withPolicy policy).prepared f).executeSret instruction).retire) := by
  by_cases huser : cpu.privilege = .user
  · exact decides_trap issued.illegal _ (fun _ => congrArg StepState.retire (if_pos huser))
  · exact decides_complete (s := (cpu.prepared f).applyReturn .supervisor) rfl
      (fun _ => congrArg StepState.retire (if_neg huser))

theorem decides_mret :
    cpu.Decides (fun policy =>
      (((cpu.withPolicy policy).prepared f).executeMret instruction).retire) := by
  by_cases hlower : cpu.privilege ≠ .machine
  · exact decides_trap issued.illegal _ (fun _ => congrArg StepState.retire (if_pos hlower))
  · exact decides_complete (s := (cpu.prepared f).applyReturn .machine) rfl
      (fun _ => congrArg StepState.retire (if_neg hlower))

theorem decides_sfenceVma :
    cpu.Decides (fun policy =>
      (((cpu.withPolicy policy).prepared f).executeSfenceVma instruction).retire) := by
  by_cases huser : cpu.privilege = .user
  · exact decides_trap issued.illegal _ (fun _ => congrArg StepState.retire (if_pos huser))
  · exact decides_complete (s := cpu.prepared f) rfl
      (fun _ => congrArg StepState.retire (if_neg huser))

omit issued in
theorem decides_wfi :
    cpu.Decides (fun policy => ((cpu.withPolicy policy).prepared f).executeWfi.retire) := by
  by_cases hhalts : cpu.config.haltOnWfi = true
  · exact decides_complete (s := (cpu.prepared f).haltAtWfi) rfl
      (fun _ => congrArg StepState.retire (if_pos hhalts))
  · exact decides_complete (s := cpu.prepared f) rfl
      (fun _ => congrArg StepState.retire (if_neg hhalts))

theorem decides_ebreak (operation : instruction.operation = .ebreak) :
    cpu.Decides (fun policy => ((cpu.withPolicy policy).prepared f).executeEbreak.retire) := by
  refine ⟨.breaks f, .breakpoint instruction issued operation, fun policy => ?_⟩
  change StepState.retire _ = StepState.executeEbreak _
  unfold StepState.executeEbreak
  dsimp only
  split_ifs
  · exact retire_haltAtBreakpoint _ _ _ _
  · exact retire_raiseTrap _ _ _ _

theorem decides_execute :
    cpu.Decides (fun policy =>
      (((cpu.withPolicy policy).prepared f).execute instruction).retire) := by
  let g : Scratch := { f with pc := cpu.pc + kInstructionBytes }
  obtain ⟨operation, raw, rd, rs1, rs2, immediate, csr⟩ := instruction
  cases operation
  case beq | bne | blt | bge | bltu | bgeu => exact decides_branch issued g rfl (fun _ => rfl)
  case jal | jalr => exact decides_jump issued g rfl (fun _ => rfl)
  case lb | lh | lw | ld | lbu | lhu | lwu => exact decides_load issued g rfl
  case sb | sh | sw | sd => exact decides_store issued g rfl
  case fence | fenceI => exact decides_complete (s := cpu.prepared g) rfl (fun _ => rfl)
  case sfenceVma => exact decides_sfenceVma issued g
  case ecall => exact decides_ecall issued g rfl
  case ebreak => exact decides_ebreak issued g rfl
  case sret => exact decides_sret issued g
  case mret => exact decides_mret issued g
  case wfi => exact decides_wfi g
  case csrrw | csrrs | csrrc | csrrwi | csrrsi | csrrci => exact decides_csr issued g
  all_goals
    exact decides_register rd _ (s := cpu.prepared g) rfl (fun _ => rfl) (fun _ => rfl)

end Execute

theorem fetch_policies (running : cpu.halted = false) :
    (∃ g, ∀ policy, (cpu.withPolicy policy).start.fetch =
      (some g.instruction, (cpu.withPolicy policy).prepared g)) ∨
    (∃ cause detail g, cpu.TrapReason cause cpu.pc ∧ ∀ policy,
      (cpu.withPolicy policy).start.fetch =
        (none, ((cpu.withPolicy policy).prepared g).raiseTrap cause cpu.pc detail)) := by
  have reached := Reaches.fetch running
  have hstart (policy : TrapPolicy) :
      (cpu.withPolicy policy).start = (cpu.withPolicy policy).prepared cpu.initialScratch := rfl
  have hpc (policy : TrapPolicy) :
      ((cpu.withPolicy policy).prepared cpu.initialScratch).cpu.pc = cpu.pc := rfl
  unfold StepState.fetch
  simp only [hstart, hpc]
  by_cases hmisaligned : isMisaligned cpu.pc = true
  · simp only [if_pos hmisaligned]
    exact .inr ⟨_, _, cpu.initialScratch, .misalignedPc hmisaligned, fun _ => rfl⟩
  · simp only [if_neg hmisaligned]
    rcases cpu.translate_policies cpu.initialScratch cpu.pc .instructionFetch with
      ⟨physical, htranslate⟩ | ⟨cause, detail, hcause, htranslate⟩
    · simp only [htranslate, prepared_bus, withPolicy_bus, Bus.read_snd, withPolicy_setBus]
      cases (cpu.bus.read physical kInstructionBytes.toNat .instructionFetch).1 with
      | error fault => exact .inr ⟨_, _, _, .accessFault _ reached, fun _ => rfl⟩
      | ok value =>
        exact .inl ⟨{ cpu.initialScratch.setTranslation .instructionFetch ⟨cpu.pc, physical⟩ with
          instruction := value.setWidth 32 }, fun _ => rfl⟩
    · simp only [htranslate]
      exact .inr ⟨_, _, _, translation_reason reached hcause, fun _ => rfl⟩

theorem decides_word (running : cpu.halted = false) {f : Scratch}
    (fetched : cpu.fetchedWord = some f.instruction) :
    cpu.Decides (fun policy =>
      ((cpu.withPolicy policy).prepared f).decodeAndExecute f.instruction) := by
  unfold StepState.decodeAndExecute
  cases hdecode : decode f.instruction with
  | error error =>
    simp only [prepared_setAssembly]
    exact ⟨.traps _ _ _ _, .illegal f.instruction fetched, fun _ => rfl⟩
  | ok instruction =>
    simp only [prepared_setAssembly]
    exact decides_execute ⟨running, f.instruction, fetched, hdecode⟩ _

theorem step_decides (cpu : Cpu) : cpu.Decides (fun policy => (cpu.withPolicy policy).stepped) := by
  cases hhalted : cpu.halted with
  | true =>
    refine ⟨.finishes ⟨cpu.numbered, cpu.openRecord⟩, rfl, fun policy => ?_⟩
    exact stepped_halted (cpu.withPolicy policy) hhalted
  | false =>
    have hstepped (policy : TrapPolicy) : (cpu.withPolicy policy).halted = false := hhalted
    unfold stepped step
    simp only [hstepped, Bool.false_eq_true, if_false]
    rcases fetch_policies hhalted with ⟨g, hstart⟩ | ⟨cause, detail, g, hreason, hstart⟩
    · have fetched : cpu.fetchedWord = some g.instruction :=
        congrArg Prod.fst (hstart cpu.config.trapPolicy)
      simp only [hstart]
      exact decides_word hhalted fetched
    · simp only [hstart]
      exact ⟨.traps g cause cpu.pc detail, hreason, fun _ => rfl⟩

theorem trap_reason (cpu : Cpu) {trap : Trap} (h : cpu.step.2.trap = some trap) :
    cpu.TrapReason trap.cause trap.value := by
  obtain ⟨verdict, hjustified, hstep⟩ := cpu.step_decides
  have hself : cpu.stepped = verdict.carryOut cpu cpu.config.trapPolicy := hstep _
  have htrap := hjustified.carryOut_trap cpu.config.trapPolicy
  rw [← hself] at htrap
  have hverdict : some trap = verdict.trap cpu := h.symm.trans htrap
  cases verdict with
  | finishes s => cases hverdict
  | traps f cause value detail =>
    obtain rfl := Option.some.inj hverdict
    exact hjustified
  | breaks f =>
    obtain rfl := Option.some.inj hverdict
    exact hjustified

end Cpu

end Northstar64
