import Northstar64.Issue
import Northstar64.CsrFrame

namespace Northstar64

def Csr.isTrapState : Csr → Bool
  | .sstatus | .mstatus | .sepc | .scause | .stval | .mepc | .mcause | .mtval => true
  | _ => false

namespace CsrFile

theorem enterTrap_keeps (csrs : CsrFile) (trap : Trap) (origin : PrivilegeLevel) {csr : Csr}
    (h : csr.isTrapState = false) :
    (csrs.enterTrap trap origin).1.readRegister csr = csrs.readRegister csr := by
  cases hdelegated : csrs.isDelegated trap origin with
  | true =>
    rw [enterTrap_delegated hdelegated]
    cases csr <;> first | rfl | cases h
  | false =>
    rw [enterTrap_not_delegated hdelegated]
    cases csr <;> first | rfl | cases h

theorem read_tickCycle {csrs : CsrFile} {address : BitVec 16} {privilege : PrivilegeLevel}
    {value : BitVec 64} (h : csrs.read address privilege = .ok value) :
    ∃ csr, Csr.ofAddress address = some csr ∧
      csrs.tickCycle.read address privilege = .ok (csrs.tickCycle.readRegister csr) := by
  obtain ⟨csr, hcsr, -, hvalid⟩ := read_ok h
  obtain rfl := Csr.address_ofAddress hcsr
  exact ⟨csr, hcsr, read_of_valid hvalid⟩

theorem read_machine (csrs : CsrFile) (csr : Csr) :
    csrs.read csr.address .machine = .ok (csrs.readRegister csr) := by
  cases csr <;> rfl

theorem write_readOnly (csrs : CsrFile) {address : BitVec 16} (value : BitVec 64)
    (privilege : PrivilegeLevel) (h : csrIsReadOnly address = true) :
    ∃ error, csrs.write address value privilege = .error error := by
  cases hwrite : csrs.write address value privilege with
  | error error => exact ⟨error, rfl⟩
  | ok written =>
    obtain ⟨csr, hcsr, -, -, hwritable⟩ := write_ok hwrite
    rw [Csr.address_ofAddress hcsr, h] at hwritable
    cases hwritable

end CsrFile

-- The write rule of the CSR instructions: the source field decides, not the value it names.
def writesByField (instruction : DecodedInstruction) : Bool :=
  match instruction.operation with
  | .csrrw | .csrrwi => true
  | _ => instruction.rs1 ≠ 0#5

def csrSource (cpu : Cpu) (instruction : DecodedInstruction) : BitVec 64 :=
  match instruction.operation with
  | .csrrwi | .csrrsi | .csrrci => instruction.rs1.setWidth 64
  | _ => cpu.registers.values instruction.rs1

def csrCombined (operation : Operation) (oldValue operand : BitVec 64) : BitVec 64 :=
  match operation with
  | .csrrs | .csrrsi => oldValue ||| operand
  | .csrrc | .csrrci => oldValue &&& ~~~operand
  | _ => operand

theorem csrNewValue_eq (operation : Operation) (oldValue operand : BitVec 64) :
    StepState.csrNewValue operation oldValue operand = csrCombined operation oldValue operand := by
  cases operation <;> rfl

namespace Cpu
variable (cpu : Cpu) (instruction : DecodedInstruction)

structure RejectsWrite : Prop where
  trapped : ∃ trap, cpu.stepped.record.trap = some trap ∧ trap.cause = .illegalInstruction
  not_retired : cpu.stepped.record.retired = false
  registers : cpu.stepped.cpu.registers = cpu.registers
  csrs : ∀ csr, csr.isTrapState = false →
    cpu.stepped.cpu.csrs.readRegister csr = cpu.csrs.tickCycle.readRegister csr

structure ReturnsOld (oldValue : BitVec 64) (csrs : CsrFile) : Prop where
  retired : cpu.stepped.record.retired = true
  registers : cpu.stepped.cpu.registers = cpu.registers.set instruction.rd oldValue
  csrs : cpu.stepped.cpu.csrs = csrs.retireInstruction

def AttemptsWrite (oldValue : BitVec 64) : Prop :=
  let attempt := cpu.csrs.tickCycle.write instruction.csr
    (csrCombined instruction.operation oldValue (csrSource cpu instruction)) cpu.privilege
  (∃ csrs, attempt = .ok csrs ∧ cpu.ReturnsOld instruction oldValue csrs) ∨
    (∃ error, attempt = .error error) ∧ cpu.RejectsWrite

structure CarriesOut (attempts : Bool) : Prop where
  decided : StepState.csrShouldWrite instruction.operation (cpu.start.csrOperand instruction) =
    attempts
  attempted : attempts = true →
    ∀ oldValue, cpu.csrs.tickCycle.read instruction.csr cpu.privilege = .ok oldValue →
      cpu.AttemptsWrite instruction oldValue
  skipped : attempts = false →
    ∀ oldValue, cpu.csrs.tickCycle.read instruction.csr cpu.privilege = .ok oldValue →
      cpu.ReturnsOld instruction oldValue cpu.csrs.tickCycle

structure WriteIntent : Prop where
  byField : cpu.CarriesOut instruction (writesByField instruction)
  readOnly : instruction.operation = .csrrs ∨ instruction.operation = .csrrc →
    instruction.rs1 ≠ 0#5 → csrIsReadOnly instruction.csr = true → cpu.RejectsWrite

def SourceHoldsZero : Prop :=
  (instruction.operation = .csrrs ∨ instruction.operation = .csrrc) ∧
    instruction.rs1 ≠ 0#5 ∧ cpu.registers.values instruction.rs1 = 0#64

variable {cpu instruction}

theorem TrapEffect.rejectsWrite {trap : Trap} (h : cpu.TrapEffect cpu.stepped trap)
    (hcause : trap.cause = .illegalInstruction) : cpu.RejectsWrite where
  trapped := ⟨trap, h.recorded, hcause⟩
  not_retired := h.not_retired
  registers := h.registers
  csrs := by
    intro csr hcsr
    rw [h.csrs]
    exact CsrFile.enterTrap_keeps _ _ _ hcsr

theorem stepped_csr (h : cpu.Issues instruction)
    (operation : csrOperation instruction.operation = true) :
    cpu.stepped =
      ((cpu.prepared (cpu.dataScratch instruction)).executeCsr instruction).retire := by
  rw [h.stepped]
  unfold StepState.execute
  cases hoperation : instruction.operation
  all_goals
    rw [hoperation] at operation
    first | rfl | cases operation

theorem csrOperand_register (hform : StepState.csrImmediateForm instruction.operation = false) :
    cpu.start.csrOperand instruction = cpu.registers.values instruction.rs1 := by
  rw [StepState.csrOperand, hform]
  rfl

theorem csrOperand_immediate (hform : StepState.csrImmediateForm instruction.operation = true) :
    cpu.start.csrOperand instruction = instruction.rs1.setWidth 64 := by
  rw [StepState.csrOperand, hform]
  rfl

theorem csrOperand_eq (cpu : Cpu) (instruction : DecodedInstruction) :
    cpu.start.csrOperand instruction = csrSource cpu instruction := by
  unfold csrSource
  cases hoperation : instruction.operation
  case csrrwi | csrrsi | csrrci => exact csrOperand_immediate (by rw [hoperation]; rfl)
  all_goals exact csrOperand_register (by rw [hoperation]; rfl)

theorem rejects_unreadable (h : cpu.Issues instruction)
    (operation : csrOperation instruction.operation = true) {error : CsrError}
    (hread : cpu.csrs.tickCycle.read instruction.csr cpu.privilege = .error error) :
    cpu.RejectsWrite := by
  have hstep := stepped_csr h operation
  unfold StepState.executeCsr at hstep
  rw [prepared_csrs, prepared_privilege, hread, retire_raiseTrap] at hstep
  exact TrapEffect.rejectsWrite (hstep ▸ trapEffect_raiseTrap _ _ _ _ _) rfl

theorem returnsOld_of_finished {s : StepState} {oldValue : BitVec 64}
    (h : cpu.stepped = (s.writeRegister instruction.rd oldValue).finished)
    (registers : s.cpu.registers = cpu.registers) :
    cpu.ReturnsOld instruction oldValue s.cpu.csrs where
  retired := by
    rw [h]
    rfl
  registers := by
    rw [h, StepState.finished_registers, StepState.writeRegister_cpu, registers]
  csrs := by
    rw [h, StepState.finished, StepState.writeRegister_cpu]

theorem returns_skipped (h : cpu.Issues instruction)
    (operation : csrOperation instruction.operation = true) {oldValue : BitVec 64}
    (hread : cpu.csrs.tickCycle.read instruction.csr cpu.privilege = .ok oldValue)
    (skipped : StepState.csrShouldWrite instruction.operation
      (cpu.start.csrOperand instruction) = false) :
    cpu.ReturnsOld instruction oldValue cpu.csrs.tickCycle := by
  have hstep := stepped_csr h operation
  unfold StepState.executeCsr at hstep
  rw [prepared_csrs, prepared_privilege, prepared_csrOperand, hread] at hstep
  dsimp only at hstep
  rw [if_neg (by simp [skipped]),
    StepState.retire_complete (by rw [StepState.writeRegister_record]; rfl)] at hstep
  exact returnsOld_of_finished hstep rfl

theorem attempts_write (h : cpu.Issues instruction)
    (operation : csrOperation instruction.operation = true) {oldValue : BitVec 64}
    (hread : cpu.csrs.tickCycle.read instruction.csr cpu.privilege = .ok oldValue)
    (performed : StepState.csrShouldWrite instruction.operation
      (cpu.start.csrOperand instruction) = true) :
    cpu.AttemptsWrite instruction oldValue := by
  have hstep := stepped_csr h operation
  unfold StepState.executeCsr at hstep
  rw [prepared_csrs, prepared_privilege, prepared_csrOperand, hread] at hstep
  dsimp only at hstep
  rw [if_pos performed, csrNewValue_eq, csrOperand_eq] at hstep
  unfold AttemptsWrite
  cases hwrite : cpu.csrs.tickCycle.write instruction.csr
      (csrCombined instruction.operation oldValue (csrSource cpu instruction)) cpu.privilege with
  | error error =>
    rw [hwrite, retire_raiseTrap] at hstep
    exact .inr ⟨⟨error, rfl⟩, TrapEffect.rejectsWrite (hstep ▸ trapEffect_raiseTrap _ _ _ _ _) rfl⟩
  | ok csrs =>
    rw [hwrite] at hstep
    dsimp only at hstep
    rw [StepState.retire_complete (by rw [StepState.writeRegister_record]; rfl)] at hstep
    exact .inl ⟨csrs, rfl, returnsOld_of_finished hstep rfl⟩

theorem carriesOut_decision (h : cpu.Issues instruction)
    (operation : csrOperation instruction.operation = true) {attempts : Bool}
    (decided : StepState.csrShouldWrite instruction.operation
      (cpu.start.csrOperand instruction) = attempts) :
    cpu.CarriesOut instruction attempts where
  decided := decided
  attempted := by
    rintro rfl oldValue hread
    exact attempts_write h operation hread decided
  skipped := by
    rintro rfl oldValue hread
    exact returns_skipped h operation hread decided

theorem rejects_readOnly (h : cpu.Issues instruction)
    (operation : csrOperation instruction.operation = true)
    (performed : StepState.csrShouldWrite instruction.operation
      (cpu.start.csrOperand instruction) = true)
    (readOnly : csrIsReadOnly instruction.csr = true) : cpu.RejectsWrite := by
  cases hread : cpu.csrs.tickCycle.read instruction.csr cpu.privilege with
  | error error => exact rejects_unreadable h operation hread
  | ok oldValue =>
    rcases attempts_write h operation hread performed with ⟨csrs, hwrite, -⟩ | hrejected
    · obtain ⟨error, herror⟩ := cpu.csrs.tickCycle.write_readOnly
        (csrCombined instruction.operation oldValue (csrSource cpu instruction)) cpu.privilege
        readOnly
      cases herror.symm.trans hwrite
    · exact hrejected.2

theorem setWidth_eq_zero_iff (index : RegisterIndex) :
    index.setWidth 64 = 0#64 ↔ index = 0#5 := by
  constructor
  · intro h
    have hnat := congrArg BitVec.toNat h
    rw [BitVec.toNat_setWidth_of_le (by decide)] at hnat
    exact BitVec.eq_of_toNat_eq hnat
  · rintro rfl
    rfl

-- For the register forms the code asks for the value, so the two agree but for a zero source.
theorem decided_iff (operation : csrOperation instruction.operation = true) :
    StepState.csrShouldWrite instruction.operation (cpu.start.csrOperand instruction) =
      writesByField instruction ↔ ¬ cpu.SourceHoldsZero instruction := by
  unfold StepState.csrShouldWrite writesByField SourceHoldsZero
  cases hoperation : instruction.operation
  case csrrs | csrrc =>
    rw [csrOperand_register (by rw [hoperation]; rfl)]
    by_cases hrs1 : instruction.rs1 = 0#5
    · simp [hrs1, cpu.registers.zero]
    · simp [hrs1]
  case csrrsi | csrrci =>
    rw [csrOperand_immediate (by rw [hoperation]; rfl)]
    simp [setWidth_eq_zero_iff]
  case csrrw | csrrwi => simp
  all_goals
    rw [hoperation] at operation
    cases operation

theorem csr_write_intent_iff (cpu : Cpu) (instruction : DecodedInstruction)
    (issued : cpu.Issues instruction) (operation : csrOperation instruction.operation = true)
    (readable : ∃ value, cpu.csrs.read instruction.csr cpu.privilege = .ok value) :
    (∃ oldValue, cpu.csrs.tickCycle.read instruction.csr cpu.privilege = .ok oldValue) ∧
    (∃ attempts, cpu.CarriesOut instruction attempts) ∧
    (cpu.WriteIntent instruction ↔ ¬ cpu.SourceHoldsZero instruction) := by
  obtain ⟨value, hread⟩ := readable
  obtain ⟨csr, -, hticked⟩ := CsrFile.read_tickCycle hread
  refine ⟨⟨_, hticked⟩, ⟨_, carriesOut_decision issued operation rfl⟩, ?_, ?_⟩
  · exact fun h => (decided_iff operation).mp h.byField.decided
  · intro hsource
    have hdecided := (decided_iff operation).mpr hsource
    refine ⟨carriesOut_decision issued operation hdecided, fun hform hrs1 hreadOnly => ?_⟩
    refine rejects_readOnly issued operation (hdecided.trans ?_) hreadOnly
    unfold writesByField
    rcases hform with hform | hform <;> simp [hform, hrs1]

-- csrrs x2, mhartid, x1
def readsHartId : DecodedInstruction := ⟨.csrrs, 0xf140a173#32, 2#5, 1#5, 20#5, 0#64, 0xf14#16⟩

def sourceCpu (value : BitVec 64) : Cpu :=
  { codeCpu 0xf140a173#64 with registers := RegisterFile.cleared.set 1#5 value }

theorem csr_write_intent_iff_hartId :
    (sourceCpu 1#64).WriteIntent readsHartId ∧ ¬ (sourceCpu 0#64).WriteIntent readsHartId := by
  have hone := csr_write_intent_iff (sourceCpu 1#64) readsHartId (by decide +kernel) (by decide)
    ⟨0#64, by decide⟩
  have hzero := csr_write_intent_iff (sourceCpu 0#64) readsHartId (by decide +kernel) (by decide)
    ⟨0#64, by decide⟩
  refine ⟨hone.2.2.mpr ?_, fun h => hzero.2.2.mp h ?_⟩
  · exact fun h => absurd h.2.2 (by decide)
  · exact ⟨.inl rfl, by decide, by decide⟩

theorem zero_source_reads_hartId :
    (sourceCpu 0#64).Issues readsHartId ∧
    (sourceCpu 0#64).csrs.read readsHartId.csr (sourceCpu 0#64).privilege = .ok 0#64 ∧
    readsHartId.rs1 ≠ 0#5 ∧ csrIsReadOnly readsHartId.csr = true ∧
    (sourceCpu 0#64).stepped.record.trap = none ∧
    (sourceCpu 0#64).stepped.record.retired = true ∧
    ¬ (sourceCpu 0#64).WriteIntent readsHartId := by
  have htrap : (sourceCpu 0#64).stepped.record.trap = none := by decide +kernel
  refine ⟨by decide +kernel, by decide, by decide, by decide, htrap, by decide +kernel, ?_⟩
  intro hintent
  obtain ⟨trap, hrecorded, -⟩ := (hintent.readOnly (.inl rfl) (by decide) (by decide)).trapped
  rw [htrap] at hrecorded
  cases hrecorded

end Cpu

end Northstar64
