import Northstar64.Cpu

namespace Northstar64

namespace Cpu

def erase (cpu : Cpu) : Cpu :=
  { cpu with bus := .empty, haltDetail := [], terminalTrap := none }

end Cpu

namespace StepState

def erase (s : StepState) : StepState := { s with cpu := s.cpu.erase }

variable (s : StepState)

theorem raiseTrap_erase (cause : TrapCause) (value : BitVec 64) (detail : Text) :
    (s.raiseTrap cause value detail).erase = (s.erase.raiseTrap cause value detail).erase := by
  unfold raiseTrap
  dsimp only [erase, Cpu.erase]
  split_ifs <;> rfl

theorem writeRegister_erase (index : RegisterIndex) (value : BitVec 64) :
    (s.writeRegister index value).erase = s.erase.writeRegister index value := by
  unfold writeRegister
  split_ifs <;> rfl

theorem complete_erase : s.complete.erase = s.erase.complete := by
  cases htrap : s.record.trap with
  | none => simp [complete, erase, htrap, Cpu.erase]
  | some trap => simp [complete, erase, htrap]

theorem retire_erase : s.retire.erase = s.erase.retire := by
  cases hretired : s.record.retired with
  | false => simp [retire, erase, hretired]
  | true => simp [retire, erase, hretired, setCsrs, Cpu.erase]

variable (instruction : DecodedInstruction)

theorem executeRegister_erase (value : BitVec 64) :
    (s.executeRegister instruction value).erase =
      (s.erase.executeRegister instruction value).erase := by
  rw [executeRegister, executeRegister, complete_erase, complete_erase, writeRegister_erase,
    writeRegister_erase]
  rfl

theorem jump_erase (target : Address) :
    (s.jump instruction target).erase = (s.erase.jump instruction target).erase := by
  have hregister := congrArg (fun t => (t.setPc target).erase.complete)
    (s.writeRegister_erase instruction.rd (s.record.pc + kInstructionBytes))
  unfold jump
  split_ifs
  · exact s.raiseTrap_erase _ _ _
  · rw [complete_erase, complete_erase]
    exact hregister

theorem branch_erase (taken : Bool) :
    (s.branch instruction taken).complete.erase =
      (s.erase.branch instruction taken).complete.erase := by
  have hrecord : s.erase.record = s.record := rfl
  rw [complete_erase, complete_erase]
  congr 1
  unfold branch
  rw [hrecord]
  dsimp only
  split_ifs
  · rfl
  · exact s.raiseTrap_erase _ _ _
  · rfl

theorem executeCsr_erase :
    (s.executeCsr instruction).erase = (s.erase.executeCsr instruction).erase := by
  have hcsrs : s.erase.cpu.csrs = s.cpu.csrs := rfl
  have hprivilege : s.erase.cpu.privilege = s.cpu.privilege := rfl
  have hoperand : s.erase.csrOperand instruction = s.csrOperand instruction := rfl
  unfold executeCsr
  rw [hcsrs, hprivilege, hoperand]
  cases s.cpu.csrs.read instruction.csr s.cpu.privilege with
  | error error => exact s.raiseTrap_erase _ _ _
  | ok oldValue =>
    dsimp only
    split_ifs
    · cases s.cpu.csrs.write instruction.csr (csrNewValue instruction.operation oldValue
          (s.csrOperand instruction)) s.cpu.privilege with
      | error error => exact s.raiseTrap_erase _ _ _
      | ok csrs => exact (s.setCsrs csrs).executeRegister_erase instruction oldValue
    · exact s.executeRegister_erase instruction oldValue

theorem executeEcall_erase : s.executeEcall.erase = s.erase.executeEcall.erase := by
  have hprivilege : s.erase.cpu.privilege = s.cpu.privilege := rfl
  unfold executeEcall
  rw [hprivilege]
  cases s.cpu.privilege <;> exact s.raiseTrap_erase _ _ _

theorem executeEbreak_erase : s.executeEbreak.erase = s.erase.executeEbreak.erase := by
  unfold executeEbreak raiseTrap
  dsimp only [erase, Cpu.erase]
  split_ifs <;> rfl

theorem applyReturn_erase (mode : TrapReturnMode) :
    (s.applyReturn mode).complete.erase = (s.erase.applyReturn mode).complete.erase := by
  rw [complete_erase, complete_erase]
  rfl

theorem executeSret_erase :
    (s.executeSret instruction).erase = (s.erase.executeSret instruction).erase := by
  have hprivilege : s.erase.cpu.privilege = s.cpu.privilege := rfl
  unfold executeSret
  rw [hprivilege]
  split_ifs
  · exact s.raiseTrap_erase _ _ _
  · exact s.applyReturn_erase _

theorem executeMret_erase :
    (s.executeMret instruction).erase = (s.erase.executeMret instruction).erase := by
  have hprivilege : s.erase.cpu.privilege = s.cpu.privilege := rfl
  unfold executeMret
  rw [hprivilege]
  split_ifs
  · exact s.raiseTrap_erase _ _ _
  · exact s.applyReturn_erase _

theorem executeSfenceVma_erase :
    (s.executeSfenceVma instruction).erase = (s.erase.executeSfenceVma instruction).erase := by
  have hprivilege : s.erase.cpu.privilege = s.cpu.privilege := rfl
  unfold executeSfenceVma
  rw [hprivilege]
  split_ifs
  · exact s.raiseTrap_erase _ _ _
  · rw [complete_erase, complete_erase]
    rfl

theorem executeWfi_erase : s.executeWfi.erase = s.erase.executeWfi.erase := by
  have hconfig : s.erase.cpu.config = s.cpu.config := rfl
  unfold executeWfi
  rw [hconfig]
  split_ifs <;> rw [complete_erase, complete_erase] <;> rfl

def accessesMemory : Operation → Bool
  | .lb | .lh | .lw | .ld | .lbu | .lhu | .lwu | .sb | .sh | .sw | .sd => true
  | _ => false

variable {instruction}

theorem execute_erase (hlocal : accessesMemory instruction.operation = false) :
    (s.execute instruction).erase = (s.erase.execute instruction).erase := by
  have hcpu : s.erase.cpu.registers = s.cpu.registers := rfl
  have hrecord : s.erase.record = s.record := rfl
  let t := s.setPc (s.record.pc + kInstructionBytes)
  cases hoperation : instruction.operation
  all_goals
    have hkind := congrArg accessesMemory hoperation
    simp only [execute, hoperation, hcpu, hrecord]
  case beq | bne | blt | bge | bltu | bgeu => exact t.branch_erase instruction _
  case jal | jalr => exact t.jump_erase instruction _
  case lb | lh | lw | ld | lbu | lhu | lwu | sb | sh | sw | sd =>
    exact absurd (hkind.symm.trans hlocal) (by decide)
  case fence | fenceI => rw [complete_erase, complete_erase]; rfl
  case sfenceVma => exact t.executeSfenceVma_erase instruction
  case ecall => exact t.executeEcall_erase
  case ebreak => exact t.executeEbreak_erase
  case sret => exact t.executeSret_erase instruction
  case mret => exact t.executeMret_erase instruction
  case wfi => exact t.executeWfi_erase
  case csrrw | csrrs | csrrc | csrrwi | csrrsi | csrrci => exact t.executeCsr_erase instruction
  all_goals exact t.executeRegister_erase instruction _

end StepState

end Northstar64
