import Northstar64.CsrInstructions

namespace Northstar64

namespace CsrFile

def legalised (before : CsrFile) (value : BitVec 64) : Csr → BitVec 64
  | .sstatus => value &&& status.kSstatusWritableMask ||| status.kUxl64
  | .sie => value &&& (before.mideleg &&& kSupervisorInterruptMask)
  | .stvec | .sepc | .mtvec | .mepc => value &&& ~~~0x3#64
  | .scounteren | .mcounteren => value &&& kCounterEnableMask
  | .sip =>
    let software := before.mideleg &&& kSupervisorSoftwareInterrupt
    let visible := before.mideleg &&& kSupervisorInterruptMask
    before.mip &&& visible &&& ~~~software ||| value &&& software
  | .satp =>
    if value &&& kSatpModeMask = 0#64 then 0#64
    else if value &&& kSatpModeMask = kSatpModeSv39 then value
    else before.satp
  | .mstatus => normalizeMstatus value ||| status.kMstatusFixedValue
  | .misa => kMisa
  | .medeleg => value &&& kDelegatableExceptionMask
  | .mideleg => value &&& kSupervisorInterruptMask
  | .mie | .mip => value &&& kImplementedInterruptMask
  | .sscratch | .scause | .stval | .mscratch | .mcause | .mtval | .mcycle | .minstret => value
  | .cycle => before.mcycle
  | .instret => before.minstret
  | .mhartid => 0#64

variable {csrs csrs' : CsrFile} {value : BitVec 64} {csr : Csr}

theorem software_within (mideleg : BitVec 64) :
    BitMask.Within (mideleg &&& kSupervisorInterruptMask)
      (mideleg &&& kSupervisorSoftwareInterrupt) := by
  rw [BitMask.Within, BitVec.and_assoc, ← BitVec.and_assoc kSupervisorSoftwareInterrupt,
    BitVec.and_comm kSupervisorSoftwareInterrupt, BitVec.and_assoc mideleg,
    ← BitVec.and_assoc mideleg mideleg, BitVec.and_self]
  rfl

theorem readRegister_writeRegister (h : csrs.writeRegister value csr = some csrs') :
    csrs'.readRegister csr = csrs.legalised value csr := by
  cases csr
  case cycle | instret | mhartid => cases h
  case satp =>
    simp only [writeRegister] at h
    simp only [legalised]
    split_ifs at h ⊢ <;> obtain rfl := Option.some.inj h <;> rfl
  all_goals obtain rfl := Option.some.inj h
  case sstatus =>
    simp only [readRegister, legalised]
    rw [BitMask.merge_and_self]
  case sie =>
    simp only [readRegister, legalised]
    rw [BitVec.and_assoc, BitMask.merge_and_self]
  case sip =>
    simp only [readRegister, legalised]
    rw [BitVec.and_assoc, BitMask.merge_and_of_within (software_within csrs.mideleg)]
  all_goals rfl

theorem legalised_tickCycle (h : csrIsReadOnly csr.address = false) :
    csrs.tickCycle.legalised value csr = csrs.legalised value csr := by
  cases csr <;> first | rfl | cases h

theorem readRegister_retireInstruction (hcsr : csr ≠ .minstret)
    (h : csrIsReadOnly csr.address = false) :
    csrs.retireInstruction.readRegister csr = csrs.readRegister csr := by
  cases csr <;> first | rfl | exact absurd rfl hcsr | cases h

end CsrFile

namespace Cpu

def ReadModifyWrite (cpu : Cpu) (instruction : DecodedInstruction) (csr : Csr) : Prop :=
  ∃ oldValue, cpu.csrs.tickCycle.read csr.address cpu.privilege = .ok oldValue ∧
    cpu.stepped.cpu.registers = cpu.registers.set instruction.rd oldValue ∧
    cpu.stepped.cpu.csrs.read csr.address .machine = .ok (cpu.csrs.legalised
      (csrCombined instruction.operation oldValue (csrSource cpu instruction)) csr)

variable {cpu : Cpu} {instruction : DecodedInstruction}

theorem stepped_csrWrite (issued : cpu.Issues instruction)
    (operation : csrOperation instruction.operation = true)
    (performed : StepState.csrShouldWrite instruction.operation
      (cpu.start.csrOperand instruction) = true)
    (retires : cpu.stepped.record.retired = true) :
    ∃ oldValue csrs, cpu.csrs.tickCycle.read instruction.csr cpu.privilege = .ok oldValue ∧
      cpu.csrs.tickCycle.write instruction.csr (csrCombined instruction.operation oldValue
        (csrSource cpu instruction)) cpu.privilege = .ok csrs ∧
      cpu.ReturnsOld instruction oldValue csrs := by
  cases hread : cpu.csrs.tickCycle.read instruction.csr cpu.privilege with
  | error error => cases retires.symm.trans (rejects_unreadable issued operation hread).not_retired
  | ok oldValue =>
    rcases attempts_write issued operation hread performed with ⟨csrs, hwrite, hreturned⟩ | hrejected
    · exact ⟨oldValue, csrs, rfl, hwrite, hreturned⟩
    · cases retires.symm.trans hrejected.2.not_retired

-- A write to minstret meets the increment of the retirement that follows it.
theorem csr_read_modify_write_iff (cpu : Cpu) (instruction : DecodedInstruction) (csr : Csr)
    (issued : cpu.Issues instruction) (operation : csrOperation instruction.operation = true)
    (addressed : instruction.csr = csr.address)
    (performed : StepState.csrShouldWrite instruction.operation
      (cpu.start.csrOperand instruction) = true)
    (retires : cpu.stepped.record.retired = true) :
    cpu.ReadModifyWrite instruction csr ↔ csr ≠ .minstret := by
  obtain ⟨oldValue, csrs, hread, hwrite, -, hregisters, hcsrs⟩ :=
    stepped_csrWrite issued operation performed retires
  rw [addressed] at hread hwrite
  obtain ⟨written, hwritten, hregister, -, hwritable⟩ := CsrFile.write_ok hwrite
  obtain rfl : written = csr := by
    rw [Csr.ofAddress_address] at hwritten
    exact (Option.some.inj hwritten).symm
  have hafter := CsrFile.readRegister_writeRegister hregister
  rw [CsrFile.legalised_tickCycle hwritable] at hafter
  unfold ReadModifyWrite
  rw [hcsrs, CsrFile.read_machine]
  constructor
  · rintro ⟨other, hother, -, hvalue⟩ rfl
    obtain rfl : other = oldValue := Except.ok.inj (hother.symm.trans hread)
    rw [← hafter] at hvalue
    have hone : csrs.minstret + 1#64 = csrs.minstret := Except.ok.inj hvalue
    bv_omega
  · intro hcsr
    refine ⟨oldValue, hread, hregisters, ?_⟩
    rw [CsrFile.readRegister_retireInstruction hcsr hwritable, hafter]

-- csrrw x2, mtvec, x1
def swapsMtvec : DecodedInstruction := ⟨.csrrw, 0x30509173#32, 2#5, 1#5, 5#5, 0#64, 0x305#16⟩

-- csrrw x2, minstret, x1
def swapsMinstret : DecodedInstruction := ⟨.csrrw, 0xb0209173#32, 2#5, 1#5, 2#5, 0#64, 0xb02#16⟩

def swapCpu (instruction : DecodedInstruction) : Cpu :=
  { codeCpu (instruction.raw.setWidth 64) with
    registers := RegisterFile.cleared.set 1#5 0x1000#64 }

theorem csr_read_modify_write_iff_mtvec :
    (swapCpu swapsMtvec).ReadModifyWrite swapsMtvec .mtvec ↔ Csr.mtvec ≠ .minstret :=
  csr_read_modify_write_iff (swapCpu swapsMtvec) swapsMtvec .mtvec (by decide +kernel)
    (by decide) (by decide) (by decide) (by decide +kernel)

theorem minstret_write_incremented :
    (swapCpu swapsMinstret).Issues swapsMinstret ∧
    (swapCpu swapsMinstret).stepped.record.retired = true ∧
    (swapCpu swapsMinstret).stepped.cpu.csrs.minstret = 0x1001#64 ∧
    ¬ (swapCpu swapsMinstret).ReadModifyWrite swapsMinstret .minstret := by
  refine ⟨by decide +kernel, by decide +kernel, by decide +kernel, ?_⟩
  rintro ⟨oldValue, -, -, hread⟩
  rw [CsrFile.read_machine] at hread
  have hvalue : (swapCpu swapsMinstret).stepped.cpu.csrs.minstret = 0x1000#64 :=
    Except.ok.inj hread
  exact absurd hvalue (by decide +kernel)

end Cpu

end Northstar64
