import Northstar64.StepVerdict

namespace Northstar64

namespace Cpu

structure WordAligned (cpu : Cpu) : Prop where
  pc : cpu.pc.toNat % 4 = 0
  mepc : cpu.csrs.mepc.toNat % 4 = 0
  sepc : cpu.csrs.sepc.toNat % 4 = 0
  mtvec : cpu.csrs.mtvec.toNat % 4 = 0
  stvec : cpu.csrs.stvec.toNat % 4 = 0

structure RejectsTransfer (cpu : Cpu) (trap : Trap) (instruction : DecodedInstruction)
    (target : Address) : Prop where
  issued : cpu.Issues instruction
  transfers : cpu.transferTarget instruction = some target
  misaligned : target.toNat % 4 ≠ 0
  pc : trap.pc = cpu.pc
  recordPc : cpu.step.2.pc = cpu.pc
  value : trap.value = target
  banked : cpu.Faults .instructionAddressMisaligned target

variable {cpu : Cpu}

theorem Aligned.wordAligned (h : cpu.Aligned) : cpu.WordAligned where
  pc := (alignedAddress_iff _).mp h.pc
  mepc := (alignedAddress_iff _).mp h.csrs.mepc
  sepc := (alignedAddress_iff _).mp h.csrs.sepc
  mtvec := (alignedAddress_iff _).mp h.csrs.mtvec
  stvec := (alignedAddress_iff _).mp h.csrs.stvec

theorem TrapReason.transfer {cause : TrapCause} {value : BitVec 64}
    (h : cpu.TrapReason cause value) (hcause : cause = .instructionAddressMisaligned)
    (hpc : isMisaligned cpu.pc = false) :
    ∃ instruction, cpu.Issues instruction ∧ cpu.transferTarget instruction = some value ∧
      isMisaligned value = true := by
  cases h with
  | misalignedPc rejected =>
    rw [hpc] at rejected
    cases rejected
  | misalignedTarget instruction target issued transfers rejected =>
    exact ⟨instruction, issued, transfers, rejected⟩
  | illegal => cases hcause
  | breakpoint => cases hcause
  | environmentCall =>
    generalize cpu.privilege = privilege at hcause
    cases privilege <;> cases hcause
  | unaligned access reached data =>
    generalize access.kind = kind at hcause data
    cases kind with
    | instructionFetch => exact absurd rfl data
    | load => cases hcause
    | store => cases hcause
  | pageFault access =>
    generalize access.kind = kind at hcause
    cases kind <;> cases hcause
  | accessFault access =>
    generalize access.kind = kind at hcause
    cases kind <;> cases hcause

theorem Aligned.rejectsTransfer (haligned : cpu.Aligned) {trap : Trap}
    (h : cpu.step.2.trap = some trap) (hcause : trap.cause = .instructionAddressMisaligned) :
    ∃ instruction target, cpu.RejectsTransfer trap instruction target := by
  have heffect := cpu.stepped_trap (running_of_trap h) h
  obtain ⟨instruction, issued, transfers, rejected⟩ :=
    (cpu.trap_reason h).transfer hcause ((isMisaligned_eq_false_iff _).mpr haligned.pc)
  refine ⟨instruction, trap.value, issued, transfers, ?_, heffect.pc, cpu.step_recorded.pc, rfl,
    hcause ▸ heffect.faults⟩
  rwa [ne_eq, ← alignedAddress_iff, ← isMisaligned_eq_false_iff, Bool.not_eq_false]

theorem pc_alignment_invariant (bus : Bus) (config : CpuConfig) (entry : Address)
    (haligned : entry.toNat % 4 = 0) (n : Nat) :
    let cpu := steps.state n (reset bus config entry)
    cpu.WordAligned ∧ isMisaligned cpu.pc = false ∧
      ∀ trap, cpu.step.2.trap = some trap → trap.cause = .instructionAddressMisaligned →
        ∃ instruction target, cpu.RejectsTransfer trap instruction target := by
  have hreset : (reset bus config entry).Aligned := ⟨.reset, (alignedAddress_iff _).mpr haligned⟩
  have hsteps := steps_aligned hreset n
  exact ⟨hsteps.wordAligned, (isMisaligned_eq_false_iff _).mpr hsteps.pc,
    fun trap => hsteps.rejectsTransfer⟩

-- jal x0, 2
theorem pc_alignment_invariant_jal :
    ∃ instruction target, (codeCpu 0x0020006f#64).RejectsTransfer
      ⟨.instructionAddressMisaligned, 0#64, 2#64, text "jump target is not four-byte aligned"⟩
      instruction target :=
  (pc_alignment_invariant (codeBus 0x0020006f#64) ⟨.vector, false, false⟩ 0#64 (by decide) 0).2.2
    _ (by decide +kernel) rfl

end Cpu

end Northstar64
