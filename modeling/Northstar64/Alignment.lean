import Northstar64.CpuStep
import Northstar64.CsrFrame

namespace Northstar64

def AlignedAddress (address : Address) : Prop := address &&& ~~~0x3#64 = address

theorem alignedAddress_iff (address : Address) :
    AlignedAddress address ↔ address.toNat % 4 = 0 :=
  BitMask.clear_low_eq_self_iff address 2

theorem alignedAddress_masked (address : Address) : AlignedAddress (address &&& ~~~0x3#64) :=
  (alignedAddress_iff _).mpr (BitMask.clear_low_umod address 2)

theorem isMisaligned_eq_false_iff (address : Address) :
    isMisaligned address = false ↔ AlignedAddress address := by
  rw [alignedAddress_iff, isMisaligned, kInstructionBytes]
  simp only [ne_eq, decide_not, Bool.not_eq_false', decide_eq_true_eq]
  rw [← BitVec.toNat_inj, BitVec.toNat_umod]
  rfl

theorem AlignedAddress.next {address : Address} (h : AlignedAddress address) :
    AlignedAddress (address + kInstructionBytes) := by
  rw [alignedAddress_iff] at h ⊢
  rw [BitVec.toNat_add, kInstructionBytes]
  simp only [BitVec.toNat_ofNat]
  omega

structure AlignedCsrs (csrs : CsrFile) : Prop where
  mtvec : AlignedAddress csrs.mtvec
  stvec : AlignedAddress csrs.stvec
  mepc : AlignedAddress csrs.mepc
  sepc : AlignedAddress csrs.sepc

namespace AlignedCsrs
variable {csrs csrs' : CsrFile}

theorem reset : AlignedCsrs CsrFile.reset := by
  constructor <;> rfl

theorem of_eq (h : AlignedCsrs csrs) (hmtvec : csrs'.mtvec = csrs.mtvec)
    (hstvec : csrs'.stvec = csrs.stvec) (hmepc : csrs'.mepc = csrs.mepc)
    (hsepc : csrs'.sepc = csrs.sepc) : AlignedCsrs csrs' :=
  ⟨hmtvec ▸ h.mtvec, hstvec ▸ h.stvec, hmepc ▸ h.mepc, hsepc ▸ h.sepc⟩

theorem tickCycle (h : AlignedCsrs csrs) : AlignedCsrs csrs.tickCycle := h.of_eq rfl rfl rfl rfl

theorem retireInstruction (h : AlignedCsrs csrs) : AlignedCsrs csrs.retireInstruction :=
  h.of_eq rfl rfl rfl rfl

theorem enterTrap (h : AlignedCsrs csrs) (trap : Trap) (origin : PrivilegeLevel) :
    AlignedCsrs (csrs.enterTrap trap origin).1 := by
  cases hdelegated : csrs.isDelegated trap origin with
  | true =>
    rw [CsrFile.enterTrap_delegated hdelegated]
    exact ⟨h.mtvec, h.stvec, h.mepc, alignedAddress_masked _⟩
  | false =>
    rw [CsrFile.enterTrap_not_delegated hdelegated]
    exact ⟨h.mtvec, h.stvec, alignedAddress_masked _, h.sepc⟩

theorem returnFromTrap (h : AlignedCsrs csrs) (mode : TrapReturnMode) :
    AlignedCsrs (csrs.returnFromTrap mode).1 := by
  cases mode <;> exact h.of_eq rfl rfl rfl rfl

theorem returnFromTrap_pc (h : AlignedCsrs csrs) (mode : TrapReturnMode) :
    AlignedAddress (csrs.returnFromTrap mode).2.pc := by
  cases mode with
  | supervisor => exact h.sepc
  | machine => exact h.mepc

theorem writeRegister (h : AlignedCsrs csrs) {value : BitVec 64} {csr : Csr}
    (hwrite : csrs.writeRegister value csr = some csrs') : AlignedCsrs csrs' := by
  cases csr
  case stvec =>
    obtain rfl := Option.some.inj hwrite
    exact ⟨h.mtvec, alignedAddress_masked _, h.mepc, h.sepc⟩
  case sepc =>
    obtain rfl := Option.some.inj hwrite
    exact ⟨h.mtvec, h.stvec, h.mepc, alignedAddress_masked _⟩
  case mtvec =>
    obtain rfl := Option.some.inj hwrite
    exact ⟨alignedAddress_masked _, h.stvec, h.mepc, h.sepc⟩
  case mepc =>
    obtain rfl := Option.some.inj hwrite
    exact ⟨h.mtvec, h.stvec, alignedAddress_masked _, h.sepc⟩
  case satp =>
    simp only [CsrFile.writeRegister] at hwrite
    split_ifs at hwrite <;> obtain rfl := Option.some.inj hwrite <;> exact h.of_eq rfl rfl rfl rfl
  case cycle | instret | mhartid => cases hwrite
  all_goals
    obtain rfl := Option.some.inj hwrite
    exact h.of_eq rfl rfl rfl rfl

theorem write (h : AlignedCsrs csrs) {address : BitVec 16} {value : BitVec 64}
    {privilege : PrivilegeLevel} (hwrite : csrs.write address value privilege = .ok csrs') :
    AlignedCsrs csrs' := by
  obtain ⟨csr, -, hregister, -⟩ := CsrFile.write_ok hwrite
  exact h.writeRegister hregister

end AlignedCsrs

namespace Cpu
variable {cpu : Cpu} {s : StepState}

theorem TrapEffect.alignedCsrs {trap : Trap} (heffect : cpu.TrapEffect s trap)
    (h : AlignedCsrs cpu.csrs) : AlignedCsrs s.cpu.csrs := by
  rw [heffect.csrs]
  exact h.tickCycle.enterTrap _ _

theorem Completes.alignedCsrs {f : Scratch} {instruction : DecodedInstruction}
    (hcompletes : cpu.Completes f instruction s) (h : AlignedCsrs cpu.csrs) :
    AlignedCsrs s.finished.cpu.csrs := by
  apply AlignedCsrs.retireInstruction
  cases hcompletes with
  | advance =>
    rw [StepState.writeRegister_cpu]
    exact h.tickCycle
  | store => exact h.tickCycle
  | csrRead =>
    rw [StepState.writeRegister_cpu]
    exact h.tickCycle
  | csrWrite oldValue csrs target operation read performed written =>
    rw [StepState.writeRegister_cpu]
    exact h.tickCycle.write written
  | sret => exact h.tickCycle.returnFromTrap .supervisor
  | mret => exact h.tickCycle.returnFromTrap .machine
  | wfi => exact h.tickCycle

theorem step_alignedCsrs (cpu : Cpu) (h : AlignedCsrs cpu.csrs) : AlignedCsrs cpu.step.1.csrs := by
  refine cpu.stepped_cases (P := fun s => AlignedCsrs s.cpu.csrs) ?_ ?_ ?_
  · exact fun _ => h
  · exact fun _ _ _ heffect => heffect.alignedCsrs h
  · exact fun _ _ _ _ _ _ hcompletes => hcompletes.alignedCsrs h

theorem steps_alignedCsrs (cpu : Cpu) (h : AlignedCsrs cpu.csrs) (n : Nat) :
    AlignedCsrs (steps.state n cpu).csrs :=
  steps.invariant (I := fun cpu => AlignedCsrs cpu.csrs) (fun s _ hs => s.step_alignedCsrs hs) h n

theorem enterTrap_vector (csrs : CsrFile) (h : AlignedCsrs csrs) (trap : Trap)
    (origin : PrivilegeLevel) :
    (csrs.enterTrap trap origin).2.vector =
      if csrs.isDelegated trap origin then csrs.stvec else csrs.mtvec := by
  cases hdelegated : csrs.isDelegated trap origin with
  | true =>
    rw [CsrFile.enterTrap_delegated hdelegated]
    exact h.stvec
  | false =>
    rw [CsrFile.enterTrap_not_delegated hdelegated]
    exact h.mtvec

structure Aligned (cpu : Cpu) : Prop where
  csrs : AlignedCsrs cpu.csrs
  pc : AlignedAddress cpu.pc

theorem TrapEffect.aligned {trap : Trap} (heffect : cpu.TrapEffect s trap) (h : cpu.Aligned) :
    s.cpu.Aligned := by
  refine ⟨heffect.alignedCsrs h.csrs, ?_⟩
  rcases heffect.target with ⟨-, hpc⟩ | ⟨-, hpc⟩
  · rw [hpc]
    exact h.pc
  · rw [hpc, enterTrap_vector _ h.csrs.tickCycle]
    split_ifs
    · exact h.csrs.stvec
    · exact h.csrs.mtvec

theorem Completes.aligned {f : Scratch} {instruction : DecodedInstruction}
    (hcompletes : cpu.Completes f instruction s) (h : cpu.Aligned) : s.finished.cpu.Aligned := by
  refine ⟨hcompletes.alignedCsrs h.csrs, ?_⟩
  have hnext (target : f.pc = cpu.pc + kInstructionBytes) : AlignedAddress f.pc := by
    rw [target]
    exact h.pc.next
  change AlignedAddress s.cpu.pc
  cases hcompletes with
  | advance index value target other =>
    rw [StepState.writeRegister_cpu]
    rcases target with haligned | htarget
    · exact (isMisaligned_eq_false_iff _).mp haligned
    · exact hnext htarget
  | store address width write bus target => exact hnext target
  | csrRead oldValue target =>
    rw [StepState.writeRegister_cpu]
    exact hnext target
  | csrWrite oldValue csrs target =>
    rw [StepState.writeRegister_cpu]
    exact hnext target
  | sret => exact h.csrs.tickCycle.returnFromTrap_pc .supervisor
  | mret => exact h.csrs.tickCycle.returnFromTrap_pc .machine
  | wfi target => exact hnext target

theorem step_aligned (cpu : Cpu) (h : cpu.Aligned) : cpu.step.1.Aligned := by
  refine cpu.stepped_cases (P := fun s => s.cpu.Aligned) ?_ ?_ ?_
  · exact fun _ => ⟨h.csrs, h.pc⟩
  · exact fun _ _ _ heffect => heffect.aligned h
  · exact fun _ _ _ _ _ _ hcompletes => hcompletes.aligned h

theorem steps_aligned (h : cpu.Aligned) (n : Nat) : (steps.state n cpu).Aligned :=
  steps.invariant (fun s _ hs => s.step_aligned hs) h n

end Cpu

end Northstar64
