import Northstar64.Alignment

namespace Northstar64

inductive CsrOperation where
  | write (address : BitVec 16) (value : BitVec 64) (privilege : PrivilegeLevel)
  | tickCycle
  | retireInstruction
  | enterTrap (trap : Trap) (origin : PrivilegeLevel)
  | returnFromTrap (mode : TrapReturnMode)
  deriving DecidableEq

namespace CsrFile

-- A rejected write returns before the switch, so the file it leaves is the one it met.
def perform (csrs : CsrFile) : CsrOperation → CsrFile
  | .write address value privilege =>
    match csrs.write address value privilege with
    | .ok csrs => csrs
    | .error _ => csrs
  | .tickCycle => csrs.tickCycle
  | .retireInstruction => csrs.retireInstruction
  | .enterTrap trap origin => (csrs.enterTrap trap origin).1
  | .returnFromTrap mode => (csrs.returnFromTrap mode).1

def performAll (csrs : CsrFile) (operations : List CsrOperation) : CsrFile :=
  operations.foldl perform csrs

theorem performAll_append (csrs : CsrFile) (first second : List CsrOperation) :
    csrs.performAll (first ++ second) = (csrs.performAll first).performAll second :=
  List.foldl_append

theorem performAll_invariant {I : CsrFile → Prop}
    (hstep : ∀ csrs operation, I csrs → I (csrs.perform operation)) {csrs : CsrFile} (h : I csrs)
    (operations : List CsrOperation) : I (csrs.performAll operations) := by
  induction operations generalizing csrs with
  | nil => exact h
  | cons operation operations ih => exact ih (hstep csrs operation h)

end CsrFile

def LegalMpp (mstatus : BitVec 64) : Prop := (mstatus &&& status.kMppMask) >>> 11 ≠ 2#64

instance (mstatus : BitVec 64) : Decidable (LegalMpp mstatus) :=
  inferInstanceAs (Decidable ((mstatus &&& status.kMppMask) >>> 11 ≠ 2#64))

theorem LegalMpp.congr {before after : BitVec 64} (h : LegalMpp before)
    (hmpp : after &&& status.kMppMask = before &&& status.kMppMask) : LegalMpp after := by
  rwa [LegalMpp, hmpp]

theorem legalMpp_normalizeMstatus (value : BitVec 64) : LegalMpp (normalizeMstatus value) := by
  unfold normalizeMstatus
  dsimp only
  split_ifs with hmpp
  · rw [LegalMpp, BitMask.clear_and_self]
    decide
  · exact hmpp

theorem within_normalizeMstatus (value : BitVec 64) :
    BitMask.Within status.kMstatusWritableMask (normalizeMstatus value) := by
  unfold normalizeMstatus
  dsimp only
  split_ifs
  · exact (BitMask.Within.masked _ _).and _
  · exact BitMask.Within.masked _ _

structure Warl (csrs : CsrFile) : Prop extends AlignedCsrs csrs where
  mstatus : BitMask.Within status.kMstatusWritableMask csrs.mstatus
  mpp : LegalMpp csrs.mstatus
  satp : csrs.satp = 0#64 ∨ csrs.satp &&& kSatpModeMask = kSatpModeSv39
  medeleg : BitMask.Within kDelegatableExceptionMask csrs.medeleg
  mideleg : BitMask.Within kSupervisorInterruptMask csrs.mideleg
  mie : BitMask.Within kImplementedInterruptMask csrs.mie
  mip : BitMask.Within kImplementedInterruptMask csrs.mip
  mcounteren : BitMask.Within kCounterEnableMask csrs.mcounteren
  scounteren : BitMask.Within kCounterEnableMask csrs.scounteren

namespace Warl
variable {csrs csrs' : CsrFile}

theorem reset : Warl CsrFile.reset where
  toAlignedCsrs := AlignedCsrs.reset
  mstatus := .zero _
  mpp := by decide
  satp := .inl rfl
  medeleg := .zero _
  mideleg := .zero _
  mie := .zero _
  mip := .zero _
  mcounteren := .zero _
  scounteren := .zero _

theorem tickCycle (h : Warl csrs) : Warl csrs.tickCycle :=
  { h with toAlignedCsrs := h.toAlignedCsrs.tickCycle }

theorem retireInstruction (h : Warl csrs) : Warl csrs.retireInstruction :=
  { h with toAlignedCsrs := h.toAlignedCsrs.retireInstruction }

theorem enterTrap_within (h : Warl csrs) (trap : Trap) (origin : PrivilegeLevel) :
    BitMask.Within status.kMstatusWritableMask (csrs.enterTrap trap origin).1.mstatus := by
  simp only [CsrFile.enterTrap]
  split
  · exact ((h.mstatus.assign (by decide)).and _).assign (by decide)
  · refine (((h.mstatus.assign (by decide)).and _).and _).or ?_
    cases origin <;> decide

theorem enterTrap_legalMpp (h : Warl csrs) (trap : Trap) (origin : PrivilegeLevel) :
    LegalMpp (csrs.enterTrap trap origin).1.mstatus := by
  cases hdelegated : csrs.isDelegated trap origin with
  | true => exact h.mpp.congr (CsrFile.enterTrap_mstatus_delegated hdelegated (by decide))
  | false =>
    rw [LegalMpp, CsrFile.enterTrap_mpp hdelegated]
    cases origin <;> decide

theorem enterTrap (h : Warl csrs) (trap : Trap) (origin : PrivilegeLevel) :
    Warl (csrs.enterTrap trap origin).1 := by
  have haligned := h.toAlignedCsrs.enterTrap trap origin
  have hwithin := h.enterTrap_within trap origin
  have hmpp := h.enterTrap_legalMpp trap origin
  cases hdelegated : csrs.isDelegated trap origin with
  | true =>
    rw [CsrFile.enterTrap_delegated hdelegated] at haligned hwithin hmpp ⊢
    exact { h with toAlignedCsrs := haligned, mstatus := hwithin, mpp := hmpp }
  | false =>
    rw [CsrFile.enterTrap_not_delegated hdelegated] at haligned hwithin hmpp ⊢
    exact { h with toAlignedCsrs := haligned, mstatus := hwithin, mpp := hmpp }

theorem returnFromTrap_within (h : Warl csrs) (mode : TrapReturnMode) :
    BitMask.Within status.kMstatusWritableMask (csrs.returnFromTrap mode).1.mstatus := by
  cases mode with
  | supervisor =>
    have hsie : BitMask.Within status.kMstatusWritableMask status.kSie := by decide
    have hspie : BitMask.Within status.kMstatusWritableMask status.kSpie := by decide
    exact (((h.mstatus.assign hsie).or hspie).and _).and _
  | machine =>
    have hmie : BitMask.Within status.kMstatusWritableMask status.kMie := by decide
    have hmpie : BitMask.Within status.kMstatusWritableMask status.kMpie := by decide
    have hstack := ((h.mstatus.assign (P := csrs.mstatus &&& status.kMpie ≠ 0#64) hmie).or
      hmpie).and (~~~status.kMppMask)
    simp only [CsrFile.returnFromTrap]
    split_ifs at hstack ⊢ <;> first | exact hstack | exact hstack.and _

theorem returnFromTrap_legalMpp (h : Warl csrs) (mode : TrapReturnMode) :
    LegalMpp (csrs.returnFromTrap mode).1.mstatus := by
  cases mode with
  | supervisor => exact h.mpp.congr (CsrFile.returnFromTrap_mstatus_supervisor (by decide))
  | machine =>
    rw [LegalMpp, CsrFile.returnFromTrap_mpp]
    decide

theorem returnFromTrap (h : Warl csrs) (mode : TrapReturnMode) :
    Warl (csrs.returnFromTrap mode).1 := by
  have haligned := h.toAlignedCsrs.returnFromTrap mode
  have hwithin := h.returnFromTrap_within mode
  have hmpp := h.returnFromTrap_legalMpp mode
  cases mode with
  | supervisor => exact { h with toAlignedCsrs := haligned, mstatus := hwithin, mpp := hmpp }
  | machine => exact { h with toAlignedCsrs := haligned, mstatus := hwithin, mpp := hmpp }

theorem masked_within {mask wide : BitVec 64} (mideleg : BitVec 64)
    (hmask : BitMask.Within wide mask) : BitMask.Within wide (mideleg &&& mask) :=
  (BitMask.Within.masked mask mideleg).trans hmask

theorem writeRegister (h : Warl csrs) {value : BitVec 64} {csr : Csr}
    (hwrite : csrs.writeRegister value csr = some csrs') : Warl csrs' := by
  have haligned := h.toAlignedCsrs.writeRegister hwrite
  have hsupervisor : BitMask.Within kImplementedInterruptMask kSupervisorInterruptMask := by decide
  have hsoftware : BitMask.Within kImplementedInterruptMask kSupervisorSoftwareInterrupt := by
    decide
  cases csr
  case satp =>
    simp only [CsrFile.writeRegister] at hwrite
    split_ifs at hwrite with hzero hsv39 <;> obtain rfl := Option.some.inj hwrite
    · exact { h with toAlignedCsrs := haligned, satp := .inl rfl }
    · exact { h with toAlignedCsrs := haligned, satp := .inr hsv39 }
    · exact h
  case cycle | instret | mhartid => cases hwrite
  all_goals obtain rfl := Option.some.inj hwrite
  case sstatus =>
    have hmpp := BitMask.merge_and_of_disjoint (m := status.kSstatusWritableMask)
      (k := status.kMppMask) (by decide) csrs.mstatus value
    exact { h with
      toAlignedCsrs := haligned
      mstatus := h.mstatus.merge (by decide) value
      mpp := h.mpp.congr hmpp }
  case sie =>
    exact { h with
      toAlignedCsrs := haligned
      mie := h.mie.merge (masked_within csrs.mideleg hsupervisor) value }
  case sip =>
    exact { h with
      toAlignedCsrs := haligned
      mip := h.mip.merge (masked_within csrs.mideleg hsoftware) value }
  case mstatus =>
    exact { h with
      toAlignedCsrs := haligned
      mstatus := within_normalizeMstatus value
      mpp := legalMpp_normalizeMstatus value }
  case scounteren => exact { h with toAlignedCsrs := haligned, scounteren := .masked _ _ }
  case mcounteren => exact { h with toAlignedCsrs := haligned, mcounteren := .masked _ _ }
  case medeleg => exact { h with toAlignedCsrs := haligned, medeleg := .masked _ _ }
  case mideleg => exact { h with toAlignedCsrs := haligned, mideleg := .masked _ _ }
  case mie => exact { h with toAlignedCsrs := haligned, mie := .masked _ _ }
  case mip => exact { h with toAlignedCsrs := haligned, mip := .masked _ _ }
  all_goals exact { h with toAlignedCsrs := haligned }

theorem perform (h : Warl csrs) (operation : CsrOperation) : Warl (csrs.perform operation) := by
  cases operation with
  | write address value privilege =>
    cases hwrite : csrs.write address value privilege with
    | error error => simpa only [CsrFile.perform, hwrite] using h
    | ok written =>
      obtain ⟨csr, -, hregister, -⟩ := CsrFile.write_ok hwrite
      simpa only [CsrFile.perform, hwrite] using h.writeRegister hregister
  | tickCycle => exact h.tickCycle
  | retireInstruction => exact h.retireInstruction
  | enterTrap trap origin => exact h.enterTrap trap origin
  | returnFromTrap mode => exact h.returnFromTrap mode

theorem performAll (h : Warl csrs) (operations : List CsrOperation) :
    Warl (csrs.performAll operations) :=
  CsrFile.performAll_invariant (fun _ operation hwarl => hwarl.perform operation) h operations

end Warl

theorem CsrFile.warl_of_reset (operations : List CsrOperation) :
    Warl (CsrFile.reset.performAll operations) :=
  Warl.reset.performAll operations

namespace Cpu

def Performs (cpu : Cpu) (csrs : CsrFile) : Prop :=
  ∃ operations, csrs = cpu.csrs.performAll operations

theorem Completes.performs {cpu : Cpu} {s : StepState} {f : Scratch}
    {instruction : DecodedInstruction} (h : cpu.Completes f instruction s) :
    cpu.Performs s.finished.cpu.csrs := by
  unfold StepState.finished
  cases h with
  | advance index value =>
    rw [StepState.writeRegister_cpu]
    exact ⟨[.tickCycle, .retireInstruction], rfl⟩
  | store => exact ⟨[.tickCycle, .retireInstruction], rfl⟩
  | csrRead =>
    rw [StepState.writeRegister_cpu]
    exact ⟨[.tickCycle, .retireInstruction], rfl⟩
  | csrWrite oldValue csrs target operation read performed written =>
    rw [StepState.writeRegister_cpu]
    refine ⟨[.tickCycle,
      .write instruction.csr (StepState.csrNewValue instruction.operation oldValue
        (cpu.start.csrOperand instruction)) cpu.privilege,
      .retireInstruction], ?_⟩
    simp only [CsrFile.performAll, List.foldl_cons, List.foldl_nil, CsrFile.perform, written,
      StepState.setCsrs]
  | sret => exact ⟨[.tickCycle, .returnFromTrap .supervisor, .retireInstruction], rfl⟩
  | mret => exact ⟨[.tickCycle, .returnFromTrap .machine, .retireInstruction], rfl⟩
  | wfi => exact ⟨[.tickCycle, .retireInstruction], rfl⟩

theorem step_performs (cpu : Cpu) : cpu.Performs cpu.step.1.csrs := by
  refine cpu.stepped_cases (P := fun s => cpu.Performs s.cpu.csrs) ?_ ?_ ?_
  · exact fun _ => ⟨[], rfl⟩
  · intro s trap _ heffect
    exact ⟨[.tickCycle, .enterTrap trap cpu.privilege], heffect.csrs⟩
  · exact fun _ _ _ _ _ _ hcompletes => hcompletes.performs

theorem steps_performs (cpu : Cpu) (n : Nat) : cpu.Performs (steps.state n cpu).csrs := by
  refine steps.invariant (I := fun later => cpu.Performs later.csrs) ?_ ⟨[], rfl⟩ n
  rintro later - ⟨operations, hlater⟩
  obtain ⟨more, hmore⟩ := later.step_performs
  exact ⟨operations ++ more, by rw [CsrFile.performAll_append, ← hlater]; exact hmore⟩

theorem steps_warl (bus : Bus) (config : CpuConfig) (entry : Address) (n : Nat) :
    Warl (steps.state n (reset bus config entry)).csrs := by
  obtain ⟨operations, h⟩ := (reset bus config entry).steps_performs n
  rw [h]
  exact Warl.reset.performAll operations

end Cpu

end Northstar64
