import Northstar64.CpuStep
import Northstar64.CsrFrame

namespace Northstar64

namespace StepRecord

def attempted (record : StepRecord) : Bool := record.retired || record.trap.isSome

def Executes (record : StepRecord) (operation : Operation) : Prop :=
  record.retired = true ∧
    ∃ instruction, decode record.instruction = .ok instruction ∧
      instruction.operation = operation

end StepRecord

structure LowerFrame (returned : Prop) (before after : CsrFile) : Prop where
  medeleg : after.medeleg = before.medeleg
  mideleg : after.mideleg = before.mideleg
  mtvec : after.mtvec = before.mtvec
  mcounteren : after.mcounteren = before.mcounteren
  mscratch : after.mscratch = before.mscratch
  mepc : after.mepc = before.mepc
  mcause : after.mcause = before.mcause
  mtval : after.mtval = before.mtval
  machineTrapBits : after.mstatus &&& status.machineTrapBits = before.mstatus &&& status.machineTrapBits
  mie : after.mie &&& ~~~before.mideleg = before.mie &&& ~~~before.mideleg
  mip : after.mip &&& ~~~before.mideleg = before.mip &&& ~~~before.mideleg
  mprv : after.mstatus &&& status.kMprv = before.mstatus &&& status.kMprv ∨
    after.mstatus &&& status.kMprv = 0#64 ∧ returned

namespace LowerFrame
variable {returned : Prop} {before middle after : CsrFile}

theorem refl (returned : Prop) (csrs : CsrFile) : LowerFrame returned csrs csrs :=
  ⟨rfl, rfl, rfl, rfl, rfl, rfl, rfl, rfl, rfl, rfl, rfl, .inl rfl⟩

theorem trans (first : LowerFrame returned before middle)
    (second : LowerFrame returned middle after) : LowerFrame returned before after where
  medeleg := second.medeleg.trans first.medeleg
  mideleg := second.mideleg.trans first.mideleg
  mtvec := second.mtvec.trans first.mtvec
  mcounteren := second.mcounteren.trans first.mcounteren
  mscratch := second.mscratch.trans first.mscratch
  mepc := second.mepc.trans first.mepc
  mcause := second.mcause.trans first.mcause
  mtval := second.mtval.trans first.mtval
  machineTrapBits := second.machineTrapBits.trans first.machineTrapBits
  mie := by
    have h := second.mie
    rw [first.mideleg] at h
    exact h.trans first.mie
  mip := by
    have h := second.mip
    rw [first.mideleg] at h
    exact h.trans first.mip
  mprv := by
    rcases second.mprv with hkept | hcleared
    · rw [hkept]
      exact first.mprv
    · exact .inr hcleared

theorem mono {other : Prop} (h : LowerFrame returned before after) (himp : returned → other) :
    LowerFrame other before after :=
  { h with mprv := h.mprv.imp_right (fun hcleared => ⟨hcleared.1, himp hcleared.2⟩) }

theorem of_fields (hmedeleg : after.medeleg = before.medeleg)
    (hmideleg : after.mideleg = before.mideleg) (hmtvec : after.mtvec = before.mtvec)
    (hmcounteren : after.mcounteren = before.mcounteren)
    (hmscratch : after.mscratch = before.mscratch) (hmepc : after.mepc = before.mepc)
    (hmcause : after.mcause = before.mcause) (hmtval : after.mtval = before.mtval)
    (hmstatus : after.mstatus = before.mstatus) (hmie : after.mie = before.mie)
    (hmip : after.mip = before.mip) : LowerFrame returned before after :=
  ⟨hmedeleg, hmideleg, hmtvec, hmcounteren, hmscratch, hmepc, hmcause, hmtval, by rw [hmstatus],
    by rw [hmie], by rw [hmip], .inl (by rw [hmstatus])⟩

theorem enterTrap {csrs : CsrFile} {trap : Trap} {origin : PrivilegeLevel}
    (h : csrs.isDelegated trap origin = true) :
    LowerFrame returned csrs (csrs.enterTrap trap origin).1 := by
  have hstatus := CsrFile.enterTrap_mstatus_delegated h (k := status.machineTrapBits) (by decide)
  have hmprv := CsrFile.enterTrap_mstatus_delegated h (k := status.kMprv) (by decide)
  rw [CsrFile.enterTrap_delegated h] at hstatus hmprv ⊢
  exact ⟨rfl, rfl, rfl, rfl, rfl, rfl, rfl, rfl, hstatus, rfl, rfl, .inl hmprv⟩

theorem sret (csrs : CsrFile) (hreturned : returned) :
    LowerFrame returned csrs (csrs.returnFromTrap .supervisor).1 :=
  ⟨rfl, rfl, rfl, rfl, rfl, rfl, rfl, rfl,
    CsrFile.returnFromTrap_mstatus_supervisor (by decide), rfl, rfl,
    .inr ⟨CsrFile.returnFromTrap_clears_mprv, hreturned⟩⟩

theorem masked_disjoint (mideleg mask : BitVec 64) : mideleg &&& mask &&& ~~~mideleg = 0#64 := by
  rw [BitVec.and_comm mideleg, BitVec.and_assoc, BitVec.and_not_self]
  exact BitVec.and_zero

theorem write {csrs csrs' : CsrFile} {address : BitVec 16} {value : BitVec 64}
    {privilege : PrivilegeLevel} (hprivilege : privilege ≠ .machine)
    (hwrite : csrs.write address value privilege = .ok csrs') :
    LowerFrame returned csrs csrs' ∧ csrs'.mcycle = csrs.mcycle ∧
      csrs'.minstret = csrs.minstret := by
  obtain ⟨csr, -, hregister, hlevel, hwritable⟩ := CsrFile.write_ok hwrite
  cases csr
  case sstatus =>
    obtain rfl := Option.some.inj hregister
    exact ⟨⟨rfl, rfl, rfl, rfl, rfl, rfl, rfl, rfl, BitMask.merge_and_of_disjoint (by decide) _ _,
      rfl, rfl, .inl (BitMask.merge_and_of_disjoint (by decide) _ _)⟩, rfl, rfl⟩
  case sie =>
    obtain rfl := Option.some.inj hregister
    exact ⟨⟨rfl, rfl, rfl, rfl, rfl, rfl, rfl, rfl, rfl,
      BitMask.merge_and_of_disjoint (masked_disjoint _ _) _ _, rfl, .inl rfl⟩, rfl, rfl⟩
  case sip =>
    obtain rfl := Option.some.inj hregister
    exact ⟨⟨rfl, rfl, rfl, rfl, rfl, rfl, rfl, rfl, rfl, rfl,
      BitMask.merge_and_of_disjoint (masked_disjoint _ _) _ _, .inl rfl⟩, rfl, rfl⟩
  case stvec | scounteren | sscratch | sepc | scause | stval =>
    obtain rfl := Option.some.inj hregister
    exact ⟨of_fields rfl rfl rfl rfl rfl rfl rfl rfl rfl rfl rfl, rfl, rfl⟩
  case satp =>
    simp only [CsrFile.writeRegister] at hregister
    split_ifs at hregister <;> obtain rfl := Option.some.inj hregister <;>
      exact ⟨of_fields rfl rfl rfl rfl rfl rfl rfl rfl rfl rfl rfl, rfl, rfl⟩
  case cycle | instret | mhartid => exact absurd hwritable (by decide)
  all_goals
    cases privilege with
    | machine => exact absurd rfl hprivilege
    | user => exact absurd hlevel (by decide)
    | supervisor => exact absurd hlevel (by decide)

end LowerFrame

theorem user_write_rejected {csrs csrs' : CsrFile} {address : BitVec 16} {value : BitVec 64} :
    csrs.write address value .user ≠ .ok csrs' := by
  intro hwrite
  obtain ⟨csr, -, -, hlevel, hwritable⟩ := CsrFile.write_ok hwrite
  cases csr
  case cycle | instret | mhartid => exact absurd hwritable (by decide)
  all_goals exact absurd hlevel (by decide)

structure Counted (before after : CsrFile) (records : List StepRecord) : Prop where
  mcycle : after.mcycle = before.mcycle + BitVec.ofNat 64 (records.countP StepRecord.attempted)
  minstret : after.minstret = before.minstret + BitVec.ofNat 64 (records.countP StepRecord.retired)

theorem Counted.nil (csrs : CsrFile) : Counted csrs csrs [] := by
  constructor <;> simp

theorem Counted.append {first second third : CsrFile} {before after : List StepRecord}
    (hfirst : Counted first second before) (hsecond : Counted second third after) :
    Counted first third (before ++ after) := by
  constructor
  · rw [hsecond.mcycle, hfirst.mcycle, List.countP_append, BitVec.ofNat_add, BitVec.add_assoc]
  · rw [hsecond.minstret, hfirst.minstret, List.countP_append, BitVec.ofNat_add, BitVec.add_assoc]

structure LowerRun (first last : Cpu) (records : List StepRecord) : Prop where
  frame : LowerFrame (∃ record ∈ records, record.Executes .sret) first.csrs last.csrs
  counted : Counted first.csrs last.csrs records

theorem LowerRun.nil (cpu : Cpu) : LowerRun cpu cpu [] := ⟨.refl _ _, .nil _⟩

theorem LowerRun.append {first second third : Cpu} {before after : List StepRecord}
    (hfirst : LowerRun first second before) (hsecond : LowerRun second third after) :
    LowerRun first third (before ++ after) := by
  refine ⟨(hfirst.frame.mono ?_).trans (hsecond.frame.mono ?_),
    hfirst.counted.append hsecond.counted⟩
  · exact fun ⟨record, hmem, hsret⟩ => ⟨record, List.mem_append_left _ hmem, hsret⟩
  · exact fun ⟨record, hmem, hsret⟩ => ⟨record, List.mem_append_right _ hmem, hsret⟩

namespace Cpu
variable {cpu : Cpu} {s : StepState}

theorem lowerFrame_tick {returned : Prop} (csrs : CsrFile) :
    LowerFrame returned csrs csrs.tickCycle :=
  .of_fields rfl rfl rfl rfl rfl rfl rfl rfl rfl rfl rfl

theorem lowerFrame_retire {returned : Prop} (csrs : CsrFile) :
    LowerFrame returned csrs csrs.retireInstruction :=
  .of_fields rfl rfl rfl rfl rfl rfl rfl rfl rfl rfl rfl

theorem TrapEffect.lowerRun {trap : Trap} (heffect : cpu.TrapEffect s trap)
    (htarget : s.cpu.privilege ≠ .machine) : LowerRun cpu s.cpu [s.record] := by
  have hdelegated : cpu.csrs.tickCycle.isDelegated trap cpu.privilege = true := by
    rw [heffect.privilege, CsrFile.enterTrap_target] at htarget
    by_contra hdirect
    rw [if_neg hdirect] at htarget
    exact htarget rfl
  refine ⟨?_, ?_⟩
  · rw [heffect.csrs]
    exact (lowerFrame_tick _).trans (.enterTrap hdelegated)
  · rw [heffect.csrs, CsrFile.enterTrap_delegated hdelegated]
    constructor
    · simp [StepRecord.attempted, heffect.recorded, CsrFile.tickCycle]
    · simp [heffect.not_retired, CsrFile.tickCycle]

theorem counted_retired {record : StepRecord} (hretired : record.retired = true) {csrs : CsrFile}
    (hmcycle : csrs.mcycle = cpu.csrs.mcycle + 1#64) (hminstret : csrs.minstret = cpu.csrs.minstret) :
    Counted cpu.csrs csrs.retireInstruction [record] := by
  constructor
  · simp [StepRecord.attempted, hretired, CsrFile.retireInstruction, hmcycle]
  · simp [hretired, CsrFile.retireInstruction, hminstret]

theorem Completes.lowerRun {f : Scratch} {instruction : DecodedInstruction}
    (hdecode : decode f.instruction = .ok instruction)
    (hcompletes : cpu.Completes f instruction s) (hprivilege : cpu.privilege ≠ .machine) :
    LowerRun cpu s.finished.cpu [s.finished.record] := by
  have hcsrs : LowerFrame (s.finished.record.Executes .sret) cpu.csrs.tickCycle s.cpu.csrs ∧
      s.cpu.csrs.mcycle = cpu.csrs.tickCycle.mcycle ∧
      s.cpu.csrs.minstret = cpu.csrs.tickCycle.minstret := by
    have hinstruction := hcompletes.instruction_eq
    cases hcompletes with
    | advance =>
      rw [StepState.writeRegister_cpu]
      exact ⟨.refl _ _, rfl, rfl⟩
    | store => exact ⟨.refl _ _, rfl, rfl⟩
    | csrRead =>
      rw [StepState.writeRegister_cpu]
      exact ⟨.refl _ _, rfl, rfl⟩
    | csrWrite oldValue csrs target operation read performed written =>
      rw [StepState.writeRegister_cpu]
      exact LowerFrame.write hprivilege written
    | sret operation =>
      exact ⟨.sret _ ⟨rfl, instruction, hdecode, operation⟩, rfl, rfl⟩
    | mret operation permitted => exact absurd permitted hprivilege
    | wfi => exact ⟨.refl _ _, rfl, rfl⟩
  refine ⟨?_, counted_retired rfl hcsrs.2.1 hcsrs.2.2⟩
  refine ((lowerFrame_tick _).trans hcsrs.1).trans (lowerFrame_retire _) |>.mono ?_
  exact fun hsret => ⟨_, List.mem_singleton_self _, hsret⟩

theorem step_lowerRun (cpu : Cpu) (hprivilege : cpu.privilege ≠ .machine)
    (htrap : cpu.step.2.trap ≠ none → cpu.step.1.privilege ≠ .machine) :
    LowerRun cpu cpu.step.1 [cpu.step.2] := by
  revert htrap
  refine cpu.stepped_cases (P := fun s => (s.record.trap ≠ none → s.cpu.privilege ≠ .machine) →
    LowerRun cpu s.cpu [s.record]) ?_ ?_ ?_
  · intro _ _
    exact ⟨.refl _ _, ⟨by simp [StepRecord.attempted, openRecord, numbered],
      by simp [openRecord, numbered]⟩⟩
  · intro s trap _ heffect htarget
    exact heffect.lowerRun (htarget (by rw [heffect.recorded]; exact Option.some_ne_none _))
  · intro f instruction t _ _ hdecode hcompletes _
    exact hcompletes.lowerRun hdecode hprivilege

theorem Completes.user_csrs {f : Scratch} {instruction : DecodedInstruction}
    (hcompletes : cpu.Completes f instruction s) (huser : cpu.privilege = .user) :
    s.cpu.csrs = cpu.csrs.tickCycle := by
  cases hcompletes with
  | advance => rw [StepState.writeRegister_cpu]; rfl
  | store => rfl
  | csrRead => rw [StepState.writeRegister_cpu]; rfl
  | csrWrite oldValue csrs target operation read performed written =>
    rw [huser] at written
    exact absurd written user_write_rejected
  | sret operation permitted => exact absurd huser permitted
  | mret operation permitted => simp [huser] at permitted
  | wfi => rfl

theorem step_user_csrs (cpu : Cpu) (huser : cpu.privilege = .user)
    (htrap : cpu.step.2.trap = none) :
    cpu.step.1.csrs = { cpu.csrs with
      mcycle := if cpu.halted then cpu.csrs.mcycle else cpu.csrs.mcycle + 1#64
      minstret := if cpu.step.2.retired then cpu.csrs.minstret + 1#64 else cpu.csrs.minstret } := by
  revert htrap
  refine cpu.stepped_cases (P := fun s => s.record.trap = none → s.cpu.csrs = { cpu.csrs with
    mcycle := if cpu.halted then cpu.csrs.mcycle else cpu.csrs.mcycle + 1#64
    minstret := if s.record.retired then cpu.csrs.minstret + 1#64 else cpu.csrs.minstret })
    ?_ ?_ ?_
  · intro hhalted _
    rw [if_pos hhalted]
    rfl
  · intro s trap _ heffect hnone
    rw [heffect.recorded] at hnone
    cases hnone
  · intro f instruction t hrunning _ _ hcompletes _
    simp only [StepState.finished, hcompletes.user_csrs huser, hrunning]
    rfl

theorem lower_modes_keep_machine_state (cpu : Cpu) :
    (∀ n, (∀ k < n, (steps.state k cpu).privilege ≠ .machine ∧
        ((steps.state k cpu).step.2.trap ≠ none →
          (steps.state k cpu).step.1.privilege ≠ .machine)) →
      LowerRun cpu (steps.state n cpu) (steps.records n cpu)) ∧
    (cpu.privilege = .user → cpu.step.2.trap = none →
      cpu.step.1.csrs = { cpu.csrs with
        mcycle := if cpu.halted then cpu.csrs.mcycle else cpu.csrs.mcycle + 1#64
        minstret := if cpu.step.2.retired then cpu.csrs.minstret + 1#64
          else cpu.csrs.minstret }) := by
  refine ⟨fun n hlower => ?_, cpu.step_user_csrs⟩
  exact steps.traced_guarded (G := fun s => s.privilege ≠ .machine ∧
      (s.step.2.trap ≠ none → s.step.1.privilege ≠ .machine))
    LowerRun.nil (fun _ _ _ _ _ => LowerRun.append) (fun s _ hs => s.step_lowerRun hs.1 hs.2) hlower

def delegatingCpu : Cpu :=
  { reset .empty ⟨.vector, true, true⟩ 0x1000#64 with
    privilege := .user
    csrs := { CsrFile.reset with medeleg := 2#64 } }

theorem lower_modes_keep_machine_state_delegated :
    LowerRun delegatingCpu (steps.state 2 delegatingCpu) (steps.records 2 delegatingCpu) :=
  (lower_modes_keep_machine_state delegatingCpu).1 2 (by decide)

end Cpu

end Northstar64
