import Northstar64.Replay
import Northstar64.CsrFrame

namespace Northstar64

namespace CsrFile
variable {csrs csrs' : CsrFile}

theorem writeRegister_minstret {value : BitVec 64} {csr : Csr} (hother : csr ≠ .minstret)
    (hwrite : csrs.writeRegister value csr = some csrs') : csrs'.minstret = csrs.minstret := by
  cases csr
  case minstret => exact absurd rfl hother
  case satp =>
    simp only [writeRegister] at hwrite
    split_ifs at hwrite <;> obtain rfl := Option.some.inj hwrite <;> rfl
  case cycle | instret | mhartid => cases hwrite
  all_goals
    obtain rfl := Option.some.inj hwrite
    rfl

theorem read_minstret (csrs : CsrFile) :
    csrs.read Csr.minstret.address .machine = .ok csrs.minstret := rfl

theorem write_minstret (csrs : CsrFile) (value : BitVec 64) :
    csrs.write Csr.minstret.address value .machine = .ok { csrs with minstret := value } := rfl

theorem enterTrap_minstret (trap : Trap) (origin : PrivilegeLevel) :
    (csrs.enterTrap trap origin).1.minstret = csrs.minstret := by
  cases h : csrs.isDelegated trap origin with
  | true => rw [enterTrap_delegated h]
  | false => rw [enterTrap_not_delegated h]

end CsrFile

namespace Cpu

def OverwritesMinstret (cpu : Cpu) : Prop :=
  cpu.halted = false ∧ cpu.privilege = .machine ∧
    ∃ word instruction, cpu.fetchedWord = some word ∧ decode word = .ok instruction ∧
      csrOperation instruction.operation = true ∧ instruction.csr = Csr.minstret.address ∧
      StepState.csrShouldWrite instruction.operation (cpu.start.csrOperand instruction) = true ∧
      StepState.csrNewValue instruction.operation cpu.csrs.minstret
        (cpu.start.csrOperand instruction) ≠ cpu.csrs.minstret

variable {cpu : Cpu} {s : StepState}

theorem machine_of_minstret {privilege : PrivilegeLevel}
    (h : privilegeAtLeast privilege (csrMinimumPrivilege Csr.minstret.address) = true) :
    privilege = .machine := by
  cases privilege with
  | machine => rfl
  | supervisor => exact absurd h (by decide)
  | user => exact absurd h (by decide)

theorem csrWrite_minstret {instruction : DecodedInstruction} {oldValue operand : BitVec 64}
    {csrs : CsrFile} (hread : cpu.csrs.tickCycle.read instruction.csr cpu.privilege = .ok oldValue)
    (hwrite : cpu.csrs.tickCycle.write instruction.csr
      (StepState.csrNewValue instruction.operation oldValue operand) cpu.privilege = .ok csrs)
    (hkept : cpu.privilege = .machine → instruction.csr = Csr.minstret.address →
      StepState.csrNewValue instruction.operation cpu.csrs.minstret operand = cpu.csrs.minstret) :
    csrs.minstret = cpu.csrs.minstret := by
  obtain ⟨csr, hcsr, hregister, hlevel, -⟩ := CsrFile.write_ok hwrite
  by_cases hminstret : csr = .minstret
  · subst hminstret
    have haddress := (Csr.address_ofAddress hcsr).symm
    have hmachine := machine_of_minstret hlevel
    rw [haddress, hmachine, CsrFile.read_minstret] at hread
    rw [haddress, hmachine, CsrFile.write_minstret] at hwrite
    rw [← Except.ok.inj hwrite, ← Except.ok.inj hread]
    exact hkept hmachine haddress
  · exact (CsrFile.writeRegister_minstret hminstret hregister).trans rfl

theorem step_minstret (hrunning : cpu.halted = false) (hkept : ¬ cpu.OverwritesMinstret) :
    cpu.step.1.csrs.minstret =
      cpu.csrs.minstret + BitVec.ofNat 64 ([cpu.step.2].countP StepRecord.retired) := by
  refine cpu.stepped_cases (P := fun s => s.cpu.csrs.minstret =
    cpu.csrs.minstret + BitVec.ofNat 64 ([s.record].countP StepRecord.retired)) ?_ ?_ ?_
  · intro hhalted
    rw [hrunning] at hhalted
    cases hhalted
  · intro s trap _ heffect
    rw [heffect.csrs, CsrFile.enterTrap_minstret]
    simp [heffect.not_retired, CsrFile.tickCycle]
  · intro f instruction t _ hfetch hdecode hcompletes
    have hsame : t.cpu.csrs.minstret = cpu.csrs.minstret := by
      cases hcompletes with
      | advance => rw [StepState.writeRegister_cpu]; rfl
      | store => rfl
      | csrRead => rw [StepState.writeRegister_cpu]; rfl
      | csrWrite oldValue csrs target operation read performed written =>
        rw [StepState.writeRegister_cpu]
        refine csrWrite_minstret read written (fun hmachine haddress => ?_)
        by_contra hne
        exact hkept ⟨hrunning, hmachine, f.instruction, instruction, hfetch, hdecode, operation,
          haddress, performed, hne⟩
      | sret => rfl
      | mret => rfl
      | wfi => rfl
    simp [StepState.finished, CsrFile.retireInstruction, hsame]

theorem stepped_of_fetched (hrunning : cpu.halted = false) {word : BitVec 32}
    {instruction : DecodedInstruction} (hfetch : cpu.fetchedWord = some word)
    (hdecode : decode word = .ok instruction) :
    ∃ g, cpu.stepped = ((cpu.prepared g).execute instruction).retire := by
  rcases cpu.fetch_prepared with ⟨g, hword, hstart⟩ | ⟨_, _, _, _, hnone, -⟩
  · rw [hfetch] at hword
    obtain rfl := Option.some.inj hword
    refine ⟨{ g with assembly := disassemble instruction }, ?_⟩
    unfold stepped step
    rw [if_neg (by simp [hrunning]), hstart]
    dsimp only [StepState.decodeAndExecute]
    rw [hdecode]
    rfl
  · rw [hfetch] at hnone
    cases hnone

theorem execute_csr (g : Scratch) {instruction : DecodedInstruction}
    (hoperation : csrOperation instruction.operation = true) :
    (cpu.prepared g).execute instruction =
      (cpu.prepared { g with pc := cpu.pc + kInstructionBytes }).executeCsr instruction := by
  unfold StepState.execute
  cases h : instruction.operation <;> rw [h] at hoperation <;>
    first | rfl | exact absurd hoperation (by decide)

theorem step_overwrites (h : cpu.OverwritesMinstret) :
    cpu.step.2.retired = true ∧ cpu.step.1.csrs.minstret ≠ cpu.csrs.minstret + 1#64 := by
  obtain ⟨hrunning, hmachine, word, instruction, hfetch, hdecode, hoperation, haddress, hshould,
    hne⟩ := h
  obtain ⟨g, hstepped⟩ := stepped_of_fetched hrunning hfetch hdecode
  have hexecuted : (cpu.prepared g).execute instruction =
      (((cpu.prepared { g with pc := cpu.pc + kInstructionBytes }).setCsrs
        { cpu.csrs.tickCycle with
          minstret := StepState.csrNewValue instruction.operation cpu.csrs.minstret
            (cpu.start.csrOperand instruction) }).writeRegister instruction.rd
        cpu.csrs.minstret).complete := by
    rw [execute_csr g hoperation]
    unfold StepState.executeCsr
    rw [prepared_csrs, prepared_privilege, prepared_csrOperand, hmachine, haddress,
      CsrFile.read_minstret]
    dsimp only
    rw [if_pos hshould, CsrFile.write_minstret]
    rfl
  rw [hexecuted, StepState.retire_complete (by rw [StepState.writeRegister_record]; rfl)] at hstepped
  have hcpu : cpu.step.1 = _ := congrArg StepState.cpu hstepped
  have hrecord : cpu.step.2 = _ := congrArg StepState.record hstepped
  rw [hcpu, hrecord]
  refine ⟨rfl, ?_⟩
  simp only [StepState.finished, StepState.writeRegister_cpu]
  intro heq
  exact hne ((BitVec.add_left_inj 1#64).mp heq)

def AccountsExactly (cpu : Cpu) (maximumSteps : BitVec 64) : Prop :=
  let outcome := cpu.run maximumSteps []
  outcome.result.attemptedSteps.toNat = outcome.trace.length ∧
    outcome.result.retiredInstructions.toNat = outcome.trace.countP StepRecord.retired

instance (cpu : Cpu) (maximumSteps : BitVec 64) : Decidable (cpu.AccountsExactly maximumSteps) :=
  inferInstanceAs (Decidable (_ ∧ _))

theorem accountsExactly_iff (cpu : Cpu) (maximumSteps : BitVec 64) :
    cpu.AccountsExactly maximumSteps ↔
      (runs.state maximumSteps.toNat cpu).csrs.minstret =
        BitVec.ofNat 64 ((runs.records maximumSteps.toNat cpu).countP StepRecord.retired) := by
  have hcount : (runs.records maximumSteps.toNat cpu).countP StepRecord.retired < 2 ^ 64 := by
    have hlength := runs.records_length_le maximumSteps.toNat cpu
    have hle := List.countP_le_length (p := StepRecord.retired)
      (l := runs.records maximumSteps.toNat cpu)
    have hlt := maximumSteps.isLt
    omega
  rw [AccountsExactly, run_trace, run_attemptedSteps, run_retiredInstructions, List.nil_append,
    ← BitVec.toNat_inj, BitVec.toNat_ofNat, Nat.mod_eq_of_lt hcount]
  exact and_iff_right rfl

theorem runs_minstret {n : Nat} (hkept : ∀ k < n, ¬ (runs.state k cpu).OverwritesMinstret) :
    (runs.state n cpu).csrs.minstret = cpu.csrs.minstret +
      BitVec.ofNat 64 ((runs.records n cpu).countP StepRecord.retired) := by
  refine runs.traced_guarded (G := fun s => ¬ s.OverwritesMinstret)
    (P := fun first last records => last.csrs.minstret = first.csrs.minstret +
      BitVec.ofNat 64 (records.countP StepRecord.retired)) ?_ ?_ ?_ hkept
  · simp
  · intro a b c before after hbefore hafter
    rw [hafter, hbefore, List.countP_append, BitVec.ofNat_add, BitVec.add_assoc]
  · exact fun s hrunning hs => step_minstret hrunning hs

theorem accounts_exactly_iff_minstret_kept (bus : Bus) (config : CpuConfig) (entry : Address)
    (budget : BitVec 64) :
    (∀ maximumSteps ≤ budget, (reset bus config entry).AccountsExactly maximumSteps) ↔
      ∀ k < budget.toNat, ¬ (runs.state k (reset bus config entry)).OverwritesMinstret := by
  simp only [accountsExactly_iff]
  constructor
  · intro haccounts k hk hoverwrites
    have hbudget := budget.isLt
    have hat (m : Nat) (hm : m ≤ budget.toNat) := haccounts (BitVec.ofNat 64 m) (by
      rw [BitVec.le_def, BitVec.toNat_ofNat, Nat.mod_eq_of_lt (by omega)]
      exact hm)
    have hbefore := hat k (by omega)
    have hafter := hat (k + 1) (by omega)
    rw [BitVec.toNat_ofNat, Nat.mod_eq_of_lt (by omega)] at hbefore hafter
    have hrunning : runs.stopped (runs.state k (reset bus config entry)) = false := hoverwrites.1
    obtain ⟨hretired, hne⟩ := step_overwrites hoverwrites
    rw [runs.state_add, runs.records_add, runs.state_one hrunning, runs.records_one hrunning,
      List.countP_append, BitVec.ofNat_add, ← hbefore] at hafter
    apply hne
    refine hafter.trans (congrArg _ ?_)
    change BitVec.ofNat 64 ([(runs.state k (reset bus config entry)).step.2].countP
      StepRecord.retired) = 1#64
    simp [hretired]
  · intro hkept maximumSteps hle
    have hstate := runs_minstret (n := maximumSteps.toNat)
      (fun k hk => hkept k (Nat.lt_of_lt_of_le hk (BitVec.le_def.mp hle)))
    rw [hstate]
    exact BitVec.zero_add _

def minstretGuest : SparseRam :=
  .unwritten ⟨0x80000000#64, 0x3000#64, text "guest", by decide, by decide, by decide⟩

-- `csrrwi x0, minstret, 5`
def minstretBus : Bus :=
  ⟨[.sparseRam (minstretGuest.write 0#64 4 0xb022d073#64).1], List.pairwise_singleton _ _⟩

theorem accounting_overwritten_by_guest :
    ¬ ∀ (bus : Bus) (config : CpuConfig) (entry : Address) (maximumSteps : BitVec 64),
      (reset bus config entry).AccountsExactly maximumSteps := by
  intro h
  exact absurd (h minstretBus ⟨.halt, true, true⟩ 0x80000000#64 1#64) (by decide)

end Cpu

end Northstar64
