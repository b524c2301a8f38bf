import Northstar64.HartTranslation
import Northstar64.StoreLoad
import Northstar64.Library.Simulation

namespace Northstar64

def StepRecord.event (record : StepRecord) : Event where
  pc := record.pc
  privilege := record.privilege
  completion :=
    match record.trap with
    | some trap => .trapped ⟨trap.cause, trap.value⟩
    | none => .retired record.instruction

namespace Cpu

inductive Yields (cpu : Cpu) (word : BitVec 32) : StepState → Except Exception Hart → Prop where
  | done (s : StepState) (next : Hart) (untrapped : s.record.trap = none)
      (instruction : s.record.instruction = word) (reached : s.cpu.hart = next) :
      Yields cpu word s.complete (.ok next)
  | trapped (f : Scratch) (cause : TrapCause) (value : BitVec 64) (detail : Text) :
      Yields cpu word ((cpu.prepared f).raiseTrap cause value detail) (.error ⟨cause, value⟩)
  | broken (f : Scratch) (detail : Text) :
      Yields cpu word ((cpu.prepared f).raiseTrap .breakpoint 0#64 detail).haltAtBreakpoint
        (.error ⟨.breakpoint, 0#64⟩)

variable {cpu : Cpu} {f : Scratch} {word : BitVec 32}

theorem prepared_hart (cpu : Cpu) (f : Scratch) :
    (cpu.prepared f).cpu.hart = { cpu.hart.ticked with pc := f.pc } := rfl

theorem hart_writeRegister (s : StepState) (index : RegisterIndex) (value : BitVec 64) :
    (s.writeRegister index value).cpu.hart = s.cpu.hart.write index value := by
  rw [StepState.writeRegister_cpu, Hart.write]
  refine Hart.ext ?_ rfl rfl rfl rfl
  exact set_values _ _ _

theorem yields_register {s : StepState} {next : Hart} {index : RegisterIndex} {value : BitVec 64}
    (untrapped : s.record.trap = none) (instruction : s.record.instruction = word)
    (reached : s.cpu.hart.write index value = next) :
    cpu.Yields word (s.writeRegister index value).complete (.ok next) := by
  refine .done _ next ?_ ?_ ?_
  · rw [StepState.writeRegister_record]
    exact untrapped
  · rw [StepState.writeRegister_record]
    exact instruction
  · rw [hart_writeRegister, reached]

theorem yields_integer {t : StepState} {instruction : Rv64i.Instruction}
    (hword : f.instruction = word)
    (h : Delivers (cpu.prepared f) t (instruction.result cpu.registers.values cpu.pc)) :
    cpu.Yields word t (cpu.hart.ticked.execute word (.integer instruction)) := by
  change cpu.Yields word t
    (cpu.hart.ticked.deliver (instruction.result cpu.registers.values cpu.pc))
  cases hresult : instruction.result cpu.registers.values cpu.pc with
  | advance write next =>
    rw [hresult] at h
    obtain rfl : t = (setRegister ((cpu.prepared f).setPc next) write).complete := h
    cases write with
    | none => exact .done _ _ rfl hword rfl
    | some write => exact yields_register rfl hword rfl
  | misaligned target =>
    rw [hresult] at h
    obtain ⟨detail, rfl⟩ := h
    exact .trapped { f with pc := cpu.pc + kInstructionBytes } _ target detail

theorem isUnaligned_iff {width : Nat} (h : validWidth width = true) (address : Address) :
    StepState.isUnaligned address width = true ↔ address.toNat % width ≠ 0 := by
  have hmod : address % BitVec.ofNat 64 width ≠ 0#64 ↔ address.toNat % width ≠ 0 := by
    rw [ne_eq, ← BitVec.toNat_inj, BitVec.toNat_umod, BitVec.toNat_ofNat, Nat.mod_eq_of_lt (a := width)]
    · rfl
    · rcases validWidth_cases h with rfl | rfl | rfl | rfl <;> decide
  rw [StepState.isUnaligned, Bool.and_eq_true, decide_eq_true_iff, decide_eq_true_iff, hmod]
  refine ⟨fun hboth => hboth.2, fun hmisaligned => ⟨?_, hmisaligned⟩⟩
  by_contra hle
  rcases validWidth_cases h with rfl | rfl | rfl | rfl <;> omega

section Accesses
variable {width : Nat} (hwidth : validWidth width = true) (address : Address)
include hwidth

theorem load_hart (cpu : Cpu) (f : Scratch) (signed : Bool) :
    (∃ value g, cpu.hart.ticked.load address width = .ok value ∧ g.pc = f.pc ∧
      g.instruction = f.instruction ∧ (cpu.prepared f).load address width signed =
        (some (extended width signed value), cpu.prepared g)) ∨
    (∃ cause detail g, cpu.hart.ticked.load address width = .error ⟨cause, address⟩ ∧
      (cpu.prepared f).load address width signed =
        (none, (cpu.prepared g).raiseTrap cause address detail)) := by
  unfold StepState.load
  by_cases haligned : address.toNat % width = 0
  · rw [if_neg (mt (isUnaligned_iff hwidth address).mp (not_not_intro haligned))]
    rcases cpu.translate_hart f address .load with
      ⟨physical, hphysical, htranslate⟩ | ⟨cause, detail, hfault, htranslate⟩
    · have hload := cpu.hart.ticked.load_translated haligned hphysical
      have hmemory : cpu.hart.ticked.memory.load physical width = _ :=
        cpu.bus.flat_load physical width .load
      rw [hload, hmemory, htranslate]
      simp only [prepared_bus, Bus.read_snd, prepared_setBus]
      cases hread : (cpu.bus.read physical width .load).1 with
      | ok value =>
        refine .inl ⟨value, f.setTranslation .load ⟨address, physical⟩, rfl, rfl, rfl, ?_⟩
        obtain ⟨bytes, -, rfl⟩ := Bus.read_bytes hread
        dsimp only
        rw [extended_eq bytes hwidth]
      | error fault => exact .inr ⟨_, _, _, rfl, rfl⟩
    · have hload := cpu.hart.ticked.load_fault haligned hfault
      rw [htranslate]
      exact .inr ⟨_, _, _, hload, rfl⟩
  · rw [if_pos ((isUnaligned_iff hwidth address).mpr haligned), Hart.load, if_pos haligned]
    exact .inr ⟨_, _, f, rfl, rfl⟩

theorem store_hart (cpu : Cpu) (f : Scratch) (value : BitVec 64) :
    (∃ s : StepState, cpu.hart.ticked.store address width value = .ok s.cpu.hart.memory ∧
      s.record.trap = none ∧ s.record.instruction = f.instruction ∧
      s.cpu.hart = { cpu.hart.ticked with pc := f.pc, memory := s.cpu.hart.memory } ∧
      (cpu.prepared f).store address width value = (true, s)) ∨
    (∃ cause detail g, cpu.hart.ticked.store address width value = .error ⟨cause, address⟩ ∧
      (cpu.prepared f).store address width value =
        (false, (cpu.prepared g).raiseTrap cause address detail)) := by
  unfold StepState.store
  by_cases haligned : address.toNat % width = 0
  · rw [if_neg (mt (isUnaligned_iff hwidth address).mp (not_not_intro haligned))]
    dsimp only
    rcases cpu.translate_hart f address .store with
      ⟨physical, hphysical, htranslate⟩ | ⟨cause, detail, hfault, htranslate⟩
    · have hstore := cpu.hart.ticked.store_translated value haligned hphysical
      have hmemory : cpu.hart.ticked.memory.store physical width value =
          cpu.bus.flat.store physical width (value &&& maskForWidth width) :=
        cpu.bus.flat.store_masked hwidth physical value
      rw [hstore, hmemory, htranslate]
      simp only [prepared_bus]
      cases hwrite : (cpu.bus.write physical width (value &&& maskForWidth width) .store).2 with
      | none =>
        rw [Bus.flat_store hwrite]
        exact .inl ⟨_, rfl, rfl, rfl, rfl, rfl⟩
      | some fault =>
        rw [Bus.flat_store_fault hwrite, Bus.write_fault hwrite, prepared_setBus]
        exact .inr ⟨_, _, _, rfl, rfl⟩
    · have hstore := cpu.hart.ticked.store_fault value haligned hfault
      rw [htranslate]
      exact .inr ⟨_, _, _, hstore, rfl⟩
  · rw [if_pos ((isUnaligned_iff hwidth address).mpr haligned), Hart.store, if_pos haligned]
    exact .inr ⟨_, _, f, rfl, rfl⟩

end Accesses

theorem yields_advanced {s : StepState} (hs : s.cpu = (cpu.prepared f).cpu)
    (hpc : f.pc = cpu.pc + 4#64) (untrapped : s.record.trap = none)
    (instruction : s.record.instruction = word) :
    cpu.Yields word s.complete (.ok cpu.hart.ticked.advance) := by
  refine .done _ _ untrapped instruction ?_
  rw [hs, prepared_hart, hpc]
  rfl

section Execute
variable (hword : f.instruction = word)
include hword

theorem yields_load {width : Nat} {signed : Bool} (decoded : DecodedInstruction)
    (hwidth : validWidth width = true) (hpc : f.pc = cpu.pc + 4#64) :
    cpu.Yields word ((cpu.prepared f).executeLoad decoded width signed)
      (cpu.hart.ticked.execute word
        (.load width signed decoded.rd decoded.rs1 decoded.immediate)) := by
  unfold StepState.executeLoad
  dsimp only
  rcases load_hart hwidth (addOffset (cpu.registers.values decoded.rs1) decoded.immediate) cpu f
      signed with ⟨value, g, hload, hgpc, hgword, hs⟩ | ⟨cause, detail, g, hload, hs⟩
  · rw [prepared_registers, hs]
    dsimp only
    have hexecute : cpu.hart.ticked.execute word
        (.load width signed decoded.rd decoded.rs1 decoded.immediate) =
          .ok (cpu.hart.ticked.write decoded.rd (extended width signed value)).advance :=
      congrArg (fun result => result.bind (fun value => Except.ok
        (cpu.hart.ticked.write decoded.rd (extended width signed value)).advance)) hload
    rw [hexecute]
    refine yields_register rfl (hgword.trans hword) ?_
    rw [prepared_hart, hgpc, hpc]
    rfl
  · rw [prepared_registers, hs]
    have hexecute : cpu.hart.ticked.execute word
        (.load width signed decoded.rd decoded.rs1 decoded.immediate) = .error ⟨cause, _⟩ :=
      congrArg (fun result => result.bind (fun value => Except.ok
        (cpu.hart.ticked.write decoded.rd (extended width signed value)).advance)) hload
    rw [hexecute]
    exact .trapped g cause _ detail

theorem yields_store {width : Nat} (decoded : DecodedInstruction) (hwidth : validWidth width = true)
    (hpc : f.pc = cpu.pc + 4#64) :
    cpu.Yields word ((cpu.prepared f).executeStore decoded width)
      (cpu.hart.ticked.execute word (.store width decoded.rs1 decoded.rs2 decoded.immediate)) := by
  unfold StepState.executeStore
  dsimp only
  let next (memory : FlatMemory) : Except Exception Hart :=
    .ok ({ cpu.hart.ticked with memory := memory } : Hart).advance
  have hresult : cpu.hart.ticked.execute word
      (.store width decoded.rs1 decoded.rs2 decoded.immediate) =
        (cpu.hart.ticked.store (addOffset (cpu.registers.values decoded.rs1) decoded.immediate) width
          (cpu.registers.values decoded.rs2)).bind next := rfl
  rcases store_hart hwidth (addOffset (cpu.registers.values decoded.rs1) decoded.immediate) cpu f
      (cpu.registers.values decoded.rs2) with
    ⟨s, hstore, htrap, hsword, hhart, hs⟩ | ⟨cause, detail, g, hstore, hs⟩
  · rw [prepared_registers, hs, hresult, hstore]
    refine .done s _ htrap (hsword.trans hword) ?_
    rw [hhart, hpc]
    rfl
  · rw [prepared_registers, hs, hresult, hstore]
    exact .trapped g cause _ detail

theorem yields_sfenceVma (decoded : DecodedInstruction) (hraw : decoded.raw = word)
    (hpc : f.pc = cpu.pc + 4#64) :
    cpu.Yields word ((cpu.prepared f).executeSfenceVma decoded)
      (cpu.hart.ticked.execute word .sfenceVma) := by
  have hresult : cpu.hart.ticked.execute word .sfenceVma =
      if cpu.privilege = .user then .error ⟨.illegalInstruction, word.setWidth 64⟩
      else .ok cpu.hart.ticked.advance := rfl
  rw [StepState.executeSfenceVma, prepared_privilege, hresult, hraw]
  split_ifs
  · exact .trapped f _ _ _
  · exact yields_advanced rfl hpc rfl hword

theorem yields_return (mode : TrapReturnMode) :
    cpu.Yields word ((cpu.prepared f).applyReturn mode).complete
      (.ok (cpu.hart.ticked.returned mode)) :=
  .done _ _ rfl hword rfl

theorem yields_sret (decoded : DecodedInstruction) (hraw : decoded.raw = word) :
    cpu.Yields word ((cpu.prepared f).executeSret decoded)
      (cpu.hart.ticked.execute word .sret) := by
  have hresult : cpu.hart.ticked.execute word .sret =
      if cpu.privilege = .user then .error ⟨.illegalInstruction, word.setWidth 64⟩
      else .ok (cpu.hart.ticked.returned .supervisor) := rfl
  rw [StepState.executeSret, prepared_privilege, hresult, hraw]
  split_ifs
  · exact .trapped f _ _ _
  · exact yields_return hword .supervisor

theorem yields_mret (decoded : DecodedInstruction) (hraw : decoded.raw = word) :
    cpu.Yields word ((cpu.prepared f).executeMret decoded)
      (cpu.hart.ticked.execute word .mret) := by
  have hresult : cpu.hart.ticked.execute word .mret =
      if cpu.privilege ≠ .machine then .error ⟨.illegalInstruction, word.setWidth 64⟩
      else .ok (cpu.hart.ticked.returned .machine) := rfl
  rw [StepState.executeMret, prepared_privilege, hresult, hraw]
  split_ifs
  · exact .trapped f _ _ _
  · exact yields_return hword .machine

theorem yields_wfi (hpc : f.pc = cpu.pc + 4#64) :
    cpu.Yields word (cpu.prepared f).executeWfi (cpu.hart.ticked.execute word .wfi) := by
  unfold StepState.executeWfi
  split_ifs
  · refine .done _ _ rfl hword ?_
    change (cpu.prepared f).cpu.hart = _
    rw [prepared_hart, hpc]
    rfl
  · exact yields_advanced rfl hpc rfl hword

end Execute

theorem yields_ecall (cpu : Cpu) (f : Scratch) (word : BitVec 32) :
    cpu.Yields word (cpu.prepared f).executeEcall (cpu.hart.ticked.execute word .ecall) := by
  have hresult : cpu.hart.ticked.execute word .ecall =
      .error ⟨cpu.privilege.environmentCause, 0#64⟩ := rfl
  unfold StepState.executeEcall
  rw [prepared_privilege, hresult]
  cases cpu.privilege <;> exact .trapped f _ _ _

theorem yields_ebreak (cpu : Cpu) (f : Scratch) (word : BitVec 32) :
    cpu.Yields word (cpu.prepared f).executeEbreak (cpu.hart.ticked.execute word .ebreak) := by
  unfold StepState.executeEbreak
  dsimp only
  split_ifs
  · exact .broken f _
  · exact .trapped f _ _ _

structure CsrForm (decoded : DecodedInstruction) (action : CsrAction) (source : CsrSource) : Prop where
  operand : ∀ s : StepState, s.csrOperand decoded = s.cpu.hart.operand source
  combine : ∀ old operand,
    StepState.csrNewValue decoded.operation old operand = action.combine old operand
  writes : ∀ operand, StepState.csrShouldWrite decoded.operation operand = action.writes operand

theorem yields_csr {decoded : DecodedInstruction} {action : CsrAction} {source : CsrSource}
    (form : CsrForm decoded action source) (hraw : decoded.raw = word) (hword : f.instruction = word)
    (hpc : f.pc = cpu.pc + 4#64) :
    cpu.Yields word ((cpu.prepared f).executeCsr decoded)
      (cpu.hart.ticked.execute word (.csr action source decoded.rd decoded.csr)) := by
  have hresult : cpu.hart.ticked.execute word (.csr action source decoded.rd decoded.csr) =
      (Exception.unless ⟨.illegalInstruction, word.setWidth 64⟩
        (cpu.hart.ticked.csrAccess action source decoded.csr)).bind (fun access =>
          .ok (({ cpu.hart.ticked with csrs := access.2 } : Hart).write decoded.rd access.1).advance) :=
    rfl
  have hoperand : (cpu.prepared f).csrOperand decoded = cpu.hart.ticked.operand source := by
    rw [form.operand, prepared_hart]
    cases source <;> rfl
  have hcsrs : cpu.hart.ticked.csrs = cpu.csrs.tickCycle := rfl
  have hprivilege : cpu.hart.ticked.privilege = cpu.privilege := rfl
  rw [hresult, StepState.executeCsr, Hart.csrAccess, hoperand, hraw, prepared_csrs,
    prepared_privilege, hcsrs, hprivilege]
  cases cpu.csrs.tickCycle.read decoded.csr cpu.privilege with
  | error error => exact .trapped f _ _ _
  | ok old =>
    have hold : (Except.ok old : CsrReadResult).toOption = some old := rfl
    dsimp only
    rw [form.combine, form.writes, hold, Option.bind_some]
    cases action.writes (cpu.hart.ticked.operand source) with
    | false =>
      refine yields_register rfl hword ?_
      rw [prepared_hart, hpc]
      rfl
    | true =>
      rw [if_pos rfl, if_pos rfl]
      cases cpu.csrs.tickCycle.write decoded.csr
          (action.combine old (cpu.hart.ticked.operand source)) cpu.privilege with
      | error error => exact .trapped f _ _ _
      | ok csrs =>
        refine yields_register rfl hword ?_
        change ({ cpu.hart.ticked with pc := f.pc, csrs := csrs } : Hart).write decoded.rd old = _
        rw [hpc]
        rfl

theorem csrForm_of {word : BitVec 32} {operation : Operation} {action : CsrAction}
    {source : CsrSource} {rd : RegisterIndex} {address : BitVec 16}
    (h : Instruction.ofWord word operation = some (.csr action source rd address)) :
    CsrForm (decodedAs word operation) action source ∧ rd = (decodedAs word operation).rd ∧
      address = (decodedAs word operation).csr := by
  have haddress : (decodedAs word operation).csr = (word.extractLsb' 20 12).setWidth 16 := by
    rw [decodedAs, show (0xfff#32) = BitMask.low 32 12 from rfl,
      Slices.shift_and_low_setWidth word 20 12 16 (by decide)]
  cases operation
  case csrrw | csrrs | csrrc | csrrwi | csrrsi | csrrci =>
    obtain ⟨rfl, rfl, rfl, rfl⟩ := Instruction.csr.inj (Option.some.inj h)
    exact ⟨⟨fun _ => rfl, fun _ _ => rfl, fun _ => rfl⟩, rfl, haddress.symm⟩
  all_goals cases h

theorem ofWord_integer {operation : Operation} {integer : Rv64i.Instruction}
    (h : integerForm word operation = some integer) :
    Instruction.ofWord word operation = some (.integer integer) := by
  have hmap := congrArg (Option.map Instruction.integer) h
  cases operation
  case lb | lh | lw | ld | lbu | lhu | lwu | sb | sh | sw | sd => cases h
  case fence | fenceI | sfenceVma | ecall | ebreak | sret | mret | wfi => cases h
  case csrrw | csrrs | csrrc | csrrwi | csrrsi | csrrci => cases h
  all_goals exact hmap

theorem ofWord_isSome (word : BitVec 32) (operation : Operation) :
    ∃ instruction, Instruction.ofWord word operation = some instruction := by
  cases operation <;> exact ⟨_, rfl⟩

theorem yields_execute {operation : Operation} {instruction : Instruction}
    (hword : f.instruction = word) (h : Instruction.ofWord word operation = some instruction) :
    cpu.Yields word ((cpu.prepared f).execute (decodedAs word operation))
      (cpu.hart.ticked.execute word instruction) := by
  let g : Scratch := { f with pc := cpu.pc + kInstructionBytes }
  have hI := immediateI_eq word
  have hS := immediateS_eq word
  cases hform : integerForm word operation with
  | some integer =>
    obtain rfl := Option.some.inj ((ofWord_integer hform).symm.trans h)
    exact yields_integer hword (execute_integer (cpu.prepared f) word hform)
  | none =>
    cases operation
    case lb | lh | lw | ld | lbu | lhu | lwu =>
      obtain rfl := Option.some.inj h
      rw [← hI]
      exact yields_load (f := g) hword (decodedAs word _) rfl rfl
    case sb | sh | sw | sd =>
      obtain rfl := Option.some.inj h
      rw [← hS]
      exact yields_store (f := g) hword (decodedAs word _) rfl rfl
    case fence | fenceI =>
      obtain rfl := Option.some.inj h
      exact yields_advanced (f := g) rfl rfl rfl hword
    case sfenceVma =>
      obtain rfl := Option.some.inj h
      exact yields_sfenceVma (f := g) hword (decodedAs word _) rfl rfl
    case ecall =>
      obtain rfl := Option.some.inj h
      exact yields_ecall cpu g word
    case ebreak =>
      obtain rfl := Option.some.inj h
      exact yields_ebreak cpu g word
    case sret =>
      obtain rfl := Option.some.inj h
      exact yields_sret (f := g) hword (decodedAs word _) rfl
    case mret =>
      obtain rfl := Option.some.inj h
      exact yields_mret (f := g) hword (decodedAs word _) rfl
    case wfi =>
      obtain rfl := Option.some.inj h
      exact yields_wfi (f := g) hword rfl
    case csrrw | csrrs | csrrc | csrrwi | csrrsi | csrrci =>
      obtain ⟨action, source, rd, address, rfl⟩ :
          ∃ action source rd address, instruction = .csr action source rd address :=
        ⟨_, _, _, _, (Option.some.inj h).symm⟩
      obtain ⟨form, rfl, rfl⟩ := csrForm_of h
      exact yields_csr (f := g) form rfl hword rfl
    all_goals cases hform

end Cpu

end Northstar64
