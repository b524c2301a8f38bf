import Northstar64.Disassembly
import Northstar64.Issue
import Northstar64.Library.Results

namespace Northstar64

namespace StepState

structure Frame (P : StepState → Prop) : Prop where
  raiseTrap : ∀ {s}, P s → ∀ cause value detail, P (s.raiseTrap cause value detail)
  haltAtBreakpoint : ∀ {s}, P s → P s.haltAtBreakpoint
  haltAtWfi : ∀ {s}, P s → P s.haltAtWfi
  applyReturn : ∀ {s}, P s → ∀ mode, P (s.applyReturn mode)
  setPc : ∀ {s}, P s → ∀ pc, P (s.setPc pc)
  setBus : ∀ {s}, P s → ∀ bus, P (s.setBus bus)
  setCsrs : ∀ {s}, P s → ∀ csrs, P (s.setCsrs csrs)
  setTranslation : ∀ {s}, P s → ∀ access translation, P (s.setTranslation access translation)
  writeRegister : ∀ {s}, P s → ∀ index value, P (s.writeRegister index value)
  recordWrite : ∀ {s}, P s → ∀ write,
    P { s with record := { s.record with memoryWrite := some write } }
  complete : ∀ {s}, P s → P s.complete
  retire : ∀ {s}, P s → P s.retire

namespace Frame
variable {P : StepState → Prop} (frame : Frame P) {s : StepState} (h : P s)
  (instruction : DecodedInstruction)
include frame h

theorem translate (address : Address) (access : VirtualAccess) :
    P (s.translate address access).2 := by
  unfold StepState.translate
  split_ifs with hidentity
  · exact frame.setTranslation h access _
  · have hbus := frame.setBus h (walkSv39 s.cpu.bus address (walkContext s.cpu access)).2
    dsimp only
    cases (walkSv39 s.cpu.bus address (walkContext s.cpu access)).1 with
    | error fault =>
      dsimp only
      split_ifs
      · exact frame.raiseTrap hbus _ _ _
      · exact frame.raiseTrap hbus _ _ _
    | ok translation => exact frame.setTranslation hbus access _

theorem load (address : Address) (width : Nat) (signed : Bool) :
    P (s.load address width signed).2 := by
  have htranslate := frame.translate h address .load
  unfold StepState.load
  by_cases hunaligned : isUnaligned address width = true
  · rw [if_pos hunaligned]
    exact frame.raiseTrap h _ _ _
  · rw [if_neg hunaligned]
    generalize s.translate address .load = translated at htranslate
    obtain ⟨_ | physical, t⟩ := translated
    · exact htranslate
    · have hbus := frame.setBus htranslate (t.cpu.bus.read physical width .load).2
      dsimp only
      cases (t.cpu.bus.read physical width .load).1 with
      | error fault => exact frame.raiseTrap hbus _ _ _
      | ok value => exact hbus

theorem store (address : Address) (width : Nat) (value : BitVec 64) :
    P (s.store address width value).2 := by
  have htranslate := frame.translate h address .store
  unfold StepState.store
  split_ifs
  · exact frame.raiseTrap h _ _ _
  · dsimp only
    generalize s.translate address .store = translated at htranslate
    obtain ⟨_ | physical, t⟩ := translated
    · exact htranslate
    · have hbus := frame.setBus htranslate
        (t.cpu.bus.write physical width (value &&& maskForWidth width) .store).1
      dsimp only
      cases (t.cpu.bus.write physical width (value &&& maskForWidth width) .store).2 with
      | some fault => exact frame.raiseTrap hbus _ _ _
      | none => exact frame.recordWrite hbus _

theorem executeLoad (width : Nat) (signed : Bool) :
    P (s.executeLoad instruction width signed) := by
  have hload := frame.load h (addOffset (s.cpu.registers.values instruction.rs1)
    instruction.immediate) width signed
  unfold StepState.executeLoad
  dsimp only
  generalize s.load _ width signed = loaded at hload
  obtain ⟨_ | value, t⟩ := loaded
  · exact hload
  · exact frame.complete (frame.writeRegister hload _ _)

theorem executeStore (width : Nat) : P (s.executeStore instruction width) := by
  have hstore := frame.store h (addOffset (s.cpu.registers.values instruction.rs1)
    instruction.immediate) width (s.cpu.registers.values instruction.rs2)
  unfold StepState.executeStore
  dsimp only
  generalize s.store _ width _ = stored at hstore
  obtain ⟨_ | _, t⟩ := stored
  · exact hstore
  · exact frame.complete hstore

theorem executeRegister (value : BitVec 64) : P (s.executeRegister instruction value) :=
  frame.complete (frame.writeRegister h _ _)

theorem branch (taken : Bool) : P (s.branch instruction taken) := by
  unfold StepState.branch
  dsimp only
  split_ifs
  · exact h
  · exact frame.raiseTrap h _ _ _
  · exact frame.setPc h _

theorem jump (target : Address) : P (s.jump instruction target) := by
  unfold StepState.jump
  split_ifs
  · exact frame.raiseTrap h _ _ _
  · exact frame.complete (frame.setPc (frame.writeRegister h _ _) _)

theorem executeEcall : P s.executeEcall := by
  unfold StepState.executeEcall
  cases s.cpu.privilege <;> exact frame.raiseTrap h _ _ _

theorem executeEbreak : P s.executeEbreak := by
  have htrap := frame.raiseTrap h .breakpoint 0#64 (text "EBREAK requested a debugger trap")
  unfold StepState.executeEbreak
  dsimp only
  split_ifs
  · exact frame.haltAtBreakpoint htrap
  · exact htrap

theorem executeSret : P (s.executeSret instruction) := by
  unfold StepState.executeSret
  split_ifs
  · exact frame.raiseTrap h _ _ _
  · exact frame.complete (frame.applyReturn h _)

theorem executeMret : P (s.executeMret instruction) := by
  unfold StepState.executeMret
  split_ifs
  · exact frame.raiseTrap h _ _ _
  · exact frame.complete (frame.applyReturn h _)

theorem executeSfenceVma : P (s.executeSfenceVma instruction) := by
  unfold StepState.executeSfenceVma
  split_ifs
  · exact frame.raiseTrap h _ _ _
  · exact frame.complete h

theorem executeWfi : P s.executeWfi := by
  unfold StepState.executeWfi
  split_ifs
  · exact frame.complete (frame.haltAtWfi h)
  · exact frame.complete h

theorem executeCsr : P (s.executeCsr instruction) := by
  unfold StepState.executeCsr
  cases s.cpu.csrs.read instruction.csr s.cpu.privilege with
  | error error => exact frame.raiseTrap h _ _ _
  | ok oldValue =>
    dsimp only
    split_ifs
    · split
      · exact frame.raiseTrap h _ _ _
      · exact frame.executeRegister (frame.setCsrs h _) instruction _
    · exact frame.executeRegister h instruction _

theorem execute : P (s.execute instruction) := by
  have hnext := frame.setPc h (s.record.pc + kInstructionBytes)
  cases hoperation : instruction.operation
  all_goals simp only [StepState.execute, hoperation]
  case beq | bne | blt | bge | bltu | bgeu => exact frame.complete (frame.branch hnext instruction _)
  case jal | jalr => exact frame.jump hnext instruction _
  case lb | lh | lw | ld | lbu | lhu | lwu => exact frame.executeLoad hnext instruction _ _
  case sb | sh | sw | sd => exact frame.executeStore hnext instruction _
  case fence | fenceI => exact frame.complete hnext
  case sfenceVma => exact frame.executeSfenceVma hnext instruction
  case ecall => exact frame.executeEcall hnext
  case ebreak => exact frame.executeEbreak hnext
  case sret => exact frame.executeSret hnext instruction
  case mret => exact frame.executeMret hnext instruction
  case wfi => exact frame.executeWfi hnext
  case csrrw | csrrs | csrrc | csrrwi | csrrsi | csrrci =>
    exact frame.executeCsr hnext instruction
  all_goals exact frame.executeRegister hnext instruction _

end Frame

theorem frame_names (Q : Text → BitVec 32 → Prop) :
    Frame (fun s => Q s.record.assembly s.record.instruction) where
  raiseTrap h _ _ _ := h
  haltAtBreakpoint h := h
  haltAtWfi h := h
  applyReturn h _ := h
  setPc h _ := h
  setBus h _ := h
  setCsrs h _ := h
  setTranslation h access _ := by cases access <;> exact h
  writeRegister h index value := by
    rw [writeRegister_record]
    exact h
  recordWrite h _ := h
  complete h := by
    unfold complete
    split_ifs <;> exact h
  retire h := by
    unfold retire
    dsimp only
    split_ifs <;> exact h

theorem fetch_names (s : StepState) (h : s.record.assembly = []) :
    s.fetch.2.record.assembly = [] ∧
      ∀ word, s.fetch.1 = some word → s.fetch.2.record.instruction = word := by
  have htranslate := (frame_names (fun assembly _ => assembly = [])).translate h s.cpu.pc
    .instructionFetch
  unfold fetch
  by_cases hmisaligned : isMisaligned s.cpu.pc = true
  · rw [if_pos hmisaligned]
    exact ⟨h, nofun⟩
  · rw [if_neg hmisaligned]
    generalize s.translate s.cpu.pc .instructionFetch = translated at htranslate
    obtain ⟨_ | physical, t⟩ := translated
    · exact ⟨htranslate, nofun⟩
    · dsimp only
      cases (t.cpu.bus.read physical kInstructionBytes.toNat .instructionFetch).1 with
      | error fault => exact ⟨htranslate, nofun⟩
      | ok value => exact ⟨htranslate, fun word hword => Option.some.inj hword⟩

theorem decodeAndExecute_names (s : StepState) :
    (s.decodeAndExecute s.record.instruction).record.assembly =
        assemblyOf s.record.instruction ∧
      (s.decodeAndExecute s.record.instruction).record.instruction = s.record.instruction := by
  let word := s.record.instruction
  have frame := frame_names (fun assembly instruction =>
    assembly = assemblyOf word ∧ instruction = word)
  unfold decodeAndExecute
  cases hdecode : decode s.record.instruction with
  | error error =>
    have hlabel : text ".word " ++ toDecimal word.toNat = assemblyOf word := by
      simp only [assemblyOf, word, hdecode]
    have hnamed := frame.raiseTrap (s := s.setAssembly _) ⟨hlabel, rfl⟩ .illegalInstruction
      (word.setWidth 64) error.detail
    exact hnamed
  | ok decoded =>
    have hlabel : disassemble decoded = assemblyOf word := by
      simp only [assemblyOf, word, hdecode]
    have hnamed := frame.execute (s := s.setAssembly _) ⟨hlabel, rfl⟩ decoded
    exact frame.retire hnamed

end StepState

namespace Cpu

def FetchedAt (cpu : Cpu) (records : List StepRecord) (record : StepRecord)
    (fetched : Option (BitVec 32)) : Prop :=
  ∃ index, records[index]? = some record ∧ (runs.state index cpu).fetchedWord = fetched

structure Labels (cpu : Cpu) (records : List StepRecord) : Prop where
  word : ∀ record word, cpu.FetchedAt records record (some word) →
    record.instruction = word ∧ record.assembly ≠ []
  decoded : ∀ record word instruction, cpu.FetchedAt records record (some word) →
    decode word = .ok instruction → record.assembly = disassemble instruction
  undecoded : ∀ record word error, cpu.FetchedAt records record (some word) →
    decode word = .error error → record.assembly = text ".word " ++ toDecimal word.toNat
  unfetched : ∀ record, cpu.FetchedAt records record none → record.assembly = []

structure NamesInstructions (first second : Cpu) (left right : List StepRecord) : Prop where
  labels : first.Labels left ∧ second.Labels right
  names : ∀ r v s w, first.FetchedAt left r (some v) → second.FetchedAt right s (some w) →
    (r.assembly = s.assembly ↔ v = w ∨ (IsFence v ∧ IsFence w))

variable {cpu : Cpu}

theorem step_assembly (running : cpu.halted = false) :
    cpu.step.2.assembly = cpu.fetchedWord.elim [] assemblyOf ∧
      ∀ word, cpu.fetchedWord = some word → cpu.step.2.instruction = word := by
  obtain ⟨hunnamed, hword⟩ := cpu.start.fetch_names rfl
  unfold step fetchedWord
  rw [if_neg (by simp [running])]
  generalize cpu.start.fetch = fetched at hunnamed hword
  obtain ⟨_ | word, s⟩ := fetched
  · exact ⟨hunnamed, nofun⟩
  · have hinstruction : s.record.instruction = word := hword word rfl
    subst hinstruction
    obtain ⟨hassembly, hkept⟩ := s.decodeAndExecute_names
    exact ⟨hassembly, fun word hfetched => hkept.trans (Option.some.inj hfetched)⟩

theorem run_assembly {maximumSteps : BitVec 64} {record : StepRecord}
    {fetched : Option (BitVec 32)}
    (h : cpu.FetchedAt (cpu.run maximumSteps []).trace record fetched) :
    record.assembly = fetched.elim [] assemblyOf ∧
      ∀ word, fetched = some word → record.instruction = word := by
  obtain ⟨index, hrecord, rfl⟩ := h
  rw [run_trace, List.nil_append] at hrecord
  obtain ⟨-, hrunning, rfl⟩ := runs.records_getElem? hrecord
  exact step_assembly hrunning

theorem run_labels (cpu : Cpu) (maximumSteps : BitVec 64) :
    cpu.Labels (cpu.run maximumSteps []).trace where
  word := by
    intro record word h
    obtain ⟨hassembly, hinstruction⟩ := run_assembly h
    exact ⟨hinstruction word rfl, hassembly ▸ assemblyOf_ne_nil word⟩
  decoded := by
    intro record word instruction h hdecode
    rw [(run_assembly h).1, Option.elim_some, assemblyOf, hdecode]
  undecoded := by
    intro record word error h hdecode
    rw [(run_assembly h).1, Option.elim_some, assemblyOf, hdecode]
  unfetched record h := (run_assembly h).1

theorem trace_assembly_names_instructions (first second : Cpu)
    (firstSteps secondSteps : BitVec 64) :
    NamesInstructions first second (first.run firstSteps []).trace
      (second.run secondSteps []).trace where
  labels := ⟨first.run_labels firstSteps, second.run_labels secondSteps⟩
  names := by
    intro r v s w hleft hright
    rw [(run_assembly hleft).1, (run_assembly hright).1]
    exact assemblyOf_eq_iff v w

-- addi x0, x0, 0 ; then a word that is no instruction
def unlistedCpu : Cpu := codeCpu 0xffffffff00000013#64

theorem trace_assembly_names_instructions_unlisted :
    ∃ r s, unlistedCpu.FetchedAt (unlistedCpu.run 2#64 []).trace r (some 0x13#32) ∧
      unlistedCpu.FetchedAt (unlistedCpu.run 2#64 []).trace s (some 0xffffffff#32) ∧
      r.assembly = disassemble ⟨.addi, 0x13#32, 0#5, 0#5, 0#5, 0#64, 0#16⟩ ∧
      s.assembly = text ".word " ++ toDecimal 0xffffffff ∧ r.assembly ≠ s.assembly := by
  have hnames := trace_assembly_names_instructions unlistedCpu unlistedCpu 2#64 2#64
  have hlength : (unlistedCpu.run 2#64 []).trace.length = 2 := by decide +kernel
  obtain ⟨error, herror⟩ :=
    Results.exists_error (show (decode 0xffffffff#32).isOk = false by decide)
  obtain ⟨r, s, hrecords⟩ := List.length_eq_two.mp hlength
  have hr : unlistedCpu.FetchedAt (unlistedCpu.run 2#64 []).trace r (some 0x13#32) :=
    ⟨0, by rw [hrecords]; rfl, by decide +kernel⟩
  have hs : unlistedCpu.FetchedAt (unlistedCpu.run 2#64 []).trace s (some 0xffffffff#32) :=
    ⟨1, by rw [hrecords]; rfl, by decide +kernel⟩
  refine ⟨r, s, hr, hs, hnames.labels.1.decoded r _ _ hr (by decide +kernel),
    hnames.labels.2.undecoded s _ error hs herror, ?_⟩
  rw [ne_eq, hnames.names r _ s _ hr hs]
  rintro (hword | ⟨-, hfence⟩)
  · exact absurd hword (by decide)
  · exact absurd hfence (by unfold IsFence; decide +kernel)

end Cpu

end Northstar64
