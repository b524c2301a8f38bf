import Northstar64.CpuStep

namespace Northstar64

namespace StepRecord

def translationOf (record : StepRecord) : VirtualAccess → Option AddressTranslation
  | .instructionFetch => record.instructionTranslation
  | _ => record.dataTranslation

end StepRecord

def loadForm : Operation → Option (Nat × Bool)
  | .lb => some (1, true)
  | .lh => some (2, true)
  | .lw => some (4, true)
  | .ld => some (8, true)
  | .lbu => some (1, false)
  | .lhu => some (2, false)
  | .lwu => some (4, false)
  | _ => none

def storeForm : Operation → Option Nat
  | .sb => some 1
  | .sh => some 2
  | .sw => some 4
  | .sd => some 8
  | _ => none

namespace StepState
variable (s : StepState) (instruction : DecodedInstruction)

theorem execute_load {width : Nat} {signed : Bool}
    (h : loadForm instruction.operation = some (width, signed)) :
    s.execute instruction =
      (s.setPc (s.record.pc + kInstructionBytes)).executeLoad instruction width signed := by
  cases hoperation : instruction.operation
  all_goals rw [hoperation] at h
  case lb | lh | lw | ld | lbu | lhu | lwu =>
    obtain ⟨rfl, rfl⟩ := Prod.mk.inj (Option.some.inj h)
    simp only [execute, hoperation]
  all_goals cases h

theorem execute_store {width : Nat} (h : storeForm instruction.operation = some width) :
    s.execute instruction =
      (s.setPc (s.record.pc + kInstructionBytes)).executeStore instruction width := by
  cases hoperation : instruction.operation
  all_goals rw [hoperation] at h
  case sb | sh | sw | sd =>
    obtain rfl := Option.some.inj h
    simp only [execute, hoperation]
  all_goals cases h

theorem complete_translationOf (kind : VirtualAccess) :
    s.complete.record.translationOf kind = s.record.translationOf kind := by
  unfold complete
  split_ifs <;> cases kind <;> rfl

theorem retire_translationOf (kind : VirtualAccess) :
    s.retire.record.translationOf kind = s.record.translationOf kind := by
  unfold retire setCsrs
  dsimp only
  split_ifs <;> rfl

theorem writeRegister_translationOf (index : RegisterIndex) (value : BitVec 64)
    (kind : VirtualAccess) :
    (s.writeRegister index value).record.translationOf kind = s.record.translationOf kind := by
  rw [writeRegister_record]
  cases kind <;> rfl

theorem raiseTrap_translationOf (cause : TrapCause) (value : BitVec 64) (detail : Text)
    (kind : VirtualAccess) :
    (s.raiseTrap cause value detail).record.translationOf kind = s.record.translationOf kind := by
  cases kind <;> rfl

theorem translate_fetched (address : Address) {access : VirtualAccess}
    (haccess : access ≠ .instructionFetch) :
    (s.translate address access).2.record.instructionTranslation =
      s.record.instructionTranslation := by
  unfold translate
  cases access with
  | instructionFetch => exact absurd rfl haccess
  | load =>
    dsimp only
    split_ifs
    · rfl
    · split
      · split_ifs <;> rfl
      · rfl
  | store =>
    dsimp only
    split_ifs
    · rfl
    · split
      · split_ifs <;> rfl
      · rfl

theorem load_fetched (address : Address) (width : Nat) (signed : Bool) :
    (s.load address width signed).2.record.instructionTranslation =
      s.record.instructionTranslation := by
  have htranslate : (s.translate address .load).2.record.instructionTranslation =
      s.record.instructionTranslation := s.translate_fetched address (by decide)
  unfold load
  by_cases hunaligned : isUnaligned address width = true
  · rw [if_pos hunaligned]
    rfl
  · rw [if_neg hunaligned]
    revert htranslate
    generalize s.translate address .load = translated
    obtain ⟨_ | physical, t⟩ := translated
    · exact id
    · intro htranslate
      dsimp only
      split <;> exact htranslate

theorem store_fetched (address : Address) (width : Nat) (value : BitVec 64) :
    (s.store address width value).2.record.instructionTranslation =
      s.record.instructionTranslation := by
  have htranslate : (s.translate address .store).2.record.instructionTranslation =
      s.record.instructionTranslation := s.translate_fetched address (by decide)
  unfold store
  by_cases hunaligned : isUnaligned address width = true
  · rw [if_pos hunaligned]
    rfl
  · rw [if_neg hunaligned]
    revert htranslate
    generalize s.translate address .store = translated
    obtain ⟨_ | physical, t⟩ := translated
    · exact id
    · intro htranslate
      dsimp only
      split <;> exact htranslate

theorem executeLoad_fetched (width : Nat) (signed : Bool) :
    (s.executeLoad instruction width signed).record.instructionTranslation =
      s.record.instructionTranslation := by
  have hload := s.load_fetched (addOffset (s.cpu.registers.values instruction.rs1)
    instruction.immediate) width signed
  unfold executeLoad
  dsimp only
  revert hload
  generalize s.load _ width signed = loaded
  obtain ⟨_ | value, t⟩ := loaded
  · exact id
  · intro hload
    exact ((t.writeRegister _ _).complete_translationOf .instructionFetch).trans
      ((t.writeRegister_translationOf _ _ .instructionFetch).trans hload)

theorem executeStore_fetched (width : Nat) :
    (s.executeStore instruction width).record.instructionTranslation =
      s.record.instructionTranslation := by
  have hstore := s.store_fetched (addOffset (s.cpu.registers.values instruction.rs1)
    instruction.immediate) width (s.cpu.registers.values instruction.rs2)
  unfold executeStore
  dsimp only
  revert hstore
  generalize s.store _ width _ = stored
  obtain ⟨_ | _, t⟩ := stored
  · exact id
  · intro hstore
    exact (t.complete_translationOf .instructionFetch).trans hstore

theorem executeRegister_fetched (value : BitVec 64) :
    (s.executeRegister instruction value).record.instructionTranslation =
      s.record.instructionTranslation :=
  ((s.writeRegister _ value).complete_translationOf .instructionFetch).trans
    (s.writeRegister_translationOf _ value .instructionFetch)

theorem branch_fetched (taken : Bool) :
    (s.branch instruction taken).complete.record.instructionTranslation =
      s.record.instructionTranslation := by
  refine ((s.branch instruction taken).complete_translationOf .instructionFetch).trans ?_
  unfold branch
  dsimp only
  split_ifs <;> rfl

theorem jump_fetched (target : Address) :
    (s.jump instruction target).record.instructionTranslation =
      s.record.instructionTranslation := by
  unfold jump
  split_ifs
  · rfl
  · exact (complete_translationOf _ .instructionFetch).trans
      (s.writeRegister_translationOf _ _ .instructionFetch)

theorem executeCsr_fetched :
    (s.executeCsr instruction).record.instructionTranslation =
      s.record.instructionTranslation := by
  have hregister (t : StepState) (value : BitVec 64) :
      (t.writeRegister instruction.rd value).complete.record.instructionTranslation =
        t.record.instructionTranslation := t.executeRegister_fetched instruction value
  unfold executeCsr
  cases s.cpu.csrs.read instruction.csr s.cpu.privilege with
  | error error => rfl
  | ok oldValue =>
    dsimp only
    split_ifs
    · split
      · rfl
      · exact hregister _ _
    · exact hregister _ _

theorem execute_fetched :
    (s.execute instruction).record.instructionTranslation = s.record.instructionTranslation := by
  let t := s.setPc (s.record.pc + kInstructionBytes)
  have hcomplete (u : StepState) :
      u.complete.record.instructionTranslation = u.record.instructionTranslation :=
    u.complete_translationOf .instructionFetch
  cases hoperation : instruction.operation
  all_goals simp only [execute, hoperation]
  case beq | bne | blt | bge | bltu | bgeu => exact t.branch_fetched instruction _
  case jal | jalr => exact t.jump_fetched instruction _
  case lb | lh | lw | ld | lbu | lhu | lwu => exact t.executeLoad_fetched instruction _ _
  case sb | sh | sw | sd => exact t.executeStore_fetched instruction _
  case fence | fenceI => exact hcomplete t
  case sfenceVma =>
    unfold executeSfenceVma
    split_ifs
    · rfl
    · exact hcomplete t
  case ecall =>
    unfold executeEcall
    split <;> rfl
  case ebreak =>
    unfold executeEbreak
    dsimp only
    split_ifs <;> rfl
  case sret =>
    unfold executeSret
    split_ifs
    · rfl
    · exact hcomplete _
  case mret =>
    unfold executeMret
    split_ifs
    · rfl
    · exact hcomplete _
  case wfi =>
    unfold executeWfi
    split_ifs
    · exact hcomplete t.haltAtWfi
    · exact hcomplete t
  case csrrw | csrrs | csrrc | csrrwi | csrrsi | csrrci => exact t.executeCsr_fetched instruction
  all_goals exact t.executeRegister_fetched instruction _

theorem decodeAndExecute_fetched (word : BitVec 32) :
    (s.decodeAndExecute word).record.instructionTranslation = s.record.instructionTranslation := by
  unfold decodeAndExecute
  cases decode word with
  | error error => rfl
  | ok decoded =>
    exact (retire_translationOf _ .instructionFetch).trans (execute_fetched _ decoded)

end StepState

end Northstar64
