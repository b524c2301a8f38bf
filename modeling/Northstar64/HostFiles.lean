import Northstar64.CommandLine
import Northstar64.TracedRun

namespace Northstar64

section Files
variable (host : Host) (path : Text)

structure Reads (input : OpenedFile) (bytes : List Byte) : Prop where
  opened : host.files path = some input
  sized : 0 ≤ input.tellg.toInt
  allocated : host.allocationFailure input.tellg = none
  rewound : input.rewinds = true
  whole : input.tellg.toNat ≤ input.contents.length
  bytes : bytes = input.contents.take input.tellg.toNat

inductive Unreadable : Text → Prop
  | missing (unopened : host.files path = none) :
      Unreadable (text "cannot open ELF file: " ++ path)
  | unsized {input : OpenedFile} (opened : host.files path = some input)
      (negative : input.tellg.toInt < 0) :
      Unreadable (text "cannot determine ELF file size: " ++ path)
  | unallocated {input : OpenedFile} {what : Text} (opened : host.files path = some input)
      (sized : 0 ≤ input.tellg.toInt) (thrown : host.allocationFailure input.tellg = some what) :
      Unreadable what
  | unread {input : OpenedFile} (opened : host.files path = some input)
      (sized : 0 ≤ input.tellg.toInt) (allocated : host.allocationFailure input.tellg = none)
      (short : input.rewinds = false ∨ input.contents.length < input.tellg.toNat) :
      Unreadable (text "failed while reading ELF file: " ++ path)

theorem readFile_cases :
    (∃ input bytes, readFile host path = .ok bytes ∧ Reads host path input bytes) ∨
      ∃ what, readFile host path = .error what ∧ Unreadable host path what := by
  cases hopened : host.files path with
  | none =>
    refine .inr ⟨_, ?_, .missing hopened⟩
    simp only [readFile, hopened]
  | some input =>
    by_cases hsized : input.tellg.toInt < 0
    · refine .inr ⟨_, ?_, .unsized hopened hsized⟩
      simp only [readFile, hopened, if_pos hsized]
    · have hfits : ¬ input.tellg > kSizeMax :=
        BitVec.not_lt.mpr (BitVec.le_def.mpr (Nat.le_sub_one_of_lt input.tellg.isLt))
      cases hallocated : host.allocationFailure input.tellg with
      | some what =>
        refine .inr ⟨_, ?_, .unallocated hopened (not_lt.mp hsized) hallocated⟩
        simp only [readFile, hopened, if_neg hsized, if_neg hfits, hallocated]
      | none =>
        by_cases hshort : input.rewinds = false ∨ input.contents.length < input.tellg.toNat
        · refine .inr ⟨_, ?_, .unread hopened (not_lt.mp hsized) hallocated hshort⟩
          have hfailed : (!input.rewinds || (decide (input.tellg ≠ 0#64) &&
              decide (input.contents.length < input.tellg.toNat))) = true := by
            rcases hshort with hrewinds | hlength
            · rw [hrewinds]
              rfl
            · have hne : input.tellg ≠ 0#64 := fun hzero => by
                rw [hzero] at hlength
                exact Nat.not_lt_zero _ hlength
              simp [hne, hlength]
          simp only [readFile, hopened, if_neg hsized, if_neg hfits, hallocated, if_pos hfailed]
        · obtain ⟨hrewound, hwhole⟩ := not_or.mp hshort
          have hread : ¬ (!input.rewinds || (decide (input.tellg ≠ 0#64) &&
              decide (input.contents.length < input.tellg.toNat))) = true := by
            simp [Bool.not_eq_false _ ▸ hrewound, not_lt.mp hwhole]
          refine .inl ⟨input, _, ?_, hopened, not_lt.mp hsized, hallocated,
            Bool.not_eq_false _ ▸ hrewound, not_lt.mp hwhole, rfl⟩
          simp only [readFile, hopened, if_neg hsized, if_neg hfits, hallocated, if_neg hread]

end Files

namespace TraceDevice
variable (device : TraceDevice) (cpu : Cpu) (n : Nat)

structure RefusesAt (k : Nat) : Prop where
  reached : k < (Cpu.runs.records n cpu).length
  taken : ∀ j < k, device.takes (writeTrace (Cpu.runs.records (j + 1) cpu)) = true
  refused : device.takes (writeTrace (Cpu.runs.records (k + 1) cpu)) = false

def TakesAll : Prop :=
  ∀ k < (Cpu.runs.records n cpu).length,
    device.takes (writeTrace (Cpu.runs.records (k + 1) cpu)) = true

end TraceDevice

namespace TraceFile
variable {file : TraceFile} {cpu : Cpu} {trace : List StepRecord} {n k : Nat} {what : Text}

theorem appendFailure_eq_none : file.appendFailure trace = none ↔
    file.output.takes (writeTrace trace) = true := by
  rw [appendFailure]
  cases file.output.takes (writeTrace trace) <;> simp

theorem appendFailure_eq_some : file.appendFailure trace = some what ↔
    file.output.takes (writeTrace trace) = false ∧
      what = text "failed while writing execution trace" := by
  rw [appendFailure]
  cases file.output.takes (writeTrace trace) <;> simp [eq_comm]

theorem takesAll_of_neverThrows (h : cpu.NeverThrows file.appendFailure n) :
    file.output.TakesAll cpu n :=
  fun k hk => appendFailure_eq_none.mp (h k hk)

theorem refusesAt_of_throwsAt (h : cpu.ThrowsAt file.appendFailure n k what) :
    file.output.RefusesAt cpu n k ∧ what = text "failed while writing execution trace" := by
  obtain ⟨hrefused, hwhat⟩ := appendFailure_eq_some.mp h.thrown
  exact ⟨⟨h.reached, fun j hj => appendFailure_eq_none.mp (h.taken j hj), hrefused⟩, hwhat⟩

end TraceFile

end Northstar64
