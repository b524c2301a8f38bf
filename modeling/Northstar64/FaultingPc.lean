import Northstar64.Alignment
import Northstar64.Reload

namespace Northstar64
open Results

theorem loadElf_parse {sorting : SegmentSort} {bytes : List Byte} {bus : Bus} {image : ElfImage}
    (h : (loadElf sorting bytes bus).2 = .ok image) : parse sorting bytes = .ok image := by
  rcases loadElf_cases sorting bytes bus with ⟨error, herror⟩ | ⟨image', hparse, hvalid⟩
  · rw [herror] at h
    cases h
  · rw [(loadElf_accepted hparse hvalid).1] at h
    rw [hparse, h]

namespace Cpu

def PreservesFaultingPc (cpu : Cpu) : Prop :=
  ∀ trap, cpu.step.2.trap = some trap →
    if cpu.csrs.isDelegated trap cpu.privilege then
      cpu.step.1.csrs.sepc = cpu.step.2.pc ∧ cpu.step.1.csrs.mepc = cpu.csrs.mepc
    else cpu.step.1.csrs.mepc = cpu.step.2.pc ∧ cpu.step.1.csrs.sepc = cpu.csrs.sepc

variable {cpu : Cpu} {s : StepState}

theorem TrapEffect.banks {trap : Trap} (h : cpu.TrapEffect s trap) :
    if cpu.csrs.isDelegated trap cpu.privilege then
      s.cpu.csrs.sepc = cpu.pc &&& ~~~0x3#64 ∧ s.cpu.csrs.mepc = cpu.csrs.mepc
    else s.cpu.csrs.mepc = cpu.pc &&& ~~~0x3#64 ∧ s.cpu.csrs.sepc = cpu.csrs.sepc := by
  have hticked : cpu.csrs.tickCycle.isDelegated trap cpu.privilege =
      cpu.csrs.isDelegated trap cpu.privilege := rfl
  rw [h.csrs, ← h.pc]
  cases hdelegated : cpu.csrs.isDelegated trap cpu.privilege with
  | true =>
    rw [CsrFile.enterTrap_delegated (hticked.trans hdelegated)]
    exact ⟨rfl, rfl⟩
  | false =>
    rw [CsrFile.enterTrap_not_delegated (hticked.trans hdelegated)]
    exact ⟨rfl, rfl⟩

theorem preservesFaultingPc_of_aligned (h : AlignedAddress cpu.pc) : cpu.PreservesFaultingPc := by
  intro trap htrap
  have hbanks := (cpu.stepped_trap (running_of_trap htrap) htrap).banks
  have hpc : cpu.step.2.pc = cpu.pc := cpu.step_recorded.pc
  rw [show cpu.pc &&& ~~~0x3#64 = cpu.pc from h] at hbanks
  rw [hpc]
  exact hbanks

theorem misaligned_fetch_traps (hrunning : cpu.halted = false)
    (h : ¬ AlignedAddress cpu.pc) : ∃ trap, cpu.step.2.trap = some trap := by
  have hmisaligned : isMisaligned cpu.start.cpu.pc = true := by
    rwa [← isMisaligned_eq_false_iff, Bool.not_eq_false] at h
  rw [step, hrunning, if_neg Bool.false_ne_true, StepState.fetch, if_pos hmisaligned]
  exact ⟨_, rfl⟩

theorem aligned_of_preservesFaultingPc (hrunning : cpu.halted = false)
    (h : cpu.PreservesFaultingPc) : AlignedAddress cpu.pc := by
  by_contra hmisaligned
  obtain ⟨trap, htrap⟩ := misaligned_fetch_traps hrunning hmisaligned
  have hbanks := (cpu.stepped_trap hrunning htrap).banks
  have hkept := h trap htrap
  have hpc : cpu.step.2.pc = cpu.pc := cpu.step_recorded.pc
  rw [hpc] at hkept
  split_ifs at hbanks hkept
  · exact hmisaligned (hbanks.1.symm.trans hkept.1)
  · exact hmisaligned (hbanks.1.symm.trans hkept.1)

theorem reset_preservesFaultingPc_iff (bus : Bus) (config : CpuConfig) (entry : Address) :
    (∀ n, (steps.state n (reset bus config entry)).PreservesFaultingPc) ↔ AlignedAddress entry := by
  constructor
  · intro h
    have hstart : (reset bus config entry).PreservesFaultingPc := h 0
    exact aligned_of_preservesFaultingPc rfl hstart
  · intro haligned n
    have hreset : (reset bus config entry).Aligned := ⟨.reset, haligned⟩
    exact preservesFaultingPc_of_aligned (steps_aligned hreset n).pc

end Cpu

namespace Machine

theorem faulting_pc_preserved_iff (sorting : SegmentSort) (machine : Machine) (bytes : List Byte)
    (image : ElfImage) (haccepted : (machine.load sorting bytes).2 = .ok image) (entry : Address)
    (hentry : readLittleEndian 64 bytes 24#64 = .ok entry) :
    (∀ n, (Cpu.steps.state n (machine.load sorting bytes).1.cpu).PreservesFaultingPc) ↔
      entry % 4#64 = 0#64 := by
  have hloaded := machine.loadElf_of_accepted sorting bytes haccepted
  obtain ⟨table, hread, -, -, -, rfl⟩ := parse_eq_ok.mp (loadElf_parse hloaded)
  obtain rfl : entry = table.entry := Except.ok.inj (hentry.symm.trans (readTable_ok hread).1)
  rw [load_of_ok hloaded]
  refine (Cpu.reset_preservesFaultingPc_iff _ _ _).trans ?_
  rw [← isMisaligned_eq_false_iff, isMisaligned, decide_eq_false_iff_not, not_not]
  rfl

theorem faulting_pc_preserved_iff_minimal :
    ∃ machine image, make {} = .ok machine ∧
      (machine.load .insertion (minimalElf 0x80000000#64)).2 = .ok image ∧
      ((∀ n, (Cpu.steps.state n
          (machine.load .insertion (minimalElf 0x80000000#64)).1.cpu).PreservesFaultingPc) ↔
        0x80000000#64 % 4#64 = 0#64) := by
  have hmake : (make {}).toOption.any (fun machine =>
      (machine.load .insertion (minimalElf 0x80000000#64)).2.isOk) = true := by decide +kernel
  obtain ⟨machine, hmachine, hok⟩ := exists_of_any hmake
  obtain ⟨image, haccepted⟩ := exists_ok hok
  exact ⟨machine, image, hmachine, haccepted,
    faulting_pc_preserved_iff .insertion machine (minimalElf 0x80000000#64) image haccepted
      0x80000000#64 (by decide +kernel)⟩

theorem misaligned_entry_loses_pc :
    ∃ machine image, make {} = .ok machine ∧
      (machine.load .insertion (minimalElf 0x80000002#64)).2 = .ok image ∧
      ¬ (machine.load .insertion (minimalElf 0x80000002#64)).1.cpu.PreservesFaultingPc := by
  have hmake : (make {}).toOption.any (fun machine =>
      let loaded := machine.load .insertion (minimalElf 0x80000002#64)
      loaded.2.isOk && (loaded.1.cpu.pc = 0x80000002#64 && !loaded.1.cpu.halted)) = true := by
    decide +kernel
  obtain ⟨machine, hmachine, hcheck⟩ := exists_of_any hmake
  simp only [Bool.and_eq_true, decide_eq_true_eq, Bool.not_eq_true'] at hcheck
  generalize hloaded : machine.load .insertion (minimalElf 0x80000002#64) = loaded at hcheck
  obtain ⟨hok, hpc, hrunning⟩ := hcheck
  obtain ⟨image, haccepted⟩ := exists_ok hok
  refine ⟨machine, image, hmachine, by rw [hloaded, haccepted], ?_⟩
  rw [hloaded]
  intro hkept
  have haligned := Cpu.aligned_of_preservesFaultingPc hrunning hkept
  rw [hpc] at haligned
  exact absurd haligned (by unfold AlignedAddress; decide)

end Machine

end Northstar64
