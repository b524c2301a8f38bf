import Northstar64.AccessFaults

namespace Northstar64

namespace Cpu

structure Issues (cpu : Cpu) (instruction : DecodedInstruction) : Prop where
  running : cpu.halted = false
  fetched : ∃ word, cpu.fetchedWord = some word ∧ decode word = .ok instruction

theorem Issues.stepped {cpu : Cpu} {instruction : DecodedInstruction} (h : cpu.Issues instruction) :
    cpu.stepped = ((cpu.prepared (cpu.dataScratch instruction)).execute instruction).retire := by
  obtain ⟨word, hfetched, hdecoded⟩ := h.fetched
  exact stepped_decoded h.running hfetched hdecoded

theorem issues_iff (cpu : Cpu) (instruction : DecodedInstruction) :
    cpu.Issues instruction ↔
      cpu.halted = false ∧ cpu.fetchedWord.map decode = some (.ok instruction) := by
  simp only [Option.map_eq_some_iff]
  exact ⟨fun h => ⟨h.running, h.fetched⟩, fun h => ⟨h.1, h.2⟩⟩

instance (cpu : Cpu) (instruction : DecodedInstruction) : Decidable (cpu.Issues instruction) :=
  decidable_of_iff _ (cpu.issues_iff instruction).symm

def codeRam : SparseRam :=
  .unwritten ⟨0#64, 0x5000#64, text "program", by decide, by decide, by decide⟩

def codeBus (words : BitVec 64) : Bus :=
  ⟨[.sparseRam (codeRam.write 0#64 8 words).1], List.pairwise_singleton _ _⟩

def codeCpu (words : BitVec 64) : Cpu := reset (codeBus words) ⟨.vector, false, false⟩ 0#64

end Cpu

end Northstar64
