import Northstar64.HartHalting
import Northstar64.Library.ProgramLogic

namespace Northstar64

namespace FlatMemory
variable {memory other : FlatMemory}

theorem load_congr (hregions : other.regions = memory.regions) (hbytes : other.bytes = memory.bytes)
    (address : Address) (width : Nat) : other.load address width = memory.load address width := by
  have hregion : other.region address width = memory.region address width := by
    rw [region, region, hregions]
  rw [load, load, hregion, hbytes]

theorem lookup_congr (hregions : other.regions = memory.regions)
    (hbytes : other.bytes = memory.bytes) (context : Sv39Context) (virtualAddress : Address)
    (remaining table : Nat) :
    other.lookup context virtualAddress remaining table =
      memory.lookup context virtualAddress remaining table := by
  induction remaining generalizing table with
  | zero => rfl
  | succ level ih =>
    rw [lookup, lookup, load_congr hregions hbytes]
    cases memory.load (BitVec.ofNat 64 (table + 8 * Sv39Spec.vpn virtualAddress level)) 8 with
    | none => rfl
    | some pte => simp only [ih]

end FlatMemory

namespace Hart

section Registers
variable (registers : Rv64i.Registers) (rd : RegisterIndex) (value : BitVec 64)

theorem writeBack_self (h : rd ≠ 0#5) :
    Rv64i.writeBack registers (some ⟨rd, value⟩) rd = value := by
  rw [Rv64i.writeBack, if_neg h, Function.update_self]

theorem writeBack_other {index : RegisterIndex} (h : index ≠ rd) :
    Rv64i.writeBack registers (some ⟨rd, value⟩) index = registers index := by
  rw [Rv64i.writeBack]
  split_ifs
  · rfl
  · exact Function.update_of_ne h _ _

end Registers

structure Keeps (before after : Hart) : Prop where
  privilege : after.privilege = before.privilege
  csrs : ∃ cycles retired, after.csrs = { before.csrs with mcycle := cycles, minstret := retired }
  regions : after.memory.regions = before.memory.regions
  bytes : after.memory.bytes = before.memory.bytes

def fetchAt (hart : Hart) (pc : Address) : Except Exception (BitVec 32) := { hart with pc := pc }.fetch

def Proceeds (event : Event) : Prop :=
  ∃ word, event.completion = .retired word ∧ Instruction.decoded word ≠ some .wfi

namespace Keeps
variable {before middle after : Hart}

theorem refl (hart : Hart) : hart.Keeps hart := ⟨rfl, ⟨_, _, rfl⟩, rfl, rfl⟩

theorem trans (h : before.Keeps middle) (h' : middle.Keeps after) : before.Keeps after := by
  obtain ⟨_, _, hcsrs⟩ := h.csrs
  obtain ⟨cycles, retired, hcsrs'⟩ := h'.csrs
  exact ⟨h'.privilege.trans h.privilege, ⟨cycles, retired, by rw [hcsrs', hcsrs]⟩,
    h'.regions.trans h.regions, h'.bytes.trans h.bytes⟩

theorem ticked (hart : Hart) : hart.Keeps hart.ticked := ⟨rfl, ⟨_, _, rfl⟩, rfl, rfl⟩

theorem moved (hart : Hart) (registers : Rv64i.Registers) (pc : Address) :
    hart.Keeps ({ hart.ticked with registers := registers, pc := pc } : Hart).retired :=
  ⟨rfl, ⟨_, _, rfl⟩, rfl, rfl⟩

theorem transmitted (hart : Hart) (pc : Address) (console : Address) (value : BitVec 64) :
    hart.Keeps ({ hart.ticked with
      pc := pc, memory := hart.memory.transmitted console value } : Hart).retired :=
  ⟨rfl, ⟨_, _, rfl⟩, rfl, rfl⟩

variable (h : before.Keeps after)
include h

theorem translate (access : VirtualAccess) (address : Address) :
    after.translate access address = before.translate access address := by
  obtain ⟨_, _, hcsrs⟩ := h.csrs
  have hpaged : after.paged = before.paged := by
    rw [paged, paged, h.privilege, hcsrs]
  have hcontext : after.context access = before.context access := by
    rw [context, context, h.privilege, hcsrs]
  rw [Hart.translate, Hart.translate, hpaged, lookup, lookup, hcontext,
    FlatMemory.lookup_congr h.regions h.bytes]

theorem load (address : Address) (width : Nat) :
    after.load address width = before.load address width := by
  simp only [Hart.load, h.translate, FlatMemory.load_congr h.regions h.bytes]

theorem fetchAt (pc : Address) : after.fetchAt pc = before.fetchAt pc := by
  have hmoved : ({ before with pc := pc } : Hart).Keeps { after with pc := pc } :=
    ⟨h.privilege, h.csrs, h.regions, h.bytes⟩
  simp only [Hart.fetchAt, fetch, hmoved.translate,
    FlatMemory.load_congr h.regions h.bytes]

end Keeps

theorem step_executes {hart next : Hart} {word : BitVec 32} {instruction : Instruction}
    (hfetch : hart.fetchAt hart.pc = .ok word)
    (hdecoded : Instruction.decoded word = some instruction)
    (hexecute : hart.ticked.execute word instruction = .ok next) :
    hart.step = (next.retired, ⟨hart.pc, hart.privilege, .retired word⟩) := by
  have hticked : hart.ticked.fetch = .ok word := ((Keeps.ticked hart).fetchAt hart.pc).trans hfetch
  have hattempt : hart.ticked.attempt = .ok (word, next) := by
    rw [attempt, hticked]
    change (Exception.unless _ (Instruction.decoded word)).bind _ = _
    rw [hdecoded]
    change (hart.ticked.execute word instruction).bind _ = _
    rw [hexecute]
    rfl
  rw [step, hattempt]

theorem execute_integer {hart : Hart} {instruction : Rv64i.Instruction}
    {write : Option Rv64i.RegisterWrite} {next : Address}
    (h : instruction.result hart.registers hart.pc = .advance write next) (word : BitVec 32) :
    hart.ticked.execute word (.integer instruction) = .ok { hart.ticked with
      registers := Rv64i.writeBack hart.registers write
      pc := next } := by
  change hart.ticked.deliver (instruction.result hart.registers hart.pc) = _
  rw [h]
  rfl

structure Runs (hart : Hart) (Q : Hart → Prop) (word : BitVec 32) (instruction : Instruction)
    (next : Hart) : Prop where
  fetched : hart.fetchAt hart.pc = .ok word
  decoded : Instruction.decoded word = some instruction
  resumes : instruction ≠ .wfi
  executed : hart.ticked.execute word instruction = .ok next
  reached : Q next.retired

theorem leads_instruction {P Q : Hart → Prop}
    (h : ∀ hart, P hart → ∃ word instruction next, hart.Runs Q word instruction next) :
    system.Leads Proceeds 1 P Q := by
  refine .step fun hart hP => ?_
  obtain ⟨word, instruction, next, hruns⟩ := h hart hP
  have hstep : system.step hart = _ := step_executes hruns.fetched hruns.decoded hruns.executed
  rw [hstep]
  refine ⟨rfl, ⟨word, rfl, ?_⟩, hruns.reached⟩
  rw [hruns.decoded]
  exact fun heq => hruns.resumes (Option.some.inj heq)

end Hart

namespace Cpu
variable {cpu : Cpu}

theorem step_proceeds (running : cpu.halted = false) (h : Hart.Proceeds cpu.step.2.event) :
    cpu.step.1.halted = false := by
  obtain ⟨word, hcompletion, hword⟩ := h
  rw [step_halts running, CpuConfig.halts, hcompletion]
  dsimp only
  rw [decide_eq_false hword, Bool.and_false]

theorem runs_of_leads {n : Nat} {P Q : Hart → Prop} (h : Hart.system.Leads Hart.Proceeds n P Q)
    (running : cpu.halted = false) (hP : P cpu.hart) :
    (runs.records n cpu).length = n ∧ (runs.state n cpu).halted = false ∧
      Q (runs.state n cpu).hart := by
  obtain ⟨-, hrecords, hfinal⟩ := h cpu.hart hP
  obtain ⟨hlength, hrunning, hrepresents⟩ := Execution.System.accompanies represents_step
    (fun _ => step_proceeds) cpu.represents_self running hrecords
  rw [hrepresents.hart_eq hrunning] at hfinal
  exact ⟨hlength, hrunning, hfinal⟩

end Cpu

end Northstar64
