import Northstar64.HartLogic

namespace Northstar64

namespace Puts

def uartBase : Address := 0x10000000#64

-- li t0, UART_BASE ; 1: lbu t1, 0(a0) ; beq t1, zero, 2f ; sb t1, 0(t0) ; addi a0, a0, 1 ; j 1b ; 2: ret
def code : List (BitVec 32 × Instruction) := [
  (0x100002b7#32, .integer (.lui 5#5 uartBase)),
  (0x00054303#32, .load 1 false 6#5 10#5 0#64),
  (0x00030863#32, .integer (.branch .eq 6#5 0#5 16#64)),
  (0x00628023#32, .store 1 5#5 6#5 0#64),
  (0x00150513#32, .integer (.opImmediate .add 10#5 10#5 1#64)),
  (0xff1ff06f#32, .integer (.jal 0#5 0xfffffffffffffff0#64)),
  (0x00008067#32, .integer (.jalr 0#5 1#5 0#64))]

theorem code_decoded : ∀ entry ∈ code, Instruction.decoded entry.1 = some entry.2 := by
  decide

structure Call (message : List Byte) (console : Address) (hart : Hart) : Prop where
  code : ∀ i (hi : i < code.length),
    hart.fetchAt (hart.pc + BitVec.ofNat 64 (4 * i)) = .ok (code[i]).1
  string : ∀ i ≤ message.length, hart.load (hart.registers 10#5 + BitVec.ofNat 64 i) 1 =
    .ok ((message.getD i 0#8).setWidth 64)
  nonzero : 0#8 ∉ message
  translated : hart.translate .store uartBase = .ok console
  mapped : ∃ size, hart.memory.region console 1 = some ⟨console.toNat, size, .console⟩
  returns : (hart.registers 1#5).toNat % 4 = 0

structure At (start : Hart) (console : Address) (offset : BitVec 64) (printed : List Byte)
    (pointer : Nat) (hart : Hart) : Prop where
  keeps : start.Keeps hart
  pc : hart.pc = start.pc + offset
  console : hart.memory.console =
    Function.update start.memory.console console (start.memory.console console ++ printed)
  base : hart.registers 5#5 = uartBase
  pointer : hart.registers 10#5 = start.registers 10#5 + BitVec.ofNat 64 pointer
  others : ∀ index, index ∉ [5#5, 6#5, 10#5] → hart.registers index = start.registers index

structure Returned (message : List Byte) (console : Address) (start final : Hart) : Prop where
  keeps : start.Keeps final
  pc : final.pc = start.registers 1#5
  console : final.memory.console =
    Function.update start.memory.console console (start.memory.console console ++ message)
  pointer : final.registers 10#5 = start.registers 10#5 + BitVec.ofNat 64 message.length
  others : ∀ index, index ∉ [5#5, 6#5, 10#5] → final.registers index = start.registers index

theorem At.moved {start hart : Hart} {console pc : Address} {offset target : BitVec 64}
    {printed : List Byte} {pointer : Nat} (h : At start console offset printed pointer hart)
    (hpc : pc = start.pc + target) :
    At start console target printed pointer ({ hart.ticked with pc := pc } : Hart).retired :=
  ⟨h.keeps.trans (.moved hart _ _), hpc, h.console, h.base, h.pointer, h.others⟩

section Steps
variable {message : List Byte} {console : Address} {start : Hart} (call : Call message console start)

theorem code_resumes : ∀ entry ∈ code, entry.2 ≠ .wfi := by
  decide

theorem byte_narrowed (byte : Byte) : (byte.setWidth 64).setWidth 8 = byte := by
  rw [BitVec.setWidth_setWidth (by decide), BitVec.setWidth_eq]

theorem byte_extended (byte : Byte) : extended 1 false (byte.setWidth 64) = byte.setWidth 64 :=
  congrArg (BitVec.setWidth 64) (byte_narrowed byte)

theorem byte_stored (byte : Byte) : littleEndianByte (byte.setWidth 64) 0 = byte := by
  rw [← storedByte_zero, show (0xff#64) = BitMask.low 64 8 from rfl, Slices.and_low,
    BitVec.setWidth_setWidth (by decide), BitVec.setWidth_eq]
  exact byte_narrowed byte

theorem byte_eq_zero_iff (byte : Byte) : byte.setWidth 64 = 0#64 ↔ byte = 0#8 := by
  constructor
  · intro h
    have hnarrow := congrArg (BitVec.setWidth 8) h
    rwa [byte_narrowed] at hnarrow
  · rintro rfl
    rfl

include call

theorem Call.aligned : start.pc.toNat % 4 = 0 := by
  have hfetch := call.code 0 (by decide)
  by_contra hmisaligned
  have hzero : start.pc + BitVec.ofNat 64 (4 * 0) = start.pc := BitVec.add_zero _
  rw [hzero, Hart.fetchAt, Hart.fetch, if_pos hmisaligned] at hfetch
  cases hfetch

theorem Call.runs {hart next : Hart} {Q : Hart → Prop} (keeps : start.Keeps hart) (i : Nat)
    (hi : i < Puts.code.length) (pc : hart.pc = start.pc + BitVec.ofNat 64 (4 * i))
    (executed : hart.ticked.execute (Puts.code[i]).1 (Puts.code[i]).2 = .ok next)
    (reached : Q next.retired) : ∃ word instruction next, hart.Runs Q word instruction next :=
  ⟨_, _, next, by rw [keeps.fetchAt, pc]; exact call.code i hi,
    code_decoded _ (List.getElem_mem hi), code_resumes _ (List.getElem_mem hi), executed, reached⟩

theorem leads_entry :
    Hart.system.Leads Hart.Proceeds 1 (· = start) (At start console 4#64 [] 0) := by
  refine Hart.leads_instruction ?_
  rintro hart rfl
  refine call.runs (.refl hart) 0 (by decide) (BitVec.add_zero _).symm rfl ⟨?_, rfl, ?_, rfl, ?_, ?_⟩
  · exact .moved hart _ _
  · rw [List.append_nil, Function.update_eq_self]
    rfl
  · exact (BitVec.add_zero _).symm
  · intro index hindex
    exact Hart.writeBack_other hart.registers 5#5 _ fun heq => hindex (by simp [heq])

theorem leads_load {k : Nat} (hk : k ≤ message.length) :
    Hart.system.Leads Hart.Proceeds 1 (At start console 4#64 (message.take k) k)
      (fun hart => At start console 8#64 (message.take k) k hart ∧
        hart.registers 6#5 = (message.getD k 0#8).setWidth 64) := by
  refine Hart.leads_instruction fun hart h => ?_
  have hload : hart.ticked.load (hart.registers 10#5 + 0#64) 1 =
      .ok ((message.getD k 0#8).setWidth 64) := by
    rw [((h.keeps.trans (.ticked hart)).load), h.pointer, BitVec.add_zero]
    exact call.string k hk
  have hexecute := congrArg (fun result => result.bind (fun value => Except.ok
    (hart.ticked.write 6#5 (extended 1 false value)).advance)) hload
  refine call.runs h.keeps 1 (by decide) h.pc hexecute ⟨⟨?_, ?_, h.console, h.base, h.pointer, ?_⟩, ?_⟩
  · exact h.keeps.trans (.moved hart _ _)
  · exact (congrArg (· + 4#64) h.pc).trans (BitVec.add_assoc _ _ _)
  · intro index hindex
    refine (Hart.writeBack_other hart.registers 6#5 _ fun heq => hindex (by simp [heq])).trans ?_
    exact h.others index hindex
  · have hvalue : extended 1 false ((message.getD k 0#8).setWidth 64) = _ := byte_extended _
    exact (Hart.writeBack_self hart.registers 6#5 _ (by decide)).trans hvalue

theorem leads_continue (zero : start.registers 0#5 = 0#64) {k : Nat} (hk : k < message.length) :
    Hart.system.Leads Hart.Proceeds 1
      (fun hart => At start console 8#64 (message.take k) k hart ∧
        hart.registers 6#5 = (message.getD k 0#8).setWidth 64)
      (fun hart => At start console 12#64 (message.take k) k hart ∧
        hart.registers 6#5 = (message.getD k 0#8).setWidth 64) := by
  refine Hart.leads_instruction fun hart h => ?_
  obtain ⟨h, hbyte⟩ := h
  have hzero : hart.registers 0#5 = 0#64 := (h.others 0#5 (by decide)).trans zero
  have hne : ¬ (hart.registers 6#5 == hart.registers 0#5) = true := by
    rw [hzero, hbyte, beq_iff_eq, byte_eq_zero_iff, List.getD_eq_getElem _ _ hk]
    exact fun heq => call.nonzero (heq ▸ List.getElem_mem hk)
  have hresult : (Rv64i.Instruction.branch .eq 6#5 0#5 16#64).result hart.registers hart.pc =
      .advance none (hart.pc + 4#64) := if_neg hne
  have hpc : hart.pc + 4#64 = start.pc + 12#64 := by
    rw [h.pc]
    exact BitVec.add_assoc _ _ _
  exact call.runs h.keeps 2 (by decide) h.pc (Hart.execute_integer hresult _) ⟨h.moved hpc, hbyte⟩

theorem leads_exit (zero : start.registers 0#5 = 0#64) :
    Hart.system.Leads Hart.Proceeds 1
      (fun hart => At start console 8#64 (message.take message.length) message.length hart ∧
        hart.registers 6#5 = (message.getD message.length 0#8).setWidth 64)
      (At start console 24#64 message message.length) := by
  refine Hart.leads_instruction fun hart h => ?_
  obtain ⟨h, hbyte⟩ := h
  have hzero : hart.registers 0#5 = 0#64 := (h.others 0#5 (by decide)).trans zero
  have heq : (hart.registers 6#5 == hart.registers 0#5) = true := by
    rw [hzero, hbyte, beq_iff_eq, List.getD_eq_default _ _ (Nat.le_refl _)]
    rfl
  have hpc : hart.pc + 16#64 = start.pc + 24#64 := by
    rw [h.pc]
    exact BitVec.add_assoc _ _ _
  have haligned : (hart.pc + 16#64).toNat % 4 = 0 := by
    have := call.aligned
    rw [hpc, BitVec.toNat_add, BitVec.toNat_ofNat]
    omega
  have hresult : (Rv64i.Instruction.branch .eq 6#5 0#5 16#64).result hart.registers hart.pc =
      .advance none (hart.pc + 16#64) := (if_pos heq).trans (if_pos haligned)
  rw [List.take_length] at h
  exact call.runs h.keeps 2 (by decide) h.pc (Hart.execute_integer hresult _) (h.moved hpc)

theorem leads_store {k : Nat} (hk : k < message.length) :
    Hart.system.Leads Hart.Proceeds 1
      (fun hart => At start console 12#64 (message.take k) k hart ∧
        hart.registers 6#5 = (message.getD k 0#8).setWidth 64)
      (At start console 16#64 (message.take (k + 1)) k) := by
  refine Hart.leads_instruction fun hart h => ?_
  obtain ⟨h, hbyte⟩ := h
  obtain ⟨size, hregion⟩ := call.mapped
  have hmapped : hart.memory.region console 1 = some ⟨console.toNat, size, .console⟩ := by
    rw [FlatMemory.region, h.keeps.regions]
    exact hregion
  have hmemory : hart.memory.store console 1 (hart.registers 6#5) =
      some (hart.memory.transmitted console (hart.registers 6#5)) := by
    rw [FlatMemory.store, hmapped]
    exact (if_neg (not_not_intro rfl)).trans (if_pos rfl)
  have htranslated : hart.ticked.translate .store (hart.registers 5#5 + 0#64) = .ok console := by
    rw [(h.keeps.trans (.ticked hart)).translate, h.base, BitVec.add_zero]
    exact call.translated
  have hstore := hart.ticked.store_translated (hart.registers 6#5) (Nat.mod_one _) htranslated
  have hstored : hart.ticked.store (hart.registers 5#5 + 0#64) 1 (hart.registers 6#5) =
      .ok (hart.memory.transmitted console (hart.registers 6#5)) := by
    rw [hstore]
    exact congrArg (Exception.unless _) hmemory
  have hexecute := congrArg (fun result => result.bind (fun memory => Except.ok
    ({ hart.ticked with memory := memory } : Hart).advance)) hstored
  refine call.runs h.keeps 3 (by decide) h.pc hexecute ⟨?_, ?_, ?_, h.base, h.pointer, h.others⟩
  · exact h.keeps.trans (.transmitted hart _ _ _)
  · exact (congrArg (· + 4#64) h.pc).trans (BitVec.add_assoc _ _ _)
  · change Function.update hart.memory.console console
      (hart.memory.console console ++ [littleEndianByte (hart.registers 6#5) 0]) = _
    rw [hbyte, byte_stored, h.console, Function.update_self, Function.update_idem,
      List.append_assoc, List.getD_eq_getElem _ _ hk, List.take_concat_get' message k hk]

theorem leads_increment (k : Nat) :
    Hart.system.Leads Hart.Proceeds 1 (At start console 16#64 (message.take (k + 1)) k)
      (At start console 20#64 (message.take (k + 1)) (k + 1)) := by
  refine Hart.leads_instruction fun hart h => ?_
  have hresult : (Rv64i.Instruction.opImmediate .add 10#5 10#5 1#64).result hart.registers hart.pc =
      .advance (some ⟨10#5, hart.registers 10#5 + 1#64⟩) (hart.pc + 4#64) := rfl
  refine call.runs h.keeps 4 (by decide) h.pc (Hart.execute_integer hresult _)
    ⟨h.keeps.trans (.moved hart _ _), ?_, h.console, h.base, ?_, ?_⟩
  · exact (congrArg (· + 4#64) h.pc).trans (BitVec.add_assoc _ _ _)
  · have hvalue : hart.registers 10#5 + 1#64 =
        start.registers 10#5 + BitVec.ofNat 64 (k + 1) := by
      rw [h.pointer, BitVec.add_assoc, ← BitVec.ofNat_add]
    exact (Hart.writeBack_self hart.registers 10#5 (hart.registers 10#5 + 1#64)
      (by decide)).trans hvalue
  · intro index hindex
    refine (Hart.writeBack_other hart.registers 10#5 _ fun heq => hindex (by simp [heq])).trans ?_
    exact h.others index hindex

theorem leads_repeat (k : Nat) :
    Hart.system.Leads Hart.Proceeds 1 (At start console 20#64 (message.take (k + 1)) (k + 1))
      (At start console 4#64 (message.take (k + 1)) (k + 1)) := by
  refine Hart.leads_instruction fun hart h => ?_
  have hoffset : 20#64 + 0xfffffffffffffff0#64 = 4#64 := by decide
  have hpc : hart.pc + 0xfffffffffffffff0#64 = start.pc + 4#64 := by
    rw [h.pc, BitVec.add_assoc, hoffset]
  have haligned : (hart.pc + 0xfffffffffffffff0#64).toNat % 4 = 0 := by
    have := call.aligned
    rw [hpc, BitVec.toNat_add, BitVec.toNat_ofNat]
    omega
  have hresult : (Rv64i.Instruction.jal 0#5 0xfffffffffffffff0#64).result hart.registers hart.pc =
      .advance (some ⟨0#5, hart.pc + 4#64⟩) (hart.pc + 0xfffffffffffffff0#64) := by
    rw [Rv64i.Instruction.result, Rv64i.transfer, if_pos haligned]
  exact call.runs h.keeps 5 (by decide) h.pc (Hart.execute_integer hresult _) (h.moved hpc)

theorem leads_return :
    Hart.system.Leads Hart.Proceeds 1 (At start console 24#64 message message.length)
      (Returned message console start) := by
  refine Hart.leads_instruction fun hart h => ?_
  have hreturn : hart.registers 1#5 = start.registers 1#5 := h.others 1#5 (by decide)
  have htarget : Rv64i.clearBitZero (hart.registers 1#5 + 0#64) = start.registers 1#5 := by
    have hreturns := call.returns
    rw [BitVec.add_zero, hreturn, ← clearBitZero_eq]
    exact (BitMask.clear_low_eq_self_iff _ 1).mpr (by omega)
  have hresult : (Rv64i.Instruction.jalr 0#5 1#5 0#64).result hart.registers hart.pc =
      .advance (some ⟨0#5, hart.pc + 4#64⟩) (start.registers 1#5) := by
    rw [Rv64i.Instruction.result, htarget]
    exact if_pos call.returns
  exact call.runs h.keeps 6 (by decide) h.pc (Hart.execute_integer hresult _)
    ⟨h.keeps.trans (.moved hart _ _), rfl, h.console, h.pointer, h.others⟩

theorem leads_body (zero : start.registers 0#5 = 0#64) {k : Nat} (hk : k < message.length) :
    Hart.system.Leads Hart.Proceeds 5 (At start console 4#64 (message.take k) k)
      (At start console 4#64 (message.take (k + 1)) (k + 1)) :=
  ((((leads_load call hk.le).trans (leads_continue call zero hk)).trans (leads_store call hk)).trans
    (leads_increment call k)).trans (leads_repeat call k)

theorem leads_returned (zero : start.registers 0#5 = 0#64) :
    Hart.system.Leads Hart.Proceeds (5 * message.length + 4) (· = start)
      (Returned message console start) := by
  have hloop := Execution.System.Leads.loop (M := Hart.system) (G := Hart.Proceeds)
    (I := fun k => At start console 4#64 (message.take k) k) (fun k hk => leads_body call zero hk)
  have hlast := (leads_load call (Nat.le_refl message.length)).trans (leads_exit call zero)
  have htotal := ((leads_entry call).trans hloop).trans (hlast.trans (leads_return call))
  have hcount : 1 + message.length * 5 + (1 + 1 + 1) = 5 * message.length + 4 := by omega
  rw [← hcount]
  exact htotal

end Steps

end Puts

namespace Cpu

theorem puts_returns (cpu : Cpu) (message : List Byte) (console : Address)
    (running : cpu.halted = false) (call : Puts.Call message console cpu.hart) :
    let steps := 5 * message.length + 4
    (runs.records steps cpu).length = steps ∧ (runs.state steps cpu).halted = false ∧
      Puts.Returned message console cpu.hart (runs.state steps cpu).hart :=
  runs_of_leads (Puts.leads_returned call cpu.registers.zero) running rfl

theorem kRegisterSpan_ne_zero : kRegisterSpan ≠ 0#64 := by
  decide

theorem uartName_ne_nil : text "uart16550" ≠ [] := by
  decide

def putsUart : Uart16550 :=
  ⟨⟨Puts.uartBase, kRegisterSpan, text "uart16550", kRegisterSpan_ne_zero, by decide,
    uartName_ne_nil⟩, rfl, []⟩

def putsRam : SparseRam :=
  .unwritten ⟨0x80000000#64, 0x6000#64, text "console program", by decide, by decide, by decide⟩

-- The routine's seven words, then the string "hi".
def putsImage : SparseRam :=
  [0x00054303100002b7#64, 0x0062802300030863#64, 0xff1ff06f00150513#64,
    0x0000696800008067#64].zipIdx.foldl
      (fun ram entry => (ram.write (BitVec.ofNat 64 (8 * entry.2)) 8 entry.1).1) putsRam

def putsBus : Bus :=
  ⟨[.uart16550 putsUart, .sparseRam putsImage], List.pairwise_pair.mpr (by rw [Device.Precedes]; decide)⟩

def putsCpu : Cpu :=
  { reset putsBus ⟨.vector, false, false⟩ 0x80000000#64 with
    registers := (RegisterFile.cleared.set 10#5 0x8000001c#64).set 1#5 0x80000020#64 }

theorem puts_returns_hi :
    let final := runs.state 14 putsCpu
    (runs.records 14 putsCpu).length = 14 ∧ final.halted = false ∧
      Puts.Returned (text "hi") Puts.uartBase putsCpu.hart final.hart :=
  putsCpu.puts_returns (text "hi") Puts.uartBase rfl {
    code := by decide +kernel
    string := by decide +kernel
    nonzero := by decide
    translated := by decide +kernel
    mapped := ⟨8, by decide +kernel⟩
    returns := by decide }

end Cpu

end Northstar64
