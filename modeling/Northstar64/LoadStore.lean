import Northstar64.IntegerSemantics
import Northstar64.TranslationFrame

namespace Northstar64

def extended (width : Nat) (signed : Bool) (value : BitVec 64) : BitVec 64 :=
  if signed then (value.setWidth (width * 8)).signExtend 64
  else (value.setWidth (width * 8)).setWidth 64

theorem littleEndian_byte_eq (value : BitVec 64) (width : Nat) :
    littleEndian (littleEndianByte value) width = (value.setWidth (width * 8)).setWidth 64 := by
  apply BitVec.eq_of_getLsbD_eq
  intro bit hbit
  rw [BitVec.getLsbD_setWidth, BitVec.getLsbD_setWidth, decide_eq_true hbit, Bool.true_and]
  induction width with
  | zero => simp [littleEndian]
  | succ width ih =>
    rw [littleEndian_succ, BitVec.getLsbD_or, ih]
    by_cases hlow : bit < width * 8
    · simp [hlow, show bit < (width + 1) * 8 by omega]
    · by_cases hbyte : bit < (width + 1) * 8
      · have hindex : width * 8 + (bit - width * 8) = bit := by omega
        simp [littleEndianByte, hlow, hbyte, hbit, hindex, show bit - width * 8 < 8 by omega]
      · simp [littleEndianByte, hlow, hbyte, show ¬ bit - width * 8 < 8 by omega]

theorem narrowed_eq {bytes : Nat → Byte} {width : Nat} (h : width ≤ 8) :
    ((littleEndian bytes width).setWidth (width * 8)).setWidth 64 = littleEndian bytes width := by
  have hlt := ofDigits_byteDigits_lt bytes width
  rw [← littleEndian_toNat bytes h] at hlt
  apply BitVec.eq_of_toNat_eq
  rw [BitVec.toNat_setWidth_of_le (by omega), BitVec.toNat_setWidth, Nat.mod_eq_of_lt hlt]

theorem extended_stored (value : BitVec 64) {width : Nat} (h : width ≤ 8) (signed : Bool) :
    extended width signed (littleEndian (littleEndianByte value) width) =
      extended width signed value := by
  have hnarrow : ((value.setWidth (width * 8)).setWidth 64).setWidth (width * 8) =
      value.setWidth (width * 8) := by
    rw [BitVec.setWidth_setWidth_of_le _ (by omega), BitVec.setWidth_eq]
  rw [extended, littleEndian_byte_eq, hnarrow, extended]

theorem extended_eq (bytes : Nat → Byte) {width : Nat} (hwidth : validWidth width = true)
    (signed : Bool) :
    (if signed && width < 8 then signExtend (littleEndian bytes width) (width * 8)
      else littleEndian bytes width) = extended width signed (littleEndian bytes width) := by
  have hcases := validWidth_cases hwidth
  have hpos : 0 < width * 8 := by omega
  have hle : width ≤ 8 := by omega
  rw [extended, narrowed_eq hle]
  cases signed with
  | false => rfl
  | true =>
    by_cases hnarrow : width < 8
    · rw [if_pos rfl, if_pos (by simpa using hnarrow), signExtend_eq hpos (by omega)]
    · obtain rfl : width = 8 := by omega
      rw [if_pos rfl, if_neg (by decide)]
      simp

theorem maskForWidth_eq {width : Nat} (h : width ≤ 8) :
    maskForWidth width = BitMask.low 64 (width * 8) := by
  unfold maskForWidth
  split_ifs with hwidth
  · subst hwidth
    rfl
  · exact BitMask.shifted_sub_one _

theorem littleEndianByte_masked (value : BitVec 64) {width i : Nat} (h : width ≤ 8) (hi : i < width) :
    littleEndianByte (value &&& maskForWidth width) i = littleEndianByte value i := by
  rw [maskForWidth_eq h]
  apply BitVec.eq_of_getLsbD_eq
  intro bit hbit
  simp [littleEndianByte, BitMask.getElem_low, show i * 8 + bit < width * 8 by omega,
    show i * 8 + bit < 64 by omega]

namespace Bus

def loadByte (bus : Bus) (p : Address) : Option Byte :=
  (bus.read p 1 .load).1.toOption.map (fun value => value.setWidth 8)

theorem loadByte_ram {bus : Bus} {p : Address} {byte : Byte} (h : bus.ramByte p = some byte) :
    bus.loadByte p = some byte := by
  unfold ramByte at h
  split at h
  case h_1 ram hfind =>
    rw [loadByte, read_ram hfind, ← h]
    simp [littleEndian, Except.toOption]
  case h_2 => cases h

theorem uart_value {uart : Uart16550} {offset value : BitVec 64} {width : Nat}
    (h : (uart.read offset width).1 = .ok value) :
    width = 1 ∧ (value.setWidth 8).setWidth 64 = value := by
  unfold Uart16550.read at h
  split_ifs at h with hwidth hdata hstatus
  all_goals
    obtain rfl := Except.ok.inj h
    exact ⟨by omega, rfl⟩

theorem read_bytes {bus : Bus} {address : Address} {width : Nat} {value : BitVec 64}
    (h : (bus.read address width .load).1 = .ok value) :
    ∃ bytes, (∀ i < width, bus.loadByte (address + BitVec.ofNat 64 i) = some (bytes i)) ∧
      value = littleEndian bytes width := by
  cases hwidth : validWidth width with
  | false =>
    rw [read_invalid hwidth] at h
    cases h
  | true =>
    cases hfind : bus.find address width with
    | none =>
      rw [read_unmapped hwidth hfind] at h
      cases h
    | some device =>
      cases device with
      | sparseRam ram =>
        rw [read_ram hfind] at h
        exact ⟨_, fun i hi => loadByte_ram (ramByte_of_find hfind hi), (Except.ok.inj h).symm⟩
      | uart16550 uart =>
        have hread := read_uart hfind .load
        rw [h] at hread
        cases hvalue : (uart.read (address - uart.base) width).1 with
        | error error =>
          rw [hvalue] at hread
          cases hread
        | ok other =>
          rw [hvalue] at hread
          obtain rfl := Except.ok.inj hread
          obtain ⟨rfl, hnarrow⟩ := uart_value hvalue
          refine ⟨fun _ => value.setWidth 8, fun i hi => ?_, ?_⟩
          · obtain rfl : i = 0 := by omega
            simp [loadByte, h, Except.toOption]
          · rw [littleEndian_succ, hnarrow]
            simp [littleEndian]

theorem write_mapped {bus : Bus} {address : Address} {width : Nat} {value : BitVec 64}
    {kind : AccessKind} (h : (bus.write address width value kind).2 = none) :
    validWidth width = true ∧ ∃ device, bus.find address width = some device := by
  cases hwidth : validWidth width with
  | false => simp [write, hwidth] at h
  | true =>
    cases hfind : bus.find address width with
    | none => simp [write, hwidth, hfind] at h
    | some device => exact ⟨rfl, device, rfl⟩

theorem find_ram {bus : Bus} {address : Address} {width : Nat} {device : Device}
    (hwidth : validWidth width = true) (hfind : bus.find address width = some device)
    (hram : (bus.ramByte address).isSome = true) :
    ∃ ram, bus.find address width = some (.sparseRam ram) := by
  have hpos : (address - address).toNat < width := by
    rw [BitVec.sub_self]
    rcases validWidth_cases hwidth with rfl | rfl | rfl | rfl <;> decide
  cases device with
  | sparseRam ram => exact ⟨ram, hfind⟩
  | uart16550 uart =>
    rw [ramByte, find_byte hfind hpos] at hram
    cases hram

end Bus

namespace Cpu
variable {cpu : Cpu} {decoded : DecodedInstruction} {width : Nat} {signed : Bool}

def effectiveAddress (cpu : Cpu) (decoded : DecodedInstruction) : Address :=
  cpu.registers.values decoded.rs1 + decoded.immediate

def sequential (cpu : Cpu) : Cpu :=
  { cpu.numbered.ticked with
    pc := cpu.pc + kInstructionBytes
    csrs := cpu.csrs.tickCycle.retireInstruction }

structure StoreAccepted (cpu : Cpu) (address : Address) (width : Nat) (value : BitVec 64)
    (physical : Address) : Prop where
  aligned : StepState.isUnaligned address width = false
  translated : cpu.physicalAddress address .store = some physical
  written : (cpu.bus.write physical width (value &&& maskForWidth width) .store).2 = none

structure LoadAccepted (cpu : Cpu) (address : Address) (width : Nat) (physical : Address)
    (value : BitVec 64) : Prop where
  aligned : StepState.isUnaligned address width = false
  translated : cpu.physicalAddress address .load = some physical
  read : (cpu.bus.read physical width .load).1 = .ok value

theorem store_accepted {f : Scratch} {address : Address} {value : BitVec 64}
    (h : ((cpu.prepared f).store address width value).1 = true) :
    ∃ physical, cpu.StoreAccepted address width value physical ∧
      ∃ g memoryWrite, g.pc = f.pc ∧ (cpu.prepared f).store address width value = (true,
        { cpu := { (cpu.prepared g).cpu with
            bus := (cpu.bus.write physical width (value &&& maskForWidth width) .store).1 }
          record := { (cpu.prepared g).record with memoryWrite := memoryWrite } }) := by
  unfold StepState.store at h ⊢
  by_cases hunaligned : StepState.isUnaligned address width = true
  · rw [if_pos hunaligned] at h
    cases h
  · rw [if_neg hunaligned] at h ⊢
    dsimp only at h ⊢
    rcases cpu.translate_prepared f address .store with
      ⟨physical, hphysical, htranslate⟩ | ⟨cause, trapValue, detail, -, htranslate⟩
    · rw [htranslate] at h ⊢
      simp only [prepared_bus] at h ⊢
      cases hwrite : (cpu.bus.write physical width (value &&& maskForWidth width) .store).2 with
      | some fault =>
        rw [hwrite] at h
        cases h
      | none =>
        refine ⟨physical, ⟨by simpa using hunaligned, hphysical, hwrite⟩, _, _, ?_, rfl⟩
        exact setTranslation_pc _ _ _
    · rw [htranslate] at h
      cases h

theorem load_accepted {f : Scratch} {address : Address} {value : BitVec 64}
    (h : ((cpu.prepared f).load address width signed).1 = some value) :
    ∃ physical loaded, cpu.LoadAccepted address width physical loaded := by
  unfold StepState.load at h
  by_cases hunaligned : StepState.isUnaligned address width = true
  · rw [if_pos hunaligned] at h
    cases h
  · rw [if_neg hunaligned] at h
    rcases cpu.translate_prepared f address .load with
      ⟨physical, hphysical, htranslate⟩ | ⟨cause, trapValue, detail, -, htranslate⟩
    · rw [htranslate] at h
      simp only [prepared_bus] at h
      cases hread : (cpu.bus.read physical width .load).1 with
      | error fault =>
        rw [hread] at h
        cases h
      | ok loaded => exact ⟨physical, loaded, by simpa using hunaligned, hphysical, hread⟩
    · rw [htranslate] at h
      cases h

theorem LoadAccepted.prepared {f : Scratch} {address physical : Address} {value : BitVec 64}
    (h : cpu.LoadAccepted address width physical value) (signed : Bool) :
    ∃ g, g.pc = f.pc ∧ (cpu.prepared f).load address width signed =
      (some (if signed && width < 8 then signExtend value (width * 8) else value),
        cpu.prepared g) := by
  have haligned : ¬ StepState.isUnaligned address width = true := by simp [h.aligned]
  unfold StepState.load
  rw [if_neg haligned]
  rcases cpu.translate_prepared f address .load with
    ⟨physical', hphysical, htranslate⟩ | ⟨_, _, _, hnone, -⟩
  · obtain rfl := Option.some.inj (hphysical.symm.trans h.translated)
    rw [htranslate]
    simp only [prepared_bus, Bus.read_snd, prepared_setBus, h.read]
    exact ⟨_, setTranslation_pc _ _ _, rfl⟩
  · rw [h.translated] at hnone
    cases hnone

theorem stepped_executeStore (issued : cpu.Issues decoded)
    (form : storeForm decoded.operation = some width) :
    cpu.stepped = (match (cpu.prepared (cpu.dataScratch decoded)).store
        (cpu.effectiveAddress decoded) width (cpu.registers.values decoded.rs2) with
      | (false, s) => s
      | (true, s) => s.complete).retire := by
  rw [issued.stepped, StepState.execute_store _ _ form]
  rfl

theorem stepped_executeLoad (issued : cpu.Issues decoded)
    (form : loadForm decoded.operation = some (width, signed)) :
    cpu.stepped = (match (cpu.prepared (cpu.dataScratch decoded)).load
        (cpu.effectiveAddress decoded) width signed with
      | (none, s) => s
      | (some value, s) => (s.writeRegister decoded.rd value).complete).retire := by
  rw [issued.stepped, StepState.execute_load _ _ form]
  rfl

theorem stepped_stored (issued : cpu.Issues decoded)
    (form : storeForm decoded.operation = some width)
    (retired : cpu.stepped.record.retired = true) :
    ∃ physical, cpu.StoreAccepted (cpu.effectiveAddress decoded) width
        (cpu.registers.values decoded.rs2) physical ∧
      cpu.stepped.cpu = { cpu.sequential with
        bus := (cpu.bus.write physical width
          (cpu.registers.values decoded.rs2 &&& maskForWidth width) .store).1 } := by
  have hstep := stepped_executeStore issued form
  cases hstore : ((cpu.prepared (cpu.dataScratch decoded)).store
      (cpu.effectiveAddress decoded) width (cpu.registers.values decoded.rs2)).1 with
  | false =>
    rcases cpu.store_prepared (cpu.dataScratch decoded) (cpu.effectiveAddress decoded) width
      (cpu.registers.values decoded.rs2) with ⟨_, _, _, -, -, -, heq⟩ | ⟨_, _, _, _, heq⟩
    · rw [heq] at hstore
      cases hstore
    · rw [heq] at hstep
      dsimp only at hstep
      rw [hstep, retire_raiseTrap] at retired
      cases retired
  | true =>
    obtain ⟨physical, haccepted, g, memoryWrite, hpc, hnext⟩ := store_accepted hstore
    refine ⟨physical, haccepted, ?_⟩
    obtain ⟨pc, _, _, _, _⟩ := g
    obtain rfl : pc = _ := hpc
    rw [hnext] at hstep
    dsimp only at hstep
    rw [hstep, StepState.retire_complete rfl]
    rfl

theorem stepped_load_accepted (issued : cpu.Issues decoded)
    (form : loadForm decoded.operation = some (width, signed))
    (retired : cpu.stepped.record.retired = true) :
    ∃ physical loaded, cpu.LoadAccepted (cpu.effectiveAddress decoded) width physical loaded := by
  have hstep := stepped_executeLoad issued form
  rcases cpu.load_prepared (cpu.dataScratch decoded) (cpu.effectiveAddress decoded) width signed
    with ⟨value, _, -, -, heq⟩ | ⟨_, _, _, _, heq⟩
  · exact load_accepted (congrArg Prod.fst heq)
  · rw [heq] at hstep
    dsimp only at hstep
    rw [hstep, retire_raiseTrap] at retired
    cases retired

theorem LoadAccepted.stepped {physical : Address} {loaded : BitVec 64}
    (h : cpu.LoadAccepted (cpu.effectiveAddress decoded) width physical loaded)
    (issued : cpu.Issues decoded) (form : loadForm decoded.operation = some (width, signed)) :
    cpu.stepped.record.retired = true ∧
      cpu.stepped.cpu = { cpu.sequential with
        registers := cpu.registers.set decoded.rd
          (if signed && width < 8 then signExtend loaded (width * 8) else loaded) } := by
  have hstep := stepped_executeLoad issued form
  obtain ⟨g, hpc, hload⟩ := h.prepared (f := cpu.dataScratch decoded) signed
  rw [hload] at hstep
  dsimp only at hstep
  rw [StepState.retire_complete (by rw [StepState.writeRegister_record]; rfl)] at hstep
  obtain ⟨pc, _, _, _, _⟩ := g
  obtain rfl : pc = _ := hpc
  rw [hstep]
  refine ⟨rfl, ?_⟩
  rw [StepState.finished, StepState.writeRegister_cpu]
  rfl

namespace StoreAccepted
variable {address physical : Address} {value : BitVec 64}
  (h : cpu.StoreAccepted address width value physical)
include h

theorem width_le : width ≤ 8 := by
  rcases validWidth_cases (Bus.write_mapped h.written).1 with rfl | rfl | rfl | rfl <;> decide

theorem ramByte (p : Address) :
    (cpu.bus.write physical width (value &&& maskForWidth width) .store).1.ramByte p =
      if (p - physical).toNat < width then
        (cpu.bus.ramByte p).map (fun _ => littleEndianByte value (p - physical).toNat)
      else cpu.bus.ramByte p := by
  have hview := congrFun (congrArg PhysicalMemory.ram (Bus.write_view h.written)) p
  refine hview.trans ?_
  dsimp only [PhysicalMemory.store, Bus.view]
  split_ifs with hin
  · rw [littleEndianByte_masked value h.width_le hin]
  · rfl

theorem ramByte_stored (hram : (cpu.bus.ramByte physical).isSome = true) {i : Nat} (hi : i < width) :
    (cpu.bus.write physical width (value &&& maskForWidth width) .store).1.ramByte
      (physical + BitVec.ofNat 64 i) = some (littleEndianByte value i) := by
  obtain ⟨hvalid, device, hfind⟩ := Bus.write_mapped h.written
  obtain ⟨ram, hram⟩ := Bus.find_ram hvalid hfind hram
  have hle := h.width_le
  rw [h.ramByte, distance_add physical (by omega), if_pos hi, Bus.ramByte_of_find hram hi]
  rfl

end StoreAccepted

def Stores (cpu : Cpu) (address : Address) (width : Nat) (value : BitVec 64) : Prop :=
  ∃ physical, cpu.physicalAddress address .store = some physical ∧
    ((cpu.bus.ramByte physical).isSome = true →
      ∀ i < width, cpu.stepped.cpu.bus.ramByte (physical + BitVec.ofNat 64 i) =
        some (littleEndianByte value i)) ∧
    (∀ p, ¬ (p - physical).toNat < width →
      cpu.stepped.cpu.bus.ramByte p = cpu.bus.ramByte p) ∧
    cpu.stepped.cpu.registers = cpu.registers

def Loads (cpu : Cpu) (address : Address) (width : Nat) (signed : Bool) (rd : RegisterIndex) : Prop :=
  ∃ physical bytes, cpu.physicalAddress address .load = some physical ∧
    (∀ i < width, cpu.bus.loadByte (physical + BitVec.ofNat 64 i) = some (bytes i)) ∧
    cpu.stepped.cpu.registers.values = Rv64i.writeBack cpu.registers.values
      (some ⟨rd, extended width signed (littleEndian bytes width)⟩) ∧
    cpu.stepped.cpu.bus = cpu.bus

theorem stores_of_retired (issued : cpu.Issues decoded)
    (form : storeForm decoded.operation = some width)
    (retired : cpu.stepped.record.retired = true) :
    cpu.Stores (cpu.effectiveAddress decoded) width (cpu.registers.values decoded.rs2) := by
  obtain ⟨physical, haccepted, hnext⟩ := stepped_stored issued form retired
  refine ⟨physical, haccepted.translated, ?_, ?_, ?_⟩
  · intro hram i hi
    rw [hnext]
    exact haccepted.ramByte_stored hram hi
  · intro p hout
    rw [hnext]
    exact (haccepted.ramByte p).trans (if_neg hout)
  · rw [hnext]
    rfl

theorem LoadAccepted.validWidth {address physical : Address} {loaded : BitVec 64}
    (h : cpu.LoadAccepted address width physical loaded) : validWidth width = true := by
  cases hwidth : Northstar64.validWidth width with
  | true => rfl
  | false =>
    have hread := h.read
    rw [Bus.read_invalid hwidth] at hread
    cases hread

theorem LoadAccepted.loads {physical : Address} {loaded : BitVec 64}
    (h : cpu.LoadAccepted (cpu.effectiveAddress decoded) width physical loaded)
    (issued : cpu.Issues decoded) (form : loadForm decoded.operation = some (width, signed)) :
    cpu.Loads (cpu.effectiveAddress decoded) width signed decoded.rd := by
  obtain ⟨bytes, hbytes, rfl⟩ := Bus.read_bytes h.read
  obtain ⟨-, hnext⟩ := h.stepped issued form
  refine ⟨physical, bytes, h.translated, hbytes, ?_, by rw [hnext]; rfl⟩
  rw [hnext, extended_eq bytes h.validWidth]
  exact set_values _ _ _

end Cpu

end Northstar64
