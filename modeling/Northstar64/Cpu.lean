import Northstar64.Sv39
import Northstar64.Csr
import Northstar64.Decode
import Northstar64.Trace
import Northstar64.Library.Execution

namespace Northstar64

inductive TrapPolicy where
  | halt
  | vector
  deriving DecidableEq, Repr

structure CpuConfig where
  trapPolicy : TrapPolicy
  haltOnEbreak : Bool
  haltOnWfi : Bool
  deriving DecidableEq, Repr

inductive RunStopReason where
  | halted
  | stepLimit
  deriving DecidableEq, Repr

structure RunResult where
  reason : RunStopReason
  attemptedSteps : BitVec 64
  retiredInstructions : BitVec 64
  detail : Text
  terminalTrap : Option Trap
  deriving DecidableEq, Repr

@[ext] structure RegisterFile where
  values : RegisterIndex → RegisterValue
  zero : values 0#5 = 0#64

namespace RegisterFile

def cleared : RegisterFile := ⟨fun _ => 0#64, rfl⟩

def set (registers : RegisterFile) (index : RegisterIndex) (value : RegisterValue) : RegisterFile :=
  if hindex : index = 0#5 then registers
  else ⟨Function.update registers.values index value, by
    rw [Function.update_of_ne (Ne.symm hindex), registers.zero]⟩

def clearZero (registers : RegisterFile) : RegisterFile :=
  ⟨Function.update registers.values 0#5 0#64, Function.update_self ..⟩

@[simp] theorem clearZero_eq (registers : RegisterFile) : registers.clearZero = registers := by
  have h : Function.update registers.values 0#5 0#64 = registers.values := by
    rw [← registers.zero, Function.update_eq_self]
  exact RegisterFile.ext h

end RegisterFile

@[ext] structure Cpu where
  bus : Bus
  config : CpuConfig
  registers : RegisterFile
  pc : Address
  privilege : PrivilegeLevel
  csrs : CsrFile
  sequence : BitVec 64
  halted : Bool
  haltDetail : Text
  terminalTrap : Option Trap

@[ext] structure StepState where
  cpu : Cpu
  record : StepRecord

def signedValue (value : BitVec 64) : Int := value.toInt

def arithmeticShiftRight (value : BitVec 64) (amount : Nat) : BitVec 64 :=
  let amount := amount % 64
  if amount = 0 then value
  else
    let shifted := value >>> amount
    if value &&& (1#64 <<< 63) = 0#64 then shifted
    else shifted ||| (BitVec.allOnes 64 <<< (64 - amount))

def arithmeticShiftRightWord (value : BitVec 32) (amount : Nat) : BitVec 32 :=
  let amount := amount % 32
  if amount = 0 then value
  else
    let shifted := value >>> amount
    if value &&& (1#32 <<< 31) = 0#32 then shifted
    else shifted ||| (BitVec.allOnes 32 <<< (32 - amount))

def signExtendWord (value : BitVec 64) : BitVec 64 := (value.setWidth 32).signExtend 64

def addOffset (base : Address) (offset : BitVec 64) : Address := base + offset

def isMisaligned (address : Address) : Bool := address % kInstructionBytes ≠ 0#64

namespace StepState

def setPc (s : StepState) (pc : Address) : StepState := { s with cpu := { s.cpu with pc := pc } }

def setBus (s : StepState) (bus : Bus) : StepState := { s with cpu := { s.cpu with bus := bus } }

def setCsrs (s : StepState) (csrs : CsrFile) : StepState :=
  { s with cpu := { s.cpu with csrs := csrs } }

def writeRegister (s : StepState) (index : RegisterIndex) (value : BitVec 64) : StepState :=
  if index = 0#5 then s
  else
    { cpu := { s.cpu with registers := s.cpu.registers.set index value }
      record := { s.record with registerWrite := some ⟨index.setWidth 8, value⟩ } }

def raiseTrap (s : StepState) (cause : TrapCause) (value : BitVec 64) (detail : Text) :
    StepState :=
  let trap : Trap := ⟨cause, s.record.pc, value, detail⟩
  let entry := s.cpu.csrs.enterTrap trap s.cpu.privilege
  let cpu : Cpu := { s.cpu with csrs := entry.1, privilege := entry.2.target }
  let cpu :=
    if cpu.config.trapPolicy = .vector then { cpu with pc := entry.2.vector }
    else
      { cpu with
        pc := trap.pc
        halted := true
        haltDetail := trapName cause ++ text ": " ++ trap.detail
        terminalTrap := some trap }
  { cpu := cpu
    record := { s.record with
      trap := some trap
      retired := false
      nextPc := cpu.pc
      nextPrivilege := cpu.privilege
      halted := cpu.halted } }

def setTranslation (s : StepState) (access : VirtualAccess) (translation : AddressTranslation) :
    StepState :=
  match access with
  | .instructionFetch => { s with record := { s.record with
      instructionTranslation := some translation } }
  | _ => { s with record := { s.record with dataTranslation := some translation } }

def kSatpPpnMask : BitVec 64 := (1#64 <<< 44) - 1#64

def pageFaultCause : VirtualAccess → TrapCause
  | .instructionFetch => .instructionPageFault
  | .load => .loadPageFault
  | .store => .storePageFault

def accessFaultCause : VirtualAccess → TrapCause
  | .instructionFetch => .instructionAccessFault
  | .load => .loadAccessFault
  | .store => .storeAccessFault

def usesIdentity (cpu : Cpu) : Bool :=
  cpu.privilege = .machine || cpu.csrs.satpValue &&& kSatpModeMask ≠ kSatpModeSv39

def walkContext (cpu : Cpu) (access : VirtualAccess) : Sv39Context :=
  ⟨cpu.csrs.satpValue &&& kSatpPpnMask, cpu.privilege, access,
    cpu.csrs.mstatusValue &&& status.kSum ≠ 0#64, cpu.csrs.mstatusValue &&& status.kMxr ≠ 0#64⟩

def translate (s : StepState) (address : Address) (access : VirtualAccess) :
    Option Address × StepState :=
  if usesIdentity s.cpu then
    (some address, s.setTranslation access ⟨address, address⟩)
  else
    let result := walkSv39 s.cpu.bus address (walkContext s.cpu access)
    let s := s.setBus result.2
    match result.1 with
    | .error fault =>
      if fault.reason = .pageTableAccess then
        (none, s.raiseTrap (accessFaultCause access) address
          (text "Sv39 page-table access failed at level " ++ signedDecimal fault.level ++
            text ": " ++ fault.detail))
      else
        (none, s.raiseTrap (pageFaultCause access) address
          (sv39FaultReasonName fault.reason ++ text " at level " ++ signedDecimal fault.level ++
            text ": " ++ fault.detail))
    | .ok translation =>
      (some translation.physicalAddress,
        s.setTranslation access ⟨address, translation.physicalAddress⟩)

def isUnaligned (address : Address) (width : Nat) : Bool :=
  width > 1 && address % BitVec.ofNat 64 width ≠ 0#64

def load (s : StepState) (address : Address) (width : Nat) (signExtendValue : Bool) :
    Option (BitVec 64) × StepState :=
  if isUnaligned address width then
    (none, s.raiseTrap .loadAddressMisaligned address
      (text "load address is not naturally aligned"))
  else
    match s.translate address .load with
    | (none, s) => (none, s)
    | (some physical, s) =>
      let result := s.cpu.bus.read physical width .load
      let s := s.setBus result.2
      match result.1 with
      | .error fault => (none, s.raiseTrap .loadAccessFault address fault.detail)
      | .ok value =>
        (some (if signExtendValue && width < 8 then signExtend value (width * 8) else value), s)

def store (s : StepState) (address : Address) (width : Nat) (value : BitVec 64) :
    Bool × StepState :=
  if isUnaligned address width then
    (false, s.raiseTrap .storeAddressMisaligned address
      (text "store address is not naturally aligned"))
  else
    let value := value &&& maskForWidth width
    match s.translate address .store with
    | (none, s) => (false, s)
    | (some physical, s) =>
      let result := s.cpu.bus.write physical width value .store
      let s := s.setBus result.1
      match result.2 with
      | some fault => (false, s.raiseTrap .storeAccessFault address fault.detail)
      | none =>
        (true, { s with record := { s.record with
          memoryWrite := some ⟨address, width, value, physical⟩ } })

def branch (s : StepState) (instruction : DecodedInstruction) (taken : Bool) : StepState :=
  if !taken then s
  else
    let target := addOffset s.record.pc instruction.immediate
    if isMisaligned target then
      s.raiseTrap .instructionAddressMisaligned target
        (text "taken branch target is not four-byte aligned")
    else s.setPc target

def complete (s : StepState) : StepState :=
  if s.record.trap.isNone then
    { s with record := { s.record with
      retired := true
      nextPc := s.cpu.pc
      nextPrivilege := s.cpu.privilege
      halted := s.cpu.halted } }
  else s

-- The jump cases of `execute` return before the completion block when the target is rejected.
def jump (s : StepState) (instruction : DecodedInstruction) (target : Address) : StepState :=
  if isMisaligned target then
    s.raiseTrap .instructionAddressMisaligned target
      (text "jump target is not four-byte aligned")
  else
    ((s.writeRegister instruction.rd (s.record.pc + kInstructionBytes)).setPc target).complete

def executeLoad (s : StepState) (instruction : DecodedInstruction) (width : Nat)
    (signExtendValue : Bool) : StepState :=
  let lhs := s.cpu.registers.values instruction.rs1
  match s.load (addOffset lhs instruction.immediate) width signExtendValue with
  | (none, s) => s
  | (some value, s) => (s.writeRegister instruction.rd value).complete

def executeStore (s : StepState) (instruction : DecodedInstruction) (width : Nat) : StepState :=
  let lhs := s.cpu.registers.values instruction.rs1
  let rhs := s.cpu.registers.values instruction.rs2
  match s.store (addOffset lhs instruction.immediate) width rhs with
  | (false, s) => s
  | (true, s) => s.complete

def executeRegister (s : StepState) (instruction : DecodedInstruction) (value : BitVec 64) :
    StepState :=
  (s.writeRegister instruction.rd value).complete

def executeEcall (s : StepState) : StepState :=
  match s.cpu.privilege with
  | .user => s.raiseTrap .environmentCallFromUserMode 0#64
      (text "environment call executed in user mode")
  | .supervisor => s.raiseTrap .environmentCallFromSupervisorMode 0#64
      (text "environment call executed in supervisor mode")
  | .machine => s.raiseTrap .environmentCallFromMachineMode 0#64
      (text "environment call executed in machine mode")

def haltAtBreakpoint (s : StepState) : StepState where
  cpu := { s.cpu with
    halted := true
    pc := s.record.pc
    haltDetail := text "breakpoint: EBREAK requested a debugger trap"
    terminalTrap := s.record.trap }
  record := { s.record with nextPc := s.record.pc, halted := true }

def executeEbreak (s : StepState) : StepState :=
  let s := s.raiseTrap .breakpoint 0#64 (text "EBREAK requested a debugger trap")
  if s.cpu.config.haltOnEbreak && s.cpu.config.trapPolicy = .vector then s.haltAtBreakpoint else s

def applyReturn (s : StepState) (mode : TrapReturnMode) : StepState :=
  let transition := s.cpu.csrs.returnFromTrap mode
  { s with cpu := { s.cpu with
    csrs := transition.1
    pc := transition.2.pc
    privilege := transition.2.target } }

def executeSret (s : StepState) (instruction : DecodedInstruction) : StepState :=
  if s.cpu.privilege = .user then
    s.raiseTrap .illegalInstruction (instruction.raw.setWidth 64)
      (text "SRET requires supervisor or machine privilege")
  else (s.applyReturn .supervisor).complete

def executeMret (s : StepState) (instruction : DecodedInstruction) : StepState :=
  if s.cpu.privilege ≠ .machine then
    s.raiseTrap .illegalInstruction (instruction.raw.setWidth 64)
      (text "MRET requires machine privilege")
  else (s.applyReturn .machine).complete

def executeSfenceVma (s : StepState) (instruction : DecodedInstruction) : StepState :=
  if s.cpu.privilege = .user then
    s.raiseTrap .illegalInstruction (instruction.raw.setWidth 64)
      (text "SFENCE.VMA requires supervisor or machine privilege")
  else s.complete

def haltAtWfi (s : StepState) : StepState where
  cpu := { s.cpu with
    halted := true
    haltDetail := text "WFI reached with no interrupt source configured" }
  record := { s.record with halted := true }

def executeWfi (s : StepState) : StepState :=
  if s.cpu.config.haltOnWfi then s.haltAtWfi.complete else s.complete

def csrImmediateForm (operation : Operation) : Bool :=
  operation = .csrrwi || operation = .csrrsi || operation = .csrrci

def csrOperand (s : StepState) (instruction : DecodedInstruction) : BitVec 64 :=
  if csrImmediateForm instruction.operation then instruction.rs1.setWidth 64
  else s.cpu.registers.values instruction.rs1

def csrNewValue (operation : Operation) (oldValue operand : BitVec 64) : BitVec 64 :=
  if operation = .csrrs ∨ operation = .csrrsi then oldValue ||| operand
  else if operation = .csrrc ∨ operation = .csrrci then oldValue &&& ~~~operand
  else operand

def csrShouldWrite (operation : Operation) (operand : BitVec 64) : Bool :=
  if operation = .csrrs ∨ operation = .csrrsi then operand ≠ 0#64
  else if operation = .csrrc ∨ operation = .csrrci then operand ≠ 0#64
  else true

def executeCsr (s : StepState) (instruction : DecodedInstruction) : StepState :=
  match s.cpu.csrs.read instruction.csr s.cpu.privilege with
  | .error error =>
    s.raiseTrap .illegalInstruction (instruction.raw.setWidth 64) error.detail
  | .ok oldValue =>
    let operand := s.csrOperand instruction
    let newValue := csrNewValue instruction.operation oldValue operand
    if csrShouldWrite instruction.operation operand then
      match s.cpu.csrs.write instruction.csr newValue s.cpu.privilege with
      | .error error =>
        s.raiseTrap .illegalInstruction (instruction.raw.setWidth 64) error.detail
      | .ok csrs => ((s.setCsrs csrs).writeRegister instruction.rd oldValue).complete
    else (s.writeRegister instruction.rd oldValue).complete

def execute (s : StepState) (instruction : DecodedInstruction) : StepState :=
  let lhs := s.cpu.registers.values instruction.rs1
  let rhs := s.cpu.registers.values instruction.rs2
  let immediate := instruction.immediate
  let word (value : BitVec 64) : BitVec 32 := value.setWidth 32
  let widen (value : BitVec 32) : BitVec 64 := value.setWidth 64
  let s := s.setPc (s.record.pc + kInstructionBytes)
  match instruction.operation with
  | .lui => s.executeRegister instruction immediate
  | .auipc => s.executeRegister instruction (addOffset s.record.pc immediate)
  | .jal => s.jump instruction (addOffset s.record.pc immediate)
  | .jalr => s.jump instruction (addOffset lhs immediate &&& ~~~1#64)
  | .beq => (s.branch instruction (lhs = rhs)).complete
  | .bne => (s.branch instruction (lhs ≠ rhs)).complete
  | .blt => (s.branch instruction (signedValue lhs < signedValue rhs)).complete
  | .bge => (s.branch instruction (signedValue lhs ≥ signedValue rhs)).complete
  | .bltu => (s.branch instruction (lhs < rhs)).complete
  | .bgeu => (s.branch instruction (lhs ≥ rhs)).complete
  | .lb => s.executeLoad instruction 1 true
  | .lh => s.executeLoad instruction 2 true
  | .lw => s.executeLoad instruction 4 true
  | .ld => s.executeLoad instruction 8 true
  | .lbu => s.executeLoad instruction 1 false
  | .lhu => s.executeLoad instruction 2 false
  | .lwu => s.executeLoad instruction 4 false
  | .sb => s.executeStore instruction 1
  | .sh => s.executeStore instruction 2
  | .sw => s.executeStore instruction 4
  | .sd => s.executeStore instruction 8
  | .addi => s.executeRegister instruction (addOffset lhs immediate)
  | .slti => s.executeRegister instruction
      (if signedValue lhs < signedValue immediate then 1#64 else 0#64)
  | .sltiu => s.executeRegister instruction (if lhs < immediate then 1#64 else 0#64)
  | .xori => s.executeRegister instruction (lhs ^^^ immediate)
  | .ori => s.executeRegister instruction (lhs ||| immediate)
  | .andi => s.executeRegister instruction (lhs &&& immediate)
  | .slli => s.executeRegister instruction (lhs <<< immediate)
  | .srli => s.executeRegister instruction (lhs >>> immediate)
  | .srai => s.executeRegister instruction (arithmeticShiftRight lhs immediate.toNat)
  | .add => s.executeRegister instruction (lhs + rhs)
  | .sub => s.executeRegister instruction (lhs - rhs)
  | .sll => s.executeRegister instruction (lhs <<< (rhs &&& 0x3f#64))
  | .slt => s.executeRegister instruction
      (if signedValue lhs < signedValue rhs then 1#64 else 0#64)
  | .sltu => s.executeRegister instruction (if lhs < rhs then 1#64 else 0#64)
  | .xor => s.executeRegister instruction (lhs ^^^ rhs)
  | .srl => s.executeRegister instruction (lhs >>> (rhs &&& 0x3f#64))
  | .sra => s.executeRegister instruction (arithmeticShiftRight lhs (rhs &&& 0x3f#64).toNat)
  | .or => s.executeRegister instruction (lhs ||| rhs)
  | .and => s.executeRegister instruction (lhs &&& rhs)
  | .addiw => s.executeRegister instruction (signExtendWord (lhs + immediate))
  | .slliw => s.executeRegister instruction (signExtendWord (widen (word lhs <<< immediate)))
  | .srliw => s.executeRegister instruction (signExtendWord (widen (word lhs >>> immediate)))
  | .sraiw => s.executeRegister instruction
      (signExtendWord (widen (arithmeticShiftRightWord (word lhs) immediate.toNat)))
  | .addw => s.executeRegister instruction (signExtendWord (widen (word lhs + word rhs)))
  | .subw => s.executeRegister instruction (signExtendWord (widen (word lhs - word rhs)))
  | .sllw => s.executeRegister instruction
      (signExtendWord (widen (word lhs <<< (rhs &&& 0x1f#64))))
  | .srlw => s.executeRegister instruction
      (signExtendWord (widen (word lhs >>> (rhs &&& 0x1f#64))))
  | .sraw => s.executeRegister instruction
      (signExtendWord (widen (arithmeticShiftRightWord (word lhs) (rhs &&& 0x1f#64).toNat)))
  | .fence => s.complete
  | .fenceI => s.complete
  | .sfenceVma => s.executeSfenceVma instruction
  | .ecall => s.executeEcall
  | .ebreak => s.executeEbreak
  | .sret => s.executeSret instruction
  | .mret => s.executeMret instruction
  | .wfi => s.executeWfi
  | .csrrw => s.executeCsr instruction
  | .csrrs => s.executeCsr instruction
  | .csrrc => s.executeCsr instruction
  | .csrrwi => s.executeCsr instruction
  | .csrrsi => s.executeCsr instruction
  | .csrrci => s.executeCsr instruction

def setInstruction (s : StepState) (word : BitVec 32) : StepState :=
  { s with record := { s.record with instruction := word } }

def setAssembly (s : StepState) (assembly : Text) : StepState :=
  { s with record := { s.record with assembly := assembly } }

def retire (s : StepState) : StepState :=
  let s := { s with cpu := { s.cpu with registers := s.cpu.registers.clearZero } }
  if s.record.retired then s.setCsrs s.cpu.csrs.retireInstruction else s

def fetch (s : StepState) : Option (BitVec 32) × StepState :=
  if isMisaligned s.cpu.pc then
    (none, s.raiseTrap .instructionAddressMisaligned s.cpu.pc
      (text "program counter is not four-byte aligned"))
  else
    match s.translate s.cpu.pc .instructionFetch with
    | (none, s) => (none, s)
    | (some fetchAddress, s) =>
      let fetched := s.cpu.bus.read fetchAddress kInstructionBytes.toNat .instructionFetch
      let s := s.setBus fetched.2
      match fetched.1 with
      | .error fault =>
        (none, s.raiseTrap .instructionAccessFault s.cpu.pc fault.detail)
      | .ok value => (some (value.setWidth 32), s.setInstruction (value.setWidth 32))

def decodeAndExecute (s : StepState) (word : BitVec 32) : StepState :=
  match decode word with
  | .error error =>
    (s.setAssembly (text ".word " ++ toDecimal word.toNat)).raiseTrap .illegalInstruction
      (word.setWidth 64) error.detail
  | .ok decoded => ((s.setAssembly (disassemble decoded)).execute decoded).retire

end StepState

namespace Cpu

def reset (bus : Bus) (config : CpuConfig) (entry : Address) : Cpu where
  bus := bus
  config := config
  registers := .cleared
  pc := entry
  privilege := .machine
  csrs := .reset
  sequence := 0#64
  halted := false
  haltDetail := []
  terminalTrap := none

def openRecord (cpu : Cpu) : StepRecord where
  sequence := cpu.sequence
  pc := cpu.pc
  privilege := cpu.privilege
  instruction := 0#32
  assembly := []
  nextPc := cpu.pc
  nextPrivilege := cpu.privilege
  retired := false
  halted := cpu.halted
  registerWrite := none
  memoryWrite := none
  trap := none
  instructionTranslation := none
  dataTranslation := none

def numbered (cpu : Cpu) : Cpu := { cpu with sequence := cpu.sequence + 1#64 }

def ticked (cpu : Cpu) : Cpu := { cpu with csrs := cpu.csrs.tickCycle }

def start (cpu : Cpu) : StepState := ⟨cpu.numbered.ticked, cpu.openRecord⟩

def step (cpu : Cpu) : Cpu × StepRecord :=
  if cpu.halted then (cpu.numbered, cpu.openRecord)
  else
    match cpu.start.fetch with
    | (none, s) => (s.cpu, s.record)
    | (some word, s) =>
      let s := s.decodeAndExecute word
      (s.cpu, s.record)

-- `remaining` bounds the `while` loop: it is `maximum_steps - attempted` in every iteration.
def runLoop (maximumSteps : BitVec 64) :
    Nat → Cpu → BitVec 64 → List StepRecord → Cpu × BitVec 64 × List StepRecord
  | 0, cpu, attempted, trace => (cpu, attempted, trace)
  | remaining + 1, cpu, attempted, trace =>
    if !cpu.halted && attempted < maximumSteps then
      let result := cpu.step
      runLoop maximumSteps remaining result.1 (attempted + 1#64) (trace ++ [result.2])
    else (cpu, attempted, trace)

structure RunOutcome where
  cpu : Cpu
  trace : List StepRecord
  result : RunResult

def runOutcome (final : Cpu × BitVec 64 × List StepRecord) : RunOutcome :=
  let cpu := final.1
  { cpu := cpu
    trace := final.2.2
    result := {
      reason := if cpu.halted then .halted else .stepLimit
      attemptedSteps := final.2.1
      retiredInstructions := cpu.csrs.retiredCount
      detail := if cpu.halted then cpu.haltDetail else text "maximum step count reached"
      terminalTrap := cpu.terminalTrap } }

def run (cpu : Cpu) (maximumSteps : BitVec 64) (trace : List StepRecord) : RunOutcome :=
  runOutcome (runLoop maximumSteps maximumSteps.toNat cpu 0#64 trace)

structure Interrupted where
  what : Text
  cpu : Cpu
  trace : List StepRecord

-- The `while` loop with a sink: what `append` throws, after the records it was given, ends it.
def tracedLoop (append : List StepRecord → Option Text) (maximumSteps : BitVec 64) :
    Nat → Cpu → BitVec 64 → List StepRecord → Except Interrupted (Cpu × BitVec 64 × List StepRecord)
  | 0, cpu, attempted, trace => .ok (cpu, attempted, trace)
  | remaining + 1, cpu, attempted, trace =>
    if !cpu.halted && attempted < maximumSteps then
      let result := cpu.step
      let trace := trace ++ [result.2]
      match append trace with
      | some what => .error ⟨what, result.1, trace⟩
      | none => tracedLoop append maximumSteps remaining result.1 (attempted + 1#64) trace
    else .ok (cpu, attempted, trace)

def runTraced (cpu : Cpu) (append : List StepRecord → Option Text) (maximumSteps : BitVec 64) :
    Except Interrupted RunOutcome :=
  (tracedLoop append maximumSteps maximumSteps.toNat cpu 0#64 []).map runOutcome

def steps : Execution.System Cpu StepRecord := ⟨step, fun _ => false⟩

def runs : Execution.System Cpu StepRecord := ⟨step, fun cpu => cpu.halted⟩

end Cpu

end Northstar64
