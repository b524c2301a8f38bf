import Northstar64.FlatMemory
import Northstar64.Sv39Spec

namespace Northstar64

open Sv39Spec

structure Exception where
  cause : TrapCause
  value : BitVec 64
  deriving DecidableEq, Repr

def Exception.unless {α : Type} (exception : Exception) : Option α → Except Exception α
  | none => .error exception
  | some result => .ok result

inductive CsrAction where
  | write
  | set
  | clear
  deriving DecidableEq, Repr

inductive CsrSource where
  | register (index : RegisterIndex)
  | immediate (value : BitVec 5)
  deriving DecidableEq, Repr

inductive Instruction where
  | integer (instruction : Rv64i.Instruction)
  | load (width : Nat) (signed : Bool) (rd rs1 : RegisterIndex) (offset : BitVec 64)
  | store (width : Nat) (rs1 rs2 : RegisterIndex) (offset : BitVec 64)
  | fence
  | sfenceVma
  | ecall
  | ebreak
  | sret
  | mret
  | wfi
  | csr (action : CsrAction) (source : CsrSource) (rd : RegisterIndex) (address : BitVec 16)
  deriving DecidableEq, Repr

namespace Instruction

def ofWord (word : BitVec 32) (operation : Operation) : Option Instruction :=
  let rd := Rv64i.rd word
  let rs1 := Rv64i.rs1 word
  let load (width : Nat) (signed : Bool) : Option Instruction :=
    some (.load width signed rd rs1 (Rv64i.immediateI word))
  let store (width : Nat) : Option Instruction :=
    some (.store width rs1 (Rv64i.rs2 word) (Rv64i.immediateS word))
  let csr (action : CsrAction) (source : CsrSource) : Option Instruction :=
    some (.csr action source rd ((word.extractLsb' 20 12).setWidth 16))
  match operation with
  | .lb => load 1 true
  | .lh => load 2 true
  | .lw => load 4 true
  | .ld => load 8 true
  | .lbu => load 1 false
  | .lhu => load 2 false
  | .lwu => load 4 false
  | .sb => store 1
  | .sh => store 2
  | .sw => store 4
  | .sd => store 8
  | .fence => some .fence
  | .fenceI => some .fence
  | .sfenceVma => some .sfenceVma
  | .ecall => some .ecall
  | .ebreak => some .ebreak
  | .sret => some .sret
  | .mret => some .mret
  | .wfi => some .wfi
  | .csrrw => csr .write (.register rs1)
  | .csrrs => csr .set (.register rs1)
  | .csrrc => csr .clear (.register rs1)
  | .csrrwi => csr .write (.immediate rs1)
  | .csrrsi => csr .set (.immediate rs1)
  | .csrrci => csr .clear (.immediate rs1)
  | operation => (integerForm word operation).map .integer

def decoded (word : BitVec 32) : Option Instruction :=
  (decode word).toOption.bind (fun decoded => ofWord word decoded.operation)

end Instruction

namespace CsrAction

def combine (action : CsrAction) (old operand : BitVec 64) : BitVec 64 :=
  match action with
  | .write => operand
  | .set => old ||| operand
  | .clear => old &&& ~~~operand

-- A set or clear whose operand is zero leaves the register unwritten, whatever its source.
def writes (action : CsrAction) (operand : BitVec 64) : Bool :=
  action = .write || operand ≠ 0#64

end CsrAction

inductive TranslationFault where
  | page
  | access
  deriving DecidableEq, Repr

namespace TranslationFault

def cause : TranslationFault → VirtualAccess → TrapCause
  | .page, .instructionFetch => .instructionPageFault
  | .page, .load => .loadPageFault
  | .page, .store => .storePageFault
  | .access, .instructionFetch => .instructionAccessFault
  | .access, .load => .loadAccessFault
  | .access, .store => .storeAccessFault

end TranslationFault

namespace FlatMemory

def lookup (memory : FlatMemory) (context : Sv39Context) (virtualAddress : Address) :
    Nat → Nat → Except TranslationFault Address
  | 0, _ => .error .page
  | level + 1, table =>
    match memory.load (BitVec.ofNat 64 (table + 8 * vpn virtualAddress level)) 8 with
    | none => .error .access
    | some pte =>
      if firstFailing (entryChecks context level pte) ≠ none then .error .page
      else if isLeaf pte then
        let region := 2 ^ (12 + 9 * level)
        .ok (BitVec.ofNat 64
          (ppn pte * 4096 / region * region + virtualAddress.toNat % region))
      else memory.lookup context virtualAddress level (ppn pte * 4096)

end FlatMemory

-- The hart reads words with `decode` and CSRs through `CsrFile`; the rest is written apart.
@[ext] structure Hart where
  registers : Rv64i.Registers
  pc : Address
  privilege : PrivilegeLevel
  csrs : CsrFile
  memory : FlatMemory

inductive Completion where
  | retired (word : BitVec 32)
  | trapped (exception : Exception)
  deriving DecidableEq, Repr

structure Event where
  pc : Address
  privilege : PrivilegeLevel
  completion : Completion
  deriving DecidableEq, Repr

namespace Hart

def context (hart : Hart) (access : VirtualAccess) : Sv39Context where
  rootPpn := (hart.csrs.satp.extractLsb' 0 44).setWidth 64
  privilege := hart.privilege
  access := access
  sum := hart.csrs.mstatus.getLsbD 18
  mxr := hart.csrs.mstatus.getLsbD 19

def paged (hart : Hart) : Bool :=
  hart.privilege ≠ .machine && hart.csrs.satp.extractLsb' 60 4 = 8#4

def lookup (hart : Hart) (access : VirtualAccess) (address : Address) :
    Except TranslationFault Address :=
  let context := hart.context access
  if (address.setWidth 39).signExtend 64 = address then
    hart.memory.lookup context address 3 (context.rootPpn.toNat * 4096)
  else .error .page

def translate (hart : Hart) (access : VirtualAccess) (address : Address) :
    Except Exception Address :=
  if !hart.paged then .ok address
  else (hart.lookup access address).mapError (fun fault => ⟨fault.cause access, address⟩)

def fetch (hart : Hart) : Except Exception (BitVec 32) :=
  if hart.pc.toNat % 4 ≠ 0 then .error ⟨.instructionAddressMisaligned, hart.pc⟩
  else do
    let physical ← hart.translate .instructionFetch hart.pc
    (Exception.unless ⟨.instructionAccessFault, hart.pc⟩ (hart.memory.load physical 4)).map
      (BitVec.setWidth 32)

def load (hart : Hart) (address : Address) (width : Nat) : Except Exception (BitVec 64) :=
  if address.toNat % width ≠ 0 then .error ⟨.loadAddressMisaligned, address⟩
  else do
    let physical ← hart.translate .load address
    Exception.unless ⟨.loadAccessFault, address⟩ (hart.memory.load physical width)

def store (hart : Hart) (address : Address) (width : Nat) (value : BitVec 64) :
    Except Exception FlatMemory :=
  if address.toNat % width ≠ 0 then .error ⟨.storeAddressMisaligned, address⟩
  else do
    let physical ← hart.translate .store address
    Exception.unless ⟨.storeAccessFault, address⟩ (hart.memory.store physical width value)

def write (hart : Hart) (rd : RegisterIndex) (value : BitVec 64) : Hart :=
  { hart with registers := Rv64i.writeBack hart.registers (some ⟨rd, value⟩) }

def advance (hart : Hart) : Hart := { hart with pc := hart.pc + 4#64 }

def returned (hart : Hart) (mode : TrapReturnMode) : Hart :=
  let transition := hart.csrs.returnFromTrap mode
  { hart with
    csrs := transition.1
    pc := transition.2.pc
    privilege := transition.2.target }

def operand (hart : Hart) : CsrSource → BitVec 64
  | .register index => hart.registers index
  | .immediate value => value.setWidth 64

def csrAccess (hart : Hart) (action : CsrAction) (source : CsrSource) (address : BitVec 16) :
    Option (BitVec 64 × CsrFile) :=
  let operand := hart.operand source
  (hart.csrs.read address hart.privilege).toOption.bind (fun old =>
    if action.writes operand then
      (hart.csrs.write address (action.combine old operand) hart.privilege).toOption.map (old, ·)
    else some (old, hart.csrs))

def deliver (hart : Hart) : Rv64i.Result → Except Exception Hart
  | .advance write next =>
    .ok { hart with registers := Rv64i.writeBack hart.registers write, pc := next }
  | .misaligned target => .error ⟨.instructionAddressMisaligned, target⟩

def execute (hart : Hart) (word : BitVec 32) : Instruction → Except Exception Hart
  | .integer instruction => hart.deliver (instruction.result hart.registers hart.pc)
  | .load width signed rd rs1 offset => do
    let value ← hart.load (hart.registers rs1 + offset) width
    return (hart.write rd (extended width signed value)).advance
  | .store width rs1 rs2 offset => do
    let memory ← hart.store (hart.registers rs1 + offset) width (hart.registers rs2)
    return { hart with memory := memory }.advance
  | .fence => .ok hart.advance
  | .sfenceVma =>
    if hart.privilege = .user then .error ⟨.illegalInstruction, word.setWidth 64⟩
    else .ok hart.advance
  | .ecall => .error ⟨hart.privilege.environmentCause, 0#64⟩
  | .ebreak => .error ⟨.breakpoint, 0#64⟩
  | .sret =>
    if hart.privilege = .user then .error ⟨.illegalInstruction, word.setWidth 64⟩
    else .ok (hart.returned .supervisor)
  | .mret =>
    if hart.privilege ≠ .machine then .error ⟨.illegalInstruction, word.setWidth 64⟩
    else .ok (hart.returned .machine)
  | .wfi => .ok hart.advance
  | .csr action source rd address => do
    let access ← Exception.unless ⟨.illegalInstruction, word.setWidth 64⟩
      (hart.csrAccess action source address)
    return (({ hart with csrs := access.2 } : Hart).write rd access.1).advance

def attempt (hart : Hart) : Except Exception (BitVec 32 × Hart) := do
  let word ← hart.fetch
  let instruction ← Exception.unless ⟨.illegalInstruction, word.setWidth 64⟩
    (Instruction.decoded word)
  let next ← hart.execute word instruction
  return (word, next)

def ticked (hart : Hart) : Hart := { hart with csrs := hart.csrs.tickCycle }

def retired (hart : Hart) : Hart := { hart with csrs := hart.csrs.retireInstruction }

def trap (hart : Hart) (exception : Exception) : Hart :=
  let entry := hart.csrs.enterTrap ⟨exception.cause, hart.pc, exception.value, []⟩ hart.privilege
  { hart with csrs := entry.1, privilege := entry.2.target, pc := entry.2.vector }

def step (hart : Hart) : Hart × Event :=
  match hart.ticked.attempt with
  | .ok (word, next) => (next.retired, ⟨hart.pc, hart.privilege, .retired word⟩)
  | .error exception =>
    (hart.ticked.trap exception, ⟨hart.pc, hart.privilege, .trapped exception⟩)

def system : Execution.System Hart Event := ⟨step, fun _ => false⟩

section Accesses
variable (hart : Hart) {address physical : Address} {width : Nat} {exception : Exception}

theorem fetch_translated (haligned : hart.pc.toNat % 4 = 0)
    (h : hart.translate .instructionFetch hart.pc = .ok physical) :
    hart.fetch = (Exception.unless ⟨.instructionAccessFault, hart.pc⟩
      (hart.memory.load physical 4)).map (BitVec.setWidth 32) := by
  rw [fetch, if_neg (not_not_intro haligned), h]
  rfl

theorem fetch_fault (haligned : hart.pc.toNat % 4 = 0)
    (h : hart.translate .instructionFetch hart.pc = .error exception) :
    hart.fetch = .error exception := by
  rw [fetch, if_neg (not_not_intro haligned), h]
  rfl

theorem load_translated (haligned : address.toNat % width = 0)
    (h : hart.translate .load address = .ok physical) :
    hart.load address width =
      Exception.unless ⟨.loadAccessFault, address⟩ (hart.memory.load physical width) := by
  rw [load, if_neg (not_not_intro haligned), h]
  rfl

theorem load_fault (haligned : address.toNat % width = 0)
    (h : hart.translate .load address = .error exception) :
    hart.load address width = .error exception := by
  rw [load, if_neg (not_not_intro haligned), h]
  rfl

variable (value : BitVec 64)

theorem store_translated (haligned : address.toNat % width = 0)
    (h : hart.translate .store address = .ok physical) :
    hart.store address width value =
      Exception.unless ⟨.storeAccessFault, address⟩ (hart.memory.store physical width value) := by
  rw [store, if_neg (not_not_intro haligned), h]
  rfl

theorem store_fault (haligned : address.toNat % width = 0)
    (h : hart.translate .store address = .error exception) :
    hart.store address width value = .error exception := by
  rw [store, if_neg (not_not_intro haligned), h]
  rfl

end Accesses

end Hart

end Northstar64
