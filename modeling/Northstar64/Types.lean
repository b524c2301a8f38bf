import Northstar64.Library.Numerals

namespace Northstar64

abbrev Address := BitVec 64
abbrev RegisterValue := BitVec 64
abbrev Byte := BitVec 8
abbrev RegisterIndex := BitVec 5

def kInstructionBytes : BitVec 64 := 4#64

abbrev Text := List Byte

def text (literal : String) : Text :=
  literal.toList.map (fun c => BitVec.ofNat 8 c.toNat)

def toDecimal (value : Nat) : Text := Numerals.numeral 10 value

def toHex (value : Nat) : Text := Numerals.numeral 16 value

def signedDecimal (value : Int) : Text :=
  if value < 0 then text "-" ++ toDecimal value.natAbs else toDecimal value.natAbs

def signExtend (value : BitVec 64) (bits : Nat) : BitVec 64 :=
  let signBit := 1#64 <<< (bits - 1)
  let mask := if bits = 64 then BitVec.allOnes 64 else (1#64 <<< bits) - 1#64
  let narrowed := value &&& mask
  (narrowed ^^^ signBit) - signBit

def addOverflows (base : Address) (size : BitVec 64) : Bool :=
  size > BitVec.allOnes 64 - base

theorem addOverflows_eq_false_iff (base : Address) (size : BitVec 64) :
    addOverflows base size = false ↔ base.toNat + size.toNat < 2 ^ 64 := by
  have hle : base ≤ BitVec.allOnes 64 := by rw [BitVec.le_def, BitVec.toNat_allOnes]; omega
  have hsub : (BitVec.allOnes 64 - base).toNat = 2 ^ 64 - 1 - base.toNat := by
    rw [BitVec.toNat_sub_of_le hle, BitVec.toNat_allOnes]
  have hb := base.isLt
  rw [addOverflows, decide_eq_false_iff_not, gt_iff_lt, BitVec.lt_def, hsub]
  omega

def maskForWidth (width : Nat) : BitVec 64 :=
  if width = 8 then BitVec.allOnes 64 else (1#64 <<< (width * 8)) - 1#64

inductive PrivilegeLevel where
  | user
  | supervisor
  | machine
  deriving DecidableEq, Repr

namespace PrivilegeLevel

def encoding : PrivilegeLevel → BitVec 8
  | .user => 0#8
  | .supervisor => 1#8
  | .machine => 3#8

end PrivilegeLevel

def privilegeAtLeast (current required : PrivilegeLevel) : Bool :=
  current.encoding ≥ required.encoding

def privilegeName : PrivilegeLevel → Text
  | .user => text "U"
  | .supervisor => text "S"
  | .machine => text "M"

inductive TrapCause where
  | instructionAddressMisaligned
  | instructionAccessFault
  | illegalInstruction
  | breakpoint
  | loadAddressMisaligned
  | loadAccessFault
  | storeAddressMisaligned
  | storeAccessFault
  | environmentCallFromUserMode
  | environmentCallFromSupervisorMode
  | environmentCallFromMachineMode
  | instructionPageFault
  | loadPageFault
  | storePageFault
  deriving DecidableEq, Repr

namespace TrapCause

def code : TrapCause → BitVec 64
  | .instructionAddressMisaligned => 0#64
  | .instructionAccessFault => 1#64
  | .illegalInstruction => 2#64
  | .breakpoint => 3#64
  | .loadAddressMisaligned => 4#64
  | .loadAccessFault => 5#64
  | .storeAddressMisaligned => 6#64
  | .storeAccessFault => 7#64
  | .environmentCallFromUserMode => 8#64
  | .environmentCallFromSupervisorMode => 9#64
  | .environmentCallFromMachineMode => 11#64
  | .instructionPageFault => 12#64
  | .loadPageFault => 13#64
  | .storePageFault => 15#64

theorem code_lt (cause : TrapCause) : cause.code < 64#64 := by
  cases cause <;> decide

theorem code_injective : Function.Injective code := by
  intro a b h
  cases a <;> cases b <;> first | rfl | exact absurd h (by decide)

end TrapCause

def PrivilegeLevel.environmentCause : PrivilegeLevel → TrapCause
  | .user => .environmentCallFromUserMode
  | .supervisor => .environmentCallFromSupervisorMode
  | .machine => .environmentCallFromMachineMode

def trapName : TrapCause → Text
  | .instructionAddressMisaligned => text "instruction-address-misaligned"
  | .instructionAccessFault => text "instruction-access-fault"
  | .illegalInstruction => text "illegal-instruction"
  | .breakpoint => text "breakpoint"
  | .loadAddressMisaligned => text "load-address-misaligned"
  | .loadAccessFault => text "load-access-fault"
  | .storeAddressMisaligned => text "store-address-misaligned"
  | .storeAccessFault => text "store-access-fault"
  | .environmentCallFromUserMode => text "environment-call-from-user-mode"
  | .environmentCallFromSupervisorMode => text "environment-call-from-supervisor-mode"
  | .environmentCallFromMachineMode => text "environment-call-from-machine-mode"
  | .instructionPageFault => text "instruction-page-fault"
  | .loadPageFault => text "load-page-fault"
  | .storePageFault => text "store-page-fault"

structure Trap where
  cause : TrapCause
  pc : Address
  value : BitVec 64
  detail : Text
  deriving DecidableEq, Repr

end Northstar64
