import Northstar64.Memory

namespace Northstar64

inductive VirtualAccess where
  | instructionFetch
  | load
  | store
  deriving DecidableEq, Repr

structure Sv39Context where
  rootPpn : BitVec 64
  privilege : PrivilegeLevel
  access : VirtualAccess
  sum : Bool
  mxr : Bool
  deriving DecidableEq, Repr

inductive Sv39FaultReason where
  | nonCanonicalAddress
  | pageTableAccess
  | invalidPte
  | reservedWriteOnlyPte
  | reservedPteBits
  | reservedNonLeafPte
  | misalignedSuperpage
  | privilegeViolation
  | permissionViolation
  | accessedBitClear
  | dirtyBitClear
  | walkExhausted
  deriving DecidableEq, Repr

structure Sv39Fault where
  reason : Sv39FaultReason
  virtualAddress : Address
  level : Int
  pteAddress : Address
  pte : BitVec 64
  detail : Text
  deriving DecidableEq, Repr

structure Sv39Translation where
  physicalAddress : Address
  leafLevel : Int
  pteAddress : Address
  pte : BitVec 64
  deriving DecidableEq, Repr

abbrev Sv39Result := Except Sv39Fault Sv39Translation

def kVpnMask : BitVec 64 := 0x1ff#64
def kPpnMask : BitVec 64 := (1#64 <<< 44) - 1#64
def kPteReservedHighMask : BitVec 64 := ~~~((1#64 <<< 54) - 1#64)
def kPteV : BitVec 64 := 1#64 <<< 0
def kPteR : BitVec 64 := 1#64 <<< 1
def kPteW : BitVec 64 := 1#64 <<< 2
def kPteX : BitVec 64 := 1#64 <<< 3
def kPteU : BitVec 64 := 1#64 <<< 4
def kPteA : BitVec 64 := 1#64 <<< 6
def kPteD : BitVec 64 := 1#64 <<< 7

def virtualPageNumber (virtualAddress : Address) (level : Nat) : BitVec 64 :=
  virtualAddress >>> (12 + 9 * level) &&& kVpnMask

def accessIsPermitted (pte : BitVec 64) (access : VirtualAccess) (mxr : Bool) : Bool :=
  match access with
  | .instructionFetch => pte &&& kPteX ≠ 0#64
  | .load => pte &&& kPteR ≠ 0#64 || (mxr && pte &&& kPteX ≠ 0#64)
  | .store => pte &&& kPteW ≠ 0#64

def isSv39Canonical (virtualAddress : Address) : Bool :=
  let upper := virtualAddress >>> 39
  let sign := virtualAddress >>> 38 &&& 1#64 ≠ 0#64
  upper == (if sign then (1#64 <<< 25) - 1#64 else 0#64)

inductive PteOutcome where
  | fault (reason : Sv39FaultReason) (detail : Text)
  | table (address : Address)
  | leaf
  deriving DecidableEq, Repr

-- The checks of the walk loop's body, between the PTE read and the address computation.
def inspectPte (context : Sv39Context) (level : Nat) (pte : BitVec 64) : PteOutcome :=
  if pte &&& kPteReservedHighMask ≠ 0#64 then
    .fault .reservedPteBits (text "PTE uses high bits reserved by the implemented Sv39 profile")
  else if pte &&& kPteV = 0#64 then
    .fault .invalidPte (text "page-table entry is not valid")
  else if pte &&& kPteR = 0#64 ∧ pte &&& kPteW ≠ 0#64 then
    .fault .reservedWriteOnlyPte (text "W=1 with R=0 is a reserved page-table entry encoding")
  else
    let leaf := pte &&& (kPteR ||| kPteX) ≠ 0#64
    let ppn := pte >>> 10 &&& kPpnMask
    if ¬leaf then
      if pte &&& (kPteU ||| kPteA ||| kPteD) ≠ 0#64 then
        .fault .reservedNonLeafPte (text "non-leaf PTE has reserved U, A, or D state")
      else if level = 0 then
        .fault .walkExhausted (text "level-zero entry is not a leaf")
      else .table (ppn <<< 12)
    else
      let lowPpnBits := level * 9
      let lowMask := (1#64 <<< lowPpnBits) - 1#64
      let userPage := pte &&& kPteU ≠ 0#64
      if lowPpnBits ≠ 0 ∧ ppn &&& lowMask ≠ 0#64 then
        .fault .misalignedSuperpage (text "leaf PPN is not aligned for its superpage level")
      else if context.privilege = .user ∧ ¬userPage then
        .fault .privilegeViolation (text "user mode cannot access a supervisor page")
      else if context.privilege = .supervisor ∧ userPage ∧
          (context.access = .instructionFetch ∨ context.sum = false) then
        .fault .privilegeViolation
          (if context.access = .instructionFetch then
            text "supervisor mode cannot execute from a user page"
          else text "SUM is clear for supervisor access to a user page")
      else if accessIsPermitted pte context.access context.mxr = false then
        .fault .permissionViolation (text "leaf permissions reject the requested access type")
      else if pte &&& kPteA = 0#64 then
        .fault .accessedBitClear (text "software-managed accessed bit is clear")
      else if context.access = .store ∧ pte &&& kPteD = 0#64 then
        .fault .dirtyBitClear (text "software-managed dirty bit is clear for a store")
      else .leaf

def leafAddress (virtualAddress : Address) (level : Nat) (pte : BitVec 64) : Address :=
  let ppn := pte >>> 10 &&& kPpnMask
  let offsetBits := 12 + level * 9
  let offsetMask := (1#64 <<< offsetBits) - 1#64
  (ppn <<< 12 &&& ~~~offsetMask) ||| (virtualAddress &&& offsetMask)

-- `remaining` is `level + 1`; the loop ends when it reaches zero.
def walkFrom (virtualAddress : Address) (context : Sv39Context) :
    Nat → Address → Bus → Sv39Result × Bus
  | 0, _, bus =>
    (.error ⟨.walkExhausted, virtualAddress, 0, 0#64, 0#64,
      text "Sv39 walk ended without a leaf entry"⟩, bus)
  | level + 1, tableAddress, bus =>
    let index := virtualPageNumber virtualAddress level
    if addOverflows tableAddress (index * 8#64) then
      (.error ⟨.pageTableAccess, virtualAddress, level, tableAddress, 0#64,
        text "page-table entry address overflows physical address space"⟩, bus)
    else
      let pteAddress := tableAddress + index * 8#64
      match bus.read pteAddress 8 .pageTableWalk with
      | (.error busFault, bus) =>
        (.error ⟨.pageTableAccess, virtualAddress, level, pteAddress, 0#64, busFault.detail⟩, bus)
      | (.ok pte, bus) =>
        match inspectPte context level pte with
        | .fault reason detail =>
          (.error ⟨reason, virtualAddress, level, pteAddress, pte, detail⟩, bus)
        | .table next => walkFrom virtualAddress context level next bus
        | .leaf => (.ok ⟨leafAddress virtualAddress level pte, level, pteAddress, pte⟩, bus)

def walkSv39 (bus : Bus) (virtualAddress : Address) (context : Sv39Context) : Sv39Result × Bus :=
  if !isSv39Canonical virtualAddress then
    (.error ⟨.nonCanonicalAddress, virtualAddress, -1, 0#64, 0#64,
      text "virtual address is not sign-extended from bit 38"⟩, bus)
  else if context.privilege ≠ .supervisor ∧ context.privilege ≠ .user then
    (.error ⟨.privilegeViolation, virtualAddress, -1, 0#64, 0#64,
      text "Sv39 translation context requires supervisor or user privilege"⟩, bus)
  else walkFrom virtualAddress context 3 ((context.rootPpn &&& kPpnMask) <<< 12) bus

def sv39FaultReasonName : Sv39FaultReason → Text
  | .nonCanonicalAddress => text "non-canonical-address"
  | .pageTableAccess => text "page-table-access"
  | .invalidPte => text "invalid-pte"
  | .reservedWriteOnlyPte => text "reserved-write-only-pte"
  | .reservedPteBits => text "reserved-pte-bits"
  | .reservedNonLeafPte => text "reserved-non-leaf-pte"
  | .misalignedSuperpage => text "misaligned-superpage"
  | .privilegeViolation => text "privilege-violation"
  | .permissionViolation => text "permission-violation"
  | .accessedBitClear => text "accessed-bit-clear"
  | .dirtyBitClear => text "dirty-bit-clear"
  | .walkExhausted => text "walk-exhausted"

end Northstar64
