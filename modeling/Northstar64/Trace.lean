import Northstar64.Types

namespace Northstar64

structure RegisterWrite where
  index : BitVec 8
  value : BitVec 64
  deriving DecidableEq, Repr

structure MemoryWrite where
  address : Address
  width : Nat
  value : BitVec 64
  physicalAddress : Address
  deriving DecidableEq, Repr

structure AddressTranslation where
  virtualAddress : Address
  physicalAddress : Address
  deriving DecidableEq, Repr

structure StepRecord where
  sequence : BitVec 64
  pc : Address
  privilege : PrivilegeLevel
  instruction : BitVec 32
  assembly : Text
  nextPc : Address
  nextPrivilege : PrivilegeLevel
  retired : Bool
  halted : Bool
  registerWrite : Option RegisterWrite
  memoryWrite : Option MemoryWrite
  trap : Option Trap
  instructionTranslation : Option AddressTranslation
  dataTranslation : Option AddressTranslation
  deriving DecidableEq, Repr

end Northstar64
