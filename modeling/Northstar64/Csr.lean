import Northstar64.Types

namespace Northstar64

namespace status

def kSie : BitVec 64 := 1#64 <<< 1
def kMie : BitVec 64 := 1#64 <<< 3
def kSpie : BitVec 64 := 1#64 <<< 5
def kMpie : BitVec 64 := 1#64 <<< 7
def kSpp : BitVec 64 := 1#64 <<< 8
def kMppMask : BitVec 64 := 3#64 <<< 11
def kMprv : BitVec 64 := 1#64 <<< 17
def kSum : BitVec 64 := 1#64 <<< 18
def kMxr : BitVec 64 := 1#64 <<< 19
def kUxl64 : BitVec 64 := 2#64 <<< 32
def kSxl64 : BitVec 64 := 2#64 <<< 34
def kSstatusWritableMask : BitVec 64 := kSie ||| kSpie ||| kSpp ||| kSum ||| kMxr
def kMstatusWritableMask : BitVec 64 :=
  kSie ||| kMie ||| kSpie ||| kMpie ||| kSpp ||| kMppMask ||| kMprv ||| kSum ||| kMxr
def kMstatusFixedValue : BitVec 64 := kUxl64 ||| kSxl64

end status

def kMisa : BitVec 64 := (2#64 <<< 62) ||| (1#64 <<< 8)
def kCounterCycle : BitVec 64 := 1#64 <<< 0
def kCounterTime : BitVec 64 := 1#64 <<< 1
def kCounterInstret : BitVec 64 := 1#64 <<< 2
def kCounterEnableMask : BitVec 64 := kCounterCycle ||| kCounterTime ||| kCounterInstret
def kSupervisorSoftwareInterrupt : BitVec 64 := 1#64 <<< 1
def kSupervisorTimerInterrupt : BitVec 64 := 1#64 <<< 5
def kSupervisorExternalInterrupt : BitVec 64 := 1#64 <<< 9
def kMachineSoftwareInterrupt : BitVec 64 := 1#64 <<< 3
def kMachineTimerInterrupt : BitVec 64 := 1#64 <<< 7
def kMachineExternalInterrupt : BitVec 64 := 1#64 <<< 11
def kSupervisorInterruptMask : BitVec 64 :=
  kSupervisorSoftwareInterrupt ||| kSupervisorTimerInterrupt ||| kSupervisorExternalInterrupt
def kImplementedInterruptMask : BitVec 64 :=
  kSupervisorInterruptMask ||| kMachineSoftwareInterrupt ||| kMachineTimerInterrupt |||
    kMachineExternalInterrupt
def kDelegatableExceptionMask : BitVec 64 :=
  (1#64 <<< 0) ||| (1#64 <<< 1) ||| (1#64 <<< 2) ||| (1#64 <<< 3) ||| (1#64 <<< 4) |||
    (1#64 <<< 5) ||| (1#64 <<< 6) ||| (1#64 <<< 7) ||| (1#64 <<< 8) ||| (1#64 <<< 9) |||
    (1#64 <<< 12) ||| (1#64 <<< 13) ||| (1#64 <<< 15)
def kSatpModeMask : BitVec 64 := 0xf#64 <<< 60
def kSatpModeSv39 : BitVec 64 := 8#64 <<< 60

inductive Csr where
  | sstatus
  | sie
  | stvec
  | scounteren
  | sscratch
  | sepc
  | scause
  | stval
  | sip
  | satp
  | mstatus
  | misa
  | medeleg
  | mideleg
  | mie
  | mtvec
  | mcounteren
  | mscratch
  | mepc
  | mcause
  | mtval
  | mip
  | mcycle
  | minstret
  | cycle
  | instret
  | mhartid
  deriving DecidableEq, Repr

namespace Csr

def address : Csr → BitVec 16
  | .sstatus => 0x100#16
  | .sie => 0x104#16
  | .stvec => 0x105#16
  | .scounteren => 0x106#16
  | .sscratch => 0x140#16
  | .sepc => 0x141#16
  | .scause => 0x142#16
  | .stval => 0x143#16
  | .sip => 0x144#16
  | .satp => 0x180#16
  | .mstatus => 0x300#16
  | .misa => 0x301#16
  | .medeleg => 0x302#16
  | .mideleg => 0x303#16
  | .mie => 0x304#16
  | .mtvec => 0x305#16
  | .mcounteren => 0x306#16
  | .mscratch => 0x340#16
  | .mepc => 0x341#16
  | .mcause => 0x342#16
  | .mtval => 0x343#16
  | .mip => 0x344#16
  | .mcycle => 0xB00#16
  | .minstret => 0xB02#16
  | .cycle => 0xC00#16
  | .instret => 0xC02#16
  | .mhartid => 0xF14#16

def all : List Csr :=
  [.sstatus, .sie, .stvec, .scounteren, .sscratch, .sepc, .scause, .stval, .sip, .satp, .mstatus,
    .misa, .medeleg, .mideleg, .mie, .mtvec, .mcounteren, .mscratch, .mepc, .mcause, .mtval, .mip,
    .mcycle, .minstret, .cycle, .instret, .mhartid]

def ofAddress (address : BitVec 16) : Option Csr := all.find? (fun csr => csr.address == address)

theorem address_ofAddress {address : BitVec 16} {csr : Csr} (h : ofAddress address = some csr) :
    csr.address = address := by
  simpa using List.find?_some h

theorem ofAddress_address (csr : Csr) : ofAddress csr.address = some csr := by
  cases csr <;> rfl

end Csr

def isImplemented (address : BitVec 16) : Bool := (Csr.ofAddress address).isSome

def counterBit (address : BitVec 16) : BitVec 64 :=
  match Csr.ofAddress address with
  | some .cycle => kCounterCycle
  | some .instret => kCounterInstret
  | _ => 0#64

inductive CsrErrorKind where
  | unimplemented
  | privilegeViolation
  | readOnly
  | invalidValue
  | counterDisabled
  deriving DecidableEq, Repr

structure CsrError where
  kind : CsrErrorKind
  address : BitVec 16
  privilege : PrivilegeLevel
  detail : Text
  deriving DecidableEq, Repr

abbrev CsrReadResult := Except CsrError (BitVec 64)

structure TrapEntry where
  target : PrivilegeLevel
  vector : Address
  deriving DecidableEq, Repr

inductive TrapReturnMode where
  | supervisor
  | machine
  deriving DecidableEq, Repr

structure TrapReturn where
  target : PrivilegeLevel
  pc : Address
  deriving DecidableEq, Repr

def csrMinimumPrivilege (address : BitVec 16) : PrivilegeLevel :=
  let encoded := (address >>> 8 &&& 0x3#16).setWidth 8
  if encoded = 0#8 then .user else if encoded = 1#8 then .supervisor else .machine

def csrIsReadOnly (address : BitVec 16) : Bool := address >>> 10 &&& 0x3#16 = 0x3#16

def csrHex (address : BitVec 16) : Text := text "0x" ++ toHex address.toNat

def normalizeMstatus (value : BitVec 64) : BitVec 64 :=
  let normalized := value &&& status.kMstatusWritableMask
  let mpp := (normalized &&& status.kMppMask) >>> 11
  if mpp = 2#64 then normalized &&& ~~~status.kMppMask else normalized

@[ext] structure CsrFile where
  mstatus : BitVec 64
  medeleg : BitVec 64
  mideleg : BitVec 64
  mie : BitVec 64
  mtvec : BitVec 64
  mcounteren : BitVec 64
  mscratch : BitVec 64
  mepc : BitVec 64
  mcause : BitVec 64
  mtval : BitVec 64
  mip : BitVec 64
  stvec : BitVec 64
  scounteren : BitVec 64
  sscratch : BitVec 64
  sepc : BitVec 64
  scause : BitVec 64
  stval : BitVec 64
  satp : BitVec 64
  mcycle : BitVec 64
  minstret : BitVec 64
  deriving DecidableEq, Repr

namespace CsrFile

def reset : CsrFile :=
  ⟨0#64, 0#64, 0#64, 0#64, 0#64, 0#64, 0#64, 0#64, 0#64, 0#64, 0#64, 0#64, 0#64, 0#64, 0#64, 0#64,
    0#64, 0#64, 0#64, 0#64⟩

def validateAccess (csrs : CsrFile) (address : BitVec 16) (privilege : PrivilegeLevel)
    (write : Bool) : Option CsrError :=
  let required := csrMinimumPrivilege address
  if !privilegeAtLeast privilege required then
    some ⟨.privilegeViolation, address, privilege,
      text "CSR " ++ csrHex address ++ text " requires " ++ privilegeName required ++
        text " privilege, current mode is " ++ privilegeName privilege⟩
  else if !isImplemented address then
    some ⟨.unimplemented, address, privilege,
      text "CSR " ++ csrHex address ++ text " is not implemented"⟩
  else if write && csrIsReadOnly address then
    some ⟨.readOnly, address, privilege, text "CSR " ++ csrHex address ++ text " is read-only"⟩
  else
    let requestedCounter := counterBit address
    if !write && requestedCounter ≠ 0#64 && privilege ≠ .machine then
      let machineEnabled := csrs.mcounteren &&& requestedCounter ≠ 0#64
      let supervisorEnabled := privilege ≠ .user ∨ csrs.scounteren &&& requestedCounter ≠ 0#64
      if ¬machineEnabled ∨ ¬supervisorEnabled then
        some ⟨.counterDisabled, address, privilege,
          text "CSR " ++ csrHex address ++ text " is disabled by counter-enable state"⟩
      else none
    else none

def readRegister (csrs : CsrFile) : Csr → BitVec 64
  | .sstatus => csrs.mstatus &&& status.kSstatusWritableMask ||| status.kUxl64
  | .sie => csrs.mie &&& csrs.mideleg &&& kSupervisorInterruptMask
  | .stvec => csrs.stvec
  | .scounteren => csrs.scounteren
  | .sscratch => csrs.sscratch
  | .sepc => csrs.sepc
  | .scause => csrs.scause
  | .stval => csrs.stval
  | .sip => csrs.mip &&& csrs.mideleg &&& kSupervisorInterruptMask
  | .satp => csrs.satp
  | .mstatus => csrs.mstatus ||| status.kMstatusFixedValue
  | .misa => kMisa
  | .medeleg => csrs.medeleg
  | .mideleg => csrs.mideleg
  | .mie => csrs.mie
  | .mtvec => csrs.mtvec
  | .mcounteren => csrs.mcounteren
  | .mscratch => csrs.mscratch
  | .mepc => csrs.mepc
  | .mcause => csrs.mcause
  | .mtval => csrs.mtval
  | .mip => csrs.mip
  | .mcycle => csrs.mcycle
  | .cycle => csrs.mcycle
  | .minstret => csrs.minstret
  | .instret => csrs.minstret
  | .mhartid => 0#64

def read (csrs : CsrFile) (address : BitVec 16) (privilege : PrivilegeLevel) : CsrReadResult :=
  match csrs.validateAccess address privilege false with
  | some error => .error error
  | none =>
    match Csr.ofAddress address with
    | some csr => .ok (csrs.readRegister csr)
    | none => .error ⟨.unimplemented, address, privilege,
        text "CSR " ++ csrHex address ++ text " is not implemented"⟩

-- `none` stands for the three read-only registers, which the switch leaves to its default.
def writeRegister (csrs : CsrFile) (value : BitVec 64) : Csr → Option CsrFile
  | .sstatus => some { csrs with
      mstatus := csrs.mstatus &&& ~~~status.kSstatusWritableMask |||
        value &&& status.kSstatusWritableMask }
  | .sie =>
    let visible := csrs.mideleg &&& kSupervisorInterruptMask
    some { csrs with mie := csrs.mie &&& ~~~visible ||| value &&& visible }
  | .stvec => some { csrs with stvec := value &&& ~~~0x3#64 }
  | .scounteren => some { csrs with scounteren := value &&& kCounterEnableMask }
  | .sscratch => some { csrs with sscratch := value }
  | .sepc => some { csrs with sepc := value &&& ~~~0x3#64 }
  | .scause => some { csrs with scause := value }
  | .stval => some { csrs with stval := value }
  | .sip =>
    let writable := csrs.mideleg &&& kSupervisorSoftwareInterrupt
    some { csrs with mip := csrs.mip &&& ~~~writable ||| value &&& writable }
  | .satp =>
    let mode := value &&& kSatpModeMask
    if mode = 0#64 then some { csrs with satp := 0#64 }
    else if mode = kSatpModeSv39 then some { csrs with satp := value }
    else some csrs
  | .mstatus => some { csrs with mstatus := normalizeMstatus value }
  | .misa => some csrs
  | .medeleg => some { csrs with medeleg := value &&& kDelegatableExceptionMask }
  | .mideleg => some { csrs with mideleg := value &&& kSupervisorInterruptMask }
  | .mie => some { csrs with mie := value &&& kImplementedInterruptMask }
  | .mtvec => some { csrs with mtvec := value &&& ~~~0x3#64 }
  | .mcounteren => some { csrs with mcounteren := value &&& kCounterEnableMask }
  | .mscratch => some { csrs with mscratch := value }
  | .mepc => some { csrs with mepc := value &&& ~~~0x3#64 }
  | .mcause => some { csrs with mcause := value }
  | .mtval => some { csrs with mtval := value }
  | .mip => some { csrs with mip := value &&& kImplementedInterruptMask }
  | .mcycle => some { csrs with mcycle := value }
  | .minstret => some { csrs with minstret := value }
  | .cycle => none
  | .instret => none
  | .mhartid => none

def write (csrs : CsrFile) (address : BitVec 16) (value : BitVec 64) (privilege : PrivilegeLevel) :
    Except CsrError CsrFile :=
  match csrs.validateAccess address privilege true with
  | some error => .error error
  | none =>
    match (Csr.ofAddress address).bind (csrs.writeRegister value) with
    | some csrs => .ok csrs
    | none => .error ⟨.unimplemented, address, privilege,
        text "CSR " ++ csrHex address ++ text " is not implemented"⟩

def tickCycle (csrs : CsrFile) : CsrFile := { csrs with mcycle := csrs.mcycle + 1#64 }

def retireInstruction (csrs : CsrFile) : CsrFile := { csrs with minstret := csrs.minstret + 1#64 }

def isDelegated (csrs : CsrFile) (trap : Trap) (origin : PrivilegeLevel) : Bool :=
  let cause := trap.cause.code
  origin ≠ .machine && cause < 64#64 && csrs.medeleg &&& (1#64 <<< cause) ≠ 0#64

def enterTrap (csrs : CsrFile) (trap : Trap) (origin : PrivilegeLevel) : CsrFile × TrapEntry :=
  let cause := trap.cause.code
  if csrs.isDelegated trap origin then
    let supervisorInterruptEnabled := csrs.mstatus &&& status.kSie ≠ 0#64
    let mstatus := if supervisorInterruptEnabled then csrs.mstatus ||| status.kSpie
      else csrs.mstatus &&& ~~~status.kSpie
    let mstatus := mstatus &&& ~~~status.kSie
    let mstatus := if origin = .supervisor then mstatus ||| status.kSpp
      else mstatus &&& ~~~status.kSpp
    ({ csrs with
        mstatus := mstatus
        sepc := trap.pc &&& ~~~0x3#64
        scause := cause
        stval := trap.value },
      ⟨.supervisor, csrs.stvec &&& ~~~0x3#64⟩)
  else
    let machineInterruptEnabled := csrs.mstatus &&& status.kMie ≠ 0#64
    let mstatus := if machineInterruptEnabled then csrs.mstatus ||| status.kMpie
      else csrs.mstatus &&& ~~~status.kMpie
    let mstatus := mstatus &&& ~~~status.kMie
    let mstatus := mstatus &&& ~~~status.kMppMask ||| origin.encoding.setWidth 64 <<< 11
    ({ csrs with
        mstatus := mstatus
        mepc := trap.pc &&& ~~~0x3#64
        mcause := cause
        mtval := trap.value },
      ⟨.machine, csrs.mtvec &&& ~~~0x3#64⟩)

def returnFromTrap (csrs : CsrFile) (mode : TrapReturnMode) : CsrFile × TrapReturn :=
  match mode with
  | .supervisor =>
    let target := if csrs.mstatus &&& status.kSpp ≠ 0#64 then PrivilegeLevel.supervisor else .user
    let previousInterruptEnabled := csrs.mstatus &&& status.kSpie ≠ 0#64
    let mstatus := if previousInterruptEnabled then csrs.mstatus ||| status.kSie
      else csrs.mstatus &&& ~~~status.kSie
    let mstatus := mstatus ||| status.kSpie
    let mstatus := mstatus &&& ~~~status.kSpp
    let mstatus := mstatus &&& ~~~status.kMprv
    ({ csrs with mstatus := mstatus }, ⟨target, csrs.sepc⟩)
  | .machine =>
    let mpp := ((csrs.mstatus &&& status.kMppMask) >>> 11).setWidth 8
    let target := if mpp = PrivilegeLevel.machine.encoding then PrivilegeLevel.machine
      else if mpp = PrivilegeLevel.supervisor.encoding then .supervisor else .user
    let previousInterruptEnabled := csrs.mstatus &&& status.kMpie ≠ 0#64
    let mstatus := if previousInterruptEnabled then csrs.mstatus ||| status.kMie
      else csrs.mstatus &&& ~~~status.kMie
    let mstatus := mstatus ||| status.kMpie
    let mstatus := mstatus &&& ~~~status.kMppMask
    let mstatus := if target ≠ .machine then mstatus &&& ~~~status.kMprv else mstatus
    ({ csrs with mstatus := mstatus }, ⟨target, csrs.mepc⟩)

def retiredCount (csrs : CsrFile) : BitVec 64 := csrs.minstret

def mstatusValue (csrs : CsrFile) : BitVec 64 := csrs.mstatus ||| status.kMstatusFixedValue

def satpValue (csrs : CsrFile) : BitVec 64 := csrs.satp

end CsrFile

end Northstar64
