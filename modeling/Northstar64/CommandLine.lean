import Northstar64.Machine
import Northstar64.TraceRecords

namespace Northstar64

def kVersion : Text := text "0.1.0"

-- An open `ifstream`: where `tellg` finds the end, whether `seekg(0)` succeeds, what reading gives.
structure OpenedFile where
  tellg : BitVec 64
  rewinds : Bool
  contents : List Byte

-- An open `ofstream`, by all the bytes put on it so far: whether it is good, whether `flush` then
-- leaves it good, and what the file keeps when the writer is destroyed without a successful flush.
structure TraceDevice where
  takes : List Byte → Bool
  flushes : List Byte → Bool
  keeps : List Byte → List Byte

-- `allocationFailure` is what the exception says that a vector of that many bytes throws.
structure Host where
  files : Text → Option OpenedFile
  allocationFailure : BitVec 64 → Option Text
  traces : Text → Option TraceDevice

def Host.write (host : Host) (path : Text) (contents : List Byte) : Host :=
  { host with
    files := Function.update host.files path
      (some ⟨BitVec.ofNat 64 contents.length, true, contents⟩) }

structure Process where
  status : Nat
  out : Text
  err : Text
  deriving DecidableEq, Repr

structure Thrown where
  what : Text
  printed : Text := []
  deriving DecidableEq, Repr

inductive Errc where
  | invalidArgument
  | resultOutOfRange
  deriving DecidableEq, Repr

def isDigit (base : Nat) (character : Byte) : Bool :=
  (Numerals.charDigit character).any (fun digit => decide (digit < base))

def fromChars (base : Nat) (value : Text) : Except Errc (BitVec 64) × Text :=
  let digits := value.takeWhile (isDigit base)
  let parsed := Numerals.valueOf base digits
  if digits = [] then (.error .invalidArgument, value)
  else if 2 ^ 64 ≤ parsed then (.error .resultOutOfRange, value.drop digits.length)
  else (.ok (BitVec.ofNat 64 parsed), value.drop digits.length)

def hasHexPrefix (value : Text) : Bool :=
  (text "0x").isPrefixOf value || (text "0X").isPrefixOf value

def parseUnsigned (value label : Text) : Except Text (BitVec 64) :=
  let base := if hasHexPrefix value then 16 else 10
  let value := if hasHexPrefix value then value.drop 2 else value
  if value = [] then .error (label ++ text " is empty")
  else
    match fromChars base value with
    | (.ok parsed, []) => .ok parsed
    | _ => .error (text "invalid " ++ label ++ text ": " ++ value)

structure RunSettings where
  maximumSteps : BitVec 64 := 1000000#64
  tracePath : Text := []
  trapPolicy : TrapPolicy := .halt
  deriving DecidableEq, Repr

def parseTrapPolicy (value : Text) : Except Text TrapPolicy :=
  if value = text "halt" then .ok .halt
  else if value = text "vector" then .ok .vector
  else .error (text "--trap-policy requires halt or vector")

def parseRunOptions : RunSettings → List Text → Except Text RunSettings
  | settings, [] => .ok settings
  | settings, argument :: rest =>
    if argument = text "--max-steps" then
      match rest with
      | [] => .error (text "--max-steps requires a value")
      | value :: rest =>
        match parseUnsigned value (text "maximum step count") with
        | .error what => .error what
        | .ok maximumSteps => parseRunOptions { settings with maximumSteps := maximumSteps } rest
    else if argument = text "--trace" then
      match rest with
      | [] => .error (text "--trace requires a file path")
      | path :: rest => parseRunOptions { settings with tracePath := path } rest
    else if argument = text "--trap-policy" then
      match rest with
      | [] => .error (text "--trap-policy requires halt or vector")
      | value :: rest =>
        match parseTrapPolicy value with
        | .error what => .error what
        | .ok trapPolicy => parseRunOptions { settings with trapPolicy := trapPolicy } rest
    else .error (text "unknown run option: " ++ argument)

section Commands
variable (sorting : SegmentSort) (host : Host)

def kSizeMax : BitVec 64 := BitVec.allOnes 64

def readFile (path : Text) : Except Text (List Byte) :=
  match host.files path with
  | none => .error (text "cannot open ELF file: " ++ path)
  | some input =>
    if input.tellg.toInt < 0 then .error (text "cannot determine ELF file size: " ++ path)
    else
      let size := input.tellg
      if size > kSizeMax then .error (text "ELF file is too large for this host")
      else
        match host.allocationFailure size with
        | some what => .error what
        | none =>
          if !input.rewinds || (size ≠ 0#64 && input.contents.length < size.toNat) then
            .error (text "failed while reading ELF file: " ++ path)
          else .ok (input.contents.take size.toNat)

def usage : Text := List.flatten
  [text "Northstar64 - deterministic RV64 machine laboratory\n\n", text "Usage:\n",
    text "  northstar64 run <guest.elf> [--max-steps N] [--trace FILE]",
    text " [--trap-policy halt|vector]\n", text "  northstar64 inspect <guest.elf>\n",
    text "  northstar64 decode <32-bit-word>\n",
    text "  northstar64 verify-trace <left.jsonl> <right.jsonl>\n", text "  northstar64 version\n"]

def formatSegment (index : Nat) (segment : ElfSegment) : Text := List.flatten
  [text "  [", toDecimal index, text "] load=0x", toHex segment.loadAddress.toNat,
    text " vaddr=0x", toHex segment.virtualAddress.toNat, text " filesz=0x",
    toHex segment.fileSize.toNat, text " memsz=0x", toHex segment.memorySize.toNat,
    text " flags=", if segment.readable then text "R" else text "-",
    if segment.writable then text "W" else text "-",
    if segment.executable then text "X" else text "-", [newline]]

def formatImage (image : ElfImage) : Text :=
  text "ELF64 RISC-V\nentry: 0x" ++ toHex image.entry.toNat ++ text "\nloadable segments: " ++
    toDecimal image.segments.length ++ [newline] ++
      (image.segments.zipIdx.map (fun entry => formatSegment entry.2 entry.1)).flatten

def inspectCommand (path : Text) : Except Text Process :=
  match readFile host path with
  | .error what => .error what
  | .ok bytes =>
    match inspectElf sorting bytes with
    | .error error => .error error.what
    | .ok image => .ok ⟨0, formatImage image, []⟩

def decodeCommand (word : Text) : Except Text Process :=
  match parseUnsigned word (text "instruction word") with
  | .error what => .error what
  | .ok parsed =>
    if parsed > 0xffffffff#64 then .error (text "instruction word exceeds 32 bits")
    else
      match decode (parsed.setWidth 32) with
      | .error error => .ok ⟨1, [], text "decode error: " ++ error.detail ++ [newline]⟩
      | .ok decoded => .ok ⟨0, disassemble decoded ++ [newline], []⟩

def verifyTraceCommand (left right : Text) : Except Text Process :=
  match host.files left, host.files right with
  | none, _ => .error (text "cannot open left trace: " ++ left)
  | some _, none => .error (text "cannot open right trace: " ++ right)
  | some leftInput, some rightInput =>
    match compareTraceFiles leftInput.contents rightInput.contents with
    | none => .ok ⟨0, text "traces are byte-for-byte identical\n", []⟩
    | some difference => .ok ⟨1, [], List.flatten
        [text "trace divergence at line ", toDecimal difference.line, text "\nleft:  ",
          difference.left, text "\nright: ", difference.right, [newline]]⟩

def formatSummary (image : ElfImage) (result : RunResult) : Text := List.flatten
  [text "\n[Northstar64] entry=0x", toHex image.entry.toNat, text " attempted=",
    toDecimal result.attemptedSteps.toNat, text " retired=",
    toDecimal result.retiredInstructions.toNat, text " stop=",
    if result.reason = .halted then text "halted" else text "step-limit",
    text " detail=\"", result.detail, text "\"\n"]

def exitStatus (result : RunResult) : Nat :=
  if result.reason = .stepLimit then 2
  else if result.terminalTrap.any (fun trap => decide (trap.cause ≠ .breakpoint)) then 3
  else 0

structure TraceFile where
  path : Text
  output : TraceDevice

namespace TraceFile

def make (path : Text) : Except Text TraceFile :=
  match host.traces path with
  | none => .error (text "cannot open trace output: " ++ path)
  | some output => .ok ⟨path, output⟩

def appendFailure (file : TraceFile) (trace : List StepRecord) : Option Text :=
  if file.output.takes (writeTrace trace) then none
  else some (text "failed while writing execution trace")

def flushFailure (file : TraceFile) (trace : List StepRecord) : Option Text :=
  if file.output.flushes (writeTrace trace) then none
  else some (text "failed while flushing execution trace")

def save (file : TraceFile) (trace : List StepRecord) : Host :=
  host.write file.path (writeTrace trace)

def abandon (file : TraceFile) (trace : List StepRecord) : Host :=
  host.write file.path (file.output.keeps (writeTrace trace))

end TraceFile

-- Every character the UART puts on the stream is in `transmitted` too, which `load` empties.
def Machine.transmitted (machine : Machine) (cpu : Cpu) : Text :=
  (cpu.bus.uartLog machine.uart.base).getD []

def runUntraced (settings : RunSettings) (image : ElfImage) (machine : Machine) : Process :=
  let outcome := machine.cpu.run settings.maximumSteps []
  ⟨exitStatus outcome.result, machine.transmitted outcome.cpu, formatSummary image outcome.result⟩

def runTraced (settings : RunSettings) (image : ElfImage) (machine : Machine)
    (file : TraceFile) : Except Thrown Process × Host :=
  match machine.cpu.runTraced file.appendFailure settings.maximumSteps with
  | .error interrupted =>
    (.error ⟨interrupted.what, machine.transmitted interrupted.cpu⟩,
      file.abandon host interrupted.trace)
  | .ok outcome =>
    match file.flushFailure outcome.trace with
    | some what =>
      (.error ⟨what, machine.transmitted outcome.cpu⟩, file.abandon host outcome.trace)
    | none =>
      (.ok ⟨exitStatus outcome.result, machine.transmitted outcome.cpu,
        formatSummary image outcome.result⟩, file.save host outcome.trace)

def runLoaded (settings : RunSettings) (image : ElfImage) (machine : Machine) :
    Except Thrown Process × Host :=
  if settings.tracePath = [] then (.ok (runUntraced settings image machine), host)
  else
    match TraceFile.make host settings.tracePath with
    | .error what => (.error ⟨what, []⟩, host)
    | .ok file => runTraced host settings image machine file

def runGuest (settings : RunSettings) (path : Text) (machine : Machine) :
    Except Thrown Process × Host :=
  match readFile host path with
  | .error what => (.error ⟨what, []⟩, host)
  | .ok bytes =>
    match machine.load sorting bytes with
    | (_, .error error) => (.error ⟨error.what, []⟩, host)
    | (machine, .ok image) => runLoaded host settings image machine

def runCommand : List Text → Except Thrown Process × Host
  | [] => (.error ⟨text "run requires a guest ELF path", []⟩, host)
  | path :: options =>
    match parseRunOptions {} options with
    | .error what => (.error ⟨what, []⟩, host)
    | .ok settings =>
      match Machine.make { cpu := ⟨settings.trapPolicy, true, true⟩ } with
      | .error what => (.error ⟨what, []⟩, host)
      | .ok machine => runGuest sorting host settings path machine

def dispatch (command : Text) (arguments : List Text) : Except Thrown Process × Host :=
  let argument (index : Nat) : Text := arguments.getD index []
  let here (result : Except Text Process) : Except Thrown Process × Host :=
    (result.mapError (fun what => ⟨what, []⟩), host)
  if command = text "version" ∨ command = text "--version" then
    here (.ok ⟨0, text "Northstar64 " ++ kVersion ++ [newline], []⟩)
  else if command = text "inspect" ∧ arguments.length = 1 then
    here (inspectCommand sorting host (argument 0))
  else if command = text "decode" ∧ arguments.length = 1 then
    here (decodeCommand (argument 0))
  else if command = text "verify-trace" ∧ arguments.length = 2 then
    here (verifyTraceCommand host (argument 0) (argument 1))
  else if command = text "run" then runCommand sorting host arguments
  else here (.ok ⟨1, [], usage⟩)

-- The handler around the commands.
def report : Except Thrown Process × Host → Process × Host
  | (.error thrown, host) =>
    (⟨1, thrown.printed, text "error: " ++ thrown.what ++ [newline]⟩, host)
  | (.ok process, host) => (process, host)

def main : List Text → Process × Host
  | [] => (⟨1, [], usage⟩, host)
  | command :: arguments => report (dispatch sorting host command arguments)

end Commands

end Northstar64
