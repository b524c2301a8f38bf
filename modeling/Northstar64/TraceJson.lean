import Northstar64.TraceRecords
import Northstar64.Library.Json

namespace Northstar64
open Json (Value Members)

def traceEscaping : Json.Escaping := ⟨escapeCharacter, by decide +kernel⟩

def objectOf (members : List (Text × Value)) : Value :=
  .object (members.foldr (fun member rest => .cons member.1 member.2 rest) .nil)

def orNullValue {α : Type} (json : α → Value) (field : Option α) : Value := field.elim .null json

def hexString (value : BitVec 64) (digits : BitVec 32) : Value := .string (hexValue value digits)

def RegisterWrite.json (write : RegisterWrite) : Value :=
  objectOf [(text "index", .number write.index.toNat), (text "value", hexString write.value 16#32)]

def AddressTranslation.json (translation : AddressTranslation) : Value :=
  objectOf [(text "virtual_address", hexString translation.virtualAddress 16#32),
    (text "physical_address", hexString translation.physicalAddress 16#32)]

def MemoryWrite.json (write : MemoryWrite) : Value :=
  objectOf [(text "address", hexString write.address 16#32), (text "width", .number write.width),
    (text "value", hexString write.value (BitVec.ofNat 32 (write.width * 2))),
    (text "physical_address", hexString write.physicalAddress 16#32)]

def Trap.json (trap : Trap) : Value :=
  objectOf [(text "cause", .number trap.cause.code.toNat),
    (text "name", .string (trapName trap.cause)), (text "value", hexString trap.value 16#32),
    (text "detail", .string trap.detail)]

def StepRecord.json (record : StepRecord) : Value :=
  objectOf [(text "sequence", .number record.sequence.toNat), (text "pc", hexString record.pc 16#32),
    (text "privilege", .string (privilegeName record.privilege)),
    (text "instruction", hexString (record.instruction.setWidth 64) 8#32),
    (text "assembly", .string record.assembly), (text "next_pc", hexString record.nextPc 16#32),
    (text "next_privilege", .string (privilegeName record.nextPrivilege)),
    (text "retired", .boolean record.retired), (text "halted", .boolean record.halted),
    (text "register_write", orNullValue RegisterWrite.json record.registerWrite),
    (text "instruction_translation",
      orNullValue AddressTranslation.json record.instructionTranslation),
    (text "data_translation", orNullValue AddressTranslation.json record.dataTranslation),
    (text "memory_write", orNullValue MemoryWrite.json record.memoryWrite),
    (text "trap", orNullValue Trap.json record.trap)]

section Written
open Json

theorem escapeCharacter_numeral : ∀ c : Byte, NumeralCharacter c → escapeCharacter c = [c] := by
  decide +kernel

theorem escapeJson_numeral {output : Text} (h : ∀ c ∈ output, NumeralCharacter c) :
    escapeJson output = output := by
  induction output with
  | nil => rfl
  | cons c output ih =>
    rw [List.forall_mem_cons] at h
    have hrest := ih h.2
    rw [escapeJson] at hrest ⊢
    rw [List.flatMap_cons, escapeCharacter_numeral c h.1, hrest]
    rfl

theorem onto_hexString (value : BitVec 64) (digits : BitVec 32) (rest : Text) :
    (hexString value digits).onto traceEscaping rest =
      0x22#8 :: (hexValue value digits ++ 0x22#8 :: rest) := by
  have hplain := escapeJson_numeral (numeralCharacter_hexValue value digits)
  exact congrArg (fun output => 0x22#8 :: (output ++ 0x22#8 :: rest)) hplain

theorem onto_privilegeName (level : PrivilegeLevel) (rest : Text) :
    (Value.string (privilegeName level)).onto traceEscaping rest =
      0x22#8 :: (privilegeName level ++ 0x22#8 :: rest) := by
  cases level <;> rfl

theorem onto_trapName (cause : TrapCause) (rest : Text) :
    (Value.string (trapName cause)).onto traceEscaping rest =
      0x22#8 :: (trapName cause ++ 0x22#8 :: rest) := by
  cases cause <;> rfl

theorem onto_number (value : Nat) (rest : Text) :
    (Value.number value).onto traceEscaping rest = toDecimal value ++ rest := rfl

theorem onto_flag (flag : Bool) (rest : Text) :
    (Value.boolean flag).onto traceEscaping rest = formatFlag flag ++ rest := by
  cases flag <;> rfl

theorem onto_orNull {α : Type} {json : α → Value} {format : α → Text}
    (h : ∀ x rest, (json x).onto traceEscaping rest = format x ++ rest) (field : Option α)
    (rest : Text) :
    (orNullValue json field).onto traceEscaping rest = orNull format field ++ rest := by
  cases field with
  | none => rfl
  | some x => exact h x rest

theorem onto_objectOf (member : Text × Value) (members : List (Text × Value)) (rest : Text) :
    (objectOf (member :: members)).onto traceEscaping rest =
      0x7b#8 :: traceEscaping.quote member.1 (0x3a#8 :: member.2.onto traceEscaping
        ((members.foldr (fun member rest => Members.cons member.1 member.2 rest) .nil).after
          traceEscaping rest)) := rfl

theorem onto_registerWrite (write : RegisterWrite) (rest : Text) :
    write.json.onto traceEscaping rest = formatRegisterWrite write ++ rest := by
  simp only [RegisterWrite.json, onto_objectOf, List.foldr_cons, List.foldr_nil, Members.after,
    onto_hexString, onto_number, formatRegisterWrite, List.flatten_cons, List.append_assoc]
  rfl

theorem onto_translation (translation : AddressTranslation) (rest : Text) :
    translation.json.onto traceEscaping rest = formatTranslation translation ++ rest := by
  simp only [AddressTranslation.json, onto_objectOf, List.foldr_cons, List.foldr_nil, Members.after,
    onto_hexString, formatTranslation, List.flatten_cons, List.append_assoc]
  rfl

theorem onto_memoryWrite (write : MemoryWrite) (rest : Text) :
    write.json.onto traceEscaping rest = formatMemoryWrite write ++ rest := by
  simp only [MemoryWrite.json, onto_objectOf, List.foldr_cons, List.foldr_nil, Members.after,
    onto_hexString, onto_number, formatMemoryWrite, List.flatten_cons, List.append_assoc]
  rfl

theorem onto_trap (trap : Trap) (rest : Text) :
    trap.json.onto traceEscaping rest = formatTrap trap ++ rest := by
  simp only [Trap.json, onto_objectOf, List.foldr_cons, List.foldr_nil, Members.after,
    onto_hexString, onto_number, onto_trapName, formatTrap, List.flatten_cons, List.append_assoc]
  rfl

set_option maxRecDepth 10000 in
theorem onto_record (record : StepRecord) (rest : Text) :
    record.json.onto traceEscaping rest = formatTraceRecord record ++ rest := by
  simp only [StepRecord.json, onto_objectOf, List.foldr_cons, List.foldr_nil, Members.after,
    onto_hexString, onto_number, onto_privilegeName, onto_flag, onto_orNull onto_registerWrite,
    onto_orNull onto_translation, onto_orNull onto_memoryWrite, onto_orNull onto_trap,
    formatTraceRecord, List.flatten_cons, List.append_assoc]
  rfl

theorem formatTraceRecord_json (record : StepRecord) :
    formatTraceRecord record = record.json.onto traceEscaping [] := by
  rw [onto_record, List.append_nil]

theorem read_formatTraceRecord (record : StepRecord) :
    Json.read (formatTraceRecord record) = some record.json := by
  rw [formatTraceRecord_json, Json.read_onto]

end Written

section Reading

def readBits (bits : Nat) (value : Value) : Option (BitVec bits) :=
  value.asNumber.bind fun number => if number < 2 ^ bits then some (BitVec.ofNat bits number) else none

def hexNumber (output : Text) : Option Nat :=
  if output.take 2 = text "0x" then
    ((output.drop 2).mapM Json.hexDigit).map fun digits => Nat.ofDigits 16 digits.reverse
  else none

def readHex (bits : Nat) (value : Value) : Option (BitVec bits) :=
  (value.asString.bind hexNumber).bind fun number => readBits bits (.number number)

def readPrivilegeName (value : Value) : Option PrivilegeLevel :=
  value.asString.bind fun name =>
    [PrivilegeLevel.user, .supervisor, .machine].find? (fun level => privilegeName level = name)

def TrapCause.all : List TrapCause :=
  [.instructionAddressMisaligned, .instructionAccessFault, .illegalInstruction, .breakpoint,
    .loadAddressMisaligned, .loadAccessFault, .storeAddressMisaligned, .storeAccessFault,
    .environmentCallFromUserMode, .environmentCallFromSupervisorMode,
    .environmentCallFromMachineMode, .instructionPageFault, .loadPageFault, .storePageFault]

def readCause (value : Value) : Option TrapCause :=
  value.asNumber.bind fun number => TrapCause.all.find? (fun cause => cause.code.toNat = number)

def readNullable {α : Type} (read : Value → Option α) : Value → Option (Option α)
  | .null => some none
  | value => (read value).map some

def RegisterWrite.ofJson (value : Value) : Option RegisterWrite := do
  let members ← value.asObject
  let index ← members.field (text "index") (readBits 8)
  let value ← members.field (text "value") (readHex 64)
  some ⟨index, value⟩

def AddressTranslation.ofJson (value : Value) : Option AddressTranslation := do
  let members ← value.asObject
  let virtualAddress ← members.field (text "virtual_address") (readHex 64)
  let physicalAddress ← members.field (text "physical_address") (readHex 64)
  some ⟨virtualAddress, physicalAddress⟩

def MemoryWrite.ofJson (value : Value) : Option MemoryWrite := do
  let members ← value.asObject
  let address ← members.field (text "address") (readHex 64)
  let width ← members.field (text "width") Value.asNumber
  let value ← members.field (text "value") (readHex 64)
  let physicalAddress ← members.field (text "physical_address") (readHex 64)
  some ⟨address, width, value, physicalAddress⟩

-- A trap's program counter is not written: it is the record's.
def Trap.ofJson (pc : Address) (value : Value) : Option Trap := do
  let members ← value.asObject
  let cause ← members.field (text "cause") readCause
  let name ← members.field (text "name") Value.asString
  let value ← members.field (text "value") (readHex 64)
  let detail ← members.field (text "detail") Value.asString
  if name = trapName cause then some ⟨cause, pc, value, detail⟩ else none

def StepRecord.ofJson (value : Value) : Option StepRecord := do
  let members ← value.asObject
  let sequence ← members.field (text "sequence") (readBits 64)
  let pc ← members.field (text "pc") (readHex 64)
  let privilege ← members.field (text "privilege") readPrivilegeName
  let instruction ← members.field (text "instruction") (readHex 32)
  let assembly ← members.field (text "assembly") Value.asString
  let nextPc ← members.field (text "next_pc") (readHex 64)
  let nextPrivilege ← members.field (text "next_privilege") readPrivilegeName
  let retired ← members.field (text "retired") Value.asBoolean
  let halted ← members.field (text "halted") Value.asBoolean
  let registerWrite ← members.field (text "register_write") (readNullable RegisterWrite.ofJson)
  let instructionTranslation ←
    members.field (text "instruction_translation") (readNullable AddressTranslation.ofJson)
  let dataTranslation ←
    members.field (text "data_translation") (readNullable AddressTranslation.ofJson)
  let memoryWrite ← members.field (text "memory_write") (readNullable MemoryWrite.ofJson)
  let trap ← members.field (text "trap") (readNullable (Trap.ofJson pc))
  some ⟨sequence, pc, privilege, instruction, assembly, nextPc, nextPrivilege, retired, halted,
    registerWrite, memoryWrite, trap, instructionTranslation, dataTranslation⟩

theorem readBits_number {bits number : Nat} (h : number < 2 ^ bits) :
    readBits bits (.number number) = some (BitVec.ofNat bits number) :=
  if_pos h

theorem readBits_toNat {bits : Nat} (value : BitVec bits) :
    readBits bits (.number value.toNat) = some value := by
  rw [readBits_number value.isLt, BitVec.ofNat_toNat, BitVec.setWidth_eq]

theorem hexDigit_digitCharacter {digit : Nat} (h : digit < 16) :
    Json.hexDigit (Numerals.digitCharacter digit) = some digit := by
  revert h digit
  decide

theorem mapM_hexDigit {digits : List Nat} (h : ∀ digit ∈ digits, digit < 16) :
    (digits.map Numerals.digitCharacter).mapM Json.hexDigit = some digits := by
  induction digits with
  | nil => rfl
  | cons digit digits ih =>
    rw [List.forall_mem_cons] at h
    rw [List.map_cons, List.mapM_cons, hexDigit_digitCharacter h.1, ih h.2]
    rfl

theorem hexNumber_hexValue (value : BitVec 64) (digits : BitVec 32) :
    hexNumber (hexValue value digits) = some value.toNat := by
  obtain ⟨numeral, hnumeral, hsmall, hvalue⟩ :=
    Numerals.numeral_digits (show 1 < 16 by decide) value.toNat
  generalize hzeros : (digits.toInt - (toHex value.toNat).length).toNat = zeros
  have hspelled : setw digits.toInt (toHex value.toNat) =
      (List.replicate zeros 0 ++ numeral).map Numerals.digitCharacter := by
    rw [setw, hzeros, toHex, hnumeral, List.map_append, List.map_replicate]
    rfl
  have hmap : (setw digits.toInt (toHex value.toNat)).mapM Json.hexDigit =
      some (List.replicate zeros 0 ++ numeral) := by
    rw [hspelled]
    refine mapM_hexDigit fun digit hmem => ?_
    rcases List.mem_append.mp hmem with hzero | hdigit
    · rw [List.eq_of_mem_replicate hzero]
      decide
    · exact hsmall digit hdigit
  have hprefix : hexNumber (text "0x" ++ setw digits.toInt (toHex value.toNat)) =
      ((setw digits.toInt (toHex value.toNat)).mapM Json.hexDigit).map
        (fun digits => Nat.ofDigits 16 digits.reverse) := rfl
  rw [hexValue, hprefix, hmap, Option.map_some, List.reverse_append, List.reverse_replicate,
    Nat.ofDigits_append_replicate_zero, hvalue]

theorem readHex_hexString (value : BitVec 64) (digits : BitVec 32) :
    readHex 64 (hexString value digits) = some value := by
  have hnumber : readHex 64 (hexString value digits) =
      (hexNumber (hexValue value digits)).bind fun number => readBits 64 (.number number) := rfl
  rw [hnumber, hexNumber_hexValue, Option.bind_some, readBits_toNat]

theorem readHex_instruction (instruction : BitVec 32) (digits : BitVec 32) :
    readHex 32 (hexString (instruction.setWidth 64) digits) = some instruction := by
  have hnumber : readHex 32 (hexString (instruction.setWidth 64) digits) =
      (hexNumber (hexValue (instruction.setWidth 64) digits)).bind fun number =>
        readBits 32 (.number number) := rfl
  have hvalue : (instruction.setWidth 64).toNat = instruction.toNat :=
    BitVec.toNat_setWidth_of_le (by decide)
  rw [hnumber, hexNumber_hexValue, Option.bind_some, hvalue, readBits_toNat]

theorem readPrivilegeName_string (level : PrivilegeLevel) :
    readPrivilegeName (.string (privilegeName level)) = some level := by
  cases level <;> rfl

theorem readCause_number (cause : TrapCause) :
    readCause (.number cause.code.toNat) = some cause := by
  cases cause <;> rfl

theorem readNullable_orNullValue {α : Type} {read : Value → Option α} {json : α → Value}
    (h : ∀ x, read (json x) = some x) (hobject : ∀ x, ((json x).asObject).isSome = true)
    (field : Option α) : readNullable read (orNullValue json field) = some field := by
  cases field with
  | none => rfl
  | some x =>
    have hread := h x
    have hx := hobject x
    change readNullable read (json x) = _
    generalize json x = value at hread hx
    cases value with
    | object members => exact congrArg (Option.map some) hread
    | null => cases hx
    | boolean => cases hx
    | number => cases hx
    | string => cases hx

theorem registerWrite_ofJson (write : RegisterWrite) :
    RegisterWrite.ofJson write.json = some write := by
  have hindex : readBits 8 (.number write.index.toNat) = some write.index := readBits_toNat _
  have hvalue := readHex_hexString write.value 16#32
  change ((readBits 8 (.number write.index.toNat)).bind fun index =>
    (readHex 64 (hexString write.value 16#32)).bind fun value => some ⟨index, value⟩) = some write
  rw [hindex, hvalue]
  rfl

theorem translation_ofJson (translation : AddressTranslation) :
    AddressTranslation.ofJson translation.json = some translation := by
  have hvirtual := readHex_hexString translation.virtualAddress 16#32
  have hphysical := readHex_hexString translation.physicalAddress 16#32
  change ((readHex 64 (hexString translation.virtualAddress 16#32)).bind fun virtualAddress =>
    (readHex 64 (hexString translation.physicalAddress 16#32)).bind fun physicalAddress =>
      some ⟨virtualAddress, physicalAddress⟩) = some translation
  rw [hvirtual, hphysical]
  rfl

theorem memoryWrite_ofJson (write : MemoryWrite) : MemoryWrite.ofJson write.json = some write := by
  have haddress := readHex_hexString write.address 16#32
  have hvalue := readHex_hexString write.value (BitVec.ofNat 32 (write.width * 2))
  have hphysical := readHex_hexString write.physicalAddress 16#32
  change ((readHex 64 (hexString write.address 16#32)).bind fun address =>
    (readHex 64 (hexString write.value (BitVec.ofNat 32 (write.width * 2)))).bind fun value =>
      (readHex 64 (hexString write.physicalAddress 16#32)).bind fun physicalAddress =>
        some ⟨address, write.width, value, physicalAddress⟩) = some write
  rw [haddress, hvalue, hphysical]
  rfl

theorem trap_ofJson (trap : Trap) : Trap.ofJson trap.pc trap.json = some trap := by
  have hcause := readCause_number trap.cause
  have hvalue := readHex_hexString trap.value 16#32
  change ((readCause (.number trap.cause.code.toNat)).bind fun cause =>
    (readHex 64 (hexString trap.value 16#32)).bind fun value =>
      if trapName trap.cause = trapName cause then
        some (⟨cause, trap.pc, value, trap.detail⟩ : Trap) else none) = some trap
  rw [hcause, hvalue, Option.bind_some, Option.bind_some, if_pos rfl]

theorem trap_field {pc : Address} {field : Option Trap} (h : ∀ trap ∈ field, trap.pc = pc) :
    readNullable (Trap.ofJson pc) (orNullValue Trap.json field) = some field := by
  cases field with
  | none => rfl
  | some trap =>
    obtain rfl := h trap rfl
    exact congrArg (Option.map some) (trap_ofJson trap)

theorem record_ofJson {record : StepRecord} (h : record.TrapAtPc) :
    StepRecord.ofJson record.json = some record := by
  have hsequence : readBits 64 (.number record.sequence.toNat) = some record.sequence :=
    readBits_toNat _
  have hpc := readHex_hexString record.pc 16#32
  have hprivilege := readPrivilegeName_string record.privilege
  have hinstruction := readHex_instruction record.instruction 8#32
  have hnextPc := readHex_hexString record.nextPc 16#32
  have hnextPrivilege := readPrivilegeName_string record.nextPrivilege
  have hregisterWrite :=
    readNullable_orNullValue registerWrite_ofJson (fun _ => rfl) record.registerWrite
  have hinstructionTranslation :=
    readNullable_orNullValue translation_ofJson (fun _ => rfl) record.instructionTranslation
  have hdataTranslation :=
    readNullable_orNullValue translation_ofJson (fun _ => rfl) record.dataTranslation
  have hmemoryWrite := readNullable_orNullValue memoryWrite_ofJson (fun _ => rfl) record.memoryWrite
  have htrap := trap_field h
  change ((readBits 64 (.number record.sequence.toNat)).bind fun sequence =>
    (readHex 64 (hexString record.pc 16#32)).bind fun pc =>
    (readPrivilegeName (.string (privilegeName record.privilege))).bind fun privilege =>
    (readHex 32 (hexString (record.instruction.setWidth 64) 8#32)).bind fun instruction =>
    (readHex 64 (hexString record.nextPc 16#32)).bind fun nextPc =>
    (readPrivilegeName (.string (privilegeName record.nextPrivilege))).bind fun nextPrivilege =>
    (readNullable RegisterWrite.ofJson
      (orNullValue RegisterWrite.json record.registerWrite)).bind fun registerWrite =>
    (readNullable AddressTranslation.ofJson (orNullValue AddressTranslation.json
      record.instructionTranslation)).bind fun instructionTranslation =>
    (readNullable AddressTranslation.ofJson (orNullValue AddressTranslation.json
      record.dataTranslation)).bind fun dataTranslation =>
    (readNullable MemoryWrite.ofJson
      (orNullValue MemoryWrite.json record.memoryWrite)).bind fun memoryWrite =>
    (readNullable (Trap.ofJson pc) (orNullValue Trap.json record.trap)).bind fun trap =>
      some (⟨sequence, pc, privilege, instruction, record.assembly, nextPc, nextPrivilege,
        record.retired, record.halted, registerWrite, memoryWrite, trap, instructionTranslation,
        dataTranslation⟩ : StepRecord)) = some record
  rw [hsequence, hpc, hprivilege, hinstruction, hnextPc, hnextPrivilege, hregisterWrite,
    hinstructionTranslation, hdataTranslation, hmemoryWrite]
  simp only [Option.bind_some, htrap]

def readTrace (input : Text) : Option (List StepRecord) :=
  match _hline : getline input with
  | none => some []
  | some (line, rest) => do
    let record ← (Json.read line).bind StepRecord.ofJson
    let records ← readTrace rest
    some (record :: records)
termination_by input.length
decreasing_by exact Lines.next_length _hline

theorem readTrace_cons {record : StepRecord} (h : record.TrapAtPc) (records : List StepRecord) :
    readTrace (writeTrace (record :: records)) =
      (readTrace (writeTrace records)).map (record :: ·) := by
  have hline := getline_writeTrace_cons record records
  have hrecord : (Json.read (formatTraceRecord record)).bind StepRecord.ofJson = some record := by
    rw [read_formatTraceRecord, Option.bind_some, record_ofJson h]
  rw [readTrace]
  split
  · rename_i hnone
    cases hnone.symm.trans hline
  · rename_i line rest hsome
    obtain ⟨rfl, rfl⟩ := Prod.mk.inj (Option.some.inj (hsome.symm.trans hline))
    rw [hrecord, Option.bind_eq_bind, Option.bind_some]
    cases readTrace (writeTrace records) <;> rfl

theorem readTrace_writeTrace {records : List StepRecord} (h : ∀ record ∈ records, record.TrapAtPc) :
    readTrace (writeTrace records) = some records := by
  induction records with
  | nil =>
    rw [readTrace]
    rfl
  | cons record records ih =>
    rw [List.forall_mem_cons] at h
    rw [readTrace_cons h.1, ih h.2]
    rfl

theorem Cpu.run_read_back (cpu : Cpu) (maximumSteps : BitVec 64) :
    let outcome := cpu.run maximumSteps []
    let file := writeTrace outcome.trace
    readTrace file = some outcome.trace ∧
      (readTrace file).map (List.foldl ReplayState.apply cpu.replayState) =
        some outcome.cpu.replayState := by
  have hread := readTrace_writeTrace (cpu.run_trapAtPc maximumSteps)
  intro outcome file
  refine ⟨hread, ?_⟩
  rw [hread, Option.map_some, run_trace, List.nil_append]
  change _ = some (cpu.run maximumSteps []).cpu.replayState
  rw [run_cpu]
  exact congrArg some
    (runs.replay replayState ReplayState.apply (fun s _ => s.step_replayState) _ _).symm

end Reading

end Northstar64
