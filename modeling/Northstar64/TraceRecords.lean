import Northstar64.TraceFormat
import Northstar64.Replay

namespace Northstar64
open Codes

attribute [ext] RegisterWrite AddressTranslation MemoryWrite Trap StepRecord

section Fields

theorem toDecimal_peels : Peels (StartsOutside NumeralCharacter) toDecimal :=
  .of_alphabet toDecimal_injective numeralCharacter_toDecimal

theorem hexValue_peels (digits : BitVec 32) :
    Peels (StartsOutside NumeralCharacter) (fun value => hexValue value digits) :=
  .of_alphabet (hexValue_injective digits) (fun value => numeralCharacter_hexValue value digits)

theorem escapeJson_peels : Peels (StartsWith 0x22#8) escapeJson :=
  .flatMap (.of_decoder unescape fun character =>
    unescape_append (unescape_escapeCharacter character)) escapeCharacter_ne_nil escapeCharacter_head

def readPrivilege (output : Text) : Option PrivilegeLevel :=
  if output.head? = some 0x55#8 then some .user
  else if output.head? = some 0x53#8 then some .supervisor
  else some .machine

theorem privilegeName_peels : Peels (fun _ => True) privilegeName := by
  refine .of_decoder readPrivilege fun level rest => ?_
  cases level <;> rfl

theorem formatFlag_peels : Peels (fun _ => True) formatFlag := by
  refine .of_decoder (fun output => some (decide (output.head? = some 0x74#8))) fun flag rest => ?_
  cases flag <;> rfl

theorem toDecimal_field {m n : Nat} {literal rest rest' : Text} {stop : Byte}
    (hliteral : literal.head? = some stop) (hstop : ¬ NumeralCharacter stop)
    (h : toDecimal m ++ (literal ++ rest) = toDecimal n ++ (literal ++ rest')) :
    m = n ∧ rest = rest' :=
  toDecimal_peels.field (StartsOutside.literal hliteral hstop) h

theorem hexValue_field {value value' : BitVec 64} {digits : BitVec 32} {literal rest rest' : Text}
    {stop : Byte} (hliteral : literal.head? = some stop) (hstop : ¬ NumeralCharacter stop)
    (h : hexValue value digits ++ (literal ++ rest) = hexValue value' digits ++ (literal ++ rest')) :
    value = value' ∧ rest = rest' :=
  (hexValue_peels digits).field (StartsOutside.literal hliteral hstop) h

theorem escapeJson_field {input input' literal rest rest' : Text}
    (hliteral : literal.head? = some 0x22#8)
    (h : escapeJson input ++ (literal ++ rest) = escapeJson input' ++ (literal ++ rest')) :
    input = input' ∧ rest = rest' :=
  escapeJson_peels.field (StartsWith.literal hliteral) h

end Fields

section Objects

theorem formatRegisterWrite_peels : Peels (fun _ => True) formatRegisterWrite := by
  intro a b rest rest' _ _ h
  simp only [formatRegisterWrite, List.flatten_cons, List.append_assoc] at h
  replace h := List.append_cancel_left h
  obtain ⟨hindex, h⟩ := toDecimal_field rfl (by decide) h
  obtain ⟨hvalue, hrest⟩ := hexValue_field rfl (by decide) h
  exact ⟨RegisterWrite.ext (BitVec.eq_of_toNat_eq hindex) hvalue, hrest⟩

theorem formatTranslation_peels : Peels (fun _ => True) formatTranslation := by
  intro a b rest rest' _ _ h
  simp only [formatTranslation, List.flatten_cons, List.append_assoc] at h
  replace h := List.append_cancel_left h
  obtain ⟨hvirtual, h⟩ := hexValue_field rfl (by decide) h
  obtain ⟨hphysical, hrest⟩ := hexValue_field rfl (by decide) h
  exact ⟨AddressTranslation.ext hvirtual hphysical, hrest⟩

theorem formatMemoryWrite_peels : Peels (fun _ => True) formatMemoryWrite := by
  intro a b rest rest' _ _ h
  simp only [formatMemoryWrite, List.flatten_cons, List.append_assoc] at h
  replace h := List.append_cancel_left h
  obtain ⟨haddress, h⟩ := hexValue_field rfl (by decide) h
  obtain ⟨hwidth, h⟩ := toDecimal_field rfl (by decide) h
  rw [hwidth] at h
  obtain ⟨hvalue, h⟩ := hexValue_field rfl (by decide) h
  obtain ⟨hphysical, hrest⟩ := hexValue_field rfl (by decide) h
  exact ⟨MemoryWrite.ext haddress hwidth hvalue hphysical, hrest⟩

theorem formatTrap_peels (pc : Address) :
    Peels (fun _ => True) (fun trap : { trap : Trap // trap.pc = pc } => formatTrap trap) := by
  rintro ⟨a, rfl⟩ ⟨b, hpc⟩ rest rest' _ _ h
  simp only [formatTrap, List.flatten_cons, List.append_assoc] at h
  replace h := List.append_cancel_left h
  obtain ⟨hcode, h⟩ := toDecimal_field rfl (by decide) h
  have hcause : a.cause = b.cause := TrapCause.code_injective (BitVec.eq_of_toNat_eq hcode)
  rw [hcause] at h
  replace h := List.append_cancel_left (List.append_cancel_left h)
  obtain ⟨hvalue, h⟩ := hexValue_field rfl (by decide) h
  obtain ⟨hdetail, hrest⟩ := escapeJson_field rfl h
  exact ⟨Subtype.ext (Trap.ext hcause hpc.symm hvalue hdetail), hrest⟩

theorem orNull_peels {α : Type} {format : α → Text} (h : Peels (fun _ => True) format)
    (hobject : ∀ x, (format x).head? = some 0x7b#8) : Peels (fun _ => True) (orNull format) := by
  refine .option (text "null") h (by decide) fun x => ⟨fun hnil => ?_, fun hhead => ?_⟩
  · have hbrace := hobject x
    rw [hnil] at hbrace
    cases hbrace
  · rw [hobject] at hhead
    exact absurd hhead (by decide)

end Objects

section Records

def StepRecord.TrapAtPc (record : StepRecord) : Prop := ∀ trap ∈ record.trap, trap.pc = record.pc

instance (record : StepRecord) : Decidable record.TrapAtPc := inferInstanceAs (Decidable (∀ _ ∈ _, _))

theorem exists_trap_at {pc : Address} {field : Option Trap} (h : ∀ trap ∈ field, trap.pc = pc) :
    ∃ trap : Option { trap : Trap // trap.pc = pc }, field = trap.map (·.1) := by
  cases field with
  | none => exact ⟨none, rfl⟩
  | some trap => exact ⟨some ⟨trap, h trap rfl⟩, rfl⟩

theorem orNull_map {α β : Type} (format : β → Text) (f : α → β) (field : Option α) :
    orNull format (field.map f) = orNull (fun x => format (f x)) field := by
  cases field <;> rfl

theorem formatTrap_field {pc : Address} {a b : Option Trap} {rest rest' : Text}
    (ha : ∀ trap ∈ a, trap.pc = pc) (hb : ∀ trap ∈ b, trap.pc = pc)
    (h : orNull formatTrap a ++ rest = orNull formatTrap b ++ rest') : a = b := by
  obtain ⟨a, rfl⟩ := exists_trap_at ha
  obtain ⟨b, rfl⟩ := exists_trap_at hb
  rw [orNull_map, orNull_map] at h
  obtain ⟨rfl, -⟩ := orNull_peels (formatTrap_peels pc) (fun _ => rfl) trivial trivial h
  rfl

theorem setWidth_instruction_injective :
    Function.Injective (fun instruction : BitVec 32 => instruction.setWidth 64) := by
  intro a b h
  have hvalue := congrArg (BitVec.setWidth 32) h
  simpa using hvalue

theorem formatTraceRecord_injective {a b : StepRecord} (ha : a.TrapAtPc) (hb : b.TrapAtPc)
    (h : formatTraceRecord a = formatTraceRecord b) : a = b := by
  simp only [formatTraceRecord, List.flatten_cons] at h
  replace h := List.append_cancel_left h
  obtain ⟨hsequence, h⟩ := toDecimal_field rfl (by decide) h
  obtain ⟨hpc, h⟩ := hexValue_field rfl (by decide) h
  obtain ⟨hprivilege, h⟩ := privilegeName_peels.field (fun _ => trivial) h
  obtain ⟨hinstruction, h⟩ := hexValue_field rfl (by decide) h
  obtain ⟨hassembly, h⟩ := escapeJson_field rfl h
  obtain ⟨hnextPc, h⟩ := hexValue_field rfl (by decide) h
  obtain ⟨hnextPrivilege, h⟩ := privilegeName_peels.field (fun _ => trivial) h
  obtain ⟨hretired, h⟩ := formatFlag_peels.field (fun _ => trivial) h
  obtain ⟨hhalted, h⟩ := formatFlag_peels.field (fun _ => trivial) h
  obtain ⟨hregisterWrite, h⟩ :=
    (orNull_peels formatRegisterWrite_peels fun _ => rfl).field (fun _ => trivial) h
  obtain ⟨hinstructionTranslation, h⟩ :=
    (orNull_peels formatTranslation_peels fun _ => rfl).field (fun _ => trivial) h
  obtain ⟨hdataTranslation, h⟩ :=
    (orNull_peels formatTranslation_peels fun _ => rfl).field (fun _ => trivial) h
  obtain ⟨hmemoryWrite, h⟩ :=
    (orNull_peels formatMemoryWrite_peels fun _ => rfl).field (fun _ => trivial) h
  have htrap : a.trap = b.trap := formatTrap_field ha (hpc ▸ hb) h
  exact StepRecord.ext (BitVec.eq_of_toNat_eq hsequence) hpc hprivilege
    (setWidth_instruction_injective hinstruction) hassembly hnextPc hnextPrivilege hretired hhalted
    hregisterWrite hmemoryWrite htrap hinstructionTranslation hdataTranslation

end Records

section OneLine

def OneLine (output : Text) : Prop := newline ∉ output

instance (output : Text) : Decidable (OneLine output) := inferInstanceAs (Decidable (_ ∉ _))

theorem not_numeralCharacter_newline : ¬ NumeralCharacter newline := by decide

theorem oneLine_flatten {pieces : List Text} :
    OneLine pieces.flatten ↔ ∀ piece ∈ pieces, OneLine piece := by
  simp [OneLine]

theorem oneLine_toDecimal (value : Nat) : OneLine (toDecimal value) := fun hmem =>
  not_numeralCharacter_newline (numeralCharacter_toDecimal value _ hmem)

theorem oneLine_hexValue (value : BitVec 64) (digits : BitVec 32) :
    OneLine (hexValue value digits) := fun hmem =>
  not_numeralCharacter_newline (numeralCharacter_hexValue value digits _ hmem)

theorem oneLine_escapeJson (input : Text) : OneLine (escapeJson input) := by
  intro hmem
  obtain ⟨character, -, hescaped⟩ := List.mem_flatMap.mp hmem
  exact newline_notMem_escapeCharacter character hescaped

theorem oneLine_privilegeName (level : PrivilegeLevel) : OneLine (privilegeName level) := by
  cases level <;> decide

theorem oneLine_trapName (cause : TrapCause) : OneLine (trapName cause) := by
  cases cause <;> decide

theorem oneLine_formatFlag (flag : Bool) : OneLine (formatFlag flag) := by
  cases flag <;> decide

theorem oneLine_orNull {α : Type} {format : α → Text} (h : ∀ x, OneLine (format x))
    (field : Option α) : OneLine (orNull format field) := by
  cases field with
  | none => exact show OneLine (text "null") by decide
  | some x => exact h x

theorem oneLine_formatRegisterWrite (write : RegisterWrite) :
    OneLine (formatRegisterWrite write) := by
  simp only [formatRegisterWrite, oneLine_flatten, List.forall_mem_cons, oneLine_toDecimal,
    oneLine_hexValue, true_and]
  decide

theorem oneLine_formatTranslation (translation : AddressTranslation) :
    OneLine (formatTranslation translation) := by
  simp only [formatTranslation, oneLine_flatten, List.forall_mem_cons, oneLine_hexValue, true_and]
  decide

theorem oneLine_formatMemoryWrite (write : MemoryWrite) : OneLine (formatMemoryWrite write) := by
  simp only [formatMemoryWrite, oneLine_flatten, List.forall_mem_cons, oneLine_toDecimal,
    oneLine_hexValue, true_and]
  decide

theorem oneLine_formatTrap (trap : Trap) : OneLine (formatTrap trap) := by
  simp only [formatTrap, oneLine_flatten, List.forall_mem_cons, oneLine_toDecimal, oneLine_trapName,
    oneLine_hexValue, oneLine_escapeJson, true_and]
  decide

theorem oneLine_formatTraceRecord (record : StepRecord) : OneLine (formatTraceRecord record) := by
  simp only [formatTraceRecord, oneLine_flatten, List.forall_mem_cons, oneLine_toDecimal,
    oneLine_hexValue, oneLine_privilegeName, oneLine_escapeJson, oneLine_formatFlag, true_and,
    oneLine_orNull oneLine_formatRegisterWrite, oneLine_orNull oneLine_formatTranslation,
    oneLine_orNull oneLine_formatMemoryWrite, oneLine_orNull oneLine_formatTrap]
  decide

end OneLine

section Files

structure JsonlTraceWriter where
  output : Text

def JsonlTraceWriter.append (writer : JsonlTraceWriter) (record : StepRecord) : JsonlTraceWriter :=
  ⟨writer.output ++ formatTraceRecord record ++ [newline]⟩

def writeTrace (records : List StepRecord) : Text :=
  (records.foldl JsonlTraceWriter.append ⟨[]⟩).output

theorem foldl_append_output (records : List StepRecord) (writer : JsonlTraceWriter) :
    (records.foldl JsonlTraceWriter.append writer).output = writer.output ++ writeTrace records := by
  induction records using List.reverseRecOn with
  | nil => simp [writeTrace]
  | append_singleton records record ih =>
    simp [writeTrace, JsonlTraceWriter.append] at ih ⊢
    simp [ih]

theorem writeTrace_cons (record : StepRecord) (records : List StepRecord) :
    writeTrace (record :: records) =
      formatTraceRecord record ++ newline :: writeTrace records := by
  rw [writeTrace, List.foldl_cons, foldl_append_output]
  simp [JsonlTraceWriter.append]

theorem getline_writeTrace_cons (record : StepRecord) (records : List StepRecord) :
    getline (writeTrace (record :: records)) =
      some (formatTraceRecord record, writeTrace records) := by
  rw [writeTrace_cons]
  exact Lines.next_terminated (oneLine_formatTraceRecord record) _

theorem writeTrace_cons_ne_nil (record : StepRecord) (records : List StepRecord) :
    writeTrace (record :: records) ≠ [] := by
  simp [writeTrace_cons]

def FirstDifference (left right : List StepRecord) (index : Nat) : Prop :=
  left[index]? ≠ right[index]? ∧ ∀ earlier < index, left[earlier]? = right[earlier]?

theorem FirstDifference.head {left right : List StepRecord} (h : left[0]? ≠ right[0]?) :
    FirstDifference left right 0 :=
  ⟨h, fun _ hlt => absurd hlt (Nat.not_lt_zero _)⟩

theorem FirstDifference.cons {left right : List StepRecord} {index : Nat} (record : StepRecord)
    (h : FirstDifference left right index) :
    FirstDifference (record :: left) (record :: right) (index + 1) := by
  refine ⟨by simpa using h.1, fun earlier hlt => ?_⟩
  cases earlier with
  | zero => rfl
  | succ earlier => simpa using h.2 earlier (by omega)

inductive ComparesRecords (n : Nat) (left right : List StepRecord) : Prop where
  | same (equal : left = right)
      (compare : compareFrom n (writeTrace left) (writeTrace right) = none)
  | differ (difference : TraceDifference) (index : Nat)
      (compare : compareFrom n (writeTrace left) (writeTrace right) = some difference)
      (line : difference.line = n + index + 1) (first : FirstDifference left right index)

theorem comparesRecords_cons {n : Nat} {left right : List StepRecord} (record : StepRecord)
    (h : ComparesRecords (n + 1) left right) :
    ComparesRecords n (record :: left) (record :: right) := by
  have hcompare : compareFrom n (writeTrace (record :: left)) (writeTrace (record :: right)) =
      compareFrom (n + 1) (writeTrace left) (writeTrace right) := by
    rw [compareFrom_lines (getline_writeTrace_cons record left)
      (getline_writeTrace_cons record right), if_neg (by simp)]
  cases h with
  | same equal compare => exact .same (by rw [equal]) (hcompare.trans compare)
  | differ difference index compare line first =>
    exact .differ difference (index + 1) (hcompare.trans compare) (by omega) (first.cons record)

theorem comparesRecords (n : Nat) {left right : List StepRecord}
    (hleft : ∀ record ∈ left, record.TrapAtPc) (hright : ∀ record ∈ right, record.TrapAtPc) :
    ComparesRecords n left right := by
  induction left generalizing n right with
  | nil =>
    cases right with
    | nil => exact .same rfl (compareFrom_nil n)
    | cons record right =>
      exact .differ _ 0 (compareFrom_right_only (writeTrace_cons_ne_nil record right)) rfl
        (.head (by simp))
  | cons record left ih =>
    cases right with
    | nil =>
      exact .differ _ 0 (compareFrom_left_only (writeTrace_cons_ne_nil record left)) rfl
        (.head (by simp))
    | cons record' right =>
      rw [List.forall_mem_cons] at hleft hright
      by_cases hsame : record = record'
      · subst hsame
        exact comparesRecords_cons record (ih (n + 1) hleft.2 hright.2)
      · have hformat : formatTraceRecord record ≠ formatTraceRecord record' := fun h =>
          hsame (formatTraceRecord_injective hleft.1 hright.1 h)
        have hcompare := (compareFrom_lines (n := n) (getline_writeTrace_cons record left)
          (getline_writeTrace_cons record' right)).trans (if_pos hformat)
        exact .differ _ 0 hcompare rfl (.head (by simpa using hsame))

structure DecidesRecords (left right : List StepRecord) : Prop where
  same : compareTraceFiles (writeTrace left) (writeTrace right) = none ↔ left = right
  line : left ≠ right → ∃ difference index,
    compareTraceFiles (writeTrace left) (writeTrace right) = some difference ∧
      difference.line = index + 1 ∧ FirstDifference left right index

theorem FirstDifference.ne {left right : List StepRecord} {index : Nat}
    (h : FirstDifference left right index) : left ≠ right := by
  rintro rfl
  exact h.1 rfl

theorem ComparesRecords.decides {left right : List StepRecord} (h : ComparesRecords 0 left right) :
    DecidesRecords left right := by
  cases h with
  | same equal compare => exact ⟨iff_of_true compare equal, fun hne => absurd equal hne⟩
  | differ difference index compare line first =>
    rw [Nat.zero_add] at line
    refine ⟨iff_of_false ?_ first.ne, fun _ => ⟨difference, index, compare, line, first⟩⟩
    rw [compareTraceFiles, compare]
    simp

theorem trace_files_decide_records (left right : List StepRecord)
    (hleft : ∀ record ∈ left, record.TrapAtPc) (hright : ∀ record ∈ right, record.TrapAtPc) :
    DecidesRecords left right :=
  (comparesRecords 0 hleft hright).decides

def trappedRecord (detail : Text) : StepRecord where
  sequence := 0#64
  pc := 0x1000#64
  privilege := .machine
  instruction := 0x00000073#32
  assembly := text "ecall"
  nextPc := 0x1000#64
  nextPrivilege := .machine
  retired := false
  halted := true
  registerWrite := none
  memoryWrite := none
  trap := some ⟨.environmentCallFromMachineMode, 0x1000#64, 0#64, detail⟩
  instructionTranslation := none
  dataTranslation := none

theorem trace_files_decide_escaped_details :
    DecidesRecords [trappedRecord (text "a\nb")] [trappedRecord (text "a\\nb")] :=
  trace_files_decide_records _ _ (by decide) (by decide)

namespace Cpu
variable {cpu : Cpu}

theorem step_trapAtPc (hrunning : cpu.halted = false) : cpu.step.2.TrapAtPc := by
  intro trap htrap
  exact (cpu.stepped_trap hrunning htrap).pc.trans cpu.step_recorded.pc.symm

theorem run_trapAtPc (cpu : Cpu) (maximumSteps : BitVec 64) :
    ∀ record ∈ (cpu.run maximumSteps []).trace, record.TrapAtPc := by
  intro record hmem
  rw [run_trace, List.nil_append] at hmem
  obtain ⟨k, -, hrunning, rfl⟩ := runs.record_of_mem hmem
  exact step_trapAtPc hrunning

theorem run_traces_decide_records (first second : Cpu) (firstSteps secondSteps : BitVec 64) :
    DecidesRecords (first.run firstSteps []).trace (second.run secondSteps []).trace :=
  (comparesRecords 0 (first.run_trapAtPc firstSteps) (second.run_trapAtPc secondSteps)).decides

end Cpu

end Files
end Northstar64
