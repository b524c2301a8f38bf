import Northstar64.HartBoot
import Northstar64.HostFiles
import Northstar64.ImageRange

namespace Northstar64
open Results

namespace Cpu
variable {cpu : Cpu}

theorem Completes.terminalTrap {f : Scratch} {instruction : DecodedInstruction} {s : StepState}
    (h : cpu.Completes f instruction s) : s.cpu.terminalTrap = cpu.terminalTrap := by
  cases h with
  | advance =>
    rw [StepState.writeRegister_cpu]
    rfl
  | store => rfl
  | csrRead =>
    rw [StepState.writeRegister_cpu]
    rfl
  | csrWrite =>
    rw [StepState.writeRegister_cpu]
    rfl
  | sret => rfl
  | mret => rfl
  | wfi => rfl

theorem stepped_terminalTrap (running : cpu.halted = false) (h : cpu.terminalTrap = none) :
    cpu.stepped.cpu.terminalTrap =
      if cpu.stepped.cpu.halted then cpu.stepped.record.trap else none := by
  have houtcome := cpu.step_outcome running
  generalize cpu.stepped = s at houtcome
  cases houtcome with
  | trap f cause value detail =>
    unfold StepState.raiseTrap
    dsimp only
    split_ifs with hpolicy hhalted
    · cases running.symm.trans hhalted
    · exact h
    · rfl
    · rename_i hrunning
      exact absurd rfl hrunning
  | breakpoint f detail => rfl
  | retired f instruction s fetched decoded completes =>
    have htrap := completes.trap_eq_none
    rw [StepState.retire_complete htrap]
    change s.cpu.terminalTrap = if s.cpu.halted then s.record.trap else none
    rw [htrap, ite_self, completes.terminalTrap, h]

end Cpu

namespace Bus

theorem imageRangeIsValid_regions (bus : Bus) (address : Address) (size : BitVec 64) :
    bus.imageRangeIsValid address size = true ↔ size = 0#64 ∨
      ∃ region ∈ bus.devices.map Device.region,
        region.kind = .ram ∧ region.Covers address size.toNat := by
  by_cases hsize : size = 0#64
  · rw [imageRangeIsValid, if_pos hsize]
    exact iff_of_true rfl (.inl hsize)
  · have hpos : 0 < size.toNat := by bv_omega
    rw [imageRangeIsValid_iff_ends hsize, or_iff_right hsize]
    constructor
    · rintro ⟨hrange, device, hmem, hfirst, haccepts, hlast⟩
      refine ⟨device.region, List.mem_map_of_mem hmem, by rw [Device.region, haccepts]; rfl, ?_⟩
      have hend : (address + size - 1#64).toNat = address.toNat + size.toNat - 1 := by bv_omega
      rw [contains_byte_iff] at hfirst hlast
      rw [hend] at hlast
      exact ⟨hfirst.1, by dsimp only [Device.region]; omega⟩
    · rintro ⟨region, hmem, hkind, hcovers⟩
      obtain ⟨device, hdevice, rfl⟩ := List.mem_map.mp hmem
      obtain ⟨hfirst, hend⟩ := hcovers
      dsimp only [Device.region] at hfirst hend
      have hfits := device.mapped.end_le
      have hlast : (address + size - 1#64).toNat = address.toNat + size.toNat - 1 := by
        have hlt : address.toNat + size.toNat ≤ 2 ^ 64 := hend.trans hfits
        bv_omega
      refine ⟨by omega, device, hdevice, ?_, ?_, ?_⟩
      · rw [contains_byte_iff]
        omega
      · cases haccepts : device.acceptsImage with
        | true => rfl
        | false =>
          rw [Device.region, haccepts] at hkind
          cases hkind
      · rw [contains_byte_iff, hlast]
        omega

end Bus

def ElfSegment.Placed (regions : List Region) (segment : ElfSegment) : Prop :=
  segment.memorySize = 0#64 ∨ ∃ region ∈ regions,
    region.kind = .ram ∧ region.Covers segment.loadAddress segment.memorySize.toNat

structure FirstUnplaced (regions : List Region) (segments : List ElfSegment)
    (segment : ElfSegment) : Prop where
  unplaced : ¬ segment.Placed regions
  first : ∃ before after, segments = before ++ segment :: after ∧
    ∀ other ∈ before, other.Placed regions

def CpuConfig.status (config : CpuConfig) (events : List Event) : Nat :=
  match events.find? config.halts with
  | none => 2
  | some event =>
    match event.completion with
    | .retired _ => 0
    | .trapped exception => if exception.cause = .breakpoint then 0 else 3

namespace Machine
variable {sorting : SegmentSort} {bytes : List Byte} {image : ElfImage}

theorem loadable_iff (machine : Machine) (segment : ElfSegment) :
    machine.clearedBus.imageRangeIsValid segment.loadAddress segment.memorySize = true ↔
      segment.Placed machine.board := by
  have hregions : machine.clearedBus.devices.map Device.region = machine.board :=
    Bus.flat_regions_of_layout machine.clearedBus_layout
  rw [Bus.imageRangeIsValid_regions, hregions]
  rfl

theorem load_of_parse_error {error : ElfError} (machine : Machine)
    (h : parse sorting bytes = .error error) : (machine.load sorting bytes).2 = .error error := by
  have hloaded : loadElf sorting bytes machine.clearedBus = (machine.clearedBus, .error error) := by
    simp only [loadElf, h]
  rw [load_of_error (congrArg Prod.snd hloaded)]

theorem load_of_unplaced {segment : ElfSegment} (machine : Machine)
    (hparse : parse sorting bytes = .ok image)
    (h : FirstUnplaced machine.board image.segments segment) :
    (machine.load sorting bytes).2 = .error (outsideRam segment) := by
  obtain ⟨before, after, hsegments, hbefore⟩ := h.first
  have hfind : image.segments.find? (fun segment => !machine.clearedBus.imageRangeIsValid
      segment.loadAddress segment.memorySize) = some segment := by
    rw [List.find?_eq_some_iff_append]
    refine ⟨?_, before, after, hsegments, fun other hmem => ?_⟩
    · rw [Bool.not_eq_true', ← Bool.not_eq_true, loadable_iff]
      exact h.unplaced
    · rw [Bool.not_not, loadable_iff]
      exact hbefore other hmem
  have hloaded : loadElf sorting bytes machine.clearedBus =
      (machine.clearedBus, .error (outsideRam segment)) := by
    simp only [loadElf, hparse, hfind]
  rw [load_of_error (congrArg Prod.snd hloaded)]

theorem load_of_placed (machine : Machine) (hparse : parse sorting bytes = .ok image)
    (h : ∀ segment ∈ image.segments, segment.Placed machine.board) :
    (machine.load sorting bytes).2 = .ok image := by
  have hvalid : ∀ segment ∈ image.segments, machine.clearedBus.imageRangeIsValid
      segment.loadAddress segment.memorySize = true :=
    fun segment hmem => (machine.loadable_iff segment).mpr (h segment hmem)
  rw [load_of_ok (loadElf_accepted hparse hvalid).1]

theorem placed_or_first (regions : List Region) (segments : List ElfSegment) :
    (∀ segment ∈ segments, segment.Placed regions) ∨
      ∃ segment, FirstUnplaced regions segments segment := by
  induction segments with
  | nil => exact .inl (by simp)
  | cons segment rest ih =>
    by_cases hplaced : segment.Placed regions
    · rcases ih with hrest | ⟨other, hunplaced, before, after, rfl, hbefore⟩
      · exact .inl (List.forall_mem_cons.mpr ⟨hplaced, hrest⟩)
      · exact .inr ⟨other, hunplaced, segment :: before, after, rfl,
          List.forall_mem_cons.mpr ⟨hplaced, hbefore⟩⟩
    · exact .inr ⟨segment, hplaced, [], rest, rfl, by simp⟩

def standardBoard : List Region :=
  [⟨0x10000000, 8, .console⟩, ⟨0x80000000, 0x8000000, .ram⟩]

structure Standard (machine : Machine) (policy : TrapPolicy) : Prop where
  board : machine.board = standardBoard
  uart : machine.uart.base = 0x10000000#64
  config : machine.cpu.config = ⟨policy, true, true⟩

instance (machine : Machine) (policy : TrapPolicy) : Decidable (machine.Standard policy) :=
  decidable_of_iff
    (machine.board = standardBoard ∧ machine.uart.base = 0x10000000#64 ∧
      machine.cpu.config = ⟨policy, true, true⟩)
    ⟨fun h => ⟨h.1, h.2.1, h.2.2⟩, fun h => ⟨h.board, h.uart, h.config⟩⟩

theorem make_standard (policy : TrapPolicy) :
    ∃ machine, make { cpu := ⟨policy, true, true⟩ } = .ok machine ∧ machine.Standard policy := by
  have hmake : (make { cpu := ⟨policy, true, true⟩ }).toOption.any
      (fun machine => decide (machine.Standard policy)) = true := by
    cases policy <;> decide +kernel
  obtain ⟨machine, hmachine, hstandard⟩ := exists_of_any hmake
  exact ⟨machine, hmachine, of_decide_eq_true hstandard⟩

end Machine

namespace Cpu
variable {cpu : Cpu}

theorem exitStatus_run (maximumSteps : BitVec 64) :
    exitStatus (cpu.run maximumSteps []).result =
      if (runs.state maximumSteps.toNat cpu).halted then
        if (runs.state maximumSteps.toNat cpu).terminalTrap.any
            (fun trap => decide (trap.cause ≠ .breakpoint)) then 3 else 0
      else 2 := by
  rw [run_result, run_cpu]
  cases hhalted : (runs.state maximumSteps.toNat cpu).halted with
  | true => simp [exitStatus, hhalted]
  | false => simp [exitStatus, hhalted]

theorem status_event {config : CpuConfig} {events : List Event} {record : StepRecord}
    (h : events.find? config.halts = some record.event) :
    config.status events =
      if record.trap.any (fun trap => decide (trap.cause ≠ .breakpoint)) then 3 else 0 := by
  rw [CpuConfig.status, h, StepRecord.event]
  cases record.trap with
  | none => rfl
  | some trap =>
    by_cases hcause : trap.cause = .breakpoint
    · simp [hcause]
    · simp [hcause]

theorem status_run (running : cpu.halted = false) (untrapped : cpu.terminalTrap = none)
    (maximumSteps : BitVec 64) :
    exitStatus (cpu.run maximumSteps []).result =
      cpu.config.status (Hart.system.records maximumSteps.toNat cpu.hart) := by
  have hfound : (Hart.system.records maximumSteps.toNat cpu.hart).find? cpu.config.halts =
      ((runs.records maximumSteps.toNat cpu).find?
        (fun record => cpu.config.halts record.event)).map StepRecord.event := by
    rw [← Execution.System.find?_upTo, ← run_upTo running, List.find?_map]
    rfl
  have hkeeps : ∀ s, runs.stopped s = false → (s.terminalTrap = none ∧ s.config = cpu.config) →
      runs.stopped (runs.step s).1 = false →
        (runs.step s).1.terminalTrap = none ∧ (runs.step s).1.config = cpu.config := by
    rintro s hrunning ⟨huntrapped, hconfig⟩ hnext
    have hterminal := stepped_terminalTrap hrunning huntrapped
    have hhalted : s.stepped.cpu.halted = false := hnext
    rw [hhalted] at hterminal
    exact ⟨hterminal, s.step_recorded.config.trans hconfig⟩
  have hcases := runs.stop_cases (p := fun record => cpu.config.halts record.event)
    (by
      rintro s hrunning ⟨-, hconfig⟩
      rw [← hconfig]
      exact step_halts hrunning) hkeeps ⟨untrapped, rfl⟩ running maximumSteps.toNat
  rw [exitStatus_run]
  rcases hcases with ⟨hnone, hstopped⟩ | ⟨t, hrunning, ⟨huntrapped, -⟩, hhalts, hstate, hsome⟩
  · have hhalted : (runs.state maximumSteps.toNat cpu).halted = false := hstopped
    rw [hnone] at hfound
    rw [hhalted, CpuConfig.status, hfound]
    rfl
  · have hhalted : t.stepped.cpu.halted = true := hhalts
    have hterminal := stepped_terminalTrap hrunning huntrapped
    rw [hhalted, if_pos rfl] at hterminal
    have hfinal : runs.state maximumSteps.toNat cpu = t.stepped.cpu := hstate
    rw [hsome] at hfound
    rw [hfinal, hhalted, hterminal, status_event hfound, if_pos rfl]
    rfl

end Cpu

def RunSettings.config (settings : RunSettings) : CpuConfig := ⟨settings.trapPolicy, true, true⟩

section Session
variable (sorting : SegmentSort) (host : Host) (path : Text) (options : List Text)

structure Invokes (settings : RunSettings) (bytes : List Byte) : Prop where
  options : parseRunOptions {} options = .ok settings
  read : ∃ input, Reads host path input bytes

structure Starts (settings : RunSettings) (bytes : List Byte) (image : ElfImage) (loaded : Machine) :
    Prop extends Invokes host path options settings bytes where
  parsed : parse sorting bytes = .ok image
  placed : ∀ segment ∈ image.segments, segment.Placed Machine.standardBoard
  machine : ∃ machine, Machine.make { cpu := settings.config } = .ok machine ∧
    machine.load sorting bytes = (loaded, .ok image)

inductive RunFails : Text → Prop
  | misused {what : Text} (options : parseRunOptions {} options = .error what) : RunFails what
  | unreadable {settings : RunSettings} {what : Text}
      (options : parseRunOptions {} options = .ok settings)
      (unreadable : Unreadable host path what) : RunFails what
  | rejected {settings : RunSettings} {bytes : List Byte} {error : ElfError}
      (invokes : Invokes host path options settings bytes)
      (parsed : parse sorting bytes = .error error) : RunFails error.what
  | unplaced {settings : RunSettings} {bytes : List Byte} {image : ElfImage}
      {segment : ElfSegment} (invokes : Invokes host path options settings bytes)
      (parsed : parse sorting bytes = .ok image)
      (first : FirstUnplaced Machine.standardBoard image.segments segment) :
      RunFails (outsideRam segment).what
  | untraced {settings : RunSettings} {bytes : List Byte} {image : ElfImage} {loaded : Machine}
      (starts : Starts sorting host path options settings bytes image loaded)
      (traced : settings.tracePath ≠ []) (refused : host.traces settings.tracePath = none) :
      RunFails (text "cannot open trace output: " ++ settings.tracePath)

def RunSettings.steps (settings : RunSettings) : Nat := settings.maximumSteps.toNat

def Machine.records (loaded : Machine) (n : Nat) : List StepRecord :=
  Cpu.runs.records n loaded.cpu

structure Follows (settings : RunSettings) (boot : Hart) (loaded : Machine) (n : Nat)
    (out : Text) : Prop where
  events : (loaded.records n).map StepRecord.event =
    Execution.System.upTo settings.config.halts (Hart.system.records n boot)
  out : out = (Hart.system.state (loaded.records n).length boot).memory.console 0x10000000#64

structure Creates (settings : RunSettings) (device : TraceDevice) : Prop where
  traced : settings.tracePath ≠ []
  created : host.traces settings.tracePath = some device

inductive RunBreaks (settings : RunSettings) (loaded : Machine) (device : TraceDevice) :
    Nat → Text → Prop
  | unwritten {k : Nat} (refuses : device.RefusesAt loaded.cpu settings.steps k) :
      RunBreaks settings loaded device (k + 1) (text "failed while writing execution trace")
  | unflushed (takes : device.TakesAll loaded.cpu settings.steps)
      (failed : device.flushes (writeTrace (loaded.records settings.steps)) = false) :
      RunBreaks settings loaded device settings.steps
        (text "failed while flushing execution trace")

structure Summarises (settings : RunSettings) (boot : Hart) (loaded : Machine) (status : Nat)
    (result : RunResult) : Prop where
  code : status = settings.config.status (Hart.system.records settings.steps boot)
  reason : result.reason = if status = 2 then .stepLimit else .halted
  attempted : result.attemptedSteps.toNat = (loaded.records settings.steps).length
  retired : result.retiredInstructions =
    (Hart.system.state (loaded.records settings.steps).length boot).csrs.retiredCount
  detail : status = 2 → result.detail = text "maximum step count reached"

def Recorded (settings : RunSettings) (loaded : Machine) : Prop :=
  settings.tracePath = [] ∨ ∃ device, Creates host settings device ∧
    device.TakesAll loaded.cpu settings.steps ∧
    device.flushes (writeTrace (loaded.records settings.steps)) = true

inductive RunEnds : Process × Host → Prop
  | failed {what : Text} (fails : RunFails sorting host path options what) :
      RunEnds (⟨1, [], text "error: " ++ what ++ [newline]⟩, host)
  | broken {settings : RunSettings} {bytes : List Byte} {image : ElfImage} {loaded : Machine}
      {device : TraceDevice} {n : Nat} {what out : Text}
      (starts : Starts sorting host path options settings bytes image loaded)
      (creates : Creates host settings device) (breaks : RunBreaks settings loaded device n what)
      (follows : Follows settings (Hart.boot Machine.standardBoard image bytes) loaded n out) :
      RunEnds (⟨1, out, text "error: " ++ what ++ [newline]⟩,
        host.write settings.tracePath (device.keeps (writeTrace (loaded.records n))))
  | ran {settings : RunSettings} {bytes : List Byte} {image : ElfImage} {loaded : Machine}
      {status : Nat} {out : Text}
      (starts : Starts sorting host path options settings bytes image loaded)
      (recorded : Recorded host settings loaded)
      (follows : Follows settings (Hart.boot Machine.standardBoard image bytes) loaded
        settings.steps out)
      (summarises : Summarises settings (Hart.boot Machine.standardBoard image bytes) loaded status
        (loaded.cpu.run settings.maximumSteps []).result) :
      RunEnds (⟨status, out,
          formatSummary image (loaded.cpu.run settings.maximumSteps []).result⟩,
        if settings.tracePath = [] then host
        else host.write settings.tracePath (writeTrace (loaded.records settings.steps)))

theorem main_run : main sorting host (text "run" :: path :: options) =
    report (runCommand sorting host (path :: options)) := by
  rw [main, dispatch, if_neg (by decide), if_neg (fun h => absurd h.1 (by decide)),
    if_neg (fun h => absurd h.1 (by decide)), if_neg (fun h => absurd h.1 (by decide)),
    if_pos rfl]

theorem reason_of_exitStatus (result : RunResult) :
    result.reason = if exitStatus result = 2 then .stepLimit else .halted := by
  rw [exitStatus]
  cases result.reason with
  | stepLimit => rfl
  | halted => split_ifs <;> first | rfl | contradiction

variable {settings : RunSettings} {machine loaded : Machine} {bytes : List Byte}
  {image : ElfImage} {boot : Hart}

structure Booted (settings : RunSettings) (boot : Hart) (loaded : Machine) : Prop where
  hart : loaded.cpu.hart = boot
  running : loaded.cpu.halted = false
  untrapped : loaded.cpu.terminalTrap = none
  config : loaded.cpu.config = settings.config
  uart : loaded.uart.base = 0x10000000#64

namespace Booted
variable (h : Booted settings boot loaded)
include h

theorem represents (n : Nat) : (Cpu.runs.state n loaded.cpu).Represents
    (Hart.system.state (loaded.records n).length boot) := by
  rw [← h.hart]
  exact loaded.cpu.runs_represents n

theorem follows (n : Nat) :
    Follows settings boot loaded n (loaded.transmitted (Cpu.runs.state n loaded.cpu)) := by
  have hmemory := congrArg Hart.memory (h.represents n).state
  refine ⟨?_, ?_⟩
  · rw [← h.hart, ← h.config]
    exact Cpu.run_upTo h.running n
  · rw [Machine.transmitted, h.uart]
    exact congrArg (fun memory => memory.console 0x10000000#64) hmemory

theorem summarises : Summarises settings boot loaded
    (exitStatus (loaded.cpu.run settings.maximumSteps []).result)
    (loaded.cpu.run settings.maximumSteps []).result := by
  have hstatus := Cpu.status_run h.running h.untrapped settings.maximumSteps
  rw [h.hart, h.config] at hstatus
  have hreason := reason_of_exitStatus (loaded.cpu.run settings.maximumSteps []).result
  have hcsrs : (loaded.cpu.run settings.maximumSteps []).cpu.csrs =
      (Hart.system.state (loaded.records settings.steps).length boot).csrs := by
    rw [Cpu.run_cpu]
    exact congrArg Hart.csrs (h.represents settings.steps).state
  refine ⟨hstatus, hreason, loaded.cpu.run_attemptedSteps settings.maximumSteps [], ?_, ?_⟩
  · exact congrArg CsrFile.retiredCount hcsrs
  · intro hlimit
    rw [if_pos hlimit] at hreason
    rw [Cpu.run_result] at hreason ⊢
    dsimp only at hreason ⊢
    split_ifs at hreason ⊢
    rfl

end Booted

theorem booted_of_load (standard : machine.Standard settings.trapPolicy)
    (hload : machine.load sorting bytes = (loaded, .ok image)) :
    Booted settings (Hart.boot Machine.standardBoard image bytes) loaded := by
  have haccepted : (machine.load sorting bytes).2 = .ok image := by rw [hload]
  obtain ⟨hhart, hrunning⟩ := machine.load_hart haccepted
  have hboard := machine.load_sameBoard sorting bytes
  have hterminal : (machine.load sorting bytes).1.cpu.terminalTrap = none := by
    rw [Machine.load_of_ok (machine.loadElf_of_accepted sorting bytes haccepted)]
    rfl
  rw [standard.board] at hhart
  rw [hload] at hhart hrunning hterminal hboard
  exact ⟨hhart, hrunning, hterminal, hboard.config.trans standard.config,
    (congrArg MappedDevice.base hboard.uart).trans standard.uart⟩

theorem runTraced_ends {device : TraceDevice}
    (starts : Starts sorting host path options settings bytes image loaded)
    (booted : Booted settings (Hart.boot Machine.standardBoard image bytes) loaded)
    (creates : Creates host settings device) :
    RunEnds sorting host path options
      (report (runTraced host settings image loaded ⟨settings.tracePath, device⟩)) := by
  generalize hfile : (⟨settings.tracePath, device⟩ : TraceFile) = file
  have houtput : file.output = device := by rw [← hfile]
  rcases loaded.cpu.runTraced_cases file.appendFailure settings.maximumSteps with
    ⟨hnever, hrun⟩ | ⟨k, what, hthrows, hrun⟩
  · have htakes := houtput ▸ TraceFile.takesAll_of_neverThrows hnever
    have htrace : (loaded.cpu.run settings.maximumSteps []).trace = loaded.records settings.steps :=
      loaded.cpu.run_trace settings.maximumSteps []
    have hcpu := loaded.cpu.run_cpu settings.maximumSteps []
    have hfollows := booted.follows settings.steps
    cases hflush : device.flushes (writeTrace (loaded.records settings.steps)) with
    | true =>
      have hnone : file.flushFailure (loaded.records settings.steps) = none :=
        if_pos (houtput ▸ hflush)
      have hran := RunEnds.ran starts (.inr ⟨device, creates, htakes, hflush⟩) hfollows
        booted.summarises
      rw [if_neg creates.traced] at hran
      simp only [runTraced, hrun, htrace, hnone, hcpu]
      subst hfile
      exact hran
    | false =>
      have hsome : file.flushFailure (loaded.records settings.steps) =
          some (text "failed while flushing execution trace") :=
        if_neg (houtput ▸ Bool.eq_false_iff.mp hflush)
      simp only [runTraced, hrun, htrace, hsome, hcpu]
      subst hfile
      exact .broken starts creates (.unflushed htakes hflush) hfollows
  · obtain ⟨hrefuses, rfl⟩ := TraceFile.refusesAt_of_throwsAt hthrows
    simp only [runTraced, hrun]
    subst hfile
    exact .broken starts creates (.unwritten hrefuses) (booted.follows (k + 1))

theorem runLoaded_ends (starts : Starts sorting host path options settings bytes image loaded)
    (booted : Booted settings (Hart.boot Machine.standardBoard image bytes) loaded) :
    RunEnds sorting host path options (report (runLoaded host settings image loaded)) := by
  unfold runLoaded
  split_ifs with htraced
  · have hcpu := loaded.cpu.run_cpu settings.maximumSteps []
    have hran := RunEnds.ran starts (.inl htraced) (booted.follows settings.steps) booted.summarises
    rw [if_pos htraced] at hran
    simp only [runUntraced, hcpu]
    exact hran
  · cases hdevice : host.traces settings.tracePath with
    | none =>
      simp only [TraceFile.make, hdevice]
      exact .failed (.untraced starts htraced hdevice)
    | some device =>
      simp only [TraceFile.make, hdevice]
      exact runTraced_ends sorting host path options starts booted ⟨htraced, hdevice⟩

theorem runGuest_rejected {error : ElfError} (read : readFile host path = .ok bytes)
    (h : (machine.load sorting bytes).2 = .error error) :
    runGuest sorting host settings path machine = (.error ⟨error.what, []⟩, host) := by
  generalize hload : machine.load sorting bytes = loaded at h
  obtain ⟨loaded, result⟩ := loaded
  obtain rfl : result = .error error := h
  simp only [runGuest, read, hload]

theorem runGuest_ends (read : readFile host path = .ok bytes)
    (invokes : Invokes host path options settings bytes)
    (hmake : Machine.make { cpu := settings.config } = .ok machine)
    (standard : machine.Standard settings.trapPolicy) :
    RunEnds sorting host path options
      (report (runGuest sorting host settings path machine)) := by
  cases hparsed : parse sorting bytes with
  | error error =>
    rw [runGuest_rejected sorting host path read (machine.load_of_parse_error hparsed)]
    exact .failed (.rejected invokes hparsed)
  | ok image =>
    rcases Machine.placed_or_first Machine.standardBoard image.segments with
      hplaced | ⟨segment, hfirst⟩
    · have haccepted := machine.load_of_placed hparsed (standard.board ▸ hplaced)
      generalize hload : machine.load sorting bytes = result at haccepted
      obtain ⟨loaded, accepted⟩ := result
      obtain rfl : accepted = .ok image := haccepted
      simp only [runGuest, read, hload]
      exact runLoaded_ends sorting host path options
        ⟨invokes, hparsed, hplaced, machine, hmake, hload⟩
        (booted_of_load sorting standard hload)
    · rw [runGuest_rejected sorting host path read
        (machine.load_of_unplaced hparsed (standard.board ▸ hfirst))]
      exact .failed (.unplaced invokes hparsed hfirst)

theorem run_command_ends :
    RunEnds sorting host path options
      (main sorting host (text "run" :: path :: options)) := by
  rw [main_run]
  cases hoptions : parseRunOptions {} options with
  | error what =>
    simp only [runCommand, hoptions]
    exact .failed (.misused hoptions)
  | ok settings =>
    obtain ⟨machine, hmake, standard⟩ := Machine.make_standard settings.trapPolicy
    simp only [runCommand, hoptions, hmake]
    rcases readFile_cases host path with ⟨input, bytes, hread, hreads⟩ | ⟨what, hread, hfails⟩
    · exact runGuest_ends sorting host path options hread ⟨hoptions, input, hreads⟩ hmake standard
    · simp only [runGuest, hread]
      exact .failed (.unreadable hoptions hfails)

end Session

end Northstar64
