import Northstar64.HartHalting
import Northstar64.Reload

namespace Northstar64
open Results

instance (segment : ElfSegment) (p : Address) : Decidable (segment.Covers p) :=
  inferInstanceAs (Decidable (_ < _))

def ElfSegment.place (segment : ElfSegment) (bytes : List Byte) (p : Address) (byte : Byte) : Byte :=
  if segment.Covers p then segment.contents bytes (p - segment.loadAddress).toNat else byte

def ElfImage.place (image : ElfImage) (bytes : List Byte) (p : Address) : Byte :=
  image.segments.foldl (fun byte segment => segment.place bytes p byte) 0#8

def Hart.boot (regions : List Region) (image : ElfImage) (bytes : List Byte) : Hart where
  registers := fun _ => 0#64
  pc := image.entry
  privilege := .machine
  csrs := .reset
  memory := ⟨regions, image.place bytes, fun _ => []⟩

section Loading
variable {bytes : List Byte} {bus : Bus}

theorem loadSegment_ramByte {segment : ElfSegment} (hfile : InFile bytes segment)
    (hram : bus.InRam segment.loadAddress segment.memorySize.toNat) (p : Address) :
    ((loadSegment bytes segment bus).1.ramByte p).getD 0#8 =
      segment.place bytes p ((bus.ramByte p).getD 0#8) := by
  have hfilled := (loadSegment_filled hfile hram).2
  rw [ElfSegment.place]
  split_ifs with hcovers
  · rw [hfilled.ram_inside hcovers, Option.getD_some]
  · rw [hfilled.ram_outside hcovers]

theorem loadSegments_ramByte {segments : List ElfSegment}
    (hfile : ∀ segment ∈ segments, InFile bytes segment)
    (hram : ∀ segment ∈ segments, bus.InRam segment.loadAddress segment.memorySize.toNat)
    (p : Address) :
    ((loadSegments bytes segments bus).1.ramByte p).getD 0#8 =
      segments.foldl (fun byte segment => segment.place bytes p byte)
        ((bus.ramByte p).getD 0#8) := by
  induction segments generalizing bus with
  | nil => rfl
  | cons segment rest ih =>
    have hfile' := hfile segment (List.mem_cons_self ..)
    have hram' := hram segment (List.mem_cons_self ..)
    obtain ⟨hnone, hfilled⟩ := loadSegment_filled hfile' hram'
    have hsegment := loadSegment_ramByte hfile' hram' p
    rw [loadSegments, List.foldl_cons, ← hsegment]
    generalize loadSegment bytes segment bus = loaded at hnone hfilled ⊢
    obtain ⟨bus', error⟩ := loaded
    obtain rfl : error = none := hnone
    exact ih (fun other hmem => hfile other (List.mem_cons_of_mem _ hmem))
      (fun other hmem => (hram other (List.mem_cons_of_mem _ hmem)).congr hfilled.layout.symm)

variable {sorting : SegmentSort} {image : ElfImage}

theorem loadElf_bus (hparse : parse sorting bytes = .ok image)
    (hvalid : ∀ segment ∈ image.segments,
      bus.imageRangeIsValid segment.loadAddress segment.memorySize = true) :
    (loadElf sorting bytes bus).1 = (loadSegments bytes image.segments bus).1 := by
  have hfind : image.segments.find? (fun segment =>
      !bus.imageRangeIsValid segment.loadAddress segment.memorySize) = none := by
    rw [List.find?_eq_none]
    intro segment hmem
    simp [hvalid segment hmem]
  simp only [loadElf, hparse, hfind]
  generalize loadSegments bytes image.segments bus = loaded
  obtain ⟨bus', _ | error⟩ := loaded <;> rfl

theorem loadElf_view (haccepted : (loadElf sorting bytes bus).2 = .ok image) (p : Address) :
    ((loadElf sorting bytes bus).1.ramByte p).getD 0#8 =
        image.segments.foldl (fun byte segment => segment.place bytes p byte)
          ((bus.ramByte p).getD 0#8) ∧
      (loadElf sorting bytes bus).1.uartLog p = bus.uartLog p := by
  rcases loadElf_cases sorting bytes bus with ⟨error, herror⟩ | ⟨image', hparse, hvalid⟩
  · rw [herror] at haccepted
    cases haccepted
  · obtain ⟨hok, hloaded⟩ := loadElf_accepted hparse hvalid
    obtain rfl := Except.ok.inj (haccepted.symm.trans hok)
    refine ⟨?_, hloaded.uart p⟩
    rw [loadElf_bus hparse hvalid]
    exact loadSegments_ramByte (parse_inFile hparse)
      (fun segment hmem => Bus.inRam_of_imageRangeIsValid (hvalid segment hmem)) p

end Loading

namespace Machine
variable {sorting : SegmentSort} {bytes : List Byte} {image : ElfImage}

def board (machine : Machine) : List Region := machine.cpu.bus.devices.map Device.region

theorem loaded_flat (machine : Machine)
    (haccepted : (loadElf sorting bytes machine.clearedBus).2 = .ok image) :
    (loadElf sorting bytes machine.clearedBus).1.flat =
      ⟨machine.board, image.place bytes, fun _ => []⟩ := by
  have hregions := Bus.flat_regions_of_layout (machine.loaded_layout sorting bytes)
  refine FlatMemory.ext hregions (funext fun p => ?_) (funext fun p => ?_)
  · obtain ⟨hram, -⟩ := loadElf_view haccepted p
    have hcleared : (machine.clearedBus.ramByte p).getD 0#8 = 0#8 := by
      rw [clearedBus_ramByte]
      cases machine.cpu.bus.ramByte p <;> rfl
    rw [hcleared] at hram
    exact hram
  · obtain ⟨-, huart⟩ := loadElf_view haccepted p
    have hcleared : (machine.clearedBus.uartLog p).getD [] = [] := by
      rw [clearedBus_uartLog]
      cases machine.cpu.bus.uartLog p <;> rfl
    exact (congrArg (·.getD []) huart).trans hcleared

theorem load_hart (machine : Machine) (haccepted : (machine.load sorting bytes).2 = .ok image) :
    (machine.load sorting bytes).1.cpu.hart = Hart.boot machine.board image bytes ∧
      (machine.load sorting bytes).1.cpu.halted = false := by
  have hloaded := machine.loadElf_of_accepted sorting bytes haccepted
  rw [load_of_ok hloaded]
  exact ⟨Hart.ext rfl rfl rfl rfl (machine.loaded_flat hloaded), rfl⟩

theorem after_board (machine : Machine) (history : List Request) :
    (machine.after sorting history).board = machine.board :=
  Bus.flat_regions_of_layout (machine.after_sameBoard sorting history).layout

theorem run_hart (machine : Machine) (running : machine.cpu.halted = false)
    (maximumSteps : BitVec 64) :
    let outcome := machine.run maximumSteps []
    outcome.trace.map StepRecord.event = Execution.System.upTo machine.cpu.config.halts
        (Hart.system.records maximumSteps.toNat machine.cpu.hart) ∧
      outcome.machine.cpu.Represents
        (Hart.system.state outcome.trace.length machine.cpu.hart) := by
  intro outcome
  have htrace : outcome.trace = Cpu.runs.records maximumSteps.toNat machine.cpu :=
    Cpu.run_trace machine.cpu maximumSteps []
  have hcpu : outcome.machine.cpu = Cpu.runs.state maximumSteps.toNat machine.cpu :=
    Cpu.run_cpu machine.cpu maximumSteps []
  rw [htrace, hcpu]
  exact ⟨Cpu.run_upTo running maximumSteps.toNat, machine.cpu.runs_represents maximumSteps.toNat⟩

theorem run_refines_boot (machine : Machine) (history : List Request)
    (haccepted : ((machine.after sorting history).load sorting bytes).2 = .ok image)
    (maximumSteps : BitVec 64) :
    let outcome := ((machine.after sorting history).load sorting bytes).1.run maximumSteps []
    let boot := Hart.boot machine.board image bytes
    outcome.trace.map StepRecord.event = Execution.System.upTo machine.cpu.config.halts
        (Hart.system.records maximumSteps.toNat boot) ∧
      outcome.machine.cpu.Represents (Hart.system.state outcome.trace.length boot) := by
  have hboard := machine.after_sameBoard sorting history
  obtain ⟨hhart, hrunning⟩ := (machine.after sorting history).load_hart haccepted
  have hconfig := (((machine.after sorting history).load_sameBoard sorting bytes).trans hboard).config
  rw [machine.after_board history] at hhart
  obtain ⟨hevents, hstate⟩ := run_hart _ hrunning maximumSteps
  rw [hhart, hconfig] at hevents
  rw [hhart] at hstate
  exact ⟨hevents, hstate⟩

def minimalImage : ElfImage :=
  ⟨0x80000000#64, [⟨0x80000000#64, 0x80000000#64, 0x78#64, 4#64, 16#64, 5#32, by decide, rfl,
    .inr (by decide)⟩]⟩

theorem run_refines_boot_minimal :
    ∃ machine, make {} = .ok machine ∧
      let used := machine.after .insertion [.load (minimalElf 0x80000000#64), .run 3#64]
      used.cpu.halted = true ∧
      (used.load .insertion (minimalElf 0x80000000#64)).2 = .ok minimalImage ∧
      ((used.load .insertion (minimalElf 0x80000000#64)).1.run 5#64 []).trace.map StepRecord.event =
        Execution.System.upTo machine.cpu.config.halts (Hart.system.records 5
          (Hart.boot machine.board minimalImage (minimalElf 0x80000000#64))) := by
  have hmake : (make {}).toOption.any (fun machine =>
      let used := machine.after .insertion [.load (minimalElf 0x80000000#64), .run 3#64]
      used.cpu.halted &&
        decide ((used.load .insertion (minimalElf 0x80000000#64)).2 = .ok minimalImage)) =
          true := by decide +kernel
  obtain ⟨machine, hmachine, hcheck⟩ := exists_of_any hmake
  obtain ⟨hhalted, haccepted⟩ := (Bool.and_eq_true _ _).mp hcheck
  have haccepted := of_decide_eq_true haccepted
  exact ⟨machine, hmachine, hhalted, haccepted, (run_refines_boot machine _ haccepted 5#64).1⟩

end Machine

end Northstar64
