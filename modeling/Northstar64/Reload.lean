import Northstar64.RejectedImages

namespace Northstar64
open Results

theorem Cpu.run_config (cpu : Cpu) (maximumSteps : BitVec 64) (trace : List StepRecord) :
    (cpu.run maximumSteps trace).cpu.config = cpu.config := by
  rw [run_cpu]
  exact runs.invariant (I := fun s => s.config = cpu.config)
    (fun s _ hs => s.step_recorded.config.trans hs) rfl maximumSteps.toNat

namespace Machine

structure SameBoard (first second : Machine) : Prop where
  layout : first.cpu.bus.layout = second.cpu.bus.layout
  config : first.cpu.config = second.cpu.config
  ram : first.ram = second.ram
  uart : first.uart = second.uart

variable (sorting : SegmentSort) {first second third : Machine}

namespace SameBoard

theorem trans (h : SameBoard first second) (h' : SameBoard second third) : SameBoard first third :=
  ⟨h.layout.trans h'.layout, h.config.trans h'.config, h.ram.trans h'.ram, h.uart.trans h'.uart⟩

theorem symm (h : SameBoard first second) : SameBoard second first :=
  ⟨h.layout.symm, h.config.symm, h.ram.symm, h.uart.symm⟩

theorem clearedBus (h : SameBoard first second) : first.clearedBus = second.clearedBus := by
  have hshapes : List.Forall₂ (fun a b => a.shape = b.shape) first.cpu.bus.devices
      second.cpu.bus.devices := by
    have hequal : List.Forall₂ Eq first.cpu.bus.layout second.cpu.bus.layout := by
      rw [h.layout]
      exact List.forall₂_refl _
    exact List.forall₂_map_right_iff.mp (List.forall₂_map_left_iff.mp hequal)
  apply Bus.ext
  rw [clearedBus_devices, clearedBus_devices, ← List.forall₂_eq_eq_eq, List.forall₂_map_left_iff,
    List.forall₂_map_right_iff]
  exact hshapes.imp fun _ _ => Device.cleared_eq_of_shape

end SameBoard

theorem load_sameBoard (machine : Machine) (bytes : List Byte) :
    SameBoard (machine.load sorting bytes).1 machine := by
  have hlayout := machine.loaded_layout sorting bytes
  cases h : (loadElf sorting bytes machine.clearedBus).2 with
  | error error =>
    rw [load_of_error h]
    exact ⟨hlayout, rfl, rfl, rfl⟩
  | ok image =>
    rw [load_of_ok h]
    exact ⟨hlayout, rfl, rfl, rfl⟩

theorem handle_sameBoard (machine : Machine) (request : Request) :
    SameBoard (machine.handle sorting request) machine := by
  cases request with
  | load bytes => exact machine.load_sameBoard sorting bytes
  | run maximumSteps =>
    exact ⟨machine.cpu.run_layout maximumSteps [], machine.cpu.run_config maximumSteps [], rfl, rfl⟩

theorem after_sameBoard (machine : Machine) (history : List Request) :
    SameBoard (machine.after sorting history) machine := by
  induction history generalizing machine with
  | nil => exact ⟨rfl, rfl, rfl, rfl⟩
  | cons request history ih =>
    exact (ih (machine.handle sorting request)).trans (machine.handle_sameBoard sorting request)

theorem loadElf_of_accepted (machine : Machine) (bytes : List Byte) {image : ElfImage}
    (h : (machine.load sorting bytes).2 = .ok image) :
    (loadElf sorting bytes machine.clearedBus).2 = .ok image := by
  cases hloaded : (loadElf sorting bytes machine.clearedBus).2 with
  | error error =>
    rw [load_of_error hloaded] at h
    cases h
  | ok image' =>
    rw [load_of_ok hloaded] at h
    cases h
    rfl

theorem load_congr (h : SameBoard first second) (bytes : List Byte) {image : ElfImage}
    (haccepted : (first.load sorting bytes).2 = .ok image) :
    second.load sorting bytes = first.load sorting bytes := by
  have hloaded := first.loadElf_of_accepted sorting bytes haccepted
  rw [load_of_ok hloaded]
  have hbus := h.clearedBus
  rw [hbus] at hloaded
  rw [load_of_ok hloaded]
  simp only [setCpu, hbus, h.config, h.ram, h.uart]

theorem reload_erases_history (machine : Machine) (first second : List Request)
    (bytes : List Byte) (image : ElfImage)
    (haccepted : ((machine.after sorting first).load sorting bytes).2 = .ok image)
    (maximumSteps : BitVec 64) (trace : List StepRecord) :
    ((machine.after sorting second).load sorting bytes).2 = .ok image ∧
      ((machine.after sorting second).load sorting bytes).1.run maximumSteps trace =
        ((machine.after sorting first).load sorting bytes).1.run maximumSteps trace := by
  have hboard := (machine.after_sameBoard sorting first).trans
    (machine.after_sameBoard sorting second).symm
  rw [load_congr sorting hboard bytes haccepted]
  exact ⟨haccepted, rfl⟩

theorem reload_erases_history_minimal :
    ∃ machine image, make {} = .ok machine ∧
      let used := machine.after .insertion [.load (minimalElf 0x80000000#64), .run 3#64]
      used.cpu.halted = true ∧ used.cpu.csrs.minstret = 1#64 ∧
      (used.load .insertion (minimalElf 0x80000000#64)).2 = .ok image ∧
      (used.load .insertion (minimalElf 0x80000000#64)).1.run 9#64 [] =
        (machine.load .insertion (minimalElf 0x80000000#64)).1.run 9#64 [] := by
  have hmake : (make {}).toOption.any (fun machine =>
      let used := machine.after .insertion [.load (minimalElf 0x80000000#64), .run 3#64]
      used.cpu.halted && (used.cpu.csrs.minstret = 1#64 &&
        (machine.load .insertion (minimalElf 0x80000000#64)).2.isOk)) = true := by decide +kernel
  obtain ⟨machine, hmachine, hcheck⟩ := exists_of_any hmake
  simp only [Bool.and_eq_true, decide_eq_true_eq] at hcheck
  obtain ⟨hhalted, hretired, hok⟩ := hcheck
  obtain ⟨image, haccepted⟩ := exists_ok hok
  have hreload := reload_erases_history .insertion machine []
    [.load (minimalElf 0x80000000#64), .run 3#64] (minimalElf 0x80000000#64) image haccepted 9#64 []
  exact ⟨machine, image, hmachine, hhalted, hretired, hreload⟩

end Machine

end Northstar64
