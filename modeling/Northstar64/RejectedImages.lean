import Northstar64.Machine

namespace Northstar64
open Results

namespace Device

def cleared : Device → Device
  | .sparseRam ram => .sparseRam ram.clear
  | .uart16550 uart => .uart16550 uart.clearTransmitted

theorem cleared_mapped (device : Device) : device.cleared.mapped = device.mapped := by
  cases device <;> rfl

theorem cleared_eq_of_shape {first second : Device} (h : first.shape = second.shape) :
    first.cleared = second.cleared := by
  have hmapped : first.mapped = second.mapped := congrArg Prod.fst h
  have haccepts : first.acceptsImage = second.acceptsImage := congrArg Prod.snd h
  cases first with
  | sparseRam ram =>
    cases second with
    | sparseRam ram' =>
      have hram : ram.toMappedDevice = ram'.toMappedDevice := hmapped
      simp only [cleared, SparseRam.clear, hram]
    | uart16550 uart => cases haccepts
  | uart16550 uart =>
    cases second with
    | sparseRam ram => cases haccepts
    | uart16550 uart' =>
      have huart : uart.toMappedDevice = uart'.toMappedDevice := hmapped
      simp only [cleared, Uart16550.clearTransmitted, huart]

end Device

namespace Machine

theorem shape_cases (machine : Machine) {device : Device}
    (h : device ∈ machine.cpu.bus.devices) :
    device.shape = (machine.ram, true) ∨ device.shape = (machine.uart, false) := by
  have hmem : device.shape ∈ machine.cpu.bus.layout := List.mem_map_of_mem h
  simpa using machine.layout.mem_iff.mp hmem

theorem clearedBus_devices (machine : Machine) :
    machine.clearedBus.devices = machine.cpu.bus.devices.map Device.cleared := by
  refine List.map_map.trans (List.map_congr_left fun device hmem => ?_)
  rcases machine.shape_cases hmem with hram | huart
  · cases device with
    | sparseRam ram =>
      have hmapped : ram.toMappedDevice = machine.ram := congrArg Prod.fst hram
      simp only [Function.comp_apply, if_pos hmapped, Device.cleared]
    | uart16550 uart => cases congrArg Prod.snd hram
  · cases device with
    | sparseRam ram => cases congrArg Prod.snd huart
    | uart16550 uart =>
      have hmapped : uart.toMappedDevice = machine.uart := congrArg Prod.fst huart
      simp only [Function.comp_apply, if_pos hmapped, Device.cleared]

theorem clearedBus_find (machine : Machine) (p : Address) :
    machine.clearedBus.find p 1 = (machine.cpu.bus.find p 1).map Device.cleared := by
  rw [Bus.find, clearedBus_devices, List.find?_map]
  simp only [Function.comp_def, Device.contains, Device.cleared_mapped]
  rfl

theorem clearedBus_ramByte (machine : Machine) (p : Address) :
    machine.clearedBus.ramByte p = (machine.cpu.bus.ramByte p).map (fun _ => 0#8) := by
  rw [Bus.ramByte, Bus.ramByte, clearedBus_find]
  cases machine.cpu.bus.find p 1 with
  | none => rfl
  | some device => cases device <;> rfl

theorem clearedBus_uartLog (machine : Machine) (p : Address) :
    machine.clearedBus.uartLog p = (machine.cpu.bus.uartLog p).map (fun _ => []) := by
  rw [Bus.uartLog, Bus.uartLog, clearedBus_find]
  cases machine.cpu.bus.find p 1 with
  | none => rfl
  | some device =>
    cases device with
    | sparseRam ram => rfl
    | uart16550 uart =>
      simp only [Option.map_some, Device.cleared, Uart16550.clearTransmitted]
      split_ifs <;> rfl

structure Blank (machine : Machine) : Prop where
  ram : ∀ p byte, machine.cpu.bus.ramByte p = some byte → byte = 0#8
  uart : ∀ p log, machine.cpu.bus.uartLog p = some log → log = []

structure Intact (before after : Machine) : Prop where
  ram : ∀ p, after.cpu.bus.ramByte p = before.cpu.bus.ramByte p
  uart : ∀ p, after.cpu.bus.uartLog p = before.cpu.bus.uartLog p
  cpu : after.cpu = { before.cpu with bus := after.cpu.bus }

variable (sorting : SegmentSort)

theorem load_rejected (machine : Machine) (bytes : List Byte) {error : ElfError}
    (h : (machine.load sorting bytes).2 = .error error) :
    (machine.load sorting bytes).1.cpu = { machine.cpu with bus := machine.clearedBus } := by
  rcases loadElf_cases sorting bytes machine.clearedBus with ⟨error', herror⟩ | ⟨image, hparse, hvalid⟩
  · rw [load_of_error (congrArg Prod.snd herror)]
    exact congrArg (fun loaded => { machine.cpu with bus := loaded.1 }) herror
  · rw [load_of_ok (loadElf_accepted hparse hvalid).1] at h
    cases h

theorem load_rejected_intact_iff (machine : Machine) (bytes : List Byte) {error : ElfError}
    (h : (machine.load sorting bytes).2 = .error error) :
    Intact machine (machine.load sorting bytes).1 ↔ machine.Blank := by
  have hcpu := machine.load_rejected sorting bytes h
  constructor
  · intro hintact
    refine ⟨fun p byte hbyte => ?_, fun p log hlog => ?_⟩
    · have hram := hintact.ram p
      rw [hcpu, clearedBus_ramByte, hbyte] at hram
      exact (Option.some.inj hram).symm
    · have huart := hintact.uart p
      rw [hcpu, clearedBus_uartLog, hlog] at huart
      exact (Option.some.inj huart).symm
  · intro hblank
    refine ⟨fun p => ?_, fun p => ?_, by rw [hcpu]⟩
    · rw [hcpu, clearedBus_ramByte]
      cases hbyte : machine.cpu.bus.ramByte p with
      | none => rfl
      | some byte => rw [hblank.ram p byte hbyte, Option.map_some]
    · rw [hcpu, clearedBus_uartLog]
      cases hlog : machine.cpu.bus.uartLog p with
      | none => rfl
      | some log => rw [hblank.uart p log hlog, Option.map_some]

def RejectionsKeepState (machine : Machine) (history : List Request) : Prop :=
  ∀ earlier bytes later error, history = earlier ++ .load bytes :: later →
    ((machine.after sorting earlier).load sorting bytes).2 = .error error →
    Intact (machine.after sorting earlier) ((machine.after sorting earlier).load sorting bytes).1

def RejectionsMeetBlank (machine : Machine) (history : List Request) : Prop :=
  ∀ earlier bytes later error, history = earlier ++ .load bytes :: later →
    ((machine.after sorting earlier).load sorting bytes).2 = .error error →
    (machine.after sorting earlier).Blank

theorem rejected_loads_keep_state_iff (machine : Machine) (history : List Request) :
    RejectionsKeepState sorting machine history ↔ RejectionsMeetBlank sorting machine history := by
  constructor
  · intro hkeep earlier bytes later error hhistory herror
    exact (load_rejected_intact_iff sorting _ bytes herror).mp
      (hkeep earlier bytes later error hhistory herror)
  · intro hblank earlier bytes later error hhistory herror
    exact (load_rejected_intact_iff sorting _ bytes herror).mpr
      (hblank earlier bytes later error hhistory herror)

theorem rejected_load_erases_memory :
    ∃ machine, make {} = .ok machine ∧
      ¬ RejectionsKeepState .insertion machine [.load (minimalElf 0x80000000#64), .load []] := by
  have hmake : (make {}).toOption.any (fun machine =>
      let loaded := machine.after .insertion [.load (minimalElf 0x80000000#64)]
      let rejected := loaded.load .insertion []
      loaded.cpu.bus.ramByte 0x80000000#64 = some 0x13#8 &&
        rejected.1.cpu.bus.ramByte 0x80000000#64 = some 0#8 && !rejected.2.isOk) = true := by
    decide +kernel
  obtain ⟨machine, hmachine, hcheck⟩ := exists_of_any hmake
  refine ⟨machine, hmachine, fun hkeep => ?_⟩
  simp only [Bool.and_eq_true, decide_eq_true_eq, Bool.not_eq_true'] at hcheck
  obtain ⟨⟨hloaded, hrejected⟩, herror⟩ := hcheck
  obtain ⟨error, herror⟩ := exists_error herror
  have hram := (hkeep [.load (minimalElf 0x80000000#64)] [] [] error rfl herror).ram 0x80000000#64
  exact absurd (hrejected.symm.trans (hram.trans hloaded)) (by decide)

end Machine

end Northstar64
