import Northstar64.ImageLoad
import Northstar64.Replay

namespace Northstar64

namespace Bus

def clearRam (bus : Bus) (ram : MappedDevice) : Bus :=
  bus.modify (fun
    | .sparseRam device =>
      .sparseRam (if device.toMappedDevice = ram then device.clear else device)
    | device => device) (by
      intro device
      cases device with
      | sparseRam device =>
        simp only [Device.mapped]
        split_ifs <;> rfl
      | uart16550 device => rfl)

def clearTransmitted (bus : Bus) (uart : MappedDevice) : Bus :=
  bus.modify (fun
    | .uart16550 device =>
      .uart16550 (if device.toMappedDevice = uart then device.clearTransmitted else device)
    | device => device) (by
      intro device
      cases device with
      | sparseRam device => rfl
      | uart16550 device =>
        simp only [Device.mapped]
        split_ifs <;> rfl)

theorem modify_layout (bus : Bus) (f : Device → Device)
    (hf : ∀ device, (f device).mapped = device.mapped)
    (hshape : ∀ device, (f device).shape = device.shape) :
    (bus.modify f hf).layout = bus.layout := by
  rw [layout, modify, List.map_map]
  exact List.map_congr_left (fun device _ => hshape device)

theorem clearRam_layout (bus : Bus) (ram : MappedDevice) :
    (bus.clearRam ram).layout = bus.layout := by
  refine bus.modify_layout _ _ (fun device => ?_)
  cases device with
  | sparseRam device =>
    simp only [Device.shape, Device.mapped, Device.acceptsImage]
    split_ifs <;> rfl
  | uart16550 device => rfl

theorem clearTransmitted_layout (bus : Bus) (uart : MappedDevice) :
    (bus.clearTransmitted uart).layout = bus.layout := by
  refine bus.modify_layout _ _ (fun device => ?_)
  cases device with
  | sparseRam device => rfl
  | uart16550 device =>
    simp only [Device.shape, Device.mapped, Device.acceptsImage]
    split_ifs <;> rfl

theorem addDevice_layout {bus added : Bus} {device : Device}
    (h : bus.addDevice device = .ok added) : added.layout.Perm (bus.layout ++ [device.shape]) := by
  unfold addDevice at h
  split at h
  · cases h
  · cases h
    have hperm := List.perm_insertionSort (fun left right => left.base ≤ right.base)
      (bus.devices ++ [device])
    simpa [layout] using hperm.map Device.shape

end Bus

theorem loadElf_layout (sorting : SegmentSort) (bytes : List Byte) (bus : Bus) :
    (loadElf sorting bytes bus).1.layout = bus.layout := by
  rcases loadElf_cases sorting bytes bus with ⟨error, herror⟩ | ⟨image, hparse, hvalid⟩
  · rw [herror]
  · exact (loadElf_accepted hparse hvalid).2.layout

theorem Cpu.run_layout (cpu : Cpu) (maximumSteps : BitVec 64) (trace : List StepRecord) :
    (cpu.run maximumSteps trace).cpu.bus.layout = cpu.bus.layout := by
  rw [run_cpu]
  exact runs.invariant (I := fun s => s.bus.layout = cpu.bus.layout)
    (fun s _ hs => s.step_recorded.layout.trans hs) rfl maximumSteps.toNat

structure MachineConfig where
  ramBase : Address := 0x80000000#64
  ramSize : BitVec 64 := 0x8000000#64
  uartBase : Address := 0x10000000#64
  cpu : CpuConfig := ⟨.halt, true, true⟩

-- The bus lives in `cpu`; `ram` and `uart` are the device pointers, told apart by their range.
structure Machine where
  cpu : Cpu
  ram : MappedDevice
  uart : MappedDevice
  layout : cpu.bus.layout.Perm [(ram, true), (uart, false)]

namespace Machine

theorem perm_of_added {first second : Bus} {ram : SparseRam} {uart : Uart16550}
    (hram : Bus.empty.addDevice (.sparseRam ram) = .ok first)
    (huart : first.addDevice (.uart16550 uart) = .ok second) :
    second.layout.Perm [(ram.toMappedDevice, true), (uart.toMappedDevice, false)] :=
  (Bus.addDevice_layout huart).trans ((Bus.addDevice_layout hram).append_right _)

def make (config : MachineConfig) : Except Text Machine :=
  match SparseRam.make config.ramBase config.ramSize (text "ram") with
  | .error what => .error what
  | .ok ram =>
    match hram : Bus.empty.addDevice (.sparseRam ram) with
    | .error what => .error what
    | .ok first =>
      match Uart16550.make config.uartBase with
      | .error what => .error what
      | .ok uart =>
        match huart : first.addDevice (.uart16550 uart) with
        | .error what => .error what
        | .ok second => .ok {
            cpu := Cpu.reset second config.cpu 0#64
            ram := ram.toMappedDevice
            uart := uart.toMappedDevice
            layout := perm_of_added hram huart }

def setCpu (machine : Machine) (cpu : Cpu) (h : cpu.bus.layout = machine.cpu.bus.layout) :
    Machine where
  cpu := cpu
  ram := machine.ram
  uart := machine.uart
  layout := h ▸ machine.layout

def clearedBus (machine : Machine) : Bus :=
  (machine.cpu.bus.clearRam machine.ram).clearTransmitted machine.uart

theorem clearedBus_layout (machine : Machine) :
    machine.clearedBus.layout = machine.cpu.bus.layout :=
  (Bus.clearTransmitted_layout _ _).trans (Bus.clearRam_layout _ _)

theorem loaded_layout (sorting : SegmentSort) (machine : Machine) (bytes : List Byte) :
    (loadElf sorting bytes machine.clearedBus).1.layout = machine.cpu.bus.layout :=
  (loadElf_layout sorting bytes machine.clearedBus).trans machine.clearedBus_layout

def load (sorting : SegmentSort) (machine : Machine) (bytes : List Byte) :
    Machine × Except ElfError ElfImage :=
  let loaded := loadElf sorting bytes machine.clearedBus
  have hlayout := machine.loaded_layout sorting bytes
  match loaded.2 with
  | .error error => (machine.setCpu { machine.cpu with bus := loaded.1 } hlayout, .error error)
  | .ok image =>
    (machine.setCpu (Cpu.reset loaded.1 machine.cpu.config image.entry) hlayout, .ok image)

theorem load_of_error {sorting : SegmentSort} {machine : Machine} {bytes : List Byte}
    {error : ElfError} (h : (loadElf sorting bytes machine.clearedBus).2 = .error error) :
    machine.load sorting bytes =
      (machine.setCpu { machine.cpu with bus := (loadElf sorting bytes machine.clearedBus).1 }
        (machine.loaded_layout sorting bytes), .error error) := by
  simp only [load, h]

theorem load_of_ok {sorting : SegmentSort} {machine : Machine} {bytes : List Byte}
    {image : ElfImage} (h : (loadElf sorting bytes machine.clearedBus).2 = .ok image) :
    machine.load sorting bytes =
      (machine.setCpu (Cpu.reset (loadElf sorting bytes machine.clearedBus).1 machine.cpu.config
        image.entry) (machine.loaded_layout sorting bytes), .ok image) := by
  simp only [load, h]

structure MachineRun where
  machine : Machine
  trace : List StepRecord
  result : RunResult

def run (machine : Machine) (maximumSteps : BitVec 64) (trace : List StepRecord) : MachineRun :=
  let outcome := machine.cpu.run maximumSteps trace
  ⟨machine.setCpu outcome.cpu (machine.cpu.run_layout maximumSteps trace), outcome.trace,
    outcome.result⟩

inductive Request where
  | load (bytes : List Byte)
  | run (maximumSteps : BitVec 64)

def handle (sorting : SegmentSort) (machine : Machine) : Request → Machine
  | .load bytes => (machine.load sorting bytes).1
  | .run maximumSteps => (machine.run maximumSteps []).machine

def after (sorting : SegmentSort) (machine : Machine) (history : List Request) : Machine :=
  history.foldl (handle sorting) machine

end Machine

end Northstar64
