import CyclePerfectGameboy.Memory.Ram
import CyclePerfectGameboy.Memory.MemoryMap
import CyclePerfectGameboy.Cartridge.Rom
import CyclePerfectGameboy.Cpu.Cpu
import CyclePerfectGameboy.System.InterruptController
import CyclePerfectGameboy.System.Timer

/-!
# The whole machine

The components share one memory map by reference; here the map is a field of
the machine and every component call takes it and returns it.  The logger is
left out.
-/

namespace CyclePerfectGameboy

def sbAddr : Address := 0xFF01
def scAddr : Address := 0xFF02

/-- The objects behind the shared pointers of the memory map: the cartridge
and one `std::make_shared` copy for each other region. -/
inductive SharedObject where
  | cartridge
  | vram
  | externalRam
  | wram
  | echoRam
  | oam
  | ioRegisters
  | hram
  deriving DecidableEq, Repr

namespace SharedObject

/-- The type of each object; the sizes are the template arguments. -/
def Contents : SharedObject → Type
  | .cartridge => ROM
  | .vram => RAM 0x8000
  | .externalRam => RAM 0x2000
  | .wram => RAM 0x2000
  | .echoRam => RAM 0x2000
  | .oam => RAM 0xA0
  | .ioRegisters => RAM 0x7F
  | .hram => RAM 0x80

instance : (object : SharedObject) → MemoryInterface object.Contents
  | .cartridge => inferInstanceAs (MemoryInterface ROM)
  | .vram => inferInstanceAs (MemoryInterface (RAM 0x8000))
  | .externalRam => inferInstanceAs (MemoryInterface (RAM 0x2000))
  | .wram => inferInstanceAs (MemoryInterface (RAM 0x2000))
  | .echoRam => inferInstanceAs (MemoryInterface (RAM 0x2000))
  | .oam => inferInstanceAs (MemoryInterface (RAM 0xA0))
  | .ioRegisters => inferInstanceAs (MemoryInterface (RAM 0x7F))
  | .hram => inferInstanceAs (MemoryInterface (RAM 0x80))

/-- The heap that the constructor allocates: the cartridge, and for every
other region a copy of a member or a fresh `RAM`. -/
def allocate (rom : ROM) (vram : RAM 0x8000) (wram : RAM 0x2000)
    (ioRegisters : RAM 0x7F) (hram : RAM 0x80) :
    (object : SharedObject) → object.Contents
  | .cartridge => rom
  | .vram => vram
  | .externalRam => ({} : RAM 0x2000)
  | .wram => wram
  | .echoRam => wram
  | .oam => ({} : RAM 0xA0)
  | .ioRegisters => ioRegisters
  | .hram => hram

end SharedObject

/-- The memory map of the machine. -/
abbrev GameBoyMap := MemoryMap SharedObject.Contents

/-- `system::GameBoy`. -/
structure GameBoy where
  memoryMap : GameBoyMap
  vram : RAM 0x8000 := {}
  wram : RAM 0x2000 := {}
  ioRegisters : RAM 0x7F := {}
  hram : RAM 0x80 := {}
  interruptController : InterruptController := {}
  timer : Timer := {}
  cpu : CPU := {}
  poweredOn : Bool := false
  serialBuffer : List Byte := []

namespace GameBoy

/-- `initialize_memory_map`, called once by each constructor; `0xFEA0` to
`0xFEFF` stays unmapped. -/
def initializeMemoryMap (rom : ROM) (vram : RAM 0x8000) (wram : RAM 0x2000)
    (ioRegisters : RAM 0x7F) (hram : RAM 0x80) : GameBoyMap :=
  let map : GameBoyMap :=
    { objects := SharedObject.allocate rom vram wram ioRegisters hram }
  let map := map.addRegion 0x0000 0x7FFF .cartridge
  let map := map.addRegion 0x8000 0x9FFF .vram
  let map := map.addRegion 0xA000 0xBFFF .externalRam
  let map := map.addRegion 0xC000 0xDFFF .wram
  let map := map.addRegion 0xE000 0xFDFF .echoRam
  let map := map.addRegion 0xFE00 0xFE9F .oam
  let map := map.addRegion 0xFF00 0xFF7F .ioRegisters
  map.addRegion 0xFF80 0xFFFF .hram

/-- The constructor that takes a ROM; the default constructor passes an empty
one. -/
def ofRom (rom : ROM) : GameBoy :=
  { memoryMap := initializeMemoryMap rom {} {} {} {} }

/-- `*cartridge_`. -/
def cartridge (gb : GameBoy) : ROM :=
  gb.memoryMap.objects .cartridge

def powerOn (gb : GameBoy) : GameBoy :=
  if gb.poweredOn then
    gb
  else
    let (controller, map) := gb.interruptController.initialized gb.memoryMap
    let (timer, map) := gb.timer.initialized map
    { gb with
      cpu := gb.cpu.initialized
      interruptController := controller
      timer := timer
      memoryMap := map
      poweredOn := true }

/-- `reset` assigns fresh objects to the members `vram_` to `hram_`, which
are not the copies that the memory map points to. -/
def reset (gb : GameBoy) : GameBoy :=
  let (controller, map) := gb.interruptController.initialized gb.memoryMap
  let (timer, map) := gb.timer.initialized map
  { gb with
    cpu := gb.cpu.initialized
    interruptController := controller
    timer := timer
    memoryMap := map
    vram := {}
    wram := {}
    ioRegisters := {}
    hram := {}
    poweredOn := true }

/-- `load_rom` changes the cartridge in place, through the shared pointer. -/
def loadRom (gb : GameBoy) (file : FileOutcome) : Bool × GameBoy :=
  let (success, rom) := gb.cartridge.loadFromFile file
  let gb :=
    { gb with
      memoryMap :=
        { gb.memoryMap with
          objects := Function.update gb.memoryMap.objects .cartridge rom } }
  (success, if success then gb.reset else gb)

def handleMemoryWrite (gb : GameBoy) (addr : Address) (value : Byte) :
    GameBoy :=
  if addr = divAddr then
    let (timer, map) := gb.timer.resetDiv gb.memoryMap
    { gb with timer := timer, memoryMap := map }
  else if addr = tacAddr then
    let oldTac := read gb.memoryMap tacAddr
    let (timer, map) := gb.timer.tacUpdated gb.memoryMap oldTac value
    { gb with timer := timer, memoryMap := map }
  else
    gb

def handleSerialTransfer (gb : GameBoy) : GameBoy :=
  let scValue := read gb.memoryMap scAddr
  if scValue &&& 0x80 ≠ 0 then
    let data := read gb.memoryMap sbAddr
    { gb with
      serialBuffer := gb.serialBuffer ++ [data]
      memoryMap := write gb.memoryMap scAddr (scValue &&& 0x7F) }
  else
    gb

@[simp]
theorem handleSerialTransfer_timer (gb : GameBoy) :
    gb.handleSerialTransfer.timer = gb.timer := by
  simp only [handleSerialTransfer]
  split <;> rfl

@[simp]
theorem handleSerialTransfer_poweredOn (gb : GameBoy) :
    gb.handleSerialTransfer.poweredOn = gb.poweredOn := by
  simp only [handleSerialTransfer]
  split <;> rfl

def serialDataAvailable (gb : GameBoy) : Bool :=
  !gb.serialBuffer.isEmpty

def readSerialData (gb : GameBoy) : Byte × GameBoy :=
  match gb.serialBuffer with
  | [] => (0, gb)
  | data :: rest => (data, { gb with serialBuffer := rest })

/-- What `step` and `run_for_cycles` both do with one instruction: execute it
and give its cycles to the timer. -/
def executeAndTime (gb : GameBoy) : Cycles × GameBoy :=
  let result := gb.cpu.executeInstruction gb.memoryMap
  let (timer, map) := gb.timer.update result.memory result.cycles
  (result.cycles,
    { gb with cpu := result.cpu, timer := timer, memoryMap := map })

def step (gb : GameBoy) : Cycles × GameBoy :=
  if gb.poweredOn then
    let (cycles, gb) := gb.executeAndTime
    (cycles, gb.handleSerialTransfer)
  else
    (4, gb)

theorem step_of_powered {gb : GameBoy} (powered : gb.poweredOn = true) :
    gb.step =
      (gb.executeAndTime.1, gb.executeAndTime.2.handleSerialTransfer) :=
  if_pos powered

/-- One pass of the loop of `run_for_cycles`, which does not service the
serial port. -/
def runBody (gb : GameBoy) : BitVec 32 × GameBoy :=
  let (cycles, gb) := gb.executeAndTime
  (cycles.setWidth 32, gb)

/-- `run_for_cycles`, with fuel for the passes of its loop. -/
def runForCycles (fuel : Nat) (totalCycles : BitVec 32) (gb : GameBoy) :
    Option GameBoy :=
  if gb.poweredOn then
    BudgetLoop.loop runBody totalCycles fuel 0 gb
  else
    some gb

/-- `cycles_per_frame`. -/
def cyclesPerFrame : BitVec 32 := 70224

def runFrame (fuel : Nat) (gb : GameBoy) : Option GameBoy :=
  if gb.poweredOn then
    gb.runForCycles fuel cyclesPerFrame
  else
    some gb

end GameBoy

end CyclePerfectGameboy
