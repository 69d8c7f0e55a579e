import CyclePerfectGameboy.Foundations.CallSequence
import CyclePerfectGameboy.System.CycleBudget
import CyclePerfectGameboy.System.Reachability

/-!
# What the machine is to its callers

The public operations of the machine are compared with those of a console
that has a cartridge, a register file and a count of bytes to be read from
the serial port, but no RAM, no timer and no interrupts.
-/

namespace CyclePerfectGameboy

open BudgetLoop CallSequence Lockstep

/-- A bus with nothing on it but a cartridge. -/
structure CartridgeBus where
  rom : ROM

instance : MemoryInterface CartridgeBus where
  read bus addr := if addr.toNat < 0x8000 then bus.rom.read addr else 0xFF
  write bus _ _ := bus

structure Console where
  rom : ROM := {}
  registers : Registers := {}
  poweredOn : Bool := false
  /-- The bytes in the serial buffer; every one of them is `0xFF`. -/
  waiting : Nat := 0

namespace Console

/-- A CPU that is awake and has interrupts off. -/
def cpu (console : Console) : CPU :=
  { registers := console.registers }

def execute (console : Console) : Cycles × Console :=
  let result :=
    console.cpu.executeOpcode ({ rom := console.rom } : CartridgeBus)
  (result.cycles, { console with registers := result.cpu.registers })

def runBody (console : Console) : BitVec 32 × Console :=
  (console.execute.1.setWidth 32, console.execute.2)

def reset (console : Console) : Console :=
  { console with
    registers := (CPU.initialized {}).registers
    poweredOn := true }

def powerOn (console : Console) : Console :=
  if console.poweredOn then console else console.reset

def loadRom (console : Console) (file : FileOutcome) : Bool × Console :=
  let (success, rom) := console.rom.loadFromFile file
  let console := { console with rom := rom }
  (success, if success then console.reset else console)

def handleSerialTransfer (console : Console) : Console :=
  { console with waiting := console.waiting + 1 }

def step (console : Console) : Cycles × Console :=
  if console.poweredOn then
    (console.execute.1, console.execute.2.handleSerialTransfer)
  else
    (4, console)

def runForCycles (fuel : Nat) (totalCycles : BitVec 32)
    (console : Console) : Option Console :=
  if console.poweredOn then
    loop runBody totalCycles fuel 0 console
  else
    some console

def readSerialData (console : Console) : Byte × Console :=
  match console.waiting with
  | 0 => (0, console)
  | waiting + 1 => (0xFF, { console with waiting := waiting })

end Console

/-- The calls of `system::GameBoy` that return something a caller can look
at, or change what such a call returns.  A second `initialize_memory_map` is
not among them; `LaterRegions` treats it. -/
inductive PublicCall where
  | loadRom (file : FileOutcome)
  | powerOn
  | reset
  | runFrame (fuel : Nat)
  | runForCycles (fuel : Nat) (totalCycles : BitVec 32)
  | handleMemoryWrite (addr : Address) (value : Byte)
  | step
  | handleSerialTransfer
  | serialDataAvailable
  | readSerialData
  | getCpu
  | getCartridge
  | isPoweredOn

inductive PublicAnswer where
  | done
  | flag (value : Bool)
  | cycles (count : Cycles)
  | byte (value : Byte)
  | cpu (cpu : CPU)
  | cartridge (rom : ROM)

/-- One call on the machine; `none` if the fuel of a loop runs out. -/
def GameBoy.invoke (gb : GameBoy) :
    PublicCall → Option (PublicAnswer × GameBoy)
  | .loadRom file => some (.flag (gb.loadRom file).1, (gb.loadRom file).2)
  | .powerOn => some (.done, gb.powerOn)
  | .reset => some (.done, gb.reset)
  | .runFrame fuel => (gb.runFrame fuel).map (fun gb => (.done, gb))
  | .runForCycles fuel totalCycles =>
      (gb.runForCycles fuel totalCycles).map (fun gb => (.done, gb))
  | .handleMemoryWrite addr value =>
      some (.done, gb.handleMemoryWrite addr value)
  | .step => some (.cycles gb.step.1, gb.step.2)
  | .handleSerialTransfer => some (.done, gb.handleSerialTransfer)
  | .serialDataAvailable => some (.flag gb.serialDataAvailable, gb)
  | .readSerialData =>
      some (.byte gb.readSerialData.1, gb.readSerialData.2)
  | .getCpu => some (.cpu gb.cpu, gb)
  | .getCartridge => some (.cartridge gb.cartridge, gb)
  | .isPoweredOn => some (.flag gb.poweredOn, gb)

/-- The same call on the console. -/
def Console.invoke (console : Console) :
    PublicCall → Option (PublicAnswer × Console)
  | .loadRom file =>
      some (.flag (console.loadRom file).1, (console.loadRom file).2)
  | .powerOn => some (.done, console.powerOn)
  | .reset => some (.done, console.reset)
  | .runFrame fuel =>
      (console.runForCycles fuel 70224).map (fun console => (.done, console))
  | .runForCycles fuel totalCycles =>
      (console.runForCycles fuel totalCycles).map
        (fun console => (.done, console))
  | .handleMemoryWrite _ _ => some (.done, console)
  | .step => some (.cycles console.step.1, console.step.2)
  | .handleSerialTransfer => some (.done, console.handleSerialTransfer)
  | .serialDataAvailable =>
      some (.flag (decide (console.waiting ≠ 0)), console)
  | .readSerialData =>
      some (.byte console.readSerialData.1, console.readSerialData.2)
  | .getCpu => some (.cpu console.cpu, console)
  | .getCartridge => some (.cartridge console.rom, console)
  | .isPoweredOn => some (.flag console.poweredOn, console)

namespace GameBoy

/-! ## The refinement -/

/-- A map with a cartridge, and a bus with the same one. -/
def OnBus (map : GameBoyMap) (bus : CartridgeBus) : Prop :=
  map.hasLayout ∧ (map.objects .cartridge : ROM) = bus.rom

theorem onBus_simulation : MemorySimulation OnBus where
  read_eq := by
    rintro map bus ⟨layout, same⟩ addr
    rw [GameBoyMap.read_of_layout layout, same]
    rfl
  write_related := by
    rintro map bus ⟨layout, same⟩ addr value
    rw [GameBoyMap.write_of_layout layout]
    exact ⟨layout, same⟩

/-- All that a caller can see of the machine is on the console. -/
structure Shows (gb : GameBoy) (console : Console) : Prop where
  wellFormed : gb.WellFormed
  cartridge : gb.cartridge = console.rom
  cpu : gb.cpu = console.cpu
  poweredOn : gb.poweredOn = console.poweredOn
  serialBuffer : gb.serialBuffer = List.replicate console.waiting 0xFF

section Calls

variable {gb : GameBoy} {console : Console}

theorem Shows.executeAndTime (shows_ : gb.Shows console) :
    gb.executeAndTime.1 = console.execute.1 ∧
      gb.executeAndTime.2.Shows console.execute.2 := by
  have layout := shows_.wellFormed.layout
  have executed :=
    CPU.executeOpcode_matches onBus_simulation
      (⟨layout, shows_.cartridge⟩ :
        OnBus gb.memoryMap { rom := console.rom })
      console.cpu
  have awake :
      gb.cpu.executeInstruction gb.memoryMap =
        console.cpu.executeOpcode gb.memoryMap := by
    rw [shows_.cpu]
    exact CPU.executeInstruction_of_disabled _ ⟨rfl, rfl⟩ rfl
  have next := executeAndTime_wellFormed shows_.wellFormed
  rw [executeAndTime_of_layout layout, awake] at next ⊢
  refine ⟨executed.cycles, ?_⟩
  exact
    { wellFormed := next
      cartridge := shows_.cartridge
      cpu := executed.cpu.trans (CPU.executeOpcode_cpu _ _)
      poweredOn := shows_.poweredOn
      serialBuffer := shows_.serialBuffer }

theorem Shows.handleSerialTransfer (shows_ : gb.Shows console) :
    gb.handleSerialTransfer.Shows console.handleSerialTransfer := by
  have next := handleSerialTransfer_wellFormed shows_.wellFormed
  rw [handleSerialTransfer_of_layout shows_.wellFormed.layout] at next ⊢
  exact
    { wellFormed := next
      cartridge := shows_.cartridge
      cpu := shows_.cpu
      poweredOn := shows_.poweredOn
      serialBuffer := by
        rw [shows_.serialBuffer]
        exact List.replicate_succ'.symm }

theorem Shows.step (shows_ : gb.Shows console) :
    gb.step.1 = console.step.1 ∧ gb.step.2.Shows console.step.2 := by
  unfold GameBoy.step Console.step
  rw [shows_.poweredOn]
  split
  · rcases shows_.executeAndTime with ⟨cycles, next⟩
    exact ⟨cycles, next.handleSerialTransfer⟩
  · exact ⟨rfl, shows_⟩

theorem Shows.runBody : Related Shows runBody Console.runBody := by
  intro gb console shows_
  rcases shows_.executeAndTime with ⟨cycles, next⟩
  exact ⟨congrArg (BitVec.setWidth 32) cycles, next⟩

theorem Shows.runForCycles
    (shows_ : gb.Shows console) (fuel : Nat) (totalCycles : BitVec 32) :
    Option.Rel Shows (gb.runForCycles fuel totalCycles)
      (console.runForCycles fuel totalCycles) := by
  unfold GameBoy.runForCycles Console.runForCycles
  rw [shows_.poweredOn]
  split
  · exact loop_related Shows.runBody totalCycles 0 fuel shows_
  · exact Option.Rel.some shows_

/-- A frame is a run for the cycles of a frame, powered on or not. -/
theorem runFrame_eq (fuel : Nat) (gb : GameBoy) :
    gb.runFrame fuel = gb.runForCycles fuel cyclesPerFrame := by
  by_cases powered : gb.poweredOn = true
  · rw [runFrame, if_pos powered]
  · rw [runFrame, GameBoy.runForCycles, if_neg powered, if_neg powered]

theorem Shows.reset (shows_ : gb.Shows console) :
    gb.reset.Shows console.reset where
  wellFormed := reset_wellFormed shows_.wellFormed.layout
  cartridge := by
    rw [GameBoy.cartridge,
      reset_memoryMap_of_layout shows_.wellFormed.layout]
    exact shows_.cartridge
  cpu := rfl
  poweredOn := rfl
  serialBuffer := shows_.serialBuffer

theorem Shows.powerOn (shows_ : gb.Shows console) :
    gb.powerOn.Shows console.powerOn := by
  have next := powerOn_wellFormed shows_.wellFormed
  have kept := reset_memoryMap_of_layout shows_.wellFormed.layout
  unfold GameBoy.powerOn Console.powerOn at *
  rw [← shows_.poweredOn]
  split
  · exact shows_
  · rename_i off
    rw [if_neg off] at next
    exact
      { wellFormed := next
        cartridge :=
          (congrArg (fun map : GameBoyMap => map.objects .cartridge)
            kept).trans shows_.cartridge
        cpu := rfl
        poweredOn := rfl
        serialBuffer := shows_.serialBuffer }

theorem Shows.loadRom (shows_ : gb.Shows console) (file : FileOutcome) :
    (gb.loadRom file).1 = (console.loadRom file).1 ∧
      (gb.loadRom file).2.Shows (console.loadRom file).2 := by
  have layout := shows_.wellFormed.layout
  simp only [GameBoy.loadRom, Console.loadRom, shows_.cartridge]
  generalize console.rom.loadFromFile file = outcome
  obtain ⟨success, rom⟩ := outcome
  have inserted :
      GameBoy.Shows
        { gb with
          memoryMap :=
            { gb.memoryMap with
              objects :=
                Function.update gb.memoryMap.objects .cartridge rom } }
        { console with rom := rom } :=
    { wellFormed := ⟨layout, shows_.wellFormed.timer⟩
      cartridge := by
        change Function.update gb.memoryMap.objects .cartridge rom
          .cartridge = rom
        exact Function.update_self _ _ _
      cpu := shows_.cpu
      poweredOn := shows_.poweredOn
      serialBuffer := shows_.serialBuffer }
  refine ⟨trivial, ?_⟩
  cases success with
  | true =>
      exact inserted.reset
  | false =>
      exact inserted

theorem Shows.handleMemoryWrite
    (shows_ : gb.Shows console) (addr : Address) (value : Byte) :
    (gb.handleMemoryWrite addr value).Shows console := by
  have next := handleMemoryWrite_wellFormed shows_.wellFormed addr value
  have layout := shows_.wellFormed.layout
  simp only [GameBoy.handleMemoryWrite,
    Timer.resetDiv_memory_of_layout layout,
    Timer.tacUpdated_memory_of_layout layout] at next ⊢
  split
  · rename_i divider
    rw [if_pos divider] at next
    exact
      ⟨next, shows_.cartridge, shows_.cpu, shows_.poweredOn,
        shows_.serialBuffer⟩
  · rename_i notDivider
    rw [if_neg notDivider] at next
    split
    · rename_i control
      rw [if_pos control] at next
      exact
        ⟨next, shows_.cartridge, shows_.cpu, shows_.poweredOn,
          shows_.serialBuffer⟩
    · exact shows_

theorem Shows.serialDataAvailable (shows_ : gb.Shows console) :
    gb.serialDataAvailable = decide (console.waiting ≠ 0) := by
  rw [GameBoy.serialDataAvailable, shows_.serialBuffer]
  cases console.waiting with
  | zero =>
      rfl
  | succ waiting =>
      rfl

theorem Shows.readSerialData (shows_ : gb.Shows console) :
    gb.readSerialData.1 = console.readSerialData.1 ∧
      gb.readSerialData.2.Shows console.readSerialData.2 := by
  unfold GameBoy.readSerialData Console.readSerialData
  rw [shows_.serialBuffer]
  cases waiting : console.waiting with
  | zero =>
      exact ⟨rfl, shows_⟩
  | succ rest =>
      exact
        ⟨rfl, ⟨shows_.wellFormed.layout, shows_.wellFormed.timer⟩,
          shows_.cartridge, shows_.cpu, shows_.poweredOn, rfl⟩

end Calls

/-- Every call answers the same on the machine and on the console. -/
theorem shows_simulates :
    Simulates GameBoy.invoke Console.invoke Shows := by
  intro gb console shows_ call _
  cases call with
  | loadRom file =>
      rcases shows_.loadRom file with ⟨success, next⟩
      exact Option.Rel.some ⟨congrArg PublicAnswer.flag success, next⟩
  | powerOn =>
      exact Option.Rel.some ⟨rfl, shows_.powerOn⟩
  | reset =>
      exact Option.Rel.some ⟨rfl, shows_.reset⟩
  | runFrame fuel =>
      rw [GameBoy.invoke, Console.invoke, runFrame_eq]
      exact returned_related (shows_.runForCycles fuel cyclesPerFrame) _
  | runForCycles fuel totalCycles =>
      exact returned_related (shows_.runForCycles fuel totalCycles) _
  | handleMemoryWrite addr value =>
      exact Option.Rel.some ⟨rfl, shows_.handleMemoryWrite addr value⟩
  | step =>
      rcases shows_.step with ⟨cycles, next⟩
      exact Option.Rel.some ⟨congrArg PublicAnswer.cycles cycles, next⟩
  | handleSerialTransfer =>
      exact Option.Rel.some ⟨rfl, shows_.handleSerialTransfer⟩
  | serialDataAvailable =>
      exact Option.Rel.some
        ⟨congrArg PublicAnswer.flag shows_.serialDataAvailable, shows_⟩
  | readSerialData =>
      rcases shows_.readSerialData with ⟨value, next⟩
      exact Option.Rel.some ⟨congrArg PublicAnswer.byte value, next⟩
  | getCpu =>
      exact Option.Rel.some ⟨congrArg PublicAnswer.cpu shows_.cpu, shows_⟩
  | getCartridge =>
      exact Option.Rel.some
        ⟨congrArg PublicAnswer.cartridge shows_.cartridge, shows_⟩
  | isPoweredOn =>
      exact Option.Rel.some
        ⟨congrArg PublicAnswer.flag shows_.poweredOn, shows_⟩

theorem ofRom_shows (rom : ROM) : (ofRom rom).Shows { rom := rom } where
  wellFormed := (Reachable.ofRom rom).wellFormed
  cartridge := rfl
  cpu := rfl
  poweredOn := rfl
  serialBuffer := rfl

/-- Every reachable machine shows what some console shows. -/
theorem Reachable.shows_console {gb : GameBoy} (reachable : Reachable gb) :
    ∃ console, gb.Shows console := by
  have ran :
      ∀ {gb final : GameBoy} {fuel : Nat} {totalCycles : BitVec 32},
        (∃ console, gb.Shows console) →
          gb.runForCycles fuel totalCycles = some final →
            ∃ console, final.Shows console := by
    rintro gb final fuel totalCycles ⟨console, shows_⟩ returned
    have related := shows_.runForCycles fuel totalCycles
    rw [returned] at related
    generalize console.runForCycles fuel totalCycles = result at related
    cases related with
    | some next =>
        exact ⟨_, next⟩
  induction reachable with
  | ofRom rom =>
      exact ⟨_, ofRom_shows rom⟩
  | loadRom file _ inductionHypothesis =>
      obtain ⟨console, shows_⟩ := inductionHypothesis
      exact ⟨_, (shows_.loadRom file).2⟩
  | powerOn _ inductionHypothesis =>
      obtain ⟨console, shows_⟩ := inductionHypothesis
      exact ⟨_, shows_.powerOn⟩
  | reset _ inductionHypothesis =>
      obtain ⟨console, shows_⟩ := inductionHypothesis
      exact ⟨_, shows_.reset⟩
  | step _ inductionHypothesis =>
      obtain ⟨console, shows_⟩ := inductionHypothesis
      exact ⟨_, shows_.step.2⟩
  | runForCycles _ returned inductionHypothesis =>
      exact ran inductionHypothesis returned
  | runFrame _ returned inductionHypothesis =>
      rw [runFrame_eq] at returned
      exact ran inductionHypothesis returned
  | memoryWrite addr value _ inductionHypothesis =>
      obtain ⟨console, shows_⟩ := inductionHypothesis
      rw [GameBoyMap.write_of_layout shows_.wellFormed.layout]
      exact ⟨console, shows_⟩
  | handleMemoryWrite addr value _ inductionHypothesis =>
      obtain ⟨console, shows_⟩ := inductionHypothesis
      exact ⟨console, shows_.handleMemoryWrite addr value⟩
  | handleSerialTransfer _ inductionHypothesis =>
      obtain ⟨console, shows_⟩ := inductionHypothesis
      exact ⟨_, shows_.handleSerialTransfer⟩
  | readSerialData _ inductionHypothesis =>
      obtain ⟨console, shows_⟩ := inductionHypothesis
      exact ⟨_, shows_.readSerialData.2⟩

/-- No caller can tell the machine from a console without RAM, timer and
interrupts that sends `0xFF` for every instruction it steps. -/
theorem public_answers_eq_console (rom : ROM) (calls : List PublicCall) :
    answers GameBoy.invoke (ofRom rom) calls =
      answers Console.invoke { rom := rom } calls :=
  shows_simulates.answers_eq (ofRom_shows rom) calls

end GameBoy

end CyclePerfectGameboy
