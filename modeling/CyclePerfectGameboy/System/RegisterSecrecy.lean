import CyclePerfectGameboy.System.ControlFlow

/-!
# What the registers hold never shows

A load through a register pair and a `PUSH` go where the registers point, but
no instruction branches and every instruction takes a fixed time.  Only a
caller that looks at the CPU itself learns what the registers hold.
-/

namespace CyclePerfectGameboy

open BudgetLoop CallSequence Lockstep

namespace Console

/-- Consoles that differ at most in their registers other than `PC`. -/
structure SamePath (left right : Console) : Prop where
  rom : left.rom = right.rom
  pc : left.registers.pc.value = right.registers.pc.value
  poweredOn : left.poweredOn = right.poweredOn
  waiting : left.waiting = right.waiting

section Calls

variable {left right : Console}

theorem execute_samePath (same : SamePath left right) :
    left.execute.1 = right.execute.1 ∧
      SamePath left.execute.2 right.execute.2 := by
  have fetched :
      left.cpu.fetch ({ rom := left.rom } : CartridgeBus) =
        right.cpu.fetch ({ rom := right.rom } : CartridgeBus) := by
    rw [same.rom]
    exact congrArg (read ({ rom := right.rom } : CartridgeBus)) same.pc
  constructor
  · change (left.cpu.executeOpcode _).cycles =
      (right.cpu.executeOpcode _).cycles
    rw [CPU.executeOpcode_cycles, CPU.executeOpcode_cycles]
    exact congrArg opcodeCycles fetched
  · refine ⟨same.rom, ?_, same.poweredOn, same.waiting⟩
    change (left.cpu.executeOpcode _).cpu.registers.pc.value =
      (right.cpu.executeOpcode _).cpu.registers.pc.value
    rw [CPU.executeOpcode_pc, CPU.executeOpcode_pc, fetched]
    exact congrArg (· + _) same.pc

theorem runBody_samePath : Related SamePath runBody runBody := by
  intro left right same
  rcases execute_samePath same with ⟨cycles, next⟩
  exact ⟨congrArg (BitVec.setWidth 32) cycles, next⟩

theorem runForCycles_samePath
    (same : SamePath left right) (fuel : Nat) (totalCycles : BitVec 32) :
    Option.Rel SamePath (left.runForCycles fuel totalCycles)
      (right.runForCycles fuel totalCycles) := by
  unfold runForCycles
  rw [same.poweredOn]
  split
  · exact loop_related runBody_samePath totalCycles 0 fuel same
  · exact Option.Rel.some same

theorem reset_samePath (same : SamePath left right) :
    SamePath left.reset right.reset :=
  ⟨same.rom, rfl, rfl, same.waiting⟩

theorem powerOn_samePath (same : SamePath left right) :
    SamePath left.powerOn right.powerOn := by
  unfold powerOn
  rw [same.poweredOn]
  split
  · exact same
  · exact reset_samePath same

theorem loadRom_samePath
    (same : SamePath left right) (file : FileOutcome) :
    (left.loadRom file).1 = (right.loadRom file).1 ∧
      SamePath (left.loadRom file).2 (right.loadRom file).2 := by
  simp only [loadRom, same.rom]
  refine ⟨trivial, ?_⟩
  have inserted :
      SamePath
        { left with rom := (right.rom.loadFromFile file).2 }
        { right with rom := (right.rom.loadFromFile file).2 } :=
    ⟨rfl, same.pc, same.poweredOn, same.waiting⟩
  split
  · exact reset_samePath inserted
  · exact inserted

theorem step_samePath (same : SamePath left right) :
    left.step.1 = right.step.1 ∧ SamePath left.step.2 right.step.2 := by
  unfold step
  rw [same.poweredOn]
  split
  · rcases execute_samePath same with ⟨cycles, next⟩
    exact
      ⟨cycles, next.rom, next.pc, next.poweredOn,
        congrArg (· + 1) next.waiting⟩
  · exact ⟨rfl, same⟩

theorem readSerialData_samePath (same : SamePath left right) :
    left.readSerialData.1 = right.readSerialData.1 ∧
      SamePath left.readSerialData.2 right.readSerialData.2 := by
  unfold readSerialData
  rw [same.waiting]
  split
  · exact ⟨rfl, same⟩
  · exact ⟨rfl, same.rom, same.pc, same.poweredOn, rfl⟩

end Calls

/-- No call but `get_cpu` shows a register. -/
theorem samePath_simulates :
    SimulatesOn (fun call => call ≠ .getCpu) invoke invoke SamePath := by
  intro left right same call allowed
  cases call with
  | loadRom file =>
      rcases loadRom_samePath same file with ⟨success, next⟩
      exact Option.Rel.some ⟨congrArg PublicAnswer.flag success, next⟩
  | powerOn =>
      exact Option.Rel.some ⟨rfl, powerOn_samePath same⟩
  | reset =>
      exact Option.Rel.some ⟨rfl, reset_samePath same⟩
  | runFrame fuel =>
      exact returned_related (runForCycles_samePath same fuel _) _
  | runForCycles fuel totalCycles =>
      exact
        returned_related (runForCycles_samePath same fuel totalCycles) _
  | handleMemoryWrite addr value =>
      exact Option.Rel.some ⟨rfl, same⟩
  | step =>
      rcases step_samePath same with ⟨cycles, next⟩
      exact Option.Rel.some ⟨congrArg PublicAnswer.cycles cycles, next⟩
  | handleSerialTransfer =>
      exact Option.Rel.some
        ⟨rfl, same.rom, same.pc, same.poweredOn,
          congrArg (· + 1) same.waiting⟩
  | serialDataAvailable =>
      refine Option.Rel.some ⟨?_, same⟩
      change PublicAnswer.flag (decide (left.waiting ≠ 0)) = _
      rw [same.waiting]
  | readSerialData =>
      rcases readSerialData_samePath same with ⟨value, next⟩
      exact Option.Rel.some ⟨congrArg PublicAnswer.byte value, next⟩
  | getCpu =>
      exact absurd rfl allowed
  | getCartridge =>
      exact Option.Rel.some
        ⟨congrArg PublicAnswer.cartridge same.rom, same⟩
  | isPoweredOn =>
      exact Option.Rel.some
        ⟨congrArg PublicAnswer.flag same.poweredOn, same⟩

end Console

namespace GameBoy

theorem Shows.samePath
    {left right : GameBoy} {leftConsole rightConsole : Console}
    (leftShows : left.Shows leftConsole)
    (rightShows : right.Shows rightConsole)
    (cartridge : left.cartridge = right.cartridge)
    (pc : left.cpu.registers.pc.value = right.cpu.registers.pc.value)
    (poweredOn : left.poweredOn = right.poweredOn)
    (serialBuffer : left.serialBuffer = right.serialBuffer) :
    Console.SamePath leftConsole rightConsole := by
  have waiting := congrArg List.length serialBuffer
  rw [leftShows.serialBuffer, rightShows.serialBuffer,
    List.length_replicate, List.length_replicate] at waiting
  rw [leftShows.cpu, rightShows.cpu] at pc
  exact
    { rom := by
        rw [← leftShows.cartridge, cartridge, rightShows.cartridge]
      pc := pc
      poweredOn := by
        rw [← leftShows.poweredOn, poweredOn, rightShows.poweredOn]
      waiting := waiting }

/-- Two reachable machines with the same cartridge, power, program counter
and serial buffer answer every sequence of calls alike, whatever their other
registers, their timers and their RAM hold, as long as no call looks at the
CPU. -/
theorem registers_never_show
    {left right : GameBoy}
    (leftReachable : Reachable left) (rightReachable : Reachable right)
    (cartridge : left.cartridge = right.cartridge)
    (pc : left.cpu.registers.pc.value = right.cpu.registers.pc.value)
    (poweredOn : left.poweredOn = right.poweredOn)
    (serialBuffer : left.serialBuffer = right.serialBuffer)
    (calls : List PublicCall)
    (hidden : ∀ call ∈ calls, call ≠ .getCpu) :
    answers invoke left calls = answers invoke right calls := by
  rcases leftReachable.shows_console with ⟨leftConsole, leftShows⟩
  rcases rightReachable.shows_console with ⟨rightConsole, rightShows⟩
  have same :=
    leftShows.samePath rightShows cartridge pc poweredOn serialBuffer
  calc answers invoke left calls
      = answers Console.invoke leftConsole calls :=
        shows_simulates.answers_eq leftShows calls
    _ = answers Console.invoke rightConsole calls :=
        Console.samePath_simulates.answers_eq same hidden
    _ = answers invoke right calls :=
        (shows_simulates.answers_eq rightShows calls).symm

/-- A machine that has just been reset, and one whose timer has been started
since. -/
theorem started_timer_never_shows :
    let calls :=
      [PublicCall.step, .step, .runForCycles 10 24, .readSerialData]
    answers invoke (ofRom { data := shortImage }).reset calls =
      answers invoke
        ((ofRom { data := shortImage }).reset.handleMemoryWrite tacAddr 0x04)
        calls := by
  intro calls
  have fresh : Reachable (ofRom { data := shortImage }).reset :=
    Reachable.reset (Reachable.ofRom _)
  exact
    registers_never_show fresh
      (Reachable.handleMemoryWrite tacAddr 0x04 fresh) rfl rfl rfl rfl
      calls (by simp [calls])

end GameBoy

end CyclePerfectGameboy
