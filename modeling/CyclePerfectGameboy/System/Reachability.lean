import CyclePerfectGameboy.Cpu.CycleCounts
import CyclePerfectGameboy.Cpu.Simulation
import CyclePerfectGameboy.Foundations.Lockstep
import CyclePerfectGameboy.System.AddressSpace
import CyclePerfectGameboy.System.TimerLaws

/-!
# Reachable machines

What every machine built and driven through the public operations satisfies.
-/

namespace CyclePerfectGameboy

section Layout

variable {map : GameBoyMap}

theorem Timer.update_memory_of_layout
    (layout : map.hasLayout) (timer : Timer) (cycles : Cycles) :
    (timer.update map cycles).2 = map := by
  have requested : Timer.requestInterrupt map = map :=
    GameBoyMap.write_of_layout layout _ _
  simp only [Timer.update, Timer.writeRegisters,
    Timer.serviceOverflow_memory, requested, ite_self,
    GameBoyMap.write_of_layout layout]

theorem Timer.resetDiv_memory_of_layout
    (layout : map.hasLayout) (timer : Timer) :
    (timer.resetDiv map).2 = map := by
  simp only [Timer.resetDiv, Timer.writeRegisters,
    GameBoyMap.write_of_layout layout]

theorem Timer.tacUpdated_memory_of_layout
    (layout : map.hasLayout) (timer : Timer) (oldTac newTac : Byte) :
    (timer.tacUpdated map oldTac newTac).2 = map := by
  simp only [Timer.tacUpdated]
  split
  · rfl
  · simp only [Timer.writeRegisters, GameBoyMap.write_of_layout layout]

theorem Timer.initialized_memory_of_layout
    (layout : map.hasLayout) (timer : Timer) :
    (timer.initialized map).2 = map := by
  simp only [Timer.initialized, Timer.writeRegisters,
    GameBoyMap.write_of_layout layout]

theorem InterruptController.initialized_memory_of_layout
    (layout : map.hasLayout) (controller : InterruptController) :
    (controller.initialized map).2 = map := by
  simp only [InterruptController.initialized,
    InterruptController.writeRegisters, GameBoyMap.write_of_layout layout]

/-- No instruction changes the map. -/
theorem CPU.executeInstruction_memory_of_layout
    (layout : map.hasLayout) (cpu : CPU) :
    (cpu.executeInstruction map).memory = map := by
  let Fixed : GameBoyMap → GameBoyMap → Prop :=
    fun left right => left = map ∧ right = map
  have simulation : MemorySimulation Fixed :=
    { read_eq := by
        rintro _ _ ⟨rfl, rfl⟩ addr
        rfl
      write_related := by
        rintro _ _ ⟨rfl, rfl⟩ addr value
        rw [GameBoyMap.write_of_layout layout]
        exact ⟨rfl, rfl⟩ }
  have executed :=
    CPU.executeInstruction_matches simulation ⟨rfl, rfl⟩ cpu
  exact executed.memory.1

end Layout

namespace GameBoy

/-! ## Reachability -/

/-- The machines that the constructors, the public operations and stores
through the memory map lead to.  The public `initialize_memory_map` belongs to
the constructors here; `LaterRegions` says what a second call of it changes. -/
inductive Reachable : GameBoy → Prop where
  | ofRom (rom : ROM) : Reachable (ofRom rom)
  | loadRom {gb : GameBoy} (file : FileOutcome) (earlier : Reachable gb) :
      Reachable (gb.loadRom file).2
  | powerOn {gb : GameBoy} (earlier : Reachable gb) :
      Reachable gb.powerOn
  | reset {gb : GameBoy} (earlier : Reachable gb) :
      Reachable gb.reset
  | step {gb : GameBoy} (earlier : Reachable gb) :
      Reachable gb.step.2
  | runForCycles {gb final : GameBoy} {fuel : Nat}
      {totalCycles : BitVec 32} (earlier : Reachable gb)
      (returned : gb.runForCycles fuel totalCycles = some final) :
      Reachable final
  | runFrame {gb final : GameBoy} {fuel : Nat} (earlier : Reachable gb)
      (returned : gb.runFrame fuel = some final) :
      Reachable final
  | memoryWrite {gb : GameBoy} (addr : Address) (value : Byte)
      (earlier : Reachable gb) :
      Reachable { gb with memoryMap := write gb.memoryMap addr value }
  | handleMemoryWrite {gb : GameBoy} (addr : Address) (value : Byte)
      (earlier : Reachable gb) :
      Reachable (gb.handleMemoryWrite addr value)
  | handleSerialTransfer {gb : GameBoy} (earlier : Reachable gb) :
      Reachable gb.handleSerialTransfer
  | readSerialData {gb : GameBoy} (earlier : Reachable gb) :
      Reachable gb.readSerialData.2

/-- The invariant of reachable machines. -/
structure WellFormed (gb : GameBoy) : Prop where
  layout : gb.memoryMap.hasLayout
  timer : gb.timer.Settled

section Steps

variable {gb : GameBoy}

/-- One instruction changes the CPU and the timer only. -/
theorem executeAndTime_of_layout (layout : gb.memoryMap.hasLayout) :
    gb.executeAndTime =
      ((gb.cpu.executeInstruction gb.memoryMap).cycles,
        { gb with
          cpu := (gb.cpu.executeInstruction gb.memoryMap).cpu
          timer :=
            (gb.timer.update gb.memoryMap
              (gb.cpu.executeInstruction gb.memoryMap).cycles).1 }) := by
  simp only [executeAndTime,
    CPU.executeInstruction_memory_of_layout layout,
    Timer.update_memory_of_layout layout]

/-- Every service of the serial port finds a transfer requested and sends
`0xFF`. -/
theorem handleSerialTransfer_of_layout
    (layout : gb.memoryMap.hasLayout) :
    gb.handleSerialTransfer =
      { gb with serialBuffer := gb.serialBuffer ++ [0xFF] } := by
  have sc : read gb.memoryMap scAddr = 0xFF :=
    GameBoyMap.read_of_high layout (by decide)
  have sb : read gb.memoryMap sbAddr = 0xFF :=
    GameBoyMap.read_of_high layout (by decide)
  simp only [handleSerialTransfer, sc, sb,
    GameBoyMap.write_of_layout layout]
  rfl

theorem executeAndTime_wellFormed (wellFormed : gb.WellFormed) :
    gb.executeAndTime.2.WellFormed := by
  rw [executeAndTime_of_layout wellFormed.layout]
  exact
    { layout := wellFormed.layout
      timer :=
        Timer.update_settled wellFormed.timer _
          (gb.cpu.executeInstruction_cycles_pos gb.memoryMap) }

theorem handleSerialTransfer_wellFormed (wellFormed : gb.WellFormed) :
    gb.handleSerialTransfer.WellFormed := by
  rw [handleSerialTransfer_of_layout wellFormed.layout]
  exact ⟨wellFormed.layout, wellFormed.timer⟩

theorem step_wellFormed (wellFormed : gb.WellFormed) :
    gb.step.2.WellFormed := by
  unfold step
  split
  · exact handleSerialTransfer_wellFormed
      (executeAndTime_wellFormed wellFormed)
  · exact wellFormed

theorem runBody_wellFormed (wellFormed : gb.WellFormed) :
    (runBody gb).2.WellFormed :=
  executeAndTime_wellFormed wellFormed

theorem runForCycles_wellFormed
    {final : GameBoy} {fuel : Nat} {totalCycles : BitVec 32}
    (wellFormed : gb.WellFormed)
    (returned : gb.runForCycles fuel totalCycles = some final) :
    final.WellFormed := by
  by_cases powered : gb.poweredOn = true
  · rw [runForCycles, if_pos powered] at returned
    obtain ⟨passes, rfl, _⟩ := BudgetLoop.after_of_loop runBody returned
    exact Lockstep.after_invariant
      (fun _ => runBody_wellFormed) wellFormed passes
  · rw [runForCycles, if_neg powered, Option.some.injEq] at returned
    exact returned ▸ wellFormed

theorem initialized_wellFormed
    (layout : gb.memoryMap.hasLayout) :
    (gb.timer.initialized
        (gb.interruptController.initialized
          gb.memoryMap).2).2.hasLayout ∧
      (gb.timer.initialized
        (gb.interruptController.initialized
          gb.memoryMap).2).1.Settled := by
  rw [InterruptController.initialized_memory_of_layout layout,
    Timer.initialized_memory_of_layout layout]
  exact ⟨layout, Timer.initial_settled⟩

theorem reset_memoryMap_of_layout (layout : gb.memoryMap.hasLayout) :
    gb.reset.memoryMap = gb.memoryMap := by
  change (gb.timer.initialized
    (gb.interruptController.initialized gb.memoryMap).2).2 = _
  rw [InterruptController.initialized_memory_of_layout layout,
    Timer.initialized_memory_of_layout layout]

theorem reset_wellFormed (layout : gb.memoryMap.hasLayout) :
    gb.reset.WellFormed :=
  ⟨(initialized_wellFormed layout).1, (initialized_wellFormed layout).2⟩

theorem powerOn_wellFormed (wellFormed : gb.WellFormed) :
    gb.powerOn.WellFormed := by
  unfold powerOn
  split
  · exact wellFormed
  · exact ⟨(initialized_wellFormed wellFormed.layout).1,
      (initialized_wellFormed wellFormed.layout).2⟩

/-- Loading a cartridge replaces an object, not a region. -/
theorem loadRom_wellFormed
    (wellFormed : gb.WellFormed) (file : FileOutcome) :
    (gb.loadRom file).2.WellFormed := by
  simp only [loadRom]
  split
  · exact reset_wellFormed wellFormed.layout
  · exact ⟨wellFormed.layout, wellFormed.timer⟩

theorem handleMemoryWrite_wellFormed
    (wellFormed : gb.WellFormed) (addr : Address) (value : Byte) :
    (gb.handleMemoryWrite addr value).WellFormed := by
  simp only [handleMemoryWrite]
  split
  · rw [Timer.resetDiv_memory_of_layout wellFormed.layout]
    exact ⟨wellFormed.layout, Timer.resetDiv_settled wellFormed.timer _⟩
  · split
    · rw [Timer.tacUpdated_memory_of_layout wellFormed.layout]
      exact ⟨wellFormed.layout,
        Timer.tacUpdated_settled wellFormed.timer _ _ _⟩
    · exact wellFormed

theorem readSerialData_wellFormed (wellFormed : gb.WellFormed) :
    gb.readSerialData.2.WellFormed := by
  unfold readSerialData
  split
  · exact wellFormed
  · exact ⟨wellFormed.layout, wellFormed.timer⟩

end Steps

/-- The invariant holds of every reachable machine. -/
theorem Reachable.wellFormed {gb : GameBoy} (reachable : Reachable gb) :
    gb.WellFormed := by
  induction reachable with
  | ofRom rom =>
      exact ⟨initializeMemoryMap_hasLayout rom {} {} {} {},
        Timer.initial_settled⟩
  | loadRom file _ inductionHypothesis =>
      exact loadRom_wellFormed inductionHypothesis file
  | powerOn _ inductionHypothesis =>
      exact powerOn_wellFormed inductionHypothesis
  | reset _ inductionHypothesis =>
      exact reset_wellFormed inductionHypothesis.layout
  | step _ inductionHypothesis =>
      exact step_wellFormed inductionHypothesis
  | runForCycles _ returned inductionHypothesis =>
      exact runForCycles_wellFormed inductionHypothesis returned
  | runFrame _ returned inductionHypothesis =>
      rw [GameBoy.runFrame] at returned
      split at returned
      · exact runForCycles_wellFormed inductionHypothesis returned
      · rw [Option.some.injEq] at returned
        exact returned ▸ inductionHypothesis
  | memoryWrite addr value _ inductionHypothesis =>
      rw [GameBoyMap.write_of_layout inductionHypothesis.layout]
      exact inductionHypothesis
  | handleMemoryWrite addr value _ inductionHypothesis =>
      exact handleMemoryWrite_wellFormed inductionHypothesis addr value
  | handleSerialTransfer _ inductionHypothesis =>
      exact handleSerialTransfer_wellFormed inductionHypothesis
  | readSerialData _ inductionHypothesis =>
      exact readSerialData_wellFormed inductionHypothesis

end GameBoy

end CyclePerfectGameboy
