import CyclePerfectGameboy.System.CycleBudget
import CyclePerfectGameboy.System.Reachability

/-!
# The store hook

`handle_memory_write` is there to tell the timer about stores to `DIV` and
`TAC`, but nothing calls it.  The machine is compared with one whose bus calls
it for every store of the CPU.
-/

namespace CyclePerfectGameboy

open BudgetLoop Lockstep

/-- A bus that calls `handle_memory_write` for every store.  The handler reads
the old `TAC`, so it runs before the byte is written. -/
structure HookedBus where
  machine : GameBoy

instance : MemoryInterface HookedBus where
  read bus addr := read bus.machine.memoryMap addr
  write bus addr value :=
    let gb := bus.machine.handleMemoryWrite addr value
    { machine := { gb with memoryMap := write gb.memoryMap addr value } }

namespace GameBoy

/-- `executeAndTime` with the CPU on the hooked bus. -/
def hookedExecuteAndTime (gb : GameBoy) : Cycles × GameBoy :=
  let result := gb.cpu.executeInstruction ({ machine := gb } : HookedBus)
  let hooked := result.memory.machine
  let (timer, map) := hooked.timer.update hooked.memoryMap result.cycles
  (result.cycles,
    { hooked with cpu := result.cpu, timer := timer, memoryMap := map })

def hookedStep (gb : GameBoy) : Cycles × GameBoy :=
  if gb.poweredOn then
    let (cycles, gb) := gb.hookedExecuteAndTime
    (cycles, gb.handleSerialTransfer)
  else
    (4, gb)

def hookedRunBody (gb : GameBoy) : BitVec 32 × GameBoy :=
  let (cycles, gb) := gb.hookedExecuteAndTime
  (cycles.setWidth 32, gb)

def hookedRunForCycles (fuel : Nat) (totalCycles : BitVec 32)
    (gb : GameBoy) : Option GameBoy :=
  if gb.poweredOn then
    loop hookedRunBody totalCycles fuel 0 gb
  else
    some gb

/-- The stores that the next instruction or interrupt dispatch makes. -/
def executedStores (gb : GameBoy) : List (Address × Byte) :=
  (gb.cpu.executeInstruction (StoreLog.start gb.memoryMap)).memory.stores

/-- The next instruction finds the divider at zero if it stores to `DIV`. -/
def DivStoreUnseen (gb : GameBoy) : Prop :=
  (∃ store ∈ gb.executedStores, store.1 = divAddr) →
    gb.timer.divInternal = 0

/-- The timer after the hook has handled one store. -/
def hookTimer (map : GameBoyMap) (timer : Timer)
    (store : Address × Byte) : Timer :=
  if store.1 = divAddr then
    (timer.resetDiv map).1
  else if store.1 = tacAddr then
    (timer.tacUpdated map (read map tacAddr) store.2).1
  else
    timer

theorem handleMemoryWrite_of_layout
    {gb : GameBoy} (layout : gb.memoryMap.hasLayout)
    (addr : Address) (value : Byte) :
    gb.handleMemoryWrite addr value =
      { gb with timer := hookTimer gb.memoryMap gb.timer (addr, value) } := by
  simp only [handleMemoryWrite, hookTimer,
    Timer.resetDiv_memory_of_layout layout,
    Timer.tacUpdated_memory_of_layout layout]
  split
  · rfl
  · split <;> rfl

theorem hookedBus_write_of_layout
    {bus : HookedBus} (layout : bus.machine.memoryMap.hasLayout)
    (addr : Address) (value : Byte) :
    write bus addr value =
      { machine :=
          { bus.machine with
            timer :=
              hookTimer bus.machine.memoryMap bus.machine.timer
                (addr, value) } } := by
  change HookedBus.mk
    { bus.machine.handleMemoryWrite addr value with
      memoryMap :=
        write (bus.machine.handleMemoryWrite addr value).memoryMap
          addr value } = _
  simp only [handleMemoryWrite_of_layout layout,
    GameBoyMap.write_of_layout layout]

theorem hookTimer_settled
    {timer : Timer} (settled : timer.Settled) (map : GameBoyMap)
    (store : Address × Byte) :
    (hookTimer map timer store).Settled := by
  unfold hookTimer
  split
  · exact Timer.resetDiv_settled settled map
  · split
    · exact Timer.tacUpdated_settled settled map _ _
    · exact settled

theorem hookTimer_divInternal
    (map : GameBoyMap) (timer : Timer) (store : Address × Byte) :
    (hookTimer map timer store).divInternal =
      if store.1 = divAddr then 0 else timer.divInternal := by
  unfold hookTimer
  split
  · exact Timer.resetDiv_divInternal timer map
  · split
    · exact Timer.tacUpdated_divInternal timer map _ _
    · rfl

/-- All stores of one instruction, handled in order. -/
def hookTimers (map : GameBoyMap) (timer : Timer)
    (stores : List (Address × Byte)) : Timer :=
  stores.foldl (hookTimer map) timer

theorem hookTimers_settled
    {timer : Timer} (settled : timer.Settled) (map : GameBoyMap)
    (stores : List (Address × Byte)) :
    (hookTimers map timer stores).Settled := by
  induction stores generalizing timer with
  | nil =>
      exact settled
  | cons store rest inductionHypothesis =>
      exact inductionHypothesis (hookTimer_settled settled map store)

/-- The divider is zero after a store to `DIV` and untouched without one. -/
theorem hookTimers_divInternal
    (map : GameBoyMap) (timer : Timer)
    (stores : List (Address × Byte)) :
    (hookTimers map timer stores).divInternal =
      if ∃ store ∈ stores, store.1 = divAddr then 0
      else timer.divInternal := by
  induction stores generalizing timer with
  | nil =>
      simp [hookTimers]
  | cons store rest inductionHypothesis =>
      have unfolded :
          hookTimers map timer (store :: rest) =
            hookTimers map (hookTimer map timer store) rest := rfl
      rw [unfolded, inductionHypothesis, hookTimer_divInternal]
      by_cases here : store.1 = divAddr
      · simp [here]
      · simp [here]

end GameBoy

/-- On a map with the layout of the machine an update forgets everything but
the divider: the registers read as `0xFF`, and a pending overflow is serviced
at once. -/
theorem Timer.update_of_layout
    {map : GameBoyMap} (layout : map.hasLayout)
    {timer : Timer} (settled : timer.Settled)
    {cycles : Cycles} (enough : 4 ≤ cycles.toNat) :
    (timer.update map cycles).1 =
      Timer.advanceDivider
        { divInternal := timer.divInternal
          tima := 0xFF
          tma := 0xFF
          tac := 0xFF }
        cycles := by
  obtain ⟨divInternal, prevDivValue, tima, tma, tac, timaOverflow,
    overflowCycles⟩ := timer
  obtain ⟨rfl, rfl⟩ : prevDivValue = 0 ∧ overflowCycles = 0 :=
    ⟨settled.prevDivValue, settled.overflowCycles⟩
  have registers :
      Timer.readRegisters
          { divInternal := divInternal
            tima := tima
            tma := tma
            tac := tac
            timaOverflow := timaOverflow } map =
        { divInternal := divInternal
          tima := 0xFF
          tma := 0xFF
          tac := 0xFF
          timaOverflow := timaOverflow } := by
    simp only [Timer.readRegisters, GameBoyMap.read_of_layout layout]
    rfl
  simp only [update, registers]
  refine congrArg (fun timer : Timer => timer.advanceDivider cycles) ?_
  cases timaOverflow with
  | false =>
      rw [serviceOverflow_of_idle rfl]
  | true =>
      rw [serviceOverflow_of_pending ⟨rfl, rfl⟩ rfl map enough]

namespace GameBoy

/-- The logging memory and the hooked bus stay in step: the bus holds the
machine whose timer has handled the stores logged so far. -/
def HookRelated (gb : GameBoy)
    (log : StoreLog GameBoyMap) (bus : HookedBus) : Prop :=
  log.memory = gb.memoryMap ∧
    bus.machine =
      { gb with timer := hookTimers gb.memoryMap gb.timer log.stores }

theorem hookRelated_simulation
    {gb : GameBoy} (layout : gb.memoryMap.hasLayout) :
    MemorySimulation (HookRelated gb) where
  read_eq := by
    rintro log ⟨machine⟩ ⟨memory, rfl⟩ addr
    change read log.memory addr = read gb.memoryMap addr
    rw [memory]
  write_related := by
    rintro log bus ⟨memory, machine⟩ addr value
    have busLayout : bus.machine.memoryMap.hasLayout := by
      rw [machine]
      exact layout
    constructor
    · rw [StoreLog.memory_write, memory,
        GameBoyMap.write_of_layout layout]
    · rw [hookedBus_write_of_layout busLayout, machine,
        StoreLog.stores_write, hookTimers, hookTimers, List.foldl_append,
        List.foldl_cons, List.foldl_nil]

/-- The hooked machine executes the same instruction, and its timer has
handled the stores when the cycles are counted. -/
theorem hookedExecuteAndTime_of_layout
    {gb : GameBoy} (layout : gb.memoryMap.hasLayout) :
    gb.hookedExecuteAndTime =
      ((gb.cpu.executeInstruction gb.memoryMap).cycles,
        { gb with
          cpu := (gb.cpu.executeInstruction gb.memoryMap).cpu
          timer :=
            ((hookTimers gb.memoryMap gb.timer gb.executedStores).update
              gb.memoryMap
              (gb.cpu.executeInstruction gb.memoryMap).cycles).1 }) := by
  have start :
      HookRelated gb (StoreLog.start gb.memoryMap) { machine := gb } :=
    ⟨rfl, rfl⟩
  have unlogged : (StoreLog.start gb.memoryMap).memory = gb.memoryMap := rfl
  have hooked :=
    CPU.executeInstruction_matches (hookRelated_simulation layout) start
      gb.cpu
  have plain :=
    CPU.executeInstruction_matches StoreLog.forgetSimulation unlogged gb.cpu
  have cycles := hooked.cycles.symm.trans plain.cycles
  have cpu := hooked.cpu.symm.trans plain.cpu
  simp only [hookedExecuteAndTime, cycles, cpu, hooked.memory.2,
    Timer.update_memory_of_layout layout]
  rfl

/-- One instruction: the hook changes the timer only by resetting a divider
that is not zero. -/
theorem hookedExecuteAndTime_timer_iff
    {gb : GameBoy} (wellFormed : gb.WellFormed) :
    gb.executeAndTime.2.timer = gb.hookedExecuteAndTime.2.timer ↔
      gb.DivStoreUnseen := by
  have enough := gb.cpu.executeInstruction_cycles_pos gb.memoryMap
  have divider :=
    hookTimers_divInternal gb.memoryMap gb.timer gb.executedStores
  have settled :=
    hookTimers_settled wellFormed.timer gb.memoryMap gb.executedStores
  rw [executeAndTime_of_layout wellFormed.layout,
    hookedExecuteAndTime_of_layout wellFormed.layout]
  constructor
  · intro same stored
    have dividers := congrArg Timer.divInternal same
    simp only [Timer.update_divInternal, divider, if_pos stored] at dividers
    simpa using dividers
  · intro unseen
    have sameDivider :
        (hookTimers gb.memoryMap gb.timer gb.executedStores).divInternal =
          gb.timer.divInternal := by
      rw [divider]
      split
      · rename_i stored
        exact (unseen stored).symm
      · rfl
    rw [Timer.update_of_layout wellFormed.layout wellFormed.timer enough,
      Timer.update_of_layout wellFormed.layout settled enough, sameDivider]

theorem hookedExecuteAndTime_eq
    {gb : GameBoy} (wellFormed : gb.WellFormed)
    (unseen : gb.DivStoreUnseen) :
    gb.executeAndTime = gb.hookedExecuteAndTime := by
  have timers := (hookedExecuteAndTime_timer_iff wellFormed).mpr unseen
  rw [executeAndTime_of_layout wellFormed.layout,
    hookedExecuteAndTime_of_layout wellFormed.layout] at timers ⊢
  simp only at timers
  rw [timers]

theorem step_poweredOn {gb : GameBoy} (powered : gb.poweredOn = true) :
    gb.step.2.poweredOn = true := by
  rw [step_of_powered powered, handleSerialTransfer_poweredOn]
  exact powered

theorem hookedStep_iff
    {gb : GameBoy} (wellFormed : gb.WellFormed)
    (powered : gb.poweredOn = true) :
    gb.step.2 = gb.hookedStep.2 ↔ gb.DivStoreUnseen := by
  have hookedStepped :
      gb.hookedStep =
        (gb.hookedExecuteAndTime.1,
          gb.hookedExecuteAndTime.2.handleSerialTransfer) :=
    if_pos powered
  rw [step_of_powered powered, hookedStepped]
  constructor
  · intro same
    have timers := congrArg GameBoy.timer same
    rw [handleSerialTransfer_timer, handleSerialTransfer_timer] at timers
    exact (hookedExecuteAndTime_timer_iff wellFormed).mp timers
  · intro unseen
    rw [hookedExecuteAndTime_eq wellFormed unseen]

theorem hookedRunBody_iff
    {gb : GameBoy} (wellFormed : gb.WellFormed) :
    (runBody gb).2 = (hookedRunBody gb).2 ↔ gb.DivStoreUnseen := by
  constructor
  · intro same
    exact (hookedExecuteAndTime_timer_iff wellFormed).mp
      (congrArg GameBoy.timer same)
  · intro unseen
    have same : gb.executeAndTime.2 = gb.hookedExecuteAndTime.2 := by
      rw [hookedExecuteAndTime_eq wellFormed unseen]
    exact same

/-! ## Whole runs -/

/-- The machine runs like the hooked one, under either driver, exactly as long
as no store to `DIV` finds the divider away from zero. -/
theorem hooked_runs_agree_iff
    {gb : GameBoy} (reachable : Reachable gb)
    (powered : gb.poweredOn = true) :
    (∀ count,
      (∀ k ≤ count,
        (fun gb => (step gb).2)^[k] gb =
          (fun gb => (hookedStep gb).2)^[k] gb) ↔
        ∀ k < count, DivStoreUnseen ((fun gb => (step gb).2)^[k] gb)) ∧
      (∀ count,
        (∀ k ≤ count,
          after runBody k gb = after hookedRunBody k gb) ↔
          ∀ k < count, DivStoreUnseen (after runBody k gb)) ∧
      ∀ fuel totalCycles,
        (∀ k < fuel, DivStoreUnseen (after runBody k gb)) →
          gb.runForCycles fuel totalCycles =
            gb.hookedRunForCycles fuel totalCycles := by
  have wellFormed := reachable.wellFormed
  refine ⟨?_, ?_, ?_⟩
  · intro count
    have preserved :
        ∀ gb : GameBoy, WellFormed gb ∧ gb.poweredOn = true →
          WellFormed gb.step.2 ∧ gb.step.2.poweredOn = true := by
      rintro gb ⟨wellFormed, powered⟩
      exact ⟨step_wellFormed wellFormed, step_poweredOn powered⟩
    have agrees :
        ∀ gb : GameBoy, WellFormed gb ∧ gb.poweredOn = true →
          (gb.step.2 = gb.hookedStep.2 ↔ DivStoreUnseen gb) := by
      rintro gb ⟨wellFormed, powered⟩
      exact hookedStep_iff wellFormed powered
    exact runs_agree_iff preserved agrees ⟨wellFormed, powered⟩ count
  · intro count
    have preserved :
        ∀ gb : GameBoy, WellFormed gb → WellFormed (runBody gb).2 :=
      fun _ => runBody_wellFormed
    have agrees :
        ∀ gb : GameBoy, WellFormed gb →
          ((runBody gb).2 = (hookedRunBody gb).2 ↔ DivStoreUnseen gb) :=
      fun _ => hookedRunBody_iff
    exact runs_agree_iff preserved agrees wellFormed count
  · intro fuel totalCycles unseen
    rw [runForCycles, if_pos powered, hookedRunForCycles, if_pos powered]
    refine loop_congr ?_
    intro passes before
    have here : WellFormed (after runBody passes gb) :=
      after_invariant (fun _ => runBody_wellFormed) wellFormed passes
    have same := hookedExecuteAndTime_eq here (unseen passes before)
    rw [runBody, hookedRunBody, same]

/-- A cartridge that executes `NOP` and then `LDH (0x04),A`. -/
def divStoreRom : ROM :=
  { data := List.replicate 0x100 0 ++ [0x00, 0xE0, 0x04] }

/-- The divider is zero after a reset, so the first step is the hooked one. -/
theorem hooked_first_step :
    (ofRom divStoreRom).reset.step.2 =
      (ofRom divStoreRom).reset.hookedStep.2 := by
  have reachable : Reachable (ofRom divStoreRom).reset :=
    Reachable.reset (Reachable.ofRom divStoreRom)
  have agree := (hooked_runs_agree_iff reachable rfl).1 1
  refine agree.mpr ?_ 1 (Nat.le_refl 1)
  intro k before
  obtain rfl : k = 0 := by omega
  intro stored
  rfl

/-- The store comes when the divider has counted the `NOP`: the machine keeps
counting from there, the hooked one from zero. -/
theorem div_store_keeps_divider :
    ¬ ∀ gb : GameBoy, Reachable gb → gb.poweredOn = true →
      gb.step.2 = gb.hookedStep.2 := by
  intro always
  have reachable : Reachable (ofRom divStoreRom).reset.step.2 :=
    Reachable.step (Reachable.reset (Reachable.ofRom divStoreRom))
  have same := always _ reachable (by decide)
  have dividers := congrArg (fun gb => gb.timer.divInternal) same
  exact absurd dividers (by decide)

end GameBoy

end CyclePerfectGameboy
