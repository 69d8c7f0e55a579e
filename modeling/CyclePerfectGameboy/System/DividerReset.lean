import CyclePerfectGameboy.System.TimerWorld

/-!
# Resetting the divider

A store to `DIV` takes the timer input from one to zero if the selected
divider bit is set.  `reset_div` looks for that edge in a remembered divider
that no operation ever sets.
-/

namespace CyclePerfectGameboy

namespace Timer

/-- With nothing remembered, `reset_div` reloads the registers and clears the
divider. -/
theorem resetDiv_of_forgotten
    {timer : Timer} (forgotten : timer.prevDivValue = 0)
    (memory : FlatMemory) :
    timer.resetDiv memory =
      ({ timer.readRegisters memory with divInternal := 0 },
        Function.update (Function.update memory divAddr 0) timaAddr
          (memory timaAddr)) := by
  have noEdge :
      ∀ tac : Byte,
        ¬ (0 : Word) &&& bitPositions.getD (tacClockSelect tac).toNat 0 ≠
          0 := by
    intro tac edge
    exact edge BitVec.zero_and
  obtain ⟨divInternal, prevDivValue, tima, tma, tac, timaOverflow,
    overflowCycles⟩ := timer
  have zero : prevDivValue = 0 := forgotten
  subst zero
  have cleared : highByte 0 = 0 := by decide
  simp only [resetDiv, getInputBit, getClockSelect, readRegisters, noEdge,
    if_false, ite_self, writeRegisters, cleared, FlatMemory.write_eq,
    FlatMemory.read_eq]

end Timer

namespace TimerWorld

/-- No operation remembers a divider. -/
theorem apply_prevDivValue
    {world : TimerWorld} (forgotten : world.timer.prevDivValue = 0)
    (operation : TimerOperation) :
    (world.apply operation).timer.prevDivValue = 0 := by
  cases operation with
  | initialized | resetDiv =>
      rfl
  | update cycles =>
      exact (Timer.update_prevDivValue _ _ _).trans forgotten
  | tacUpdated oldTac newTac =>
      exact (Timer.tacUpdated_prevDivValue _ _ _ _).trans forgotten
  | store addr value =>
      exact forgotten

theorem run_prevDivValue
    (memory : FlatMemory) (operations : List TimerOperation) :
    (run { timer := {}, memory := memory } operations).timer.prevDivValue =
      0 := by
  have preserved :
      ∀ world : TimerWorld, ∀ operation ∈ operations,
        world.timer.prevDivValue = 0 →
          (world.apply operation).timer.prevDivValue = 0 := by
    intro world operation _ forgotten
    exact apply_prevDivValue forgotten operation
  exact run_invariant preserved rfl

/-- What a reset of the divider is for: the falling edge of the timer input
counts. -/
structure ResetClocksTima (world : TimerWorld) : Prop where
  counts :
    timerSignal (world.memory 0xFF07) world.timer.divInternal = true →
      world.memory 0xFF05 ≠ 0xFF →
        (world.apply .resetDiv).memory 0xFF05 = world.memory 0xFF05 + 1
  overflows :
    timerSignal (world.memory 0xFF07) world.timer.divInternal = true →
      world.memory 0xFF05 = 0xFF →
        (world.apply .resetDiv).memory 0xFF05 = 0 ∧
          (world.apply .resetDiv).timer.timaOverflow = true
  keeps :
    timerSignal (world.memory 0xFF07) world.timer.divInternal = false →
      (world.apply .resetDiv).memory 0xFF05 = world.memory 0xFF05
  divider : (world.apply .resetDiv).timer.divInternal = 0
  register : (world.apply .resetDiv).memory 0xFF04 = 0

/-- A reset of the divider never changes `TIMA`, so it does what it should
exactly when the timer input is low. -/
theorem resetDiv_clocks_tima_iff
    (memory : FlatMemory) (operations : List TimerOperation) :
    let world := run { timer := {}, memory := memory } operations
    world.ResetClocksTima ↔
      timerSignal (world.memory 0xFF07) world.timer.divInternal = false := by
  intro world
  have reset :=
    Timer.resetDiv_of_forgotten
      (run_prevDivValue memory operations) world.memory
  have memoryAfter :
      (world.apply .resetDiv).memory =
        Function.update (Function.update world.memory divAddr 0) timaAddr
          (world.memory timaAddr) :=
    congrArg Prod.snd reset
  have tima :
      (world.apply .resetDiv).memory 0xFF05 = world.memory 0xFF05 := by
    rw [memoryAfter]
    exact Function.update_self timaAddr _ _
  constructor
  · intro clocks
    by_contra high
    rw [Bool.not_eq_false] at high
    by_cases full : world.memory 0xFF05 = 0xFF
    · have wrapped := (clocks.overflows high full).1
      rw [tima, full] at wrapped
      exact absurd wrapped (by decide)
    · have counted := clocks.counts high full
      rw [tima] at counted
      bv_omega
  · intro low
    have notHigh :
        timerSignal (world.memory 0xFF07) world.timer.divInternal ≠ true := by
      rw [low]
      exact Bool.false_ne_true
    exact
      { counts := fun high => absurd high notHigh
        overflows := fun high => absurd high notHigh
        keeps := fun _ => tima
        divider := Timer.resetDiv_divInternal _ _
        register := by
          rw [memoryAfter]
          rfl }

/-- With `TAC` at `0x05` and two updates of one unit the selected bit is set,
and the reset counts nothing. -/
theorem resetDiv_misses_edge :
    ¬ ∀ (memory : FlatMemory) (operations : List TimerOperation),
      ResetClocksTima (run { timer := {}, memory := memory } operations) := by
  intro always
  have clocks :=
    always (fun _ => 0) [.store 0xFF07 0x05, .update 1, .update 1]
  have counted := clocks.counts (by decide) (by decide)
  exact absurd counted (by decide)

end TimerWorld

end CyclePerfectGameboy
