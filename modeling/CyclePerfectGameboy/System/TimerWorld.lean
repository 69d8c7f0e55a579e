import CyclePerfectGameboy.System.TimerEdges

/-!
# A timer and its memory

The unit tests drive a timer over a memory of their own: here the two form
one state, and the calls and stores of a test are its operations.
-/

namespace CyclePerfectGameboy

/-- The input of the `TIMA` counter: the enable bit of `TAC` and the divider
bit that `TAC` selects. -/
def timerSignal (tac : Byte) (divider : Word) : Bool :=
  tacEnabled tac &&
    divider &&& bitPositions.getD (tacClockSelect tac).toNat 0 != 0

/-- The falling edge of that input that a call of `update` can see: high
before its clocks and low after them. -/
def timerEdge (tac : Byte) (divider : Word) (cycles : Cycles) : Bool :=
  timerSignal tac divider &&
    !timerSignal tac (divider + cycles.setWidth 16 * 4)

theorem timerEdge_iff
    {tac : Byte} (enabled : tacEnabled tac = true)
    (divider : Word) (cycles : Cycles) :
    timerEdge tac divider cycles = true ↔
      divider &&& bitPositions.getD (tacClockSelect tac).toNat 0 ≠ 0 ∧
        (divider + cycles.setWidth 16 * 4) &&&
          bitPositions.getD (tacClockSelect tac).toNat 0 = 0 := by
  simp only [timerEdge, timerSignal, enabled, Bool.true_and,
    Bool.and_eq_true, Bool.not_eq_true', bne_iff_ne, bne_eq_false_iff_eq]

/-- The second part of `update`: the divider moves, and an edge counts. -/
theorem Timer.advanceDivider_eq (timer : Timer) (cycles : Cycles) :
    timer.advanceDivider cycles =
      if timerEdge timer.tac timer.divInternal cycles then
        incrementTima
          { timer with
            divInternal := timer.divInternal + cycles.setWidth 16 * 4 }
      else
        { timer with
          divInternal := timer.divInternal + cycles.setWidth 16 * 4 } := by
  by_cases enabled : tacEnabled timer.tac = true
  · have edges := timerEdge_iff enabled timer.divInternal cycles
    by_cases edge : timerEdge timer.tac timer.divInternal cycles = true
    · rw [if_pos edge]
      exact advanceDivider_of_edge enabled (edges.mp edge)
    · rw [if_neg edge]
      exact
        advanceDivider_of_steady enabled
          (fun seen => edge (edges.mpr seen))
  · have noEdge :
        ¬ timerEdge timer.tac timer.divInternal cycles = true := by
      simp [timerEdge, timerSignal, enabled]
    rw [if_neg noEdge]
    exact if_neg enabled

structure TimerWorld where
  timer : Timer
  memory : FlatMemory

inductive TimerOperation where
  | initialized
  | update (cycles : Cycles)
  | resetDiv
  | tacUpdated (oldTac newTac : Byte)
  | store (addr : Address) (value : Byte)
  deriving DecidableEq, Repr

namespace TimerWorld

/-- The state that a call of the timer leaves. -/
def ofResult (result : Timer × FlatMemory) : TimerWorld :=
  { timer := result.1, memory := result.2 }

def apply (world : TimerWorld) : TimerOperation → TimerWorld
  | .initialized => ofResult (world.timer.initialized world.memory)
  | .update cycles => ofResult (world.timer.update world.memory cycles)
  | .resetDiv => ofResult (world.timer.resetDiv world.memory)
  | .tacUpdated oldTac newTac =>
      ofResult (world.timer.tacUpdated world.memory oldTac newTac)
  | .store addr value =>
      { world with memory := write world.memory addr value }

def run (world : TimerWorld) (operations : List TimerOperation) :
    TimerWorld :=
  operations.foldl apply world

theorem run_append
    (world : TimerWorld) (earlier later : List TimerOperation) :
    world.run (earlier ++ later) = (world.run earlier).run later :=
  List.foldl_append

theorem run_concat
    (world : TimerWorld) (earlier : List TimerOperation)
    (operation : TimerOperation) :
    world.run (earlier ++ [operation]) =
      (world.run earlier).apply operation :=
  world.run_append earlier [operation]

/-- What every operation keeps holds after a run. -/
theorem run_invariant
    {Invariant : TimerWorld → Prop}
    {operations : List TimerOperation}
    (preserved :
      ∀ world, ∀ operation ∈ operations,
        Invariant world → Invariant (world.apply operation))
    {world : TimerWorld} (start : Invariant world) :
    Invariant (world.run operations) := by
  induction operations generalizing world with
  | nil =>
      exact start
  | cons operation rest inductionHypothesis =>
      apply inductionHypothesis
      · intro world later member
        exact preserved world later (List.mem_cons_of_mem _ member)
      · exact preserved world operation (List.mem_cons_self) start

end TimerWorld

end CyclePerfectGameboy
