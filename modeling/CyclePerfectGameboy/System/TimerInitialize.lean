import CyclePerfectGameboy.System.TimerOverflow

/-!
# Initialising the timer

`initialize` clears the private copies of all registers but stores only `DIV`
and `TIMA`; the next update reads `TMA` and `TAC` back from the memory.
-/

namespace CyclePerfectGameboy

open EventLog

/-- `DIV`, `TIMA`, `TMA` and `TAC`. -/
def timerRegisters : List Address :=
  [divAddr, timaAddr, tmaAddr, tacAddr]

namespace TimerOperation

/-- An update, or a store to something other than a timer register. -/
def LeavesRegisters : TimerOperation → Prop
  | .update _ => True
  | .store addr _ => addr ∉ timerRegisters
  | _ => False

end TimerOperation

namespace TimerWorld

/-- Left to its updates, the timer keeps `TIMA` at zero and requests no
interrupt. -/
structure StaysStopped (start : TimerWorld) : Prop where
  tima :
    ∀ operations : List TimerOperation,
      (∀ operation ∈ operations, operation.LeavesRegisters) →
        (start.run operations).memory 0xFF05 = 0
  silent :
    ∀ operations : List TimerOperation,
      (∀ operation ∈ operations, operation.LeavesRegisters) →
        trace apply requestEvents start operations = []

/-- What `initialize` is for. -/
structure StopsTimer (world : TimerWorld) : Prop where
  tima : (world.apply .initialized).memory 0xFF05 = 0
  tma : (world.apply .initialized).memory 0xFF06 = 0
  tac : (world.apply .initialized).memory 0xFF07 = 0
  stopped : (world.apply .initialized).StaysStopped

theorem initialized_memory (world : TimerWorld) :
    (world.apply .initialized).memory =
      Function.update (Function.update world.memory divAddr 0) timaAddr 0 :=
  rfl

/-- `TMA` and `TAC` keep what they held before. -/
theorem initialized_memory_of_ne
    (world : TimerWorld) {addr : Address}
    (notDiv : addr ≠ divAddr) (notTima : addr ≠ timaAddr) :
    (world.apply .initialized).memory addr = world.memory addr := by
  rw [initialized_memory, Function.update_of_ne notTima,
    Function.update_of_ne notDiv]

/-- An update that finds nothing pending and sees no edge moves only the
divider. -/
theorem update_of_steady
    {world : TimerWorld} {cycles : Cycles}
    (idle : world.timer.timaOverflow = false)
    (steady : world.seesEdge cycles = false) :
    (world.apply (.update cycles)).timer.timaOverflow = false ∧
      (world.apply (.update cycles)).memory timaAddr =
        world.memory timaAddr := by
  have notOverdue : world.timer.overdue cycles = false := by
    rw [Timer.overdue, idle, Bool.false_and]
  constructor
  · rw [update_pending, overflows, steady, idle]
    rfl
  · rw [update_tima, countedTima_eq, steady, notOverdue]
    exact BitVec.add_zero _

/-- The timer is disabled with nothing pending and `TIMA` at zero. -/
structure Quiet (world : TimerWorld) : Prop where
  disabled : tacEnabled (world.memory tacAddr) = false
  idle : world.timer.timaOverflow = false
  tima : world.memory timaAddr = 0

theorem seesEdge_of_disabled
    {world : TimerWorld}
    (disabled : tacEnabled (world.memory tacAddr) = false)
    (cycles : Cycles) :
    world.seesEdge cycles = false := by
  rw [seesEdge, timerEdge, timerSignal, disabled]
  rfl

theorem apply_quiet
    {world : TimerWorld} (quiet : world.Quiet)
    {operation : TimerOperation} (leaves : operation.LeavesRegisters) :
    (world.apply operation).Quiet := by
  cases operation with
  | update cycles =>
      have steady := seesEdge_of_disabled quiet.disabled cycles
      rcases update_of_steady quiet.idle steady with ⟨idle, tima⟩
      have tac :=
        update_memory world cycles (show tacAddr ≠ divAddr by decide)
          (show tacAddr ≠ timaAddr by decide)
          (show tacAddr ≠ 0xFF0F by decide)
      exact
        { disabled := by
            rw [tac]
            exact quiet.disabled
          idle := idle
          tima := tima.trans quiet.tima }
  | store addr value =>
      have elsewhere : addr ∉ timerRegisters := leaves
      have kept :
          ∀ register ∈ timerRegisters,
            (world.apply (.store addr value)).memory register =
              world.memory register := by
        intro register member
        apply Function.update_of_ne
        rintro rfl
        exact elsewhere member
      exact
        { disabled := by
            rw [kept tacAddr (by decide)]
            exact quiet.disabled
          idle := quiet.idle
          tima := by
            rw [kept timaAddr (by decide)]
            exact quiet.tima }
  | initialized | resetDiv | tacUpdated =>
      exact absurd leaves id

theorem quiet_silent
    {world : TimerWorld} (quiet : world.Quiet)
    (operation : TimerOperation) :
    world.requestEvents operation = [] := by
  cases operation with
  | update cycles =>
      have notOverdue : world.timer.overdue cycles = false := by
        rw [Timer.overdue, quiet.idle, Bool.false_and]
      rw [update_requests_eq, notOverdue]
      rfl
  | initialized | resetDiv | tacUpdated | store =>
      rfl

theorem Quiet.staysStopped
    {start : TimerWorld} (quiet : start.Quiet) : start.StaysStopped where
  tima := by
    intro operations leaves
    have preserved :
        ∀ world : TimerWorld, ∀ operation ∈ operations,
          world.Quiet → (world.apply operation).Quiet := by
      intro world operation member quiet
      exact apply_quiet quiet (leaves operation member)
    exact (run_invariant preserved quiet).tima
  silent := by
    intro operations leaves
    induction operations generalizing start with
    | nil =>
        rfl
    | cons operation rest inductionHypothesis =>
        have next :=
          apply_quiet quiet (leaves operation List.mem_cons_self)
        rw [trace, quiet_silent quiet, List.nil_append]
        exact inductionHypothesis next
          (fun later member =>
            leaves later (List.mem_cons_of_mem operation member))

/-! ## A timer that runs on -/

/-- Half a period of the selected bit, as the argument of an update. -/
def halfPeriod (tac : Byte) : Cycles :=
  ((bitPositions.getD (tacClockSelect tac).toNat 0) >>> 2).setWidth 8

/-- From a cleared divider the first half period is steady, and the second
ends in an edge. -/
theorem halfPeriod_edges :
    ∀ tac : Byte, tacEnabled tac = true →
      timerEdge tac 0 (halfPeriod tac) = false ∧
        timerEdge tac (0 + (halfPeriod tac).setWidth 16 * 4)
          (halfPeriod tac) = true := by
  decide

/-- Two updates make an enabled timer count. -/
theorem two_updates_count
    {start : TimerWorld} (cleared : start.timer.divInternal = 0)
    (idle : start.timer.timaOverflow = false)
    (tima : start.memory timaAddr = 0)
    (enabled : tacEnabled (start.memory tacAddr) = true) :
    let half := halfPeriod (start.memory tacAddr)
    (start.run [.update half, .update half]).memory timaAddr = 1 := by
  intro half
  rcases halfPeriod_edges (start.memory tacAddr) enabled with
    ⟨steady, edge⟩
  have first : start.seesEdge half = false := by
    rw [seesEdge, cleared]
    exact steady
  rcases update_of_steady idle first with ⟨idleThen, timaThen⟩
  have tacThen :=
    update_memory start half (show tacAddr ≠ divAddr by decide)
      (show tacAddr ≠ timaAddr by decide)
      (show tacAddr ≠ 0xFF0F by decide)
  have dividerThen :
      (start.apply (.update half)).timer.divInternal =
        0 + half.setWidth 16 * 4 := by
    rw [← cleared]
    exact Timer.update_divInternal start.timer start.memory half
  have second : (start.apply (.update half)).seesEdge half = true := by
    rw [seesEdge, tacThen, dividerThen]
    exact edge
  have notOverdue :
      (start.apply (.update half)).timer.overdue half = false := by
    rw [Timer.overdue, idleThen, Bool.false_and]
  change ((start.apply (.update half)).apply (.update half)).memory
    timaAddr = 1
  rw [update_tima, countedTima_eq, second, notOverdue]
  change (start.apply (.update half)).memory timaAddr + 1 = 1
  rw [timaThen, tima]
  rfl

/-- `initialize` stops the timer exactly if `TMA` and `TAC` are zero already;
it keeps the timer still exactly if `TAC` has it disabled. -/
theorem initialize_stops_timer_iff (world : TimerWorld) :
    (world.StopsTimer ↔
        world.memory 0xFF06 = 0 ∧ world.memory 0xFF07 = 0) ∧
      ((world.apply .initialized).StaysStopped ↔
        tacEnabled (world.memory 0xFF07) = false) := by
  have tma : (world.apply .initialized).memory 0xFF06 = world.memory 0xFF06 :=
    initialized_memory_of_ne world (by decide) (by decide)
  have tac : (world.apply .initialized).memory 0xFF07 = world.memory 0xFF07 :=
    initialized_memory_of_ne world (by decide) (by decide)
  have tima : (world.apply .initialized).memory timaAddr = 0 := by
    rw [initialized_memory]
    exact Function.update_self _ _ _
  have cleared : (world.apply .initialized).timer.divInternal = 0 := rfl
  have idle : (world.apply .initialized).timer.timaOverflow = false := rfl
  have stopped :
      (world.apply .initialized).StaysStopped ↔
        tacEnabled (world.memory 0xFF07) = false := by
    constructor
    · intro stays
      by_contra enabled
      rw [Bool.not_eq_false, ← tac] at enabled
      have counted :=
        two_updates_count cleared idle tima enabled
      have zero :=
        stays.tima
          [.update (halfPeriod ((world.apply .initialized).memory tacAddr)),
            .update (halfPeriod ((world.apply .initialized).memory tacAddr))]
          (by simp [TimerOperation.LeavesRegisters])
      exact absurd (counted.symm.trans zero) (by decide)
    · intro disabled
      have quiet : (world.apply .initialized).Quiet :=
        { disabled := by
            rw [show tacAddr = 0xFF07 from rfl, tac]
            exact disabled
          idle := idle
          tima := tima }
      exact quiet.staysStopped
  refine ⟨?_, stopped⟩
  constructor
  · intro stops
    exact ⟨tma.symm.trans stops.tma, tac.symm.trans stops.tac⟩
  · rintro ⟨noModulo, noControl⟩
    exact
      { tima := tima
        tma := tma.trans noModulo
        tac := tac.trans noControl
        stopped := by
          rw [stopped, noControl]
          decide }

/-- Over a memory of `0x05` the timer goes on counting. -/
theorem initialize_keeps_control :
    ¬ ∀ world : TimerWorld, world.StopsTimer := by
  intro always
  have stops := always { timer := {}, memory := fun _ => 0x05 }
  exact absurd stops.tac (by decide)

end TimerWorld

end CyclePerfectGameboy
