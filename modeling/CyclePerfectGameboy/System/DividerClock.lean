import CyclePerfectGameboy.System.TimerWorld
import Mathlib.Data.List.Induction

/-!
# The divider as a clock

Four times the exact sum of the updates since the last reset, reduced to
sixteen bits, is the divider; its upper half is what `DIV` shows after an
update.
-/

namespace CyclePerfectGameboy

namespace TimerOperation

/-- The time since the last reset, after one more operation. -/
def elapse (time : Nat) : TimerOperation → Nat
  | .initialized | .resetDiv => 0
  | .update cycles => time + cycles.toNat
  | .tacUpdated _ _ | .store _ _ => time

end TimerOperation

namespace TimerWorld

/-- The exact sum of the updates since the last `initialize` or
`reset_div`. -/
def elapsed (operations : List TimerOperation) : Nat :=
  operations.foldl TimerOperation.elapse 0

theorem elapsed_concat
    (operations : List TimerOperation) (operation : TimerOperation) :
    elapsed (operations ++ [operation]) =
      operation.elapse (elapsed operations) := by
  rw [elapsed, List.foldl_append]
  rfl

/-- The divider and its register show a time. -/
structure ShowsTime (world : TimerWorld) (time : Nat) : Prop where
  divider : world.timer.divInternal.toNat = 4 * time % 2 ^ 16
  register : (world.memory 0xFF04).toNat = 4 * time / 256 % 256

theorem highByte_toNat (value : Word) :
    (highByte value).toNat = value.toNat / 256 := by
  have small := value.isLt
  rw [highByte, BitVec.toNat_setWidth, BitVec.toNat_ushiftRight,
    Nat.shiftRight_eq_div_pow]
  omega

/-- An update stores the upper half of the divider that it leaves. -/
theorem update_register (world : TimerWorld) (cycles : Cycles) :
    (world.apply (.update cycles)).memory 0xFF04 =
      highByte (world.apply (.update cycles)).timer.divInternal := by
  have apart : (0xFF04 : Address) ≠ timaAddr := by decide
  simp only [apply, ofResult, Timer.update, Timer.writeRegisters,
    FlatMemory.write_eq]
  rw [Function.update_of_ne apart]
  exact Function.update_self _ _ _

/-- Whatever the operation, the divider stays with the elapsed time. -/
theorem apply_divider
    {world : TimerWorld} {time : Nat}
    (shown : world.timer.divInternal.toNat = 4 * time % 2 ^ 16)
    (operation : TimerOperation) :
    (world.apply operation).timer.divInternal.toNat =
      4 * operation.elapse time % 2 ^ 16 := by
  cases operation with
  | initialized =>
      rfl
  | resetDiv =>
      exact congrArg BitVec.toNat (Timer.resetDiv_divInternal _ _)
  | update cycles =>
      change (world.timer.update world.memory cycles).1.divInternal.toNat = _
      rw [Timer.update_divInternal, Timer.divider_toNat, shown,
        TimerOperation.elapse, Nat.mod_add_mod, Nat.mul_add]
  | tacUpdated oldTac newTac =>
      change (world.timer.tacUpdated world.memory oldTac
        newTac).1.divInternal.toNat = _
      rw [Timer.tacUpdated_divInternal]
      exact shown
  | store addr value =>
      exact shown

theorem run_divider
    {start : TimerWorld} (cleared : start.timer.divInternal = 0)
    (operations : List TimerOperation) :
    (start.run operations).timer.divInternal.toNat =
      4 * elapsed operations % 2 ^ 16 := by
  induction operations using List.reverseRecOn with
  | nil =>
      exact congrArg BitVec.toNat cleared
  | append_singleton earlier operation inductionHypothesis =>
      rw [run_concat, elapsed_concat]
      exact apply_divider inductionHypothesis operation

theorem run_update_showsTime
    {start : TimerWorld} (cleared : start.timer.divInternal = 0)
    (earlier : List TimerOperation) (cycles : Cycles) :
    (start.run (earlier ++ [.update cycles])).ShowsTime
      (elapsed (earlier ++ [.update cycles])) := by
  have divider := run_divider cleared (earlier ++ [.update cycles])
  refine ⟨divider, ?_⟩
  have register :=
    update_register (start.run earlier) cycles
  rw [run_concat] at divider ⊢
  rw [register, highByte_toNat, divider]
  omega

/-- From `initialize` on, the divider and `DIV` show the elapsed time after
every update, and nothing but the elapsed time. -/
theorem divider_is_exact_clock :
    (∀ (world : TimerWorld) (earlier : List TimerOperation)
        (cycles : Cycles),
      ((world.apply .initialized).run
          (earlier ++ [.update cycles])).ShowsTime
        (elapsed (earlier ++ [.update cycles]))) ∧
      ∀ (left right : TimerWorld)
          (leftEarlier rightEarlier : List TimerOperation)
          (leftCycles rightCycles : Cycles),
        elapsed (leftEarlier ++ [.update leftCycles]) =
            elapsed (rightEarlier ++ [.update rightCycles]) →
          let leftFinal :=
            (left.apply .initialized).run
              (leftEarlier ++ [.update leftCycles])
          let rightFinal :=
            (right.apply .initialized).run
              (rightEarlier ++ [.update rightCycles])
          leftFinal.timer.divInternal = rightFinal.timer.divInternal ∧
            leftFinal.memory 0xFF04 = rightFinal.memory 0xFF04 := by
  have shows :
      ∀ (world : TimerWorld) (earlier : List TimerOperation)
          (cycles : Cycles),
        ((world.apply .initialized).run
            (earlier ++ [.update cycles])).ShowsTime
          (elapsed (earlier ++ [.update cycles])) := by
    intro world earlier cycles
    exact run_update_showsTime rfl earlier cycles
  refine ⟨shows, ?_⟩
  intro left right leftEarlier rightEarlier leftCycles rightCycles same
  have leftShows := shows left leftEarlier leftCycles
  have rightShows := shows right rightEarlier rightCycles
  rw [← same] at rightShows
  constructor
  · exact BitVec.eq_of_toNat_eq
      (leftShows.divider.trans rightShows.divider.symm)
  · exact BitVec.eq_of_toNat_eq
      (leftShows.register.trans rightShows.register.symm)

/-- A store to `DIV` and another cut of the same time change nothing. -/
theorem divider_ignores_cut_and_store :
    let world : TimerWorld := { timer := {}, memory := fun _ => 0 }
    (((world.apply .initialized).run
            ([.update 200, .store 0xFF04 0x77] ++
              [.update 200])).timer.divInternal =
        ((world.apply .initialized).run
            ([.update 255, .update 100] ++
              [.update 45])).timer.divInternal) ∧
      ((world.apply .initialized).run
            ([.update 200, .store 0xFF04 0x77] ++
              [.update 200])).memory 0xFF04 =
        ((world.apply .initialized).run
            ([.update 255, .update 100] ++
              [.update 45])).memory 0xFF04 := by
  intro world
  exact
    divider_is_exact_clock.2 world world
      [.update 200, .store 0xFF04 0x77] [.update 255, .update 100] 200 45
      (by decide)

end TimerWorld

end CyclePerfectGameboy
