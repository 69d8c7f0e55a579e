import CyclePerfectGameboy.Foundations.Lockstep
import CyclePerfectGameboy.System.CycleBudget
import CyclePerfectGameboy.System.TimerLaws

/-!
# The unit of time

The handlers count clock cycles.  The timer takes their count for machine
cycles and multiplies it by four, so its divider runs at four times the speed
of the CPU.
-/

namespace CyclePerfectGameboy

open BudgetLoop Lockstep

namespace GameBoy

/-- `ClockedRun start sum gb`: some calls of `step` and `run_for_cycles` after
`reset` lead to `gb`, and the executed instructions returned `sum` cycles. -/
inductive ClockedRun (start : GameBoy) : Nat → GameBoy → Prop where
  | reset : ClockedRun start 0 start.reset
  | step {sum : Nat} {gb : GameBoy} (earlier : ClockedRun start sum gb) :
      ClockedRun start (sum + gb.step.1.toNat) gb.step.2
  | runForCycles {sum passes : Nat} {gb final : GameBoy}
      {totalCycles : BitVec 32} (earlier : ClockedRun start sum gb)
      (returned : gb.runForCycles passes totalCycles = some final)
      (running :
        ∀ fewer < passes, gb.runForCycles fewer totalCycles = none) :
      ClockedRun start (sum + spent runBody passes gb) final

theorem executeAndTime_divider (gb : GameBoy) :
    gb.executeAndTime.2.timer.divInternal.toNat =
      (gb.timer.divInternal.toNat + 4 * gb.executeAndTime.1.toNat) %
        2 ^ 16 := by
  rw [← Timer.divider_toNat]
  exact congrArg BitVec.toNat (Timer.update_divInternal ..)

theorem step_divider {gb : GameBoy} (powered : gb.poweredOn = true) :
    gb.step.2.timer.divInternal.toNat =
      (gb.timer.divInternal.toNat + 4 * gb.step.1.toNat) % 2 ^ 16 := by
  rw [step_of_powered powered, handleSerialTransfer_timer]
  exact executeAndTime_divider gb

theorem runBody_divider (gb : GameBoy) :
    (runBody gb).2.timer.divInternal.toNat =
      (gb.timer.divInternal.toNat + 4 * (runBody gb).1.toNat) % 2 ^ 16 := by
  rw [runBody_cost]
  exact executeAndTime_divider gb

theorem after_runBody_poweredOn (passes : Nat) (gb : GameBoy) :
    (after runBody passes gb).poweredOn = gb.poweredOn := by
  have kept :
      ∀ later : GameBoy, later.poweredOn = gb.poweredOn →
        (runBody later).2.poweredOn = gb.poweredOn := by
    intro later same
    exact same
  exact after_invariant kept rfl passes

theorem after_runBody_divider (passes : Nat) (gb : GameBoy) :
    (after runBody passes gb).timer.divInternal.toNat =
      (gb.timer.divInternal.toNat + 4 * spent runBody passes gb) %
        2 ^ 16 := by
  induction passes with
  | zero =>
      exact (Nat.mod_eq_of_lt gb.timer.divInternal.isLt).symm
  | succ passes inductionHypothesis =>
      rw [after_succ', runBody_divider, inductionHypothesis, spent_succ',
        Nat.mod_add_mod, Nat.mul_add, Nat.add_assoc]

/-- The invariant of a run: the divider has counted every cycle four times. -/
theorem clockedRun_divider
    {start gb : GameBoy} {sum : Nat} (run : ClockedRun start sum gb) :
    gb.poweredOn = true ∧
      gb.timer.divInternal.toNat = 4 * sum % 2 ^ 16 := by
  induction run with
  | reset =>
      exact ⟨rfl, rfl⟩
  | step _ inductionHypothesis =>
      obtain ⟨powered, divider⟩ := inductionHypothesis
      refine ⟨?_, ?_⟩
      · rw [step_of_powered powered, handleSerialTransfer_poweredOn]
        exact powered
      · rw [step_divider powered, divider, Nat.mod_add_mod, Nat.mul_add]
  | @runForCycles sum passes gb final totalCycles _ returned running
      inductionHypothesis =>
      obtain ⟨powered, divider⟩ := inductionHypothesis
      have exits : ExitsAfter runBody totalCycles gb passes final := by
        refine ⟨?_, ?_⟩
        · rw [← runForCycles_eq_loop powered]
          exact returned
        · intro fewer before
          rw [← runForCycles_eq_loop powered]
          exact running fewer before
      rw [exits.final_eq, after_runBody_poweredOn, after_runBody_divider, divider,
        Nat.mod_add_mod, Nat.mul_add]
      exact ⟨powered, rfl⟩

/-- The first step after a reset moves the divider by four times its
cycles. -/
theorem first_step_divider (start : GameBoy) :
    (after stepBody 1 start.reset).timer.divInternal.toNat =
        4 * spent stepBody 1 start.reset ∧
      0 < spent stepBody 1 start.reset ∧
      spent stepBody 1 start.reset ≤ 20 := by
  have cost :
      spent stepBody 1 start.reset = start.reset.step.1.toNat := by
    rw [spent, spent, Nat.add_zero, stepBody, toNat_widen_cycles]
  have small : 4 * start.reset.step.1.toNat < 2 ^ 16 := by
    have byte := start.reset.step.1.isLt
    omega
  have divider := step_divider (show start.reset.poweredOn = true from rfl)
  have fresh : start.reset.timer.divInternal.toNat = 0 := rfl
  rw [fresh, Nat.zero_add, Nat.mod_eq_of_lt small, ← cost] at divider
  refine ⟨divider, ?_, ?_⟩
  · exact stepBody_counts.positive start.reset
  · exact stepBody_counts.bounded start.reset

/-- The divider equals the sum of the cycle counts only where that sum is a
multiple of `2 ^ 16`, so no run of one step or more keeps it equal. -/
theorem divider_counts_cycles_iff (start : GameBoy) :
    (∀ (sum : Nat) (gb : GameBoy), ClockedRun start sum gb →
      (gb.timer.divInternal.toNat = sum % 2 ^ 16 ↔ 2 ^ 16 ∣ sum)) ∧
      ∀ count,
        (∀ k ≤ count,
          (after stepBody k start.reset).timer.divInternal.toNat =
            spent stepBody k start.reset % 2 ^ 16) ↔
          count = 0 := by
  refine ⟨?_, ?_⟩
  · intro sum gb run
    rw [(clockedRun_divider run).2]
    omega
  · intro count
    constructor
    · intro equal
      by_contra some
      have first := equal 1 (Nat.pos_of_ne_zero some)
      rcases first_step_divider start with ⟨divider, positive, bounded⟩
      rw [divider] at first
      omega
    · rintro rfl k order
      have none : k = 0 := Nat.le_zero.mp order
      subst none
      rfl

/-- After one instruction of four cycles the divider is not at four. -/
theorem divider_after_one_step :
    (ofRom {}).reset.step.2.timer.divInternal.toNat ≠
      (ofRom {}).reset.step.1.toNat % 2 ^ 16 := by
  have run :
      ClockedRun (ofRom {}) (0 + (ofRom {}).reset.step.1.toNat)
        (ofRom {}).reset.step.2 :=
    ClockedRun.step ClockedRun.reset
  have counts := (divider_counts_cycles_iff (ofRom {})).1 _ _ run
  rw [Nat.zero_add] at counts
  exact fun equal => absurd (counts.mp equal) (by decide)

/-- The first instruction of an empty cartridge takes four cycles, and the
divider moves by sixteen. -/
theorem divider_runs_fast :
    ¬ ∀ (start gb : GameBoy) (sum : Nat), ClockedRun start sum gb →
      gb.timer.divInternal.toNat = sum % 2 ^ 16 := by
  intro always
  have counted :=
    always (ofRom {}) _ _ (ClockedRun.step ClockedRun.reset)
  exact absurd counted (by decide)

end GameBoy

end CyclePerfectGameboy
