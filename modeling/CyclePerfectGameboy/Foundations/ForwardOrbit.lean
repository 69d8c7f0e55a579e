import CyclePerfectGameboy.Foundations.BudgetLoop
import Mathlib.Dynamics.BirkhoffSum.Basic
import Mathlib.Dynamics.PeriodicPts.Defs

/-!
# Orbits that only move forward

A map on machine words that takes every word further up or to zero comes back
to zero again and again.  From its first visit there the orbit goes in laps.
-/

namespace CyclePerfectGameboy.ForwardOrbit

open Function

universe u v

variable {width : Nat} {next : BitVec width → BitVec width}

/-- Every word goes up or to zero. -/
def Forward (next : BitVec width → BitVec width) : Prop :=
  ∀ pos, pos < next pos ∨ next pos = 0

/-- What is left of the words above bounds the way to zero. -/
theorem Forward.reaches_zero
    (forward : Forward next) (pos : BitVec width) :
    ∃ steps, 0 < steps ∧ pos.toNat + steps ≤ 2 ^ width ∧
      next^[steps] pos = 0 := by
  -- the induction is on the number of words above
  induction left : 2 ^ width - pos.toNat using Nat.strong_induction_on
    generalizing pos with
  | h left inductionHypothesis =>
      have room := pos.isLt
      rcases forward pos with up | back
      · have higher : pos.toNat < (next pos).toNat := up
        have nextRoom := (next pos).isLt
        obtain ⟨steps, _, bounded, arrived⟩ :=
          inductionHypothesis _ (by omega) (next pos) rfl
        exact ⟨steps + 1, Nat.succ_pos steps, by omega, arrived⟩
      · exact ⟨1, Nat.one_pos, room, back⟩

/-- The number of steps from zero back to zero. -/
noncomputable def lap (next : BitVec width → BitVec width) : Nat :=
  minimalPeriod next 0

theorem lap_isPeriodic (next : BitVec width → BitVec width) :
    IsPeriodicPt next (lap next) 0 :=
  isPeriodicPt_minimalPeriod next 0

theorem Forward.lap_pos (forward : Forward next) : 0 < lap next := by
  rcases forward.reaches_zero 0 with ⟨steps, positive, _, arrived⟩
  exact IsPeriodicPt.minimalPeriod_pos positive arrived

theorem Forward.lap_le (forward : Forward next) :
    lap next ≤ 2 ^ width := by
  rcases forward.reaches_zero 0 with ⟨steps, positive, bounded, arrived⟩
  have shortest : lap next ≤ steps :=
    IsPeriodicPt.minimalPeriod_le positive arrived
  omega

/-- A rank that grows by at most one in a step bounds the way to zero from
below. -/
theorem height_le_of_returns
    {rank : BitVec width → Nat} {height : Nat}
    (climbs : ∀ pos, next pos ≠ 0 → rank (next pos) ≤ rank pos + 1)
    (top : ∀ pos, next pos = 0 → height ≤ rank pos + 1)
    {steps : Nat} (positive : 0 < steps) {pos : BitVec width}
    (arrived : next^[steps] pos = 0) :
    height ≤ rank pos + steps := by
  induction steps generalizing pos with
  | zero =>
      exact absurd positive (Nat.lt_irrefl 0)
  | succ steps inductionHypothesis =>
      rw [iterate_succ_apply] at arrived
      by_cases back : next pos = 0
      · have reached := top pos back
        omega
      · have more : 0 < steps := by
          by_contra none
          rw [Nat.le_zero.mp (Nat.le_of_not_lt none)] at arrived
          exact back arrived
        have rest := inductionHypothesis more arrived
        have one := climbs pos back
        omega

theorem Forward.height_le_lap
    (forward : Forward next) {rank : BitVec width → Nat} {height : Nat}
    (start : rank 0 = 0)
    (climbs : ∀ pos, next pos ≠ 0 → rank (next pos) ≤ rank pos + 1)
    (top : ∀ pos, next pos = 0 → height ≤ rank pos + 1) :
    height ≤ lap next := by
  have bound :=
    height_le_of_returns climbs top forward.lap_pos (lap_isPeriodic next)
  omega

section Sums

variable {State : Type u} {Total : Type v} [AddCancelCommMonoid Total]
variable {step : State → State}

/-- Over one period the sum is the same wherever on the orbit it starts. -/
theorem birkhoffSum_of_periodic
    {period : Nat} {state : State}
    (periodic : IsPeriodicPt step period state) (cost : State → Total)
    (steps : Nat) :
    birkhoffSum step cost period (step^[steps] state) =
      birkhoffSum step cost period state := by
  induction steps with
  | zero =>
      rfl
  | succ steps inductionHypothesis =>
      have around := (periodic.apply_iterate steps).eq
      have first :=
        birkhoffSum_succ' step cost period (step^[steps] state)
      have last := birkhoffSum_succ step cost period (step^[steps] state)
      rw [around] at last
      rw [iterate_succ_apply', ← inductionHypothesis]
      refine add_left_cancel (a := cost (step^[steps] state)) ?_
      rw [← first, last, add_comm]

/-- A period later the orbit is where it was and has spent the cost of one
period. -/
theorem birkhoffSum_add_period
    {period first : Nat} {start state : State}
    (arrived : step^[first] start = state)
    (periodic : IsPeriodicPt step period state) (cost : State → Total)
    (more : Nat) :
    step^[first + more + period] start = step^[first + more] start ∧
      birkhoffSum step cost (first + more + period) start =
        birkhoffSum step cost (first + more) start +
          birkhoffSum step cost period state := by
  have later : step^[first + more] start = step^[more] state := by
    rw [Nat.add_comm first more, iterate_add_apply, arrived]
  constructor
  · rw [Nat.add_comm (first + more) period, iterate_add_apply, later]
    exact periodic.apply_iterate more
  · rw [birkhoffSum_add, later, birkhoffSum_of_periodic periodic]

end Sums

/-- What a loop spends is the sum of its costs along the orbit of its body. -/
theorem spent_eq_birkhoffSum
    {State : Type u} (body : State → BitVec width × State)
    (passes : Nat) (state : State) :
    BudgetLoop.spent body passes state =
      birkhoffSum (fun state => (body state).2)
        (fun state => (body state).1.toNat) passes state := by
  induction passes generalizing state with
  | zero =>
      rfl
  | succ passes inductionHypothesis =>
      rw [BudgetLoop.spent, birkhoffSum_succ', inductionHypothesis]

end CyclePerfectGameboy.ForwardOrbit
