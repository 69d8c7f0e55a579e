import CyclePerfectGameboy.Foundations.BudgetLoop

/-!
# Comparing two step functions

Two systems in lockstep stay related and spend the same, and a system agrees
with a reference along a whole run exactly when it agrees step by step.
-/

namespace CyclePerfectGameboy.Lockstep

universe u v

section Agreement

variable {State : Type u}

/-- An invariant of the step function holds along the run. -/
theorem iterate_invariant
    {step : State → State} {Invariant : State → Prop}
    (preserved : ∀ state, Invariant state → Invariant (step state))
    {state : State} (start : Invariant state) (count : Nat) :
    Invariant (step^[count] state) := by
  induction count with
  | zero =>
      exact start
  | succ count inductionHypothesis =>
      rw [Function.iterate_succ_apply']
      exact preserved _ inductionHypothesis

/-- Two runs from one state agree up to `count` steps exactly when the
condition for agreeing in one step holds at every state on the way. -/
theorem runs_agree_iff
    {actual reference : State → State}
    {Invariant Condition : State → Prop}
    (preserved : ∀ state, Invariant state → Invariant (actual state))
    (agrees :
      ∀ state, Invariant state →
        (actual state = reference state ↔ Condition state))
    {state : State} (start : Invariant state) (count : Nat) :
    (∀ k ≤ count, actual^[k] state = reference^[k] state) ↔
      ∀ k < count, Condition (actual^[k] state) := by
  constructor
  · intro same k before
    have here := same k (Nat.le_of_lt before)
    have next := same (k + 1) before
    rw [Function.iterate_succ_apply', Function.iterate_succ_apply',
      ← here] at next
    exact (agrees _ (iterate_invariant preserved start k)).mp next
  · intro holds k order
    induction k with
    | zero =>
        rfl
    | succ k inductionHypothesis =>
        have here := inductionHypothesis (Nat.le_of_succ_le order)
        have next :=
          (agrees _ (iterate_invariant preserved start k)).mpr
            (holds k order)
        rw [Function.iterate_succ_apply', Function.iterate_succ_apply',
          ← here, next]

end Agreement

section Budget

open BudgetLoop

variable {Left : Type u} {Right : Type v} {width : Nat}
variable {left : Left → BitVec width × Left}
variable {right : Right → BitVec width × Right}

/-- An invariant of the loop body holds after every pass. -/
theorem after_invariant
    {Invariant : Left → Prop}
    (preserved : ∀ state, Invariant state → Invariant (left state).2)
    {state : Left} (start : Invariant state) (passes : Nat) :
    Invariant (after left passes state) :=
  iterate_invariant preserved start passes

/-- Related bodies report the same cost and lead to related states. -/
def Related (Relation : Left → Right → Prop)
    (left : Left → BitVec width × Left)
    (right : Right → BitVec width × Right) : Prop :=
  ∀ a b, Relation a b →
    (left a).1 = (right b).1 ∧ Relation (left a).2 (right b).2

theorem after_related
    {Relation : Left → Right → Prop}
    (related : Related Relation left right)
    (passes : Nat) {a : Left} {b : Right} (start : Relation a b) :
    Relation (after left passes a) (after right passes b) := by
  induction passes generalizing a b with
  | zero =>
      exact start
  | succ passes inductionHypothesis =>
      rw [after_succ, after_succ]
      exact inductionHypothesis (related a b start).2

theorem spent_related
    {Relation : Left → Right → Prop}
    (related : Related Relation left right)
    (passes : Nat) {a : Left} {b : Right} (start : Relation a b) :
    spent left passes a = spent right passes b := by
  induction passes generalizing a b with
  | zero =>
      rfl
  | succ passes inductionHypothesis =>
      rw [spent, spent, (related a b start).1,
        inductionHypothesis (related a b start).2]

/-- In lockstep the two loops exit after the same passes, in related
states. -/
theorem loop_related
    {Relation : Left → Right → Prop}
    (related : Related Relation left right)
    (budget executed : BitVec width) (fuel : Nat)
    {a : Left} {b : Right} (start : Relation a b) :
    Option.Rel Relation (loop left budget fuel executed a)
      (loop right budget fuel executed b) := by
  induction fuel generalizing executed a b with
  | zero =>
      rw [loop, loop]
      split
      · exact Option.Rel.none
      · exact Option.Rel.some start
  | succ fuel inductionHypothesis =>
      rcases related a b start with ⟨sameCost, next⟩
      rw [loop, loop, sameCost]
      split
      · exact inductionHypothesis _ next
      · exact Option.Rel.some start

/-- In lockstep the two shortest prefixes have the same length. -/
theorem reaches_related
    {Relation : Left → Right → Prop}
    (related : Related Relation left right)
    {budget : BitVec width} {a : Left} {b : Right}
    (start : Relation a b) {passes : Nat}
    (reaches : Reaches left budget a passes) :
    Reaches right budget b passes := by
  refine ⟨?_, ?_⟩
  · rw [← spent_related related passes start]
    exact reaches.1
  · intro earlier before
    rw [← spent_related related earlier start]
    exact reaches.2 earlier before

/-- Bodies need to agree only on the states that one of them meets. -/
theorem agree_along
    {other : Left → BitVec width × Left} {state : Left} {passes : Nat}
    (agree :
      ∀ earlier < passes,
        left (after left earlier state) = other (after left earlier state)) :
    after left passes state = after other passes state ∧
      spent left passes state = spent other passes state := by
  induction passes with
  | zero =>
      exact ⟨rfl, rfl⟩
  | succ passes inductionHypothesis =>
      have last := agree passes (Nat.lt_succ_self passes)
      rcases inductionHypothesis
          (fun earlier before => agree earlier (Nat.lt_succ_of_lt before))
        with ⟨reached, cost⟩
      constructor
      · rw [after_succ', after_succ', last, reached]
      · rw [spent_succ', spent_succ', last, reached, cost]

/-- A shortest prefix is one of the other body if the two agree on it. -/
theorem reaches_of_agree
    {other : Left → BitVec width × Left} {budget : BitVec width}
    {state : Left} {passes : Nat}
    (agree :
      ∀ earlier < passes,
        left (after left earlier state) = other (after left earlier state))
    (reaches : Reaches left budget state passes) :
    Reaches other budget state passes := by
  refine ⟨?_, ?_⟩
  · rw [← (agree_along agree).2]
    exact reaches.1
  · intro earlier before
    rw [← (agree_along (fun first below =>
      agree first (Nat.lt_trans below before))).2]
    exact reaches.2 earlier before

end Budget

end CyclePerfectGameboy.Lockstep
