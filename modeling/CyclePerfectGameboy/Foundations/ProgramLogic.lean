import CyclePerfectGameboy.Foundations.BudgetLoop

/-!
# Pre- and postconditions with exact costs

The commands of a straight-line program are passes of one loop body.  A triple
says where a number of passes leads and what they cost, so the loop that the
body belongs to can be given exactly that budget.
-/

namespace CyclePerfectGameboy.ProgramLogic

open BudgetLoop

universe u v w

variable {State : Type u} {width : Nat}

/-- From every state of `before`, `passes` passes lead into `behind` and cost
`cost` in all. -/
def Triple (body : State → BitVec width × State) (before : State → Prop)
    (passes cost : Nat) (behind : State → Prop) : Prop :=
  ∀ state, before state →
    behind (after body passes state) ∧ spent body passes state = cost

variable {body : State → BitVec width × State}

theorem Triple.skip (assertion : State → Prop) :
    Triple body assertion 0 0 assertion :=
  fun _ holds => ⟨holds, rfl⟩

theorem Triple.command
    {before behind : State → Prop} {cost : Nat}
    (once :
      ∀ state, before state →
        behind (body state).2 ∧ (body state).1.toNat = cost) :
    Triple body before 1 cost behind := by
  intro state holds
  exact once state holds

theorem Triple.sequence
    {before middle behind : State → Prop} {first second : Nat}
    {firstCost secondCost : Nat}
    (left : Triple body before first firstCost middle)
    (right : Triple body middle second secondCost behind) :
    Triple body before (first + second) (firstCost + secondCost) behind := by
  intro state holds
  rcases left state holds with ⟨reached, leftCost⟩
  rcases right _ reached with ⟨reachedBehind, rightCost⟩
  rw [after_add, spent_add, leftCost, rightCost]
  exact ⟨reachedBehind, rfl⟩

/-- A block that is unrolled `count` times, with an invariant that counts the
blocks. -/
theorem Triple.unroll
    (invariant : Nat → State → Prop) {passes cost count : Nat}
    (block :
      ∀ index < count,
        Triple body (invariant index) passes cost (invariant (index + 1))) :
    Triple body (invariant 0) (passes * count) (cost * count)
      (invariant count) := by
  induction count with
  | zero =>
      exact Triple.skip (invariant 0)
  | succ count inductionHypothesis =>
      have earlier :=
        inductionHypothesis
          (fun index before => block index (Nat.lt_succ_of_lt before))
      exact earlier.sequence (block count (Nat.lt_succ_self count))

section Programs

variable {Value : Type v} {Command : Type w}
variable (next : Value → Command → Value)
variable (ready : Value → Command → Prop)

/-- Every command is ready for the value that the commands before it leave. -/
def ReadyAlong : List Command → Value → Prop
  | [], _ => True
  | command :: commands, value =>
      ready value command ∧ ReadyAlong commands (next value command)

variable {next ready}

theorem ReadyAlong.take
    {commands : List Command} {value : Value}
    (along : ReadyAlong next ready commands value) (count : Nat) :
    ReadyAlong next ready (commands.take count) value := by
  induction commands generalizing value count with
  | nil =>
      rw [List.take_nil]
      exact along
  | cons command commands inductionHypothesis =>
      cases count with
      | zero =>
          exact trivial
      | succ count =>
          exact ⟨along.1, inductionHypothesis along.2 count⟩

/-- The commands of a list, one after the other, each with its cost; the
assertions on the way are indexed by a value that the commands transform. -/
theorem Triple.program
    {shows : Value → State → Prop} {cost : Command → Nat}
    (each :
      ∀ value command, ready value command →
        Triple body (shows value) 1 (cost command)
          (shows (next value command)))
    {commands : List Command} {value : Value}
    (along : ReadyAlong next ready commands value) :
    Triple body (shows value) commands.length
      (commands.map cost).sum (shows (commands.foldl next value)) := by
  induction commands generalizing value with
  | nil =>
      exact Triple.skip (shows value)
  | cons command commands inductionHypothesis =>
      rw [List.length_cons, Nat.add_comm]
      exact
        (each value command along.1).sequence (inductionHypothesis along.2)

end Programs

/-- A budget that the program costs exactly lets the loop run the program and
nothing else. -/
theorem Triple.loop_returns
    {before behind : State → Prop} {passes : Nat} {budget : BitVec width}
    (triple : Triple body before passes budget.toNat behind)
    (positive : ∀ state, 0 < (body state).1.toNat)
    {state : State} (holds : before state) (fuel : Nat) :
    (passes ≤ fuel →
      ∃ final, loop body budget fuel 0 state = some final ∧
        behind final) ∧
      (fuel < passes → loop body budget fuel 0 state = none) := by
  rcases triple state holds with ⟨reached, costs⟩
  have reaches : Reaches body budget state passes := by
    refine ⟨Nat.le_of_eq costs.symm, ?_⟩
    intro earlier before
    rw [← costs]
    exact spent_lt_spent body positive state before
  constructor
  · intro enough
    refine ⟨after body passes state, ?_, reached⟩
    rw [loop_eq_some_iff body reaches (by rw [costs]; exact budget.isLt)]
    exact ⟨enough, rfl⟩
  · intro few
    exact running_before body reaches few

end CyclePerfectGameboy.ProgramLogic
