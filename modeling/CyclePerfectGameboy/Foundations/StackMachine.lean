import Mathlib.Data.List.Basic
import Mathlib.Logic.Function.Basic

/-!
# Well-nested pushes and pops

A machine with registers and one stack.  A well-nested sequence of pushes and
pops leaves the stack as it found it, and each pop loads what its matching
push stored.
-/

namespace CyclePerfectGameboy.StackMachine

universe u v

inductive Operation (Reg : Type u) where
  | push (source : Reg)
  | pop (target : Reg)
  deriving DecidableEq, Repr

variable {Reg : Type u} {Value : Type v}

/-- Every push has its pop: `push inner pop rest`, with `inner` and `rest`
well nested. -/
inductive WellNested : List (Operation Reg) → Prop where
  | nil : WellNested []
  | nest (source target : Reg) {inner rest : List (Operation Reg)}
      (innerNested : WellNested inner) (restNested : WellNested rest) :
      WellNested (.push source :: (inner ++ .pop target :: rest))

/-- Every pop of a well-nested sequence has a push that it matches: only a
well-nested sequence stands between the two. -/
theorem WellNested.exists_push
    {operations : List (Operation Reg)} (nested : WellNested operations)
    {earlier later : List (Operation Reg)} {target : Reg}
    (shape : operations = earlier ++ .pop target :: later) :
    ∃ before source inner,
      earlier = before ++ .push source :: inner ∧ WellNested inner := by
  induction nested generalizing earlier later with
  | nil =>
      exact absurd shape (by simp)
  | @nest opening closing inner rest innerNested _ innerHypothesis
      restHypothesis =>
      cases earlier with
      | nil =>
          exact absurd shape (by simp)
      | cons first earlier =>
          rw [List.cons_append, List.cons.injEq] at shape
          rcases shape with ⟨rfl, shape⟩
          rcases List.append_eq_append_iff.mp shape with
            ⟨gap, rfl, tail⟩ | ⟨gap, innerShape, tail⟩
          · cases gap with
            | nil =>
                rw [List.append_nil]
                exact ⟨[], opening, inner, rfl, innerNested⟩
            | cons close gap =>
                rw [List.cons_append, List.cons.injEq] at tail
                rcases tail with ⟨rfl, restShape⟩
                rcases restHypothesis restShape with
                  ⟨before, source, middle, rfl, middleNested⟩
                refine
                  ⟨.push opening :: (inner ++ .pop closing :: before),
                    source, middle, ?_, middleNested⟩
                simp only [List.cons_append, List.append_assoc]
          · cases gap with
            | nil =>
                rw [List.append_nil] at innerShape
                subst innerShape
                exact ⟨[], opening, inner, rfl, innerNested⟩
            | cons close gap =>
                rw [List.cons_append, List.cons.injEq] at tail
                rcases tail with ⟨rfl, _⟩
                rcases innerHypothesis innerShape with
                  ⟨before, source, middle, rfl, middleNested⟩
                exact
                  ⟨.push opening :: before, source, middle, rfl,
                    middleNested⟩

/-- The greatest height of the stack along a sequence. -/
def deepest : Nat → List (Operation Reg) → Nat
  | height, [] => height
  | height, .push _ :: rest => deepest (height + 1) rest
  | height, .pop _ :: rest => max height (deepest (height - 1) rest)

/-- No push goes beyond the limit, and no pop finds the stack empty. -/
def Fits (limit : Nat) : Nat → List (Operation Reg) → Prop
  | _, [] => True
  | height, .push _ :: rest => height < limit ∧ Fits limit (height + 1) rest
  | 0, .pop _ :: _ => False
  | height + 1, .pop _ :: rest => Fits limit height rest

theorem Fits.of_prefix
    {limit height : Nat} {earlier operations : List (Operation Reg)}
    (fits : Fits limit height operations)
    (called : earlier <+: operations) :
    Fits limit height earlier := by
  rcases called with ⟨later, rfl⟩
  induction earlier generalizing height with
  | nil =>
      exact trivial
  | cons operation rest inductionHypothesis =>
      cases operation with
      | push source =>
          rcases fits with ⟨room, fits⟩
          exact ⟨room, inductionHypothesis fits⟩
      | pop target =>
          cases height with
          | zero => exact fits
          | succ height => exact inductionHypothesis fits

/-- A well-nested sequence in front changes neither what follows nor its
heights. -/
theorem WellNested.fits_append
    {operations : List (Operation Reg)} (nested : WellNested operations)
    {limit height : Nat} {later : List (Operation Reg)}
    (bounded : deepest height (operations ++ later) ≤ limit) :
    deepest height later ≤ limit ∧
      (Fits limit height later →
        Fits limit height (operations ++ later)) := by
  induction nested generalizing height later with
  | nil =>
      exact ⟨bounded, id⟩
  | nest source target _ _ innerHypothesis restHypothesis =>
      rw [List.cons_append, List.append_assoc, deepest] at bounded
      rcases innerHypothesis bounded with ⟨closing, innerFits⟩
      rw [List.cons_append, deepest, Nat.add_sub_cancel] at closing
      rcases restHypothesis (Nat.le_trans (Nat.le_max_right _ _) closing)
        with ⟨after, restFits⟩
      refine ⟨after, ?_⟩
      intro fits
      rw [List.cons_append, List.append_assoc]
      refine ⟨Nat.le_trans (Nat.le_max_left _ _) closing, ?_⟩
      exact innerFits (restFits fits)

theorem WellNested.fits
    {operations : List (Operation Reg)} (nested : WellNested operations) :
    Fits (deepest 0 operations) 0 operations := by
  have bounded :
      deepest 0 (operations ++ []) ≤ deepest 0 operations :=
    Nat.le_of_eq (congrArg (deepest 0) (List.append_nil operations))
  have fits := (nested.fits_append bounded).2 trivial
  rw [List.append_nil] at fits
  exact fits

/-! ## The machine -/

structure Config (Reg : Type u) (Value : Type v) where
  registers : Reg → Value
  stack : List Value

section Machine

variable [DecidableEq Reg]

/-- One operation; `accept` is what a register keeps of a value that is
loaded into it. -/
def step (accept : Reg → Value → Value) (config : Config Reg Value) :
    Operation Reg → Config Reg Value
  | .push source =>
      { config with stack := config.registers source :: config.stack }
  | .pop target =>
      match config.stack with
      | [] => config
      | value :: rest =>
          { registers :=
              Function.update config.registers target
                (accept target value)
            stack := rest }

theorem step_pop
    {accept : Reg → Value → Value} {config : Config Reg Value}
    {value : Value} {rest : List Value}
    (top : config.stack = value :: rest) (target : Reg) :
    step accept config (.pop target) =
      { registers :=
          Function.update config.registers target (accept target value)
        stack := rest } := by
  simp only [step, top]

def run (accept : Reg → Value → Value) (config : Config Reg Value)
    (operations : List (Operation Reg)) : Config Reg Value :=
  operations.foldl (step accept) config

variable (accept : Reg → Value → Value)

theorem run_append
    (config : Config Reg Value) (earlier later : List (Operation Reg)) :
    run accept config (earlier ++ later) =
      run accept (run accept config earlier) later :=
  List.foldl_append

theorem run_cons
    (config : Config Reg Value) (operation : Operation Reg)
    (later : List (Operation Reg)) :
    run accept config (operation :: later) =
      run accept (step accept config operation) later :=
  rfl

/-- A well-nested sequence leaves the stack as it was. -/
theorem WellNested.run_stack
    {operations : List (Operation Reg)} (nested : WellNested operations)
    (config : Config Reg Value) :
    (run accept config operations).stack = config.stack := by
  induction nested generalizing config with
  | nil =>
      rfl
  | nest source target _ _ innerHypothesis restHypothesis =>
      have inside :=
        innerHypothesis (step accept config (.push source))
      rw [run_cons, run_append, run_cons, step_pop inside, restHypothesis]

/-- A pop loads what its matching push stored. -/
theorem WellNested.run_pop
    {inner : List (Operation Reg)} (nested : WellNested inner)
    (config : Config Reg Value) (source target : Reg) :
    (run accept config
        (.push source :: (inner ++ [.pop target]))).registers target =
      accept target (config.registers source) := by
  have inside :=
    nested.run_stack accept (step accept config (.push source))
  rw [run_cons, run_append, run_cons, step_pop inside]
  exact Function.update_self _ _ _

end Machine

end CyclePerfectGameboy.StackMachine
