import Mathlib.Algebra.Ring.Nat
import Mathlib.Logic.Function.Iterate
import Mathlib.Data.Nat.Find

/-!
# Loops that spend a budget

A body transforms a state and reports a cost.  The loop adds the costs in a
`width`-bit accumulator and stops as soon as the accumulator is no longer
below the budget.  The exact sum of the costs decides which pass ought to be
the last one; the theorems say when the wrapping accumulator agrees.
-/

namespace CyclePerfectGameboy.BudgetLoop

universe u

variable {State : Type u} {width : Nat}
variable (body : State → BitVec width × State)

/-- `while (executed < budget) { executed += body(); }`.  The fuel counts the
passes through the body, so `loop` with fuel `k` returns exactly when the
loop exits within `k` passes. -/
def loop (budget : BitVec width) :
    Nat → BitVec width → State → Option State
  | 0, executed, state =>
      if executed < budget then none else some state
  | fuel + 1, executed, state =>
      if executed < budget then
        loop budget fuel (executed + (body state).1) (body state).2
      else
        some state

/-- The state after a number of passes. -/
def after (passes : Nat) (state : State) : State :=
  (fun current => (body current).2)^[passes] state

/-- The exact sum of the costs of a number of passes. -/
def spent : Nat → State → Nat
  | 0, _ => 0
  | passes + 1, state =>
      (body state).1.toNat + spent passes (body state).2

/-- `passes` is the length of the shortest prefix whose exact cost reaches
the budget. -/
def Reaches (budget : BitVec width) (state : State) (passes : Nat) : Prop :=
  budget.toNat ≤ spent body passes state ∧
    ∀ earlier < passes, spent body earlier state < budget.toNat

/-- The loop, started with an empty accumulator, makes exactly `passes`
passes and returns `final`. -/
def ExitsAfter (budget : BitVec width) (state : State)
    (passes : Nat) (final : State) : Prop :=
  loop body budget passes 0 state = some final ∧
    ∀ fuel < passes, loop body budget fuel 0 state = none

theorem after_succ (passes : Nat) (state : State) :
    after body (passes + 1) state = after body passes (body state).2 :=
  Function.iterate_succ_apply _ passes state

theorem after_succ' (passes : Nat) (state : State) :
    after body (passes + 1) state = (body (after body passes state)).2 :=
  Function.iterate_succ_apply' _ passes state

theorem spent_succ' (passes : Nat) (state : State) :
    spent body (passes + 1) state =
      spent body passes state +
        (body (after body passes state)).1.toNat := by
  induction passes generalizing state with
  | zero =>
      simp [spent, after]
  | succ passes inductionHypothesis =>
      rw [spent, inductionHypothesis, ← after_succ body passes state,
        spent, Nat.add_assoc]

theorem le_spent
    (positive : ∀ state, 0 < (body state).1.toNat)
    (passes : Nat) (state : State) :
    passes ≤ spent body passes state := by
  induction passes generalizing state with
  | zero =>
      exact Nat.zero_le _
  | succ passes inductionHypothesis =>
      have tail := inductionHypothesis (body state).2
      have head := positive state
      rw [spent]
      omega

theorem dvd_spent {unit : Nat}
    (multiple : ∀ state, unit ∣ (body state).1.toNat)
    (passes : Nat) (state : State) :
    unit ∣ spent body passes state := by
  induction passes generalizing state with
  | zero =>
      exact Nat.dvd_zero unit
  | succ passes inductionHypothesis =>
      exact Nat.dvd_add (multiple state)
        (inductionHypothesis (body state).2)

theorem exists_reaches
    (positive : ∀ state, 0 < (body state).1.toNat)
    (budget : BitVec width) (state : State) :
    ∃ passes, Reaches body budget state passes := by
  have reached : ∃ passes, budget.toNat ≤ spent body passes state :=
    ⟨budget.toNat, le_spent body positive budget.toNat state⟩
  refine ⟨Nat.find reached, Nat.find_spec reached, ?_⟩
  intro earlier before
  exact Nat.lt_of_not_le (Nat.find_min reached before)

theorem Reaches.unique
    {budget : BitVec width} {state : State} {first second : Nat}
    (left : Reaches body budget state first)
    (right : Reaches body budget state second) :
    first = second := by
  rcases Nat.lt_trichotomy first second with below | equal | above
  · exact absurd left.1 (Nat.not_le.mpr (right.2 first below))
  · exact equal
  · exact absurd right.1 (Nat.not_le.mpr (left.2 second above))

/-- The overshoot is less than the cost of one pass. -/
theorem Reaches.spent_lt
    {budget : BitVec width} {state : State} {passes bound : Nat}
    (reaches : Reaches body budget state passes)
    (boundPos : 0 < bound)
    (bounded : ∀ state, (body state).1.toNat ≤ bound) :
    spent body passes state < budget.toNat + bound := by
  cases passes with
  | zero =>
      simp only [spent]
      omega
  | succ passes =>
      have before := reaches.2 passes (Nat.lt_succ_self passes)
      have last := bounded (after body passes state)
      rw [spent_succ']
      omega

/-! ## The wrapping accumulator -/

/-- While the wrapped sums stay below the budget, the loop keeps running and
its accumulator is the wrapped exact sum. -/
theorem loop_add
    (budget : BitVec width) (passes fuel : Nat)
    (executed : BitVec width) (state : State)
    (below :
      ∀ earlier < passes,
        executed + BitVec.ofNat width (spent body earlier state) < budget) :
    loop body budget (passes + fuel) executed state =
      loop body budget fuel
        (executed + BitVec.ofNat width (spent body passes state))
        (after body passes state) := by
  induction passes generalizing executed state with
  | zero =>
      simp [spent, after]
  | succ passes inductionHypothesis =>
      have now : executed < budget := by
        simpa [spent] using below 0 (Nat.zero_lt_succ passes)
      have shifted : ∀ amount : Nat,
          executed + (body state).1 + BitVec.ofNat width amount =
            executed +
              BitVec.ofNat width ((body state).1.toNat + amount) := by
        intro amount
        rw [BitVec.ofNat_add, BitVec.ofNat_toNat, BitVec.setWidth_eq,
          BitVec.add_assoc]
      have later :
          ∀ earlier < passes,
            executed + (body state).1 +
                BitVec.ofNat width (spent body earlier (body state).2) <
              budget := by
        intro earlier before
        rw [shifted]
        exact below (earlier + 1) (Nat.succ_lt_succ before)
      rw [Nat.succ_add, loop, if_pos now,
        inductionHypothesis _ _ later, shifted, after_succ, spent]

private theorem zero_add_value (value : BitVec width) :
    (0 : BitVec width) + value = value := by
  simp

private theorem ofNat_spent_lt
    {budget : BitVec width} {state : State} {passes : Nat}
    (below : spent body passes state < budget.toNat) :
    (0 : BitVec width) + BitVec.ofNat width (spent body passes state) <
      budget := by
  have inRange : spent body passes state < 2 ^ width :=
    Nat.lt_trans below budget.isLt
  rw [zero_add_value, BitVec.lt_def, BitVec.toNat_ofNat,
    Nat.mod_eq_of_lt inRange]
  exact below

/-- Up to the shortest prefix the loop cannot tell the exact sum from the
wrapped one. -/
theorem loop_of_reaches
    {budget : BitVec width} {state : State} {passes fuel : Nat}
    (reaches : Reaches body budget state passes)
    (order : fuel ≤ passes) :
    loop body budget fuel 0 state =
      loop body budget 0
        (BitVec.ofNat width (spent body fuel state))
        (after body fuel state) := by
  have below :
      ∀ earlier < fuel,
        (0 : BitVec width) +
            BitVec.ofNat width (spent body earlier state) < budget := by
    intro earlier before
    exact ofNat_spent_lt body
      (reaches.2 earlier (Nat.lt_of_lt_of_le before order))
  have unrolled := loop_add body budget fuel 0 0 state below
  rw [zero_add_value] at unrolled
  exact unrolled

theorem running_before
    {budget : BitVec width} {state : State} {passes fuel : Nat}
    (reaches : Reaches body budget state passes)
    (before : fuel < passes) :
    loop body budget fuel 0 state = none := by
  have below := ofNat_spent_lt body (reaches.2 fuel before)
  rw [zero_add_value] at below
  rw [loop_of_reaches body reaches (Nat.le_of_lt before), loop,
    if_pos below]

/-- Without a wrap the loop makes exactly the passes of the shortest
prefix. -/
theorem exitsAfter_of_lt
    {budget : BitVec width} {state : State} {passes : Nat}
    (reaches : Reaches body budget state passes)
    (noWrap : spent body passes state < 2 ^ width) :
    ExitsAfter body budget state passes (after body passes state) := by
  refine ⟨?_, fun fuel before => running_before body reaches before⟩
  have enough :
      ¬ BitVec.ofNat width (spent body passes state) < budget := by
    rw [BitVec.lt_def, BitVec.toNat_ofNat, Nat.mod_eq_of_lt noWrap]
    exact Nat.not_lt.mpr reaches.1
  rw [loop_of_reaches body reaches (Nat.le_refl passes), loop,
    if_neg enough]

/-- When the exact sum does not fit, the accumulator has wrapped to a value
below the budget and the loop runs past the shortest prefix. -/
theorem loop_of_wrap
    {budget : BitVec width} {state : State} {passes bound : Nat}
    (reaches : Reaches body budget state passes)
    (boundPos : 0 < bound) (boundLe : bound ≤ 2 ^ width)
    (bounded : ∀ state, (body state).1.toNat ≤ bound)
    (wrap : 2 ^ width ≤ spent body passes state) :
    loop body budget passes 0 state = none := by
  have overshoot := reaches.spent_lt body boundPos bounded
  have budgetBound := budget.isLt
  have wrapped :
      spent body passes state % 2 ^ width =
        spent body passes state - 2 ^ width := by
    rw [Nat.mod_eq_sub_mod wrap]
    exact Nat.mod_eq_of_lt (by omega)
  have below : BitVec.ofNat width (spent body passes state) < budget := by
    rw [BitVec.lt_def, BitVec.toNat_ofNat, wrapped]
    omega
  rw [loop_of_reaches body reaches (Nat.le_refl passes), loop,
    if_pos below]

/-- The loop stops at the shortest prefix exactly when the exact sum of that
prefix fits the accumulator. -/
theorem exitsAfter_iff
    {budget : BitVec width} {state : State} {passes bound : Nat}
    (reaches : Reaches body budget state passes)
    (boundPos : 0 < bound) (boundLe : bound ≤ 2 ^ width)
    (bounded : ∀ state, (body state).1.toNat ≤ bound) :
    ExitsAfter body budget state passes (after body passes state) ↔
      spent body passes state < 2 ^ width := by
  constructor
  · intro exits
    by_contra noFit
    have stuck :=
      loop_of_wrap body reaches boundPos boundLe bounded
        (Nat.le_of_not_lt noFit)
    rw [exits.1] at stuck
    exact Option.some_ne_none _ stuck
  · intro noWrap
    exact exitsAfter_of_lt body reaches noWrap

/-- A budget that leaves room for one pass below the top of the range is
never wrapped past. -/
theorem Reaches.spent_lt_of_room
    {budget : BitVec width} {state : State} {passes bound : Nat}
    (reaches : Reaches body budget state passes)
    (boundPos : 0 < bound)
    (bounded : ∀ state, (body state).1.toNat ≤ bound)
    (room : budget.toNat + bound ≤ 2 ^ width) :
    spent body passes state < 2 ^ width :=
  Nat.lt_of_lt_of_le (reaches.spent_lt body boundPos bounded) room

/-- Once the loop has returned, more fuel changes nothing. -/
theorem loop_fuel_succ
    {budget executed : BitVec width} {state final : State} {fuel : Nat}
    (returned : loop body budget fuel executed state = some final) :
    loop body budget (fuel + 1) executed state = some final := by
  induction fuel generalizing executed state with
  | zero =>
      by_cases below : executed < budget
      · simp only [loop, if_pos below] at returned
        cases returned
      · simp only [loop, if_neg below] at returned ⊢
        exact returned
  | succ fuel inductionHypothesis =>
      by_cases below : executed < budget
      · rw [loop, if_pos below] at returned ⊢
        exact inductionHypothesis returned
      · rw [loop, if_neg below] at returned ⊢
        exact returned

theorem loop_fuel_mono
    {budget executed : BitVec width} {state final : State}
    {fuel more : Nat} (order : fuel ≤ more)
    (returned : loop body budget fuel executed state = some final) :
    loop body budget more executed state = some final := by
  induction more, order using Nat.le_induction with
  | base =>
      exact returned
  | succ more _ inductionHypothesis =>
      exact loop_fuel_succ body inductionHypothesis

/-- What the loop returns is the state after the passes it made, which more
fuel does not change and less fuel does not reach. -/
theorem after_of_loop
    {budget executed : BitVec width} {state final : State} {fuel : Nat}
    (returned : loop body budget fuel executed state = some final) :
    ∃ passes,
      final = after body passes state ∧
        loop body budget passes executed state = some final ∧
        ∀ fewer < passes, loop body budget fewer executed state = none := by
  induction fuel generalizing executed state with
  | zero =>
      refine ⟨0, ?_, returned, fun fewer below => absurd below (by omega)⟩
      by_cases below : executed < budget
      · simp only [loop, if_pos below] at returned
        cases returned
      · simp only [loop, if_neg below, Option.some.injEq] at returned
        exact returned.symm
  | succ fuel inductionHypothesis =>
      by_cases below : executed < budget
      · rw [loop, if_pos below] at returned
        obtain ⟨passes, reached, again, running⟩ :=
          inductionHypothesis returned
        refine ⟨passes + 1, ?_, ?_, ?_⟩
        · rw [after_succ]
          exact reached
        · rw [loop, if_pos below]
          exact again
        · intro fewer before
          cases fewer with
          | zero =>
              rw [loop, if_pos below]
          | succ fewer =>
              rw [loop, if_pos below]
              exact running fewer (by omega)
      · rw [loop, if_neg below, Option.some.injEq] at returned
        refine ⟨0, returned.symm, ?_,
          fun fewer before => absurd before (by omega)⟩
        rw [loop, if_neg below, returned]

/-- Where the loop exits, it returns the state after the passes it made. -/
theorem ExitsAfter.final_eq
    {budget : BitVec width} {state final : State} {passes : Nat}
    (exits : ExitsAfter body budget state passes final) :
    final = after body passes state := by
  rcases exits with ⟨returned, running⟩
  rcases after_of_loop body returned with ⟨made, reached, again, before⟩
  rcases Nat.lt_trichotomy made passes with fewer | equal | more
  · rw [running made fewer] at again
    cases again
  · rw [← equal]
    exact reached
  · rw [before passes more] at returned
    cases returned

/-- Whatever fuel makes the loop return, it returns the state after the
shortest prefix, provided that prefix does not wrap. -/
theorem loop_eq_some_iff
    {budget : BitVec width} {state final : State} {passes fuel : Nat}
    (reaches : Reaches body budget state passes)
    (noWrap : spent body passes state < 2 ^ width) :
    loop body budget fuel 0 state = some final ↔
      passes ≤ fuel ∧ final = after body passes state := by
  have exits := exitsAfter_of_lt body reaches noWrap
  constructor
  · intro returned
    have order : passes ≤ fuel := by
      by_contra short
      have stuck := exits.2 fuel (Nat.lt_of_not_le short)
      rw [returned] at stuck
      exact Option.some_ne_none _ stuck
    refine ⟨order, ?_⟩
    have same := loop_fuel_mono body order exits.1
    rw [returned] at same
    exact Option.some.inj same
  · rintro ⟨order, rfl⟩
    exact loop_fuel_mono body order exits.1

/-- If every cost is a multiple of `unit`, so is the accumulator; a budget
above the largest such multiple is never reached. -/
theorem loop_never_returns
    (unit : Nat) (unitDvd : unit ∣ 2 ^ width)
    (multiple : ∀ state, unit ∣ (body state).1.toNat)
    (budget : BitVec width) (high : 2 ^ width < budget.toNat + unit)
    (fuel : Nat) (executed : BitVec width) (state : State)
    (start : unit ∣ executed.toNat) :
    loop body budget fuel executed state = none := by
  have below : ∀ value : BitVec width,
      unit ∣ value.toNat → value < budget := by
    intro value divides
    have gap : unit ∣ 2 ^ width - value.toNat :=
      Nat.dvd_sub unitDvd divides
    have room : unit ≤ 2 ^ width - value.toNat :=
      Nat.le_of_dvd (Nat.sub_pos_of_lt value.isLt) gap
    rw [BitVec.lt_def]
    have valueBound := value.isLt
    omega
  induction fuel generalizing executed state with
  | zero =>
      rw [loop, if_pos (below executed start)]
  | succ fuel inductionHypothesis =>
      rw [loop, if_pos (below executed start)]
      apply inductionHypothesis
      rw [BitVec.toNat_add]
      exact (Nat.dvd_mod_iff unitDvd).mpr
        (Nat.dvd_add start (multiple state))

/-- Loops whose bodies agree on the states passed through return the same. -/
theorem loop_congr
    {left right : State → BitVec width × State} {budget : BitVec width}
    {fuel : Nat} {executed : BitVec width} {state : State}
    (same :
      ∀ passes < fuel,
        left (after left passes state) = right (after left passes state)) :
    loop left budget fuel executed state =
      loop right budget fuel executed state := by
  induction fuel generalizing executed state with
  | zero =>
      rfl
  | succ fuel inductionHypothesis =>
      have first : left state = right state := same 0 (Nat.succ_pos fuel)
      rw [loop, loop, ← first]
      split
      · refine inductionHypothesis ?_
        intro passes before
        have later := same (passes + 1) (Nat.succ_lt_succ before)
        rwa [after_succ] at later
      · rfl

theorem after_add (first second : Nat) (state : State) :
    after body (first + second) state =
      after body second (after body first state) := by
  rw [Nat.add_comm]
  exact Function.iterate_add_apply _ second first state

theorem spent_add (first second : Nat) (state : State) :
    spent body (first + second) state =
      spent body first state + spent body second (after body first state) := by
  induction second with
  | zero =>
      rfl
  | succ second inductionHypothesis =>
      rw [← Nat.add_assoc, spent_succ', spent_succ', inductionHypothesis,
        after_add, Nat.add_assoc]

theorem spent_lt_spent
    (positive : ∀ state, 0 < (body state).1.toNat)
    (state : State) {fewer more : Nat} (order : fewer < more) :
    spent body fewer state < spent body more state := by
  obtain ⟨rest, rfl⟩ := Nat.exists_eq_add_of_lt order
  have goesOn := le_spent body positive (rest + 1) (after body fewer state)
  rw [Nat.add_assoc, spent_add]
  omega

/-- A prefix that also reaches a larger budget is the shortest for it. -/
theorem Reaches.of_le
    {small large : BitVec width} {state : State} {passes : Nat}
    (reaches : Reaches body small state passes)
    (order : small.toNat ≤ large.toNat)
    (enough : large.toNat ≤ spent body passes state) :
    Reaches body large state passes := by
  refine ⟨enough, ?_⟩
  intro earlier before
  exact Nat.lt_of_lt_of_le (reaches.2 earlier before) order

/-- Otherwise the shortest prefix goes on with the shortest one for what is
left of the larger budget. -/
theorem Reaches.append
    {small large rest : BitVec width} {state : State} {passes more : Nat}
    (reaches : Reaches body small state passes)
    (order : small.toNat ≤ large.toNat)
    (left : spent body passes state + rest.toNat = large.toNat)
    (goesOn : Reaches body rest (after body passes state) more) :
    Reaches body large state (passes + more) := by
  constructor
  · have enough := goesOn.1
    rw [spent_add]
    omega
  · intro earlier before
    by_cases inFirst : earlier < passes
    · exact Nat.lt_of_lt_of_le (reaches.2 earlier inFirst) order
    · obtain ⟨later, rfl⟩ := Nat.exists_eq_add_of_le (Nat.le_of_not_lt inFirst)
      have below := goesOn.2 later (Nat.lt_of_add_lt_add_left before)
      rw [spent_add]
      omega

/-- The loop exits once. -/
theorem ExitsAfter.unique
    {budget : BitVec width} {state firstFinal secondFinal : State}
    {first second : Nat}
    (left : ExitsAfter body budget state first firstFinal)
    (right : ExitsAfter body budget state second secondFinal) :
    first = second := by
  rcases Nat.lt_trichotomy first second with below | equal | above
  · have running := right.2 first below
    rw [left.1] at running
    exact absurd running (Option.some_ne_none _)
  · exact equal
  · have running := left.2 second above
    rw [right.1] at running
    exact absurd running (Option.some_ne_none _)

/-! ## Repeated loops -/

/-- A number of loops with the same budget, each with the same fuel. -/
def loops (budget : BitVec width) (fuel : Nat) :
    Nat → State → Option State
  | 0, state => some state
  | count + 1, state =>
      (loop body budget fuel 0 state).bind (loops budget fuel count)

theorem mul_le_spent
    {least : Nat} (atLeast : ∀ state, least ≤ (body state).1.toNat)
    (passes : Nat) (state : State) :
    least * passes ≤ spent body passes state := by
  induction passes generalizing state with
  | zero =>
      exact Nat.zero_le _
  | succ passes inductionHypothesis =>
      have tail := inductionHypothesis (body state).2
      have head := atLeast state
      rw [spent, Nat.mul_succ]
      omega

theorem spent_le_mul
    {most : Nat} (atMost : ∀ state, (body state).1.toNat ≤ most)
    (passes : Nat) (state : State) :
    spent body passes state ≤ most * passes := by
  induction passes generalizing state with
  | zero =>
      exact Nat.le_refl _
  | succ passes inductionHypothesis =>
      have tail := inductionHypothesis (body state).2
      have head := atMost state
      rw [spent, Nat.mul_succ]
      omega

/-- The least cost of a pass bounds the number of passes. -/
theorem Reaches.passes_le
    {budget : BitVec width} {state : State} {passes least fuel : Nat}
    (reaches : Reaches body budget state passes)
    (atLeast : ∀ state, least ≤ (body state).1.toNat)
    (enough : budget.toNat ≤ least * fuel) :
    passes ≤ fuel := by
  by_contra more
  have before := reaches.2 fuel (Nat.lt_of_not_le more)
  have counted := mul_le_spent body atLeast fuel state
  omega

/-- Loops in a row make one run: each spends at least the budget, and no more
than the most that a shortest prefix spends. -/
theorem loops_exact
    {budget : BitVec width} {fuel most : Nat}
    (noWrap : most < 2 ^ width)
    (each :
      ∀ state, ∃ passes ≤ fuel,
        Reaches body budget state passes ∧
          spent body passes state ≤ most)
    (count : Nat) (state : State) :
    ∃ passes,
      (∀ more ≥ fuel,
        loops body budget more count state =
          some (after body passes state)) ∧
        budget.toNat * count ≤ spent body passes state ∧
        spent body passes state ≤ most * count := by
  induction count generalizing state with
  | zero =>
      exact ⟨0, fun _ _ => rfl, Nat.le_refl 0, Nat.le_refl 0⟩
  | succ count inductionHypothesis =>
      rcases each state with ⟨first, order, reaches, bounded⟩
      rcases inductionHypothesis (after body first state) with
        ⟨rest, ran, atLeast, atMost⟩
      have enough := reaches.1
      refine ⟨first + rest, ?_, ?_, ?_⟩
      · intro more sufficient
        have returned :=
          (loop_eq_some_iff body reaches
            (Nat.lt_of_le_of_lt bounded noWrap)).mpr
            ⟨Nat.le_trans order sufficient, rfl⟩
        rw [loops, returned, Option.bind_some, ran more sufficient,
          after_add]
      · rw [spent_add, Nat.mul_succ]
        omega
      · rw [spent_add, Nat.mul_succ]
        omega

end CyclePerfectGameboy.BudgetLoop
