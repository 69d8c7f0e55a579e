import CyclePerfectGameboy.System.CycleBudget

/-!
# Running in slices

`run` keeps nothing between two calls but the CPU and the memory, so a budget
can be spent in two calls: the second gets what the first has left of it.
-/

namespace CyclePerfectGameboy

open BudgetLoop

universe u

namespace CPU

variable {M : Type u} [MemoryInterface M]

/-- `run(cycles)` returns `final` after executing exactly `executed`
cycles. -/
def Returns (cycles : BitVec 32) (machine : CPU × M) (executed : Nat)
    (final : CPU × M) : Prop :=
  ∃ passes,
    executed = spent runBody passes machine ∧
      run passes cycles machine = some final ∧
      ∀ fuel < passes, run fuel cycles machine = none

theorem fits_of_room_run
    {cycles : BitVec 32} (room : cycles.toNat ≤ 2 ^ 32 - 20)
    {machine : CPU × M} {passes : Nat}
    (reaches : Reaches runBody cycles machine passes) :
    spent runBody passes machine < 2 ^ 32 :=
  fits_of_room runBody_counts room machine passes reaches

/-- Below the top of the range the shortest sequence that reaches the budget
is executed. -/
theorem returns_of_reaches
    {cycles : BitVec 32} (room : cycles.toNat ≤ 2 ^ 32 - 20)
    {machine : CPU × M} {passes : Nat}
    (reaches : Reaches runBody cycles machine passes) :
    Returns cycles machine (spent runBody passes machine)
      (after runBody passes machine) := by
  have exits :=
    exitsAfter_of_lt runBody reaches (fits_of_room_run room reaches)
  exact ⟨passes, rfl, exits.1, exits.2⟩

theorem exists_returns
    {cycles : BitVec 32} (room : cycles.toNat ≤ 2 ^ 32 - 20)
    (machine : CPU × M) :
    ∃ passes, Reaches runBody cycles machine passes ∧
      Returns cycles machine (spent runBody passes machine)
        (after runBody passes machine) := by
  rcases exists_reaches runBody runBody_counts.positive cycles machine with
    ⟨passes, reaches⟩
  exact ⟨passes, reaches, returns_of_reaches room reaches⟩

/-- What a call returns is what the shortest sequence leaves. -/
theorem Returns.reaches
    {cycles : BitVec 32} (room : cycles.toNat ≤ 2 ^ 32 - 20)
    {machine final : CPU × M} {executed : Nat}
    (returned : Returns cycles machine executed final) :
    ∃ passes, Reaches runBody cycles machine passes ∧
      executed = spent runBody passes machine ∧
      final = after runBody passes machine := by
  rcases returned with ⟨passes, cost, result, running⟩
  rcases exists_reaches runBody runBody_counts.positive cycles machine with
    ⟨shortest, reaches⟩
  have exits :=
    exitsAfter_of_lt runBody reaches (fits_of_room_run room reaches)
  have made : ExitsAfter runBody cycles machine passes final :=
    ⟨result, running⟩
  have same : passes = shortest := made.unique runBody exits
  subst same
  exact ⟨passes, reaches, cost, made.final_eq runBody⟩

/-- For budgets `a ≤ b` below the top of the range, `run(a)` followed by
`run` with what it has left of `b` returns what `run(b)` returns. -/
theorem run_in_slices
    (a b : BitVec 32) (order : a ≤ b) (room : b.toNat ≤ 2 ^ 32 - 20)
    (machine : CPU × M) :
    (∃ executed middle, Returns a machine executed middle) ∧
      ∀ executed middle, Returns a machine executed middle →
        (b.toNat ≤ executed → Returns b machine executed middle) ∧
          (executed < b.toNat →
            ∃ more final,
              Returns (b - BitVec.ofNat 32 executed) middle more final ∧
                Returns b machine (executed + more) final) := by
  have order' : a.toNat ≤ b.toNat := order
  have firstRoom : a.toNat ≤ 2 ^ 32 - 20 := Nat.le_trans order' room
  constructor
  · rcases exists_returns firstRoom machine with ⟨passes, _, returned⟩
    exact ⟨_, _, returned⟩
  · intro executed middle returned
    rcases returned.reaches firstRoom with ⟨passes, reaches, rfl, rfl⟩
    constructor
    · intro enough
      exact returns_of_reaches room (reaches.of_le runBody order' enough)
    · intro short
      have left :
          spent runBody passes machine +
              (b - BitVec.ofNat 32 (spent runBody passes machine)).toNat =
            b.toNat := by
        bv_omega
      have restRoom :
          (b - BitVec.ofNat 32 (spent runBody passes machine)).toNat ≤
            2 ^ 32 - 20 := by
        omega
      rcases exists_returns restRoom (after runBody passes machine) with
        ⟨more, goesOn, second⟩
      have whole :=
        returns_of_reaches room
          (reaches.append runBody order' left goesOn)
      rw [spent_add, after_add] at whole
      exact ⟨_, _, second, whole⟩

/-- Over a memory of `LD B,n` a budget of five takes eight cycles, and the two
that are left of ten go to a second call. -/
theorem run_in_slices_of_five :
    let machine : CPU × FlatMemory := ({}, fun _ => 0x06)
    ∃ middle more final,
      Returns 5 machine 8 middle ∧ Returns 2 middle more final ∧
        Returns 10 machine (8 + more) final := by
  intro machine
  have cost : spent runBody 1 machine = 8 := by
    decide
  have reaches : Reaches runBody 5 machine 1 := by
    refine ⟨by rw [cost]; decide, ?_⟩
    intro earlier before
    cases Nat.lt_one_iff.mp before
    decide
  have returned := returns_of_reaches (by decide) reaches
  rw [cost] at returned
  rcases run_in_slices 5 10 (by decide) (by decide) machine with
    ⟨_, sliced⟩
  obtain ⟨more, final, second, whole⟩ :=
    (sliced 8 _ returned).2 (by decide)
  exact ⟨_, more, final, returned, second, whole⟩

end CPU

end CyclePerfectGameboy
