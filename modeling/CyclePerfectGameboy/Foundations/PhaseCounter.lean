import Mathlib.Algebra.Ring.Nat
import Mathlib.Data.Nat.Basic

/-!
# Edges of a counter bit

A counter that advances by `step` sees bit `k` fall once for every multiple of
`2 ^ (k + 1)` it passes.  Comparing only the two endpoints finds one edge at
most; here is exactly when that count is right.
-/

namespace CyclePerfectGameboy.PhaseCounter

/-- The falling edges of the bit of period `period` while the counter
advances by `step`. -/
def fallingEdges (period counter step : Nat) : Nat :=
  (counter + step) / period - counter / period

/-- The edges that the endpoints show: one if the phase starts in the upper
half of the period and ends in the lower half, otherwise none. -/
def endpointEdges (half counter step : Nat) : Nat :=
  if half ≤ counter % (2 * half) ∧ (counter + step) % (2 * half) < half then
    1
  else
    0

theorem fallingEdges_eq (period counter step : Nat) :
    fallingEdges period counter step = (counter % period + step) / period := by
  rcases Nat.eq_zero_or_pos period with rfl | positive
  · simp [fallingEdges]
  · have split : counter + step =
        counter % period + step + counter / period * period := by
      have parts := Nat.mod_add_div' counter period
      omega
    rw [fallingEdges, split, Nat.add_mul_div_right _ _ positive,
      Nat.add_sub_cancel]

theorem phase_add (period counter step : Nat) :
    (counter + step) % period = (counter % period + step) % period := by
  rw [Nat.mod_add_mod]

/-- The endpoints count the edges exactly when the step stays inside the
period, or starts in its upper half and ends in the lower half of the next. -/
theorem endpoints_count_edges_iff
    {half : Nat} (positive : 0 < half) (counter step : Nat) :
    endpointEdges half counter step = fallingEdges (2 * half) counter step ↔
      counter % (2 * half) + step < 2 * half ∨
        (half ≤ counter % (2 * half) ∧
          counter % (2 * half) + step < 2 * half + half) := by
  have inside : counter % (2 * half) < 2 * half :=
    Nat.mod_lt _ (by omega)
  rw [fallingEdges_eq, endpointEdges, phase_add]
  generalize counter % (2 * half) = phase at inside ⊢
  by_cases none : phase + step < 2 * half
  · have noEdge : ¬ (half ≤ phase ∧ (phase + step) % (2 * half) < half) := by
      rw [Nat.mod_eq_of_lt none]
      omega
    rw [if_neg noEdge, Nat.div_eq_of_lt none]
    simp [none]
  · by_cases one : phase + step < 2 * half + half
    · have wrapped : (phase + step) % (2 * half) = phase + step - 2 * half := by
        rw [Nat.mod_eq_sub_mod (by omega), Nat.mod_eq_of_lt (by omega)]
      have edges : (phase + step) / (2 * half) = 1 :=
        Nat.div_eq_of_lt_le (by omega) (by omega)
      rw [wrapped, edges]
      by_cases upper : half ≤ phase
      · simp [upper, one]
        omega
      · simp [upper, none]
    · have missed :
          (if half ≤ phase ∧ (phase + step) % (2 * half) < half
              then 1 else 0) ≠ (phase + step) / (2 * half) := by
        by_cases two : phase + step < 2 * (2 * half)
        · have wrapped :
              (phase + step) % (2 * half) = phase + step - 2 * half := by
            rw [Nat.mod_eq_sub_mod (by omega), Nat.mod_eq_of_lt (by omega)]
          have edges : (phase + step) / (2 * half) = 1 :=
            Nat.div_eq_of_lt_le (by omega) (by omega)
          rw [wrapped, edges, if_neg (by omega)]
          exact Nat.zero_ne_one
        · have many : 2 ≤ (phase + step) / (2 * half) :=
            (Nat.le_div_iff_mul_le (by omega)).mpr (by omega)
          split
          · omega
          · omega
      refine iff_of_false missed ?_
      omega

/-- An edge that the endpoints show is a real one. -/
theorem endpointEdges_le
    {half : Nat} (positive : 0 < half) (counter step : Nat) :
    endpointEdges half counter step ≤ fallingEdges (2 * half) counter step := by
  rw [fallingEdges_eq, endpointEdges, phase_add]
  split
  · rename_i shown
    refine (Nat.one_le_div_iff (by omega)).mpr ?_
    by_contra inside
    rw [Nat.mod_eq_of_lt (Nat.lt_of_not_le inside)] at shown
    omega
  · exact Nat.zero_le _

/-- Bit `k` is set in the upper half of each period of `2 ^ (k + 1)`. -/
theorem testBit_iff_upper_half (counter bit : Nat) :
    counter.testBit bit = true ↔
      2 ^ bit ≤ counter % (2 * 2 ^ bit) := by
  have positive : 0 < 2 ^ bit := Nat.two_pow_pos bit
  have low := Nat.mod_lt counter positive
  rw [Nat.testBit_eq_decide_div_mod_eq, decide_eq_true_eq,
    Nat.mul_comm 2, Nat.mod_mul]
  rcases Nat.mod_two_eq_zero_or_one (counter / 2 ^ bit) with clear | set
  · rw [clear]
    omega
  · rw [set]
    omega

end CyclePerfectGameboy.PhaseCounter
