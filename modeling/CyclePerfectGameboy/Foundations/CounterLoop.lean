import Mathlib.Algebra.Ring.Nat
import Mathlib.Data.Nat.Basic

/-!
# Counted loops in wrapping arithmetic

`for (i = 0; i < bound; i += step)` visits the multiples of the step below
its bound, as long as the counter passes the bound before it wraps.  If the
step divides the word size and there is no room for that, the loop goes round
for ever.
-/

namespace CyclePerfectGameboy.CounterLoop

universe u

variable {width : Nat}

/-- The values of the counter, with fuel for the passes. -/
def values (bound step : BitVec width) :
    Nat → BitVec width → Option (List (BitVec width))
  | 0, _ => none
  | fuel + 1, i =>
      if i < bound then
        (values bound step fuel (i + step)).map (fun later => i :: later)
      else
        some []

section Loop

variable {bound step : BitVec width}

/-- With room for one step past the bound the counter reaches it. -/
theorem values_of_room
    (room : bound.toNat + step.toNat ≤ 2 ^ width)
    {passes : Nat} {i : BitVec width}
    (before : ∀ pass < passes, i.toNat + pass * step.toNat < bound.toNat)
    (reached : bound.toNat ≤ i.toNat + passes * step.toNat) :
    values bound step (passes + 1) i =
      some
        ((List.range passes).map
          (fun pass => i + BitVec.ofNat width (pass * step.toNat))) := by
  induction passes generalizing i with
  | zero =>
      have stopped : ¬ i < bound := by
        rw [BitVec.lt_def]
        omega
      rw [values, if_neg stopped]
      rfl
  | succ passes inductionHypothesis =>
      have first := before 0 (Nat.succ_pos passes)
      rw [Nat.zero_mul, Nat.add_zero] at first
      have runs : i < bound := BitVec.lt_def.mpr first
      have next : (i + step).toNat = i.toNat + step.toNat := by
        rw [BitVec.toNat_add]
        exact Nat.mod_eq_of_lt (by omega)
      have later :=
        inductionHypothesis (i := i + step)
          (by
            intro pass fewer
            have here := before (pass + 1) (by omega)
            rw [Nat.succ_mul] at here
            omega)
          (by
            rw [Nat.succ_mul] at reached
            omega)
      have shifted :
          ∀ pass,
            i + step + BitVec.ofNat width (pass * step.toNat) =
              i + BitVec.ofNat width ((pass + 1) * step.toNat) := by
        intro pass
        rw [Nat.succ_mul, BitVec.ofNat_add, BitVec.ofNat_toNat,
          BitVec.setWidth_eq, BitVec.add_assoc,
          BitVec.add_comm step]
      rw [values, if_pos runs, later, Option.map_some,
        List.range_succ_eq_map, List.map_cons, List.map_map]
      congr 2
      · rw [Nat.zero_mul]
        exact (BitVec.add_zero i).symm
      · exact List.map_congr_left (fun pass _ => shifted pass)

/-- Without it the counter stays among the multiples of the step, all of
them below the bound. -/
theorem values_of_no_room
    (divides : step.toNat ∣ 2 ^ width)
    (noRoom : 2 ^ width < bound.toNat + step.toNat)
    (fuel : Nat) {i : BitVec width} (multiple : step.toNat ∣ i.toNat) :
    values bound step fuel i = none := by
  induction fuel generalizing i with
  | zero =>
      rfl
  | succ fuel inductionHypothesis =>
      have inside := i.isLt
      have gap : step.toNat ≤ 2 ^ width - i.toNat :=
        Nat.le_of_dvd (by omega) (Nat.dvd_sub divides multiple)
      have runs : i < bound := by
        rw [BitVec.lt_def]
        omega
      have next : step.toNat ∣ (i + step).toNat := by
        rw [BitVec.toNat_add]
        exact
          (Nat.dvd_mod_iff divides).mpr
            (Nat.dvd_add multiple (Nat.dvd_refl _))
      rw [values, if_pos runs, inductionHypothesis next, Option.map_none]

end Loop

/-- The passes of such a loop, each over a window of `step` indices, go
through the indices below the bound in order. -/
theorem flatMap_windows
    {Value : Type u} (value : Nat → Value) (step count bound : Nat) :
    (List.range count).flatMap
        (fun pass =>
          (List.range (min step (bound - pass * step))).map
            (fun offset => value (pass * step + offset))) =
      (List.range (min (count * step) bound)).map value := by
  induction count with
  | zero =>
      simp
  | succ count inductionHypothesis =>
      have split :
          min ((count + 1) * step) bound =
            min (count * step) bound +
              min step (bound - count * step) := by
        rw [Nat.succ_mul]
        omega
      rw [List.range_succ, List.flatMap_append, inductionHypothesis,
        List.flatMap_singleton, split, List.range_add, List.map_append,
        List.map_map]
      congr 1
      refine List.map_congr_left (fun offset member => ?_)
      have window := List.mem_range.mp member
      have started : min (count * step) bound = count * step := by omega
      rw [Function.comp_apply, started]

end CyclePerfectGameboy.CounterLoop
