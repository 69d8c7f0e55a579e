import Mathlib.Algebra.Ring.Nat
import Mathlib.Data.Nat.Basic

/-!
# Single-bit masks

Testing, setting and clearing one bit of a word with `1 <<< bit`.
-/

namespace CyclePerfectGameboy.BitMask

variable {width : Nat}

/-- The word whose only set bit is `bit`. -/
abbrev bitMask (width bit : Nat) : BitVec width :=
  BitVec.ofNat width 1 <<< bit

theorem and_bit_ne_zero_iff
    (mask : BitVec width) {bit : Nat} (inside : bit < width) :
    mask &&& bitMask width bit ≠ BitVec.ofNat width 0 ↔ mask.getLsbD bit = true := by
  constructor
  · intro tested
    by_contra clear
    refine tested (BitVec.eq_of_getLsbD_eq ?_)
    intro other bounded
    by_cases same : other = bit
    · simp [same, Bool.eq_false_iff.mpr clear]
    · simp
      omega
  · intro set zero
    have cleared : (mask &&& bitMask width bit).getLsbD bit = false := by
      rw [zero, BitVec.getLsbD_zero]
    rw [BitVec.getLsbD_and, set, Bool.true_and] at cleared
    simp [inside] at cleared

theorem getLsbD_clear (mask : BitVec width) (bit other : Nat) :
    (mask &&& ~~~bitMask width bit).getLsbD other =
      (mask.getLsbD other && decide (other ≠ bit)) := by
  by_cases inside : other < width
  · by_cases same : other = bit
    · subst same
      simp [inside]
    · simp [inside, same]
      omega
  · rw [BitVec.getLsbD_of_ge _ _ (Nat.le_of_not_lt inside),
      BitVec.getLsbD_of_ge _ _ (Nat.le_of_not_lt inside), Bool.false_and]

theorem getLsbD_set
    (mask : BitVec width) {bit : Nat} (inside : bit < width) (other : Nat) :
    (mask ||| bitMask width bit).getLsbD other =
      (mask.getLsbD other || decide (other = bit)) := by
  by_cases same : other = bit
  · subst same
    simp [inside]
  · simp [same]
    omega

end CyclePerfectGameboy.BitMask
