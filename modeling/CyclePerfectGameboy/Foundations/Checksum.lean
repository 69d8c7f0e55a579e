import Mathlib.Algebra.BigOperators.Fin
import Mathlib.Data.Nat.ModEq

/-!
# Additive checksums

A checksum that subtracts each word and one more, in wrapping arithmetic, is
a statement about the exact sum of the words.  Such a statement cannot hold
for two families of words that differ at a single place.
-/

namespace CyclePerfectGameboy.Checksum

universe u

variable {width : Nat}

/-- Starting from zero, subtract each word and one more. -/
def runningDifference (count : Nat) (words : Fin count → BitVec width) :
    BitVec width :=
  Fin.foldl count (fun checksum index => checksum - words index - 1) 0

/-- The running difference cancels against the exact sum. -/
theorem runningDifference_add
    (count : Nat) (words : Fin count → BitVec width) :
    runningDifference count words +
        BitVec.ofNat width (∑ index, (words index).toNat + count) =
      0 := by
  induction count with
  | zero =>
      simp [runningDifference]
  | succ count inductionHypothesis =>
      let earlier : Fin count → BitVec width :=
        fun index => words index.castSucc
      let sum := BitVec.ofNat width (∑ index, (earlier index).toNat + count)
      have total :
          BitVec.ofNat width
              (∑ index, (words index).toNat + (count + 1)) =
            sum + words (Fin.last count) + 1 := by
        rw [Fin.sum_univ_castSucc, Nat.add_add_add_comm, Nat.add_assoc]
        simp only [BitVec.ofNat_add, sum, BitVec.ofNat_toNat,
          BitVec.setWidth_eq]
        grind
      have last :
          runningDifference (count + 1) words =
            runningDifference count earlier - words (Fin.last count) - 1 :=
        Fin.foldl_succ_last _ _
      calc
        runningDifference (count + 1) words + _ =
            (runningDifference count earlier - words (Fin.last count) - 1) +
              (sum + words (Fin.last count) + 1) := by
          rw [last, total]
        _ = runningDifference count earlier + sum := by
          grind
        _ = 0 := inductionHypothesis earlier

/-- The checksum is right exactly if the exact sum, with one for each word
and the checksum itself, is zero in the word size. -/
theorem runningDifference_eq_iff
    (count : Nat) (words : Fin count → BitVec width)
    (check : BitVec width) :
    runningDifference count words = check ↔
      2 ^ width ∣
        ∑ index, (words index).toNat + count + check.toNat := by
  have cancelled := runningDifference_add count words
  have zero :
      2 ^ width ∣ ∑ index, (words index).toNat + count + check.toNat ↔
        BitVec.ofNat width (∑ index, (words index).toNat + count) + check =
          0 := by
    rw [← BitVec.toNat_inj, BitVec.toNat_add, BitVec.toNat_ofNat,
      Nat.mod_add_mod, Nat.dvd_iff_mod_eq_zero]
    rfl
  rw [zero]
  grind

/-- Two families that agree off one place and both have such a sum agree at
that place as well. -/
theorem eq_of_dvd_sum
    {Index : Type u} [DecidableEq Index] {places : Finset Index}
    {words changed : Index → BitVec width} {place : Index}
    (inside : place ∈ places)
    (elsewhere : ∀ other ∈ places, other ≠ place →
      changed other = words other)
    {rest : Nat}
    (wordsSum :
      2 ^ width ∣ ∑ other ∈ places, (words other).toNat + rest)
    (changedSum :
      2 ^ width ∣ ∑ other ∈ places, (changed other).toNat + rest) :
    changed place = words place := by
  have same :
      ∑ other ∈ places.erase place, (changed other).toNat =
        ∑ other ∈ places.erase place, (words other).toNat := by
    refine Finset.sum_congr rfl (fun other member => ?_)
    rw [elsewhere other (Finset.mem_of_mem_erase member)
      (Finset.ne_of_mem_erase member)]
  rw [← Finset.add_sum_erase places _ inside] at wordsSum changedSum
  rw [same] at changedSum
  have congruent :
      (changed place).toNat ≡ (words place).toNat [MOD 2 ^ width] := by
    refine Nat.ModEq.add_right_cancel'
      (∑ other ∈ places.erase place, (words other).toNat + rest) ?_
    rw [Nat.ModEq, ← Nat.add_assoc, ← Nat.add_assoc,
      Nat.mod_eq_zero_of_dvd changedSum, Nat.mod_eq_zero_of_dvd wordsSum]
  exact
    BitVec.eq_of_toNat_eq
      (Nat.ModEq.eq_of_lt_of_lt congruent (changed place).isLt
        (words place).isLt)

end CyclePerfectGameboy.Checksum
