import Mathlib.Algebra.Ring.Nat
import Mathlib.Logic.Function.Iterate

/-!
# Counters that reload

A counter below `limit` goes up by one at each tick.  At the limit it wraps to
a reload value, and the wraps are counted.
-/

namespace CyclePerfectGameboy.ReloadCounter

structure Counter where
  value : Nat
  wraps : Nat := 0

/-- One tick. -/
def tick (limit reload : Nat) (counter : Counter) : Counter :=
  if counter.value + 1 = limit then
    { value := reload, wraps := counter.wraps + 1 }
  else
    { counter with value := counter.value + 1 }

variable {limit reload : Nat}

/-- What some ticks leave: every tick is still in the value or was taken from
it by a wrap, and once it has wrapped the value is not below the reload. -/
structure Ticked (limit reload start ticks : Nat)
    (counter : Counter) : Prop where
  balance :
    counter.value + (limit - reload) * counter.wraps = start + ticks
  below : counter.value < limit
  reloaded : 0 < counter.wraps → reload ≤ counter.value

theorem Ticked.start {start : Nat} (below : start < limit) :
    Ticked limit reload start 0 { value := start } :=
  ⟨rfl, below, fun wrapped => absurd wrapped (Nat.lt_irrefl 0)⟩

theorem Ticked.tick
    (inside : reload < limit) {start ticks : Nat} {counter : Counter}
    (ticked : Ticked limit reload start ticks counter) :
    Ticked limit reload start (ticks + 1)
      (tick limit reload counter) := by
  have balance := ticked.balance
  have below := ticked.below
  unfold ReloadCounter.tick
  by_cases last : counter.value + 1 = limit
  · rw [if_pos last]
    refine ⟨?_, inside, fun _ => Nat.le_refl reload⟩
    change reload + (limit - reload) * (counter.wraps + 1) = _
    rw [Nat.mul_succ]
    omega
  · rw [if_neg last]
    refine ⟨?_, ?_, ?_⟩
    · change counter.value + 1 + (limit - reload) * counter.wraps = _
      omega
    · change counter.value + 1 < limit
      omega
    · intro wrapped
      exact Nat.le_succ_of_le (ticked.reloaded wrapped)

/-- The number of wraps.  The truncated difference makes the first stretch,
which starts at any value, count like the others. -/
theorem Ticked.wraps_eq
    (inside : reload < limit) {start ticks : Nat} {counter : Counter}
    (ticked : Ticked limit reload start ticks counter) :
    counter.wraps = (start + ticks - reload) / (limit - reload) := by
  have balance := ticked.balance
  have below := ticked.below
  rcases Nat.eq_zero_or_pos counter.wraps with none | some
  · rw [none, Nat.mul_zero, Nat.add_zero] at balance
    rw [none]
    exact (Nat.div_eq_of_lt (by omega)).symm
  · have above := ticked.reloaded some
    have total :
        start + ticks - reload =
          counter.value - reload + (limit - reload) * counter.wraps := by
      omega
    rw [total, Nat.add_mul_div_left _ _ (by omega),
      Nat.div_eq_of_lt (by omega), Nat.zero_add]

theorem Ticked.value_eq
    (inside : reload < limit) {start ticks : Nat} {counter : Counter}
    (ticked : Ticked limit reload start ticks counter) :
    counter.value =
      start + ticks -
        (limit - reload) * ((start + ticks - reload) / (limit - reload)) := by
  rw [← ticked.wraps_eq inside, ← ticked.balance, Nat.add_sub_cancel]

end CyclePerfectGameboy.ReloadCounter
