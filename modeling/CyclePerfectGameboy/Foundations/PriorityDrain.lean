import CyclePerfectGameboy.Foundations.BitMask
import Mathlib.Data.List.Basic
import Mathlib.Logic.Function.Iterate

/-!
# Draining a priority mask

The set bits of a mask in increasing order form a queue: clearing the lowest
bit removes its head.  A call that serves the head of such a queue empties it
in as many calls as it has items.
-/

namespace CyclePerfectGameboy.PriorityDrain

open BitMask

universe u v

section Bits

variable {width : Nat}

/-- The positions of the set bits, lowest first. -/
def setBits (mask : BitVec width) : List Nat :=
  (List.range width).filter mask.getLsbD

@[simp]
theorem mem_setBits {mask : BitVec width} {bit : Nat} :
    bit ∈ setBits mask ↔ mask.getLsbD bit = true := by
  rw [setBits, List.mem_filter, List.mem_range]
  constructor
  · exact fun member => member.2
  · intro set
    exact ⟨BitVec.lt_of_getLsbD set, set⟩

theorem setBits_sorted (mask : BitVec width) :
    (setBits mask).Pairwise (· < ·) :=
  List.pairwise_lt_range.filter _

theorem setBits_eq_nil {mask : BitVec width} :
    setBits mask = [] ↔ mask = BitVec.ofNat width 0 := by
  constructor
  · intro empty
    ext bit inside
    have absent : bit ∉ setBits mask := by simp [empty]
    rw [mem_setBits, Bool.not_eq_true] at absent
    rw [BitVec.getLsbD_eq_getElem inside] at absent
    simp [absent]
  · rintro rfl
    exact List.filter_eq_nil_iff.mpr (by simp)

/-- The head of the queue is the lowest set bit. -/
theorem setBits_lowest
    {mask : BitVec width} {bit : Nat} {rest : List Nat}
    (queue : setBits mask = bit :: rest) :
    mask.getLsbD bit = true ∧
      ∀ below < bit, mask.getLsbD below = false := by
  have sorted := setBits_sorted mask
  rw [queue, List.pairwise_cons] at sorted
  refine ⟨mem_setBits.mp (by simp [queue]), ?_⟩
  intro below before
  rw [← Bool.not_eq_true, ← mem_setBits, queue, List.mem_cons, not_or]
  refine ⟨Nat.ne_of_lt before, ?_⟩
  intro member
  exact Nat.lt_asymm before (sorted.1 below member)

theorem setBits_of_lowest
    {mask : BitVec width} {bit : Nat}
    (set : mask.getLsbD bit = true)
    (lowest : ∀ below < bit, mask.getLsbD below = false) :
    ∃ rest, setBits mask = bit :: rest := by
  cases queue : setBits mask with
  | nil =>
      have member := mem_setBits.mpr set
      rw [queue] at member
      exact absurd member List.not_mem_nil
  | cons head rest =>
      obtain ⟨headSet, headLowest⟩ := setBits_lowest queue
      have same : head = bit := by
        rcases Nat.lt_trichotomy head bit with before | equal | after
        · rw [lowest head before] at headSet
          exact absurd headSet Bool.false_ne_true
        · exact equal
        · rw [headLowest bit after] at set
          exact absurd set Bool.false_ne_true
      exact ⟨rest, by rw [same]⟩

/-- Clearing the lowest set bit removes the head of the queue. -/
theorem setBits_clear
    {mask : BitVec width} {bit : Nat} {rest : List Nat}
    (queue : setBits mask = bit :: rest) :
    setBits (mask &&& ~~~bitMask width bit) = rest := by
  have sorted := setBits_sorted mask
  rw [queue, List.pairwise_cons] at sorted
  have absent : ∀ other ∈ rest, decide (other ≠ bit) = true := by
    intro other member
    exact decide_eq_true (Nat.ne_of_gt (sorted.1 other member))
  calc
    setBits (mask &&& ~~~bitMask width bit) =
        (setBits mask).filter (fun other => decide (other ≠ bit)) := by
      rw [setBits, setBits, List.filter_filter]
      refine List.filter_congr ?_
      intro other _
      rw [getLsbD_clear, Bool.and_comm]
    _ = rest := by
      rw [queue, List.filter_cons_of_neg (by simp),
        List.filter_eq_self.mpr absent]

end Bits

section Drain

variable {State : Type u} {Item : Type v}

/-- Every call on a valid state removes the head of the queue, if there is
one, and leads to a valid state. -/
structure Drains (call : State → State) (queue : State → List Item)
    (Valid : State → Prop) : Prop where
  valid : ∀ state, Valid state → Valid (call state)
  tail :
    ∀ state, Valid state → queue (call state) = (queue state).tail

variable {call : State → State} {queue : State → List Item}
variable {Valid : State → Prop}

theorem Drains.valid_iterate
    (drains : Drains call queue Valid)
    (state : State) (start : Valid state) (calls : Nat) :
    Valid (call^[calls] state) := by
  induction calls with
  | zero =>
      exact start
  | succ calls inductionHypothesis =>
      rw [Function.iterate_succ_apply']
      exact drains.valid _ inductionHypothesis

theorem Drains.queue_iterate
    (drains : Drains call queue Valid)
    (state : State) (start : Valid state) (calls : Nat) :
    queue (call^[calls] state) = (queue state).drop calls := by
  induction calls with
  | zero =>
      rfl
  | succ calls inductionHypothesis =>
      rw [Function.iterate_succ_apply',
        drains.tail _ (drains.valid_iterate state start calls),
        inductionHypothesis, List.tail_drop]

/-- The call after `calls` others finds the item at that position at the
head of its queue. -/
theorem Drains.head_iterate
    (drains : Drains call queue Valid)
    (state : State) (start : Valid state) {calls : Nat} {item : Item}
    (position : (queue state)[calls]? = some item) :
    ∃ rest, queue (call^[calls] state) = item :: rest := by
  obtain ⟨inside, here⟩ := List.getElem?_eq_some_iff.mp position
  refine ⟨(queue state).drop (calls + 1), ?_⟩
  rw [drains.queue_iterate state start, List.drop_eq_getElem_cons inside, here]

/-- After as many calls as there are items the queue stays empty. -/
theorem Drains.empty_iterate
    (drains : Drains call queue Valid)
    (state : State) (start : Valid state) {calls : Nat}
    (enough : (queue state).length ≤ calls) :
    queue (call^[calls] state) = [] := by
  rw [drains.queue_iterate state start, List.drop_eq_nil_of_le enough]

end Drain

end CyclePerfectGameboy.PriorityDrain
