import CyclePerfectGameboy.System.Timer

/-!
# What the timer operations keep

The divider is only touched by an update and by a reset; nothing ever stores
to `prev_div_value_`, and an overflow that is pending has waited for no cycles
yet.
-/

namespace CyclePerfectGameboy

universe u

namespace Timer

@[simp]
theorem incrementTima_divInternal (timer : Timer) :
    timer.incrementTima.divInternal = timer.divInternal := by
  unfold incrementTima
  split <;> rfl

/-- The divider counts four for each unit of the argument, modulo `2 ^ 16`. -/
@[simp]
theorem advanceDivider_divInternal (timer : Timer) (cycles : Cycles) :
    (timer.advanceDivider cycles).divInternal =
      timer.divInternal + cycles.setWidth 16 * 4 := by
  simp only [advanceDivider]
  split
  · split
    · rw [incrementTima_divInternal]
    · rfl
  · rfl

theorem divider_toNat (divider : Word) (cycles : Cycles) :
    (divider + cycles.setWidth 16 * 4).toNat =
      (divider.toNat + 4 * cycles.toNat) % 2 ^ 16 := by
  have small := cycles.isLt
  bv_omega

section Memory

variable {M : Type u} [MemoryInterface M]

@[simp]
theorem serviceOverflow_divInternal
    (timer : Timer) (memory : M) (cycleCount : Cycles) :
    (timer.serviceOverflow memory cycleCount).1.divInternal =
      timer.divInternal := by
  simp only [serviceOverflow]
  split
  · split <;> rfl
  · rfl

theorem update_divInternal
    (timer : Timer) (memory : M) (cycles : Cycles) :
    (timer.update memory cycles).1.divInternal =
      timer.divInternal + cycles.setWidth 16 * 4 := by
  simp only [update, advanceDivider_divInternal,
    serviceOverflow_divInternal]
  rfl

theorem resetDiv_divInternal (timer : Timer) (memory : M) :
    (timer.resetDiv memory).1.divInternal = 0 := by
  simp only [resetDiv]
  split
  · split
    · rw [incrementTima_divInternal]
    · rfl
  · rfl

theorem tacUpdated_divInternal
    (timer : Timer) (memory : M) (oldTac newTac : Byte) :
    (timer.tacUpdated memory oldTac newTac).1.divInternal =
      timer.divInternal := by
  simp only [tacUpdated]
  split
  · rfl
  · split
    · rfl
    · split
      · split
        · rw [incrementTima_divInternal]
          rfl
        · rfl
      · rfl

end Memory

@[simp]
theorem incrementTima_prevDivValue (timer : Timer) :
    timer.incrementTima.prevDivValue = timer.prevDivValue := by
  unfold incrementTima
  split <;> rfl

@[simp]
theorem advanceDivider_prevDivValue (timer : Timer) (cycles : Cycles) :
    (timer.advanceDivider cycles).prevDivValue = timer.prevDivValue := by
  simp only [advanceDivider]
  split
  · split
    · rw [incrementTima_prevDivValue]
    · rfl
  · rfl

section Memory

variable {M : Type u} [MemoryInterface M]

@[simp]
theorem serviceOverflow_prevDivValue
    (timer : Timer) (memory : M) (cycleCount : Cycles) :
    (timer.serviceOverflow memory cycleCount).1.prevDivValue =
      timer.prevDivValue := by
  simp only [serviceOverflow]
  split
  · split <;> rfl
  · rfl

/-- An update does not remember the divider. -/
theorem update_prevDivValue
    (timer : Timer) (memory : M) (cycles : Cycles) :
    (timer.update memory cycles).1.prevDivValue = timer.prevDivValue := by
  simp only [update, advanceDivider_prevDivValue,
    serviceOverflow_prevDivValue]
  rfl

theorem tacUpdated_prevDivValue
    (timer : Timer) (memory : M) (oldTac newTac : Byte) :
    (timer.tacUpdated memory oldTac newTac).1.prevDivValue =
      timer.prevDivValue := by
  simp only [tacUpdated]
  split
  · rfl
  · split
    · rfl
    · split
      · split
        · rw [incrementTima_prevDivValue]
          rfl
        · rfl
      · rfl

end Memory

/-- Between two operations `prev_div_value_` is zero, and so is the waiting
time of an overflow. -/
structure Settled (timer : Timer) : Prop where
  prevDivValue : timer.prevDivValue = 0
  overflowCycles : timer.overflowCycles = 0

theorem initial_settled : Settled {} :=
  ⟨rfl, rfl⟩

theorem incrementTima_settled {timer : Timer} (settled : timer.Settled) :
    timer.incrementTima.Settled := by
  unfold incrementTima
  split
  · exact ⟨settled.prevDivValue, rfl⟩
  · exact ⟨settled.prevDivValue, settled.overflowCycles⟩

theorem advanceDivider_settled
    {timer : Timer} (settled : timer.Settled) (cycles : Cycles) :
    (timer.advanceDivider cycles).Settled := by
  have moved :
      Settled
        { timer with
          divInternal := timer.divInternal + cycles.setWidth 16 * 4 } :=
    ⟨settled.prevDivValue, settled.overflowCycles⟩
  simp only [advanceDivider]
  split
  · split
    · exact incrementTima_settled moved
    · exact moved
  · exact moved

section Memory

variable {M : Type u} [MemoryInterface M]

theorem readRegisters_settled
    {timer : Timer} (settled : timer.Settled) (memory : M) :
    (timer.readRegisters memory).Settled :=
  ⟨settled.prevDivValue, settled.overflowCycles⟩

/-- An update of at least four cycles services a pending overflow at once. -/
theorem serviceOverflow_of_pending
    {timer : Timer} (settled : timer.Settled)
    (pending : timer.timaOverflow = true) (memory : M)
    {cycleCount : Cycles} (enough : 4 ≤ cycleCount.toNat) :
    timer.serviceOverflow memory cycleCount =
      ({ timer with
          tima := timer.tma, timaOverflow := false, overflowCycles := 0 },
        requestInterrupt memory) := by
  have waited : 4 ≤ timer.overflowCycles + cycleCount.setWidth 16 := by
    rw [settled.overflowCycles]
    bv_omega
  simp only [serviceOverflow, pending, waited, if_true]

theorem serviceOverflow_settled
    {timer : Timer} (settled : timer.Settled) (memory : M)
    {cycleCount : Cycles} (enough : 4 ≤ cycleCount.toNat) :
    (timer.serviceOverflow memory cycleCount).1.Settled := by
  by_cases pending : timer.timaOverflow = true
  · rw [serviceOverflow_of_pending settled pending memory enough]
    exact ⟨settled.prevDivValue, rfl⟩
  · rw [serviceOverflow_of_idle (Bool.eq_false_iff.mpr pending)]
    exact settled

theorem update_settled
    {timer : Timer} (settled : timer.Settled) (memory : M)
    {cycles : Cycles} (enough : 4 ≤ cycles.toNat) :
    (timer.update memory cycles).1.Settled :=
  advanceDivider_settled
    (serviceOverflow_settled (readRegisters_settled settled memory) memory
      enough)
    cycles

theorem resetDiv_settled
    {timer : Timer} (settled : timer.Settled) (memory : M) :
    (timer.resetDiv memory).1.Settled := by
  have cleared :
      Settled { timer.readRegisters memory with divInternal := 0 } :=
    ⟨settled.prevDivValue, settled.overflowCycles⟩
  have stepped := incrementTima_settled cleared
  simp only [resetDiv]
  split
  · split
    · exact ⟨rfl, stepped.overflowCycles⟩
    · exact ⟨rfl, cleared.overflowCycles⟩
  · exact ⟨rfl, cleared.overflowCycles⟩

theorem tacUpdated_settled
    {timer : Timer} (settled : timer.Settled) (memory : M)
    (oldTac newTac : Byte) :
    (timer.tacUpdated memory oldTac newTac).1.Settled := by
  have updated :
      Settled { timer.readRegisters memory with tac := newTac } :=
    ⟨settled.prevDivValue, settled.overflowCycles⟩
  simp only [tacUpdated]
  split
  · exact settled
  · split
    · exact updated
    · split
      · split
        · exact incrementTima_settled updated
        · exact updated
      · exact readRegisters_settled settled memory

end Memory

end Timer

end CyclePerfectGameboy
