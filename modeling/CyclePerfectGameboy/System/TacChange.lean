import CyclePerfectGameboy.System.TimerWorld

/-!
# Changing the timer control

A store to `TAC` can take the timer input from one to zero.  `tac_updated`
compares the divider bits that the two values select and looks at the new
enable bit only: disabling the timer never counts, and enabling it can.
-/

namespace CyclePerfectGameboy

/-- The divider bit that `TAC` selects, enabled or not. -/
def selectedBit (tac : Byte) (divider : Word) : Bool :=
  divider &&& bitPositions.getD (tacClockSelect tac).toNat 0 != 0

theorem timerSignal_eq (tac : Byte) (divider : Word) :
    timerSignal tac divider = (tacEnabled tac && selectedBit tac divider) :=
  rfl

/-- The edge that `tac_updated` looks for. -/
def tacEdge (oldTac newTac : Byte) (divider : Word) : Bool :=
  tacEnabled newTac && selectedBit oldTac divider &&
    !selectedBit newTac divider

theorem tacEdge_iff (oldTac newTac : Byte) (divider : Word) :
    tacEdge oldTac newTac divider = true ↔
      tacEnabled newTac = true ∧
        divider &&& bitPositions.getD (tacClockSelect oldTac).toNat 0 ≠ 0 ∧
          divider &&& bitPositions.getD (tacClockSelect newTac).toNat 0 =
            0 := by
  simp only [tacEdge, selectedBit, Bool.and_eq_true, bne_iff_ne,
    Bool.not_eq_true', bne_eq_false_iff_eq, and_assoc]

namespace Timer

section Memory

variable (timer : Timer) (memory : FlatMemory) (oldTac newTac : Byte)

/-- With the edge `TIMA` counts. -/
theorem tacUpdated_of_edge
    (edge : tacEdge oldTac newTac timer.divInternal = true) :
    timer.tacUpdated memory oldTac newTac =
      let counted :=
        incrementTima { timer.readRegisters memory with tac := newTac }
      (counted, counted.writeRegisters memory) := by
  rcases (tacEdge_iff _ _ _).mp edge with ⟨enabled, oldSet, newClear⟩
  have different : tacClockSelect oldTac ≠ tacClockSelect newTac := by
    intro same
    rw [same] at oldSet
    exact oldSet newClear
  have sameDivider :
      (timer.readRegisters memory).divInternal = timer.divInternal := rfl
  simp only [tacUpdated, enabled, different, sameDivider, oldSet, newClear,
    Bool.not_true, Bool.and_false, Bool.false_eq_true, if_false, if_true,
    ne_eq, not_false_eq_true, true_or, and_self]

/-- Without the edge `TIMA` and the overflow are left alone. -/
theorem tacUpdated_of_steady
    (steady : tacEdge oldTac newTac timer.divInternal = false) :
    let result := timer.tacUpdated memory oldTac newTac
    result.2 timaAddr = memory timaAddr ∧
      result.1.timaOverflow = timer.timaOverflow ∧
      result.1.overflowCycles = timer.overflowCycles := by
  have sameDivider :
      (timer.readRegisters memory).divInternal = timer.divInternal := rfl
  have noEdge := Bool.eq_false_iff.mp steady
  rw [Ne, tacEdge_iff] at noEdge
  intro result
  have stored :
      ∀ later : Timer, later.tima = memory timaAddr →
        later.writeRegisters memory timaAddr = memory timaAddr := by
    intro later same
    rw [writeRegisters, FlatMemory.write_eq, same]
    exact Function.update_self _ _ _
  simp only [result, tacUpdated]
  split
  · exact ⟨rfl, rfl, rfl⟩
  · split
    · exact ⟨stored _ rfl, rfl, rfl⟩
    · split
      · rw [sameDivider, if_neg noEdge]
        exact ⟨stored _ rfl, rfl, rfl⟩
      · exact ⟨stored _ rfl, rfl, rfl⟩

end Memory

end Timer

namespace TimerWorld

/-- A store of `newTac` to `TAC` counts if `falls` says so, with the overflow
that a full `TIMA` makes, and otherwise leaves `TIMA` alone. -/
structure CountsWhen (world : TimerWorld) (newTac : Byte)
    (falls : Bool) : Prop where
  counts :
    falls = true →
      let next := world.apply (.tacUpdated (world.memory 0xFF07) newTac)
      next.memory 0xFF05 = world.memory 0xFF05 + 1 ∧
        (world.memory 0xFF05 = 0xFF →
          next.timer.timaOverflow = true ∧
            next.timer.overflowCycles = 0) ∧
        (world.memory 0xFF05 ≠ 0xFF →
          next.timer.timaOverflow = world.timer.timaOverflow ∧
            next.timer.overflowCycles = world.timer.overflowCycles)
  keeps :
    falls = false →
      let next := world.apply (.tacUpdated (world.memory 0xFF07) newTac)
      next.memory 0xFF05 = world.memory 0xFF05 ∧
        next.timer.timaOverflow = world.timer.timaOverflow ∧
        next.timer.overflowCycles = world.timer.overflowCycles

/-- `tac_updated` counts exactly if the timer is enabled afterwards and the
divider bit selected before is one and the bit selected now is zero. -/
theorem tacUpdated_counts_selected_edge
    (world : TimerWorld) (newTac : Byte) :
    world.CountsWhen newTac
      (tacEnabled newTac &&
        selectedBit (world.memory 0xFF07) world.timer.divInternal &&
        !selectedBit newTac world.timer.divInternal) where
  counts := by
    intro falls next
    have executed :=
      Timer.tacUpdated_of_edge world.timer world.memory
        (world.memory 0xFF07) newTac falls
    let counted : Timer :=
      Timer.incrementTima
        { world.timer.readRegisters world.memory with tac := newTac }
    have timer : next.timer = counted := congrArg Prod.fst executed
    have memory : next.memory = counted.writeRegisters world.memory :=
      congrArg Prod.snd executed
    have tima : counted.tima = world.memory timaAddr + 1 := by
      simp only [counted, Timer.incrementTima]
      split
      · rename_i full
        change world.memory timaAddr = 0xFF at full
        rw [full]
        rfl
      · rfl
    refine ⟨?_, ?_, ?_⟩
    · rw [memory, Timer.writeRegisters, FlatMemory.write_eq, tima]
      exact Function.update_self _ _ _
    · intro full
      have counts : counted = _ := if_pos full
      rw [timer, counts]
      exact ⟨rfl, rfl⟩
    · intro notFull
      have counts : counted = _ := if_neg notFull
      rw [timer, counts]
      exact ⟨rfl, rfl⟩
  keeps := by
    intro steady
    exact
      Timer.tacUpdated_of_steady world.timer world.memory
        (world.memory 0xFF07) newTac steady

/-- Disabling the timer while its input is one counts nothing, and enabling it
counts although its input was zero. -/
theorem tacUpdated_misses_input :
    let disabling : TimerWorld :=
      { timer := { divInternal := 0x0008 }
        memory := Function.update (fun _ => 0) 0xFF07 0x05 }
    let enabling : TimerWorld :=
      { timer := { divInternal := 0x0008 }
        memory := Function.update (fun _ => 0) 0xFF07 0x01 }
    ¬ disabling.CountsWhen 0x01
          (timerSignal (disabling.memory 0xFF07)
              disabling.timer.divInternal &&
            !timerSignal 0x01 disabling.timer.divInternal) ∧
      ¬ enabling.CountsWhen 0x06
          (timerSignal (enabling.memory 0xFF07)
              enabling.timer.divInternal &&
            !timerSignal 0x06 enabling.timer.divInternal) := by
  intro disabling enabling
  constructor
  · intro counts
    exact absurd (counts.counts (by decide)).1 (by decide)
  · intro counts
    exact absurd (counts.keeps (by decide)).1 (by decide)

end TimerWorld

end CyclePerfectGameboy
