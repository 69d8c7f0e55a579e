import CyclePerfectGameboy.Foundations.BitMask
import CyclePerfectGameboy.Foundations.PhaseCounter
import CyclePerfectGameboy.System.TimerLaws

/-!
# Edges of the timer input

`update` compares the selected divider bit before and after the whole step,
so it sees one edge at most.
-/

namespace CyclePerfectGameboy

open BitMask PhaseCounter

/-- Twice the divider bit that `TAC` selects: the clocks between two
increments of `TIMA`. -/
def timerPeriod (tac : Byte) : Nat :=
  2 * (bitPositions.getD (tacClockSelect tac).toNat 0).toNat

/-- The four periods in clocks, in the order of the clock select. -/
theorem timerPeriod_eq :
    ∀ tac : Byte,
      timerPeriod tac =
        [1024, 16, 64, 256].getD (tacClockSelect tac).toNat 0 := by
  decide

/-- `TAC` always selects a single divider bit. -/
theorem bitPositions_single :
    ∀ tac : Byte,
      ∃ bit < 15,
        bitPositions.getD (tacClockSelect tac).toNat 0 = 1#16 <<< bit := by
  decide

theorem timerPeriod_of_bit
    {tac : Byte} {bit : Nat} (inside : bit < 15)
    (selected :
      bitPositions.getD (tacClockSelect tac).toNat 0 = 1#16 <<< bit) :
    timerPeriod tac = 2 * 2 ^ bit := by
  have small : 2 ^ bit < 2 ^ 16 :=
    Nat.pow_lt_pow_right (by omega) (by omega)
  rw [timerPeriod, selected, BitVec.toNat_shiftLeft, Nat.shiftLeft_eq,
    BitVec.toNat_ofNat, Nat.one_mod, Nat.one_mul, Nat.mod_eq_of_lt small]

theorem dividerBit_iff (divider : Word) {bit : Nat} (inside : bit < 16) :
    divider &&& (1#16 <<< bit) ≠ 0 ↔
      2 ^ bit ≤ divider.toNat % (2 * 2 ^ bit) := by
  rw [← testBit_iff_upper_half]
  exact and_bit_ne_zero_iff divider inside

namespace Timer

/-- The test of `update` for a falling edge, in numbers. -/
theorem edge_test_iff
    (divider : Word) (cycles : Cycles) {bit : Nat} (inside : bit < 15) :
    (divider &&& (1#16 <<< bit) ≠ 0 ∧
        (divider + cycles.setWidth 16 * 4) &&& (1#16 <<< bit) = 0) ↔
      2 ^ bit ≤ divider.toNat % (2 * 2 ^ bit) ∧
        (divider.toNat + 4 * cycles.toNat) % (2 * 2 ^ bit) < 2 ^ bit := by
  have divides : 2 * 2 ^ bit ∣ 2 ^ 16 := by
    rw [← Nat.pow_succ']
    exact Nat.pow_dvd_pow 2 (by omega)
  have after :=
    dividerBit_iff (divider + cycles.setWidth 16 * 4)
      (show bit < 16 by omega)
  rw [divider_toNat, Nat.mod_mod_of_dvd _ divides] at after
  rw [dividerBit_iff divider (by omega)]
  refine and_congr_right (fun _ => ?_)
  rw [← Nat.not_le, ← after, not_not]

theorem advanceDivider_of_edge
    {timer : Timer} (enabled : tacEnabled timer.tac = true)
    {cycles : Cycles}
    (edge :
      timer.divInternal &&& timer.getInputBit ≠ 0 ∧
        (timer.divInternal + cycles.setWidth 16 * 4) &&&
          timer.getInputBit = 0) :
    timer.advanceDivider cycles =
      incrementTima
        { timer with
          divInternal := timer.divInternal + cycles.setWidth 16 * 4 } :=
  (if_pos enabled).trans (if_pos edge)

theorem advanceDivider_of_steady
    {timer : Timer} (enabled : tacEnabled timer.tac = true)
    {cycles : Cycles}
    (steady :
      ¬ (timer.divInternal &&& timer.getInputBit ≠ 0 ∧
        (timer.divInternal + cycles.setWidth 16 * 4) &&&
          timer.getInputBit = 0)) :
    timer.advanceDivider cycles =
      { timer with
        divInternal := timer.divInternal + cycles.setWidth 16 * 4 } :=
  (if_pos enabled).trans (if_neg steady)

/-- `TIMA` rises by the edges that the endpoints show, as long as it does
not overflow. -/
theorem advanceDivider_tima
    {timer : Timer} (enabled : tacEnabled timer.tac = true)
    (cycles : Cycles) {bit : Nat} (inside : bit < 15)
    (selected : timer.getInputBit = 1#16 <<< bit)
    (room :
      timer.tima.toNat +
          endpointEdges (2 ^ bit) timer.divInternal.toNat
            (4 * cycles.toNat) ≤ 255) :
    (timer.advanceDivider cycles).tima.toNat =
      timer.tima.toNat +
        endpointEdges (2 ^ bit) timer.divInternal.toNat
          (4 * cycles.toNat) := by
  have test := edge_test_iff timer.divInternal cycles inside
  rw [← selected] at test
  rw [endpointEdges] at room ⊢
  by_cases edge :
      2 ^ bit ≤ timer.divInternal.toNat % (2 * 2 ^ bit) ∧
        (timer.divInternal.toNat + 4 * cycles.toNat) % (2 * 2 ^ bit) <
          2 ^ bit
  · rw [if_pos edge] at room ⊢
    have notFull : timer.tima ≠ 0xFF := by
      intro full
      rw [full] at room
      exact absurd room (by decide)
    rw [advanceDivider_of_edge enabled (test.mpr edge), incrementTima,
      if_neg notFull]
    change (timer.tima + 1).toNat = _
    bv_omega
  · rw [if_neg edge, Nat.add_zero,
      advanceDivider_of_steady enabled
        (fun detected => edge (test.mp detected))]

/-- Without a pending overflow, `update` stores the `TIMA` of the advanced
divider. -/
theorem update_tima
    {timer : Timer} (idle : timer.timaOverflow = false)
    (memory : FlatMemory) (cycles : Cycles) :
    (timer.update memory cycles).2 timaAddr =
      ((timer.readRegisters memory).advanceDivider cycles).tima := by
  have idle' : (timer.readRegisters memory).timaOverflow = false := idle
  simp only [update, serviceOverflow_of_idle idle', writeRegisters,
    FlatMemory.write_eq, Function.update_self]

/-- `update` raises `TIMA` by the number of falling edges exactly when the
phase of the divider and the clocks of the call allow no edge, or one that
the endpoints show. -/
theorem update_counts_edges_iff
    (timer : Timer) (memory : FlatMemory) (cycles : Cycles)
    (enabled : tacEnabled (memory 0xFF07) = true)
    (idle : timer.timaOverflow = false)
    (room :
      (memory 0xFF05).toNat +
          ((timer.divInternal.toNat + 4 * cycles.toNat) /
              timerPeriod (memory 0xFF07) -
            timer.divInternal.toNat / timerPeriod (memory 0xFF07)) ≤ 255) :
    let period := timerPeriod (memory 0xFF07)
    let phase := timer.divInternal.toNat % period
    let clocks := 4 * cycles.toNat
    ((timer.update memory cycles).2 0xFF05).toNat =
        (memory 0xFF05).toNat +
          ((timer.divInternal.toNat + clocks) / period -
            timer.divInternal.toNat / period) ↔
      phase + clocks < period ∨
        (period / 2 ≤ phase ∧ phase + clocks < period + period / 2) := by
  intro period phase clocks
  obtain ⟨bit, inside, selected⟩ := bitPositions_single (memory 0xFF07)
  have positive : 0 < 2 ^ bit := Nat.two_pow_pos bit
  have periodEq : period = 2 * 2 ^ bit :=
    timerPeriod_of_bit inside selected
  have halfEq : period / 2 = 2 ^ bit := by omega
  change (memory 0xFF05).toNat +
    fallingEdges period timer.divInternal.toNat clocks ≤ 255 at room
  have shown :=
    endpointEdges_le positive timer.divInternal.toNat clocks
  rw [periodEq] at room
  have counted :
      ((timer.update memory cycles).2 timaAddr).toNat =
        (memory 0xFF05).toNat +
          endpointEdges (2 ^ bit) timer.divInternal.toNat clocks := by
    rw [update_tima idle]
    exact advanceDivider_tima enabled cycles inside selected
      (Nat.le_trans (Nat.add_le_add_left shown _) room)
  have exactly :=
    endpoints_count_edges_iff positive timer.divInternal.toNat clocks
  rw [halfEq, periodEq]
  have phaseEq : phase = timer.divInternal.toNat % (2 * 2 ^ bit) := by
    rw [← periodEq]
  rw [phaseEq, ← exactly]
  change ((timer.update memory cycles).2 timaAddr).toNat =
    (memory 0xFF05).toNat +
      fallingEdges (2 * 2 ^ bit) timer.divInternal.toNat clocks ↔ _
  rw [counted, Nat.add_right_inj]

/-- At 4096 Hz one machine cycle across the edge counts it. -/
theorem update_counts_edges_slow :
    let timer : Timer := { divInternal := 1020 }
    let memory : FlatMemory := Function.update (fun _ => 0) 0xFF07 0x04
    ((timer.update memory 4).2 0xFF05).toNat = 1 := by
  intro timer memory
  have counted :=
    (update_counts_edges_iff timer memory 4 (by decide) rfl
      (by decide)).mpr (by decide)
  exact counted.trans (by decide)

/-- At 262144 Hz a call of four units passes a whole period and counts
nothing. -/
theorem update_misses_edges :
    ¬ ∀ (timer : Timer) (memory : FlatMemory) (cycles : Cycles),
      tacEnabled (memory 0xFF07) = true →
      timer.timaOverflow = false →
      let period := timerPeriod (memory 0xFF07)
      let edges :=
        (timer.divInternal.toNat + 4 * cycles.toNat) / period -
          timer.divInternal.toNat / period
      (memory 0xFF05).toNat + edges ≤ 255 →
      ((timer.update memory cycles).2 0xFF05).toNat =
        (memory 0xFF05).toNat + edges := by
  intro always
  have counted :=
    always {} (Function.update (fun _ => 0) 0xFF07 0x05) 4
      (by decide) rfl (by decide)
  exact absurd counted (by decide)

end Timer

end CyclePerfectGameboy
