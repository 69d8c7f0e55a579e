import CyclePerfectGameboy.Foundations.ReloadCounter
import CyclePerfectGameboy.System.OverflowDelay

/-!
# The rate of the timer interrupt

As long as no call of `update` is longer than half a period of the selected
clock, `TIMA` counts every edge, and the interrupts come at the rate that
`get_clock_frequency` and `TMA` give.
-/

namespace CyclePerfectGameboy

open EventLog PhaseCounter ReloadCounter

/-- The frequency of the machine in Hz. -/
def clockSpeed : Nat := 4194304

/-- `get_clock_frequency`, in Hz. -/
def getClockFrequency (tac : Byte) : Nat :=
  [4096, 262144, 65536, 16384].getD (tacClockSelect tac).toNat 0

/-- The selected divider bit falls at the frequency that is announced. -/
theorem timerPeriod_mul_frequency :
    ∀ tac : Byte, timerPeriod tac * getClockFrequency tac = clockSpeed := by
  decide

/-- The edges of the timer input between two clock counts. -/
def timerEdges (tac : Byte) (first clocks : Nat) : Nat :=
  (first + clocks) * getClockFrequency tac / clockSpeed -
    first * getClockFrequency tac / clockSpeed

theorem timerEdges_eq (tac : Byte) (first clocks : Nat) :
    timerEdges tac first clocks =
      fallingEdges (timerPeriod tac) first clocks := by
  have product := timerPeriod_mul_frequency tac
  have positive : 0 < getClockFrequency tac := by
    by_contra none
    rw [Nat.le_zero.mp (Nat.le_of_not_lt none), Nat.mul_zero] at product
    exact absurd product (by decide)
  rw [timerEdges, fallingEdges, ← product,
    Nat.mul_div_mul_right _ _ positive, Nat.mul_div_mul_right _ _ positive]

/-- Edges add up along a run, also where the 16-bit divider wraps. -/
theorem timerEdges_add (tac : Byte) (divider : Word) (first more : Nat) :
    timerEdges tac divider.toNat (first + more) =
      timerEdges tac divider.toNat first +
        timerEdges tac ((divider.toNat + first) % 2 ^ 16) more := by
  have large := timerPeriod_large tac
  have positive : 0 < timerPeriod tac := by omega
  have wraps := Nat.mod_mod_of_dvd (divider.toNat + first)
    (timerPeriod_dvd tac)
  have parts :=
    Nat.mod_add_div' (divider.toNat % timerPeriod tac + first)
      (timerPeriod tac)
  rw [timerEdges_eq, timerEdges_eq, timerEdges_eq, fallingEdges_eq,
    fallingEdges_eq, fallingEdges_eq, wraps, phase_add,
    ← Nat.add_assoc (divider.toNat % timerPeriod tac)]
  generalize divider.toNat % timerPeriod tac + first = reached at parts ⊢
  have split :
      reached + more =
        reached % timerPeriod tac + more +
          reached / timerPeriod tac * timerPeriod tac := by
    omega
  rw [split, Nat.add_mul_div_right _ _ positive, Nat.add_comm]

namespace TimerWorld

/-- `TIMA` as the next update finds it: a pending overflow is reloaded
first. -/
def nextTima (world : TimerWorld) : Byte :=
  if world.timer.timaOverflow then world.memory tmaAddr
  else world.memory timaAddr

/-- An update of at most half a period sees every edge. -/
theorem seesEdge_of_short
    {world : TimerWorld} {tac : Byte}
    (control : world.memory tacAddr = tac)
    (enabled : tacEnabled tac = true) {cycles : Cycles}
    (short : 8 * cycles.toNat ≤ timerPeriod tac) :
    timerEdges tac world.timer.divInternal.toNat (4 * cycles.toNat) =
      if world.seesEdge cycles then 1 else 0 := by
  obtain ⟨bit, inside, selected⟩ := bitPositions_single tac
  have positive : 0 < 2 ^ bit := Nat.two_pow_pos bit
  have period := timerPeriod_of_bit inside selected
  have phase :=
    Nat.mod_lt world.timer.divInternal.toNat
      (show 0 < 2 * 2 ^ bit by omega)
  have counted :=
    (endpoints_count_edges_iff positive world.timer.divInternal.toNat
      (4 * cycles.toNat)).mpr (by omega)
  have edge := timerEdge_iff enabled world.timer.divInternal cycles
  rw [selected, Timer.edge_test_iff _ _ inside] at edge
  rw [timerEdges_eq, period, ← counted, endpointEdges, seesEdge, control]
  simp only [edge]

/-- What a run of updates has done to the counter. -/
structure Rated (start world : TimerWorld) (clocks overflows : Nat) :
    Prop where
  settled : world.timer.Settled
  control : world.memory tacAddr = start.memory tacAddr
  modulo : world.memory tmaAddr = start.memory tmaAddr
  divider :
    world.timer.divInternal.toNat =
      (start.timer.divInternal.toNat + clocks) % 2 ^ 16
  zero :
    world.timer.timaOverflow = true → world.memory timaAddr = 0
  counter :
    Ticked 256 (start.memory tmaAddr).toNat start.nextTima.toNat
      (timerEdges (start.memory tacAddr) start.timer.divInternal.toNat
        clocks)
      { value := world.nextTima.toNat, wraps := overflows }

section Runs

variable {start world : TimerWorld} {passed overflows : Nat}

theorem rated_start
    (settled : start.timer.Settled)
    (idle : start.timer.timaOverflow = false) :
    Rated start start 0 0 where
  settled := settled
  control := rfl
  modulo := rfl
  divider := (Nat.mod_eq_of_lt start.timer.divInternal.isLt).symm
  zero := by
    rw [idle]
    exact fun pending => absurd pending Bool.false_ne_true
  counter := by
    have none :
        timerEdges (start.memory tacAddr) start.timer.divInternal.toNat 0 =
          0 := Nat.sub_self _
    rw [none]
    exact Ticked.start start.nextTima.isLt

theorem countedTima_eq_nextTima
    (settled : world.timer.Settled) {cycles : Cycles}
    (enough : 4 ≤ cycles.toNat) :
    world.countedTima cycles = world.nextTima := by
  rw [countedTima_eq, Timer.overdue_of_settled settled enough, nextTima]

/-- An update leaves the counter ticked once if it sees an edge, and counts
the wrap. -/
theorem update_counter
    (settled : world.timer.Settled) {cycles : Cycles}
    (enough : 4 ≤ cycles.toNat) (overflows : Nat) :
    ({ value := (world.apply (.update cycles)).nextTima.toNat
       wraps :=
        overflows + (world.overflowEvents (.update cycles)).length } :
      Counter) =
      if world.seesEdge cycles then
        tick 256 (world.memory tmaAddr).toNat
          { value := world.nextTima.toNat, wraps := overflows }
      else
        { value := world.nextTima.toNat, wraps := overflows } := by
  have counted := countedTima_eq_nextTima settled enough
  have pending := update_timaOverflow settled enough
  have stored := world.update_tima cycles
  have modulo :=
    update_memory world cycles (show tmaAddr ≠ divAddr by decide)
      (show tmaAddr ≠ timaAddr by decide)
      (show tmaAddr ≠ 0xFF0F by decide)
  have wrapped :
      world.overflows cycles =
        (world.seesEdge cycles && decide (world.nextTima = 0xFF)) := by
    rw [TimerWorld.overflows, counted]
  rw [counted] at stored
  rw [overflowEvents, nextTima, pending, stored, modulo, wrapped]
  by_cases edge : world.seesEdge cycles = true
  · by_cases full : world.nextTima = 0xFF
    · simp only [edge, full, decide_true, Bool.and_self, if_true]
      rfl
    · have notLast : world.nextTima.toNat + 1 ≠ 256 := by
        bv_omega
      have raised :
          (world.nextTima + 1).toNat = world.nextTima.toNat + 1 := by
        bv_omega
      simp only [edge, full, decide_false, Bool.and_false, if_true,
        Bool.false_eq_true, if_false, raised]
      rw [tick, if_neg notLast]
      rfl
  · have noEdge : world.seesEdge cycles = false := by
      simpa using edge
    have kept : world.nextTima + 0 = world.nextTima := BitVec.add_zero _
    simp only [noEdge, Bool.false_and, Bool.false_eq_true, if_false, kept]
    rfl

/-- One update ticks the counter if it sees an edge. -/
theorem Rated.update
    (rated : Rated start world passed overflows)
    (enabled : tacEnabled (start.memory tacAddr) = true) {cycles : Cycles}
    (enough : 4 ≤ cycles.toNat)
    (short : 8 * cycles.toNat ≤ timerPeriod (start.memory tacAddr)) :
    Rated start (world.apply (.update cycles))
      (passed + 4 * cycles.toNat)
      (overflows + (world.overflowEvents (.update cycles)).length) where
  settled := Timer.update_settled rated.settled world.memory enough
  control := by
    rw [← rated.control]
    exact
      update_memory world cycles (by decide) (by decide) (by decide)
  modulo := by
    rw [← rated.modulo]
    exact
      update_memory world cycles (by decide) (by decide) (by decide)
  divider := by
    change (world.timer.update world.memory cycles).1.divInternal.toNat = _
    rw [Timer.update_divInternal, Timer.divider_toNat, rated.divider,
      Nat.mod_add_mod, Nat.add_assoc]
  zero := by
    intro pending
    rw [update_timaOverflow rated.settled enough, TimerWorld.overflows,
      Bool.and_eq_true, decide_eq_true_eq] at pending
    rw [world.update_tima cycles, pending.2, if_pos pending.1]
    rfl
  counter := by
    have edges :=
      seesEdge_of_short rated.control enabled short
    rw [timerEdges_add, ← rated.divider, edges,
      update_counter rated.settled enough, rated.modulo]
    by_cases edge : world.seesEdge cycles = true
    · rw [if_pos edge, if_pos edge]
      exact rated.counter.tick (start.memory tmaAddr).isLt
    · rw [if_neg edge, if_neg edge]
      exact rated.counter

theorem run_rated
    (settled : start.timer.Settled)
    (idle : start.timer.timaOverflow = false)
    (enabled : tacEnabled (start.memory tacAddr) = true)
    {calls : List Cycles}
    (each :
      ∀ cycles ∈ calls,
        4 ≤ cycles.toNat ∧
          8 * cycles.toNat ≤ timerPeriod (start.memory tacAddr)) :
    Rated start (start.run (calls.map .update)) (clocks calls)
      (trace apply overflowEvents start (calls.map .update)).length := by
  induction calls using List.reverseRecOn with
  | nil =>
      exact rated_start settled idle
  | append_singleton earlier cycles inductionHypothesis =>
      have before :=
        inductionHypothesis
          (fun call member => each call (List.mem_append_left _ member))
      have last :=
        each cycles
          (List.mem_append_right _ (List.mem_singleton_self cycles))
      have single : clocks [cycles] = 4 * cycles.toNat := by
        rw [clocks, List.map_singleton, List.sum_singleton]
      rw [List.map_append, List.map_singleton, run_concat, trace_concat,
        List.length_append, clocks_append, single]
      exact before.update enabled last.1 last.2

/-- The timer interrupt keeps the rate that `TAC` and `TMA` set: over any run
of updates of four cycles to half a period (which the fastest clock does not
leave room for), `TIMA` overflows once for every `256 - TMA` edges of a clock
of the announced frequency.  Each overflow but the pending one has been
requested, and `TIMA` shows the edges that are left. -/
theorem timer_interrupt_rate
    (world : TimerWorld) (earlier : List TimerOperation)
    (ticks : ∀ operation ∈ earlier, operation.Ticks)
    (calls : List Cycles) :
    let start := (world.apply .initialized).run earlier
    let updates : List TimerOperation := calls.map .update
    let final := start.run updates
    let tac := start.memory tacAddr
    let tima := (start.memory timaAddr).toNat
    let tma := (start.memory tmaAddr).toNat
    let edges :=
      timerEdges tac start.timer.divInternal.toNat (clocks calls)
    let overflows := (tima + edges - tma) / (256 - tma)
    start.timer.timaOverflow = false → tacEnabled tac = true →
      (∀ cycles ∈ calls,
        4 ≤ cycles.toNat ∧ 8 * cycles.toNat ≤ timerPeriod tac) →
        (trace apply overflowEvents start updates).length = overflows ∧
          (trace apply requestEvents start updates).length +
              (if final.timer.timaOverflow = true then 1 else 0) =
            overflows ∧
          (final.memory timaAddr).toNat =
            if final.timer.timaOverflow = true then 0
            else tima + edges - (256 - tma) * overflows := by
  intro start updates final tac tima tma edges overflows idle enabled each
  have settled : start.timer.Settled :=
    run_settled Timer.initial_settled ticks
  have rated := run_rated settled idle enabled each
  have inside : tma < 256 := (start.memory tmaAddr).isLt
  have first : start.nextTima = start.memory timaAddr := by
    rw [nextTima, idle]
    rfl
  have counter := rated.counter
  rw [first] at counter
  have counted :
      (trace apply overflowEvents start updates).length = overflows :=
    counter.wraps_eq inside
  have updatesTick : ∀ operation ∈ updates, operation.Ticks := by
    intro operation member
    obtain ⟨cycles, called, rfl⟩ := List.mem_map.mp member
    exact (each cycles called).1
  refine ⟨counted, ?_, ?_⟩
  · rw [← counted]
    exact (overflows_eq_requests settled idle updatesTick).symm
  · by_cases pending : final.timer.timaOverflow = true
    · rw [if_pos pending, rated.zero pending]
      rfl
    · have shown : final.nextTima = final.memory timaAddr := by
        rw [nextTima, if_neg pending]
      rw [if_neg pending, ← shown]
      exact counter.value_eq inside

/-- At 16384 Hz from `0xFE` on, 4096 clocks make 16 edges, and `TIMA`
overflows at every other one. -/
theorem timer_interrupt_rate_fast :
    let world : TimerWorld := { timer := {}, memory := fun _ => 0 }
    let earlier : List TimerOperation :=
      [.store 0xFF05 0xFE, .store 0xFF06 0xFE, .store 0xFF07 0x07]
    let calls : List Cycles := List.replicate 64 16
    (trace apply overflowEvents ((world.apply .initialized).run earlier)
      (calls.map .update)).length = 8 := by
  intro world earlier calls
  have each :
      ∀ cycles ∈ calls,
        4 ≤ cycles.toNat ∧ 8 * cycles.toNat ≤ timerPeriod 0x07 := by
    intro cycles member
    rw [List.eq_of_mem_replicate member]
    decide
  have rate :=
    (timer_interrupt_rate world earlier (by simp [earlier, TimerOperation.Ticks])
      calls rfl (by decide) each).1
  exact rate.trans (by decide)

end Runs

end TimerWorld

end CyclePerfectGameboy
