import CyclePerfectGameboy.System.TacChange
import CyclePerfectGameboy.System.TimerOverflow

/-!
# The delay of an overflow

Four clocks after an overflow `TIMA` should be reloaded and the interrupt
requested, however the time is cut into calls.  `update` handles a pending
overflow before it counts, and counts the delay in its own unit.
-/

namespace CyclePerfectGameboy

open EventLog PhaseCounter

/-- The input of the counter falls at a clock, the clocks being counted from
the given divider. -/
def fallsAt (tac : Byte) (divider : Word) (clock : Nat) : Bool :=
  timerSignal tac (divider + BitVec.ofNat 16 (clock - 1)) &&
    !timerSignal tac (divider + BitVec.ofNat 16 clock)

theorem timerPeriod_large : ∀ tac : Byte, 16 ≤ timerPeriod tac := by
  decide

theorem timerPeriod_dvd : ∀ tac : Byte, timerPeriod tac ∣ 2 ^ 16 := by
  decide

/-- The selected bit is set in the upper half of each period. -/
theorem selectedBit_iff (tac : Byte) (divider : Word) :
    selectedBit tac divider = true ↔
      timerPeriod tac ≤ 2 * (divider.toNat % timerPeriod tac) := by
  obtain ⟨bit, inside, selected⟩ := bitPositions_single tac
  have set := dividerBit_iff divider (show bit < 16 by omega)
  rw [selectedBit, bne_iff_ne, selected, set,
    timerPeriod_of_bit inside selected]
  omega

theorem selectedBit_at (tac : Byte) (divider : Word) (clock : Nat) :
    selectedBit tac (divider + BitVec.ofNat 16 clock) = true ↔
      timerPeriod tac ≤
        2 * ((divider.toNat + clock) % timerPeriod tac) := by
  rw [selectedBit_iff, BitVec.toNat_add, BitVec.toNat_ofNat,
    Nat.add_mod_mod, Nat.mod_mod_of_dvd _ (timerPeriod_dvd tac)]

/-- The input falls at the multiples of the period. -/
theorem fallsAt_iff
    (tac : Byte) (divider : Word) {clock : Nat} (later : 0 < clock) :
    fallsAt tac divider clock = true ↔
      tacEnabled tac = true ∧
        timerPeriod tac ∣ divider.toNat + clock := by
  have large := timerPeriod_large tac
  have before := selectedBit_at tac divider (clock - 1)
  have after := selectedBit_at tac divider clock
  have inside :=
    Nat.mod_lt (divider.toNat + (clock - 1))
      (show 0 < timerPeriod tac by omega)
  have next :
      (divider.toNat + clock) % timerPeriod tac =
        ((divider.toNat + (clock - 1)) % timerPeriod tac + 1) %
          timerPeriod tac := by
    rw [Nat.mod_add_mod]
    congr 1
    omega
  simp only [fallsAt, timerSignal_eq, Bool.and_eq_true, Bool.not_eq_true',
    ← Bool.not_eq_true, before, after]
  rw [Nat.dvd_iff_mod_eq_zero, next]
  generalize (divider.toNat + (clock - 1)) % timerPeriod tac = phase
    at inside
  by_cases last : phase + 1 = timerPeriod tac
  · rw [last, Nat.mod_self]
    grind
  · rw [Nat.mod_eq_of_lt (by omega)]
    grind

/-- Two edges are a period apart. -/
theorem fallsAt_apart
    {tac : Byte} {divider : Word} {first second : Nat}
    (later : 0 < first) (ordered : first < second)
    (firstFalls : fallsAt tac divider first = true)
    (secondFalls : fallsAt tac divider second = true) :
    first + timerPeriod tac ≤ second := by
  have firstAt := ((fallsAt_iff tac divider later).mp firstFalls).2
  have secondAt :=
    ((fallsAt_iff tac divider (Nat.lt_trans later ordered)).mp secondFalls).2
  have between :
      timerPeriod tac ∣
        (divider.toNat + second) - (divider.toNat + first) :=
    Nat.dvd_sub secondAt firstAt
  have distance :=
    Nat.le_of_dvd (by omega) between
  omega

namespace TimerWorld

/-- The clocks that calls of `update` take. -/
def clocks (calls : List Cycles) : Nat :=
  4 * (calls.map BitVec.toNat).sum

/-- `TIMA` after some clocks of a call, counted clock by clock: an overflow
has been reloaded from `TMA` by the time of the next edge. -/
def timaAt (world : TimerWorld) (cycles : Cycles) : Nat → Byte
  | 0 => world.countedTima cycles
  | clock + 1 =>
      let tima := world.timaAt cycles clock
      if fallsAt (world.memory tacAddr) world.timer.divInternal
          (clock + 1) then
        if tima = 0xFF then world.memory tmaAddr else tima + 1
      else
        tima

/-- At a clock of the call a falling edge finds `TIMA` full. -/
def overflowsAt (world : TimerWorld) (cycles : Cycles)
    (clock : Nat) : Bool :=
  decide (0 < clock ∧ clock ≤ 4 * cycles.toNat) &&
    fallsAt (world.memory tacAddr) world.timer.divInternal clock &&
    decide (world.timaAt cycles (clock - 1) = 0xFF)

/-- The requests to be expected within some clocks of the run: the one that
an earlier overflow has left for the first call, and one for each overflow up
to the given clock that is four clocks old.  Overflows of one call are counted
together: two that fall due in it ask for two requests, which one call cannot
make. -/
def requestsDue (world : TimerWorld) (cycles : Cycles)
    (clock passed : Nat) : Nat :=
  (if world.timer.overdue cycles = true then 1 else 0) +
    (List.range (clock + 1)).countP
      (fun earlier =>
        world.overflowsAt cycles earlier && decide (earlier + 4 ≤ passed))

/-- An overflow in the first call of a run is served by the first call that
ends four clocks later or more, and by none before.  The requests are those
for all overflows of the call up to this one, so nothing is on time behind an
overflow of the same call that is four clocks old when the call ends. -/
structure ServedOnTime (world : TimerWorld) (cycles : Cycles)
    (later : List Cycles) (clock : Nat) : Prop where
  requested :
    ∀ earlier last, earlier ++ [last] <+: cycles :: later →
      clocks earlier < clock + 4 →
        (trace apply requestEvents world
            ((earlier ++ [last]).map .update)).length =
          world.requestsDue cycles clock (clocks (earlier ++ [last]))
  reloaded :
    ∀ earlier last, earlier ++ [last] <+: cycles :: later →
      clocks earlier < clock + 4 →
        clock + 4 ≤ clocks (earlier ++ [last]) →
          (world.run ((earlier ++ [last]).map .update)).memory 0xFF05 =
            world.memory 0xFF06

/-- The timer finds `TIMA` full and the selected bit set when a call
begins. -/
def seesOverflow (world : TimerWorld) (cycles : Cycles) : Bool :=
  selectedBit (world.memory tacAddr) world.timer.divInternal &&
    decide
      ((if world.timer.overdue cycles = true then world.memory tmaAddr
        else world.memory timaAddr) = 0xFF)

/-- The overflow is the first of its call and comes less than four clocks
before its end, and the next call that takes time makes the wait four units
long: of this overflow, or of an earlier one if this one is missed. -/
structure WaitsInTime (world : TimerWorld) (cycles : Cycles)
    (later : List Cycles) (clock : Nat) : Prop where
  first : ∀ earlier < clock, world.overflowsAt cycles earlier = false
  atEnd : 4 * cycles.toNat < clock + 4
  waited :
    ∀ next, later.find? (fun call => decide (call ≠ 0)) = some next →
      (world.seesOverflow cycles = true ∧ 4 ≤ next.toNat) ∨
        (world.seesOverflow cycles = false ∧
          world.timer.timaOverflow = true ∧
          world.timer.overdue cycles = false ∧
          4 ≤ world.timer.overflowCycles + cycles.setWidth 16 +
            next.setWidth 16)

/-! ## One update -/

theorem requests_length (world : TimerWorld) (cycles : Cycles) :
    (world.requestEvents (.update cycles)).length =
      if world.timer.overdue cycles = true then 1 else 0 := by
  rw [update_requests_eq]
  split <;> rfl

/-- A new overflow waits from zero, and an older one goes on waiting unless
it has been served. -/
theorem update_overflowCycles (world : TimerWorld) (cycles : Cycles) :
    (world.apply (.update cycles)).timer.overflowCycles =
      if world.overflows cycles = true ∨
          world.timer.overdue cycles = true then
        0
      else if world.timer.timaOverflow = true then
        world.timer.overflowCycles + cycles.setWidth 16
      else
        world.timer.overflowCycles := by
  have serviced :
      ((world.timer.readRegisters world.memory).serviceOverflow world.memory
          cycles).1.overflowCycles =
        if world.timer.overdue cycles = true then
          0
        else if world.timer.timaOverflow = true then
          world.timer.overflowCycles + cycles.setWidth 16
        else
          world.timer.overflowCycles := by
    rw [← world.timer.overdue_readRegisters world.memory cycles]
    split
    · rename_i overdue
      rw [Timer.serviceOverflow_of_overdue overdue]
    · rename_i waiting
      rw [Timer.serviceOverflow_of_waiting (Bool.eq_false_iff.mpr waiting)]
      rfl
  rw [update_timer, Timer.advanceDivider_eq, Timer.serviceOverflow_tac,
    Timer.serviceOverflow_divInternal, overflows]
  change (if world.seesEdge cycles = true then _ else _ :
    Timer).overflowCycles = _
  by_cases edge : world.seesEdge cycles = true
  · by_cases full : world.countedTima cycles = 0xFF
    · rw [if_pos edge, if_pos (by simp [edge, full])]
      exact congrArg Timer.overflowCycles (if_pos full)
    · have counted :
          ∀ timer : Timer, timer.tima ≠ 0xFF →
            timer.incrementTima.overflowCycles = timer.overflowCycles := by
        intro timer notFull
        rw [Timer.incrementTima, if_neg notFull]
      rw [if_pos edge]
      simp only [full, decide_false, Bool.and_false, Bool.false_eq_true,
        false_or]
      refine (counted _ ?_).trans serviced
      exact full
  · rw [if_neg edge]
    simp only [edge, Bool.false_and, Bool.false_eq_true, false_or]
    exact serviced

/-- What the next call finds overdue: the overflow of this call, or an
earlier one that goes on waiting. -/
theorem update_overdue (world : TimerWorld) (cycles next : Cycles) :
    (world.apply (.update cycles)).timer.overdue next = true ↔
      (world.overflows cycles = true ∧ 4 ≤ next.toNat) ∨
        (world.overflows cycles = false ∧
          world.timer.timaOverflow = true ∧
          world.timer.overdue cycles = false ∧
          4 ≤ world.timer.overflowCycles + cycles.setWidth 16 +
            next.setWidth 16) := by
  have fresh : (4 : Word) ≤ next.setWidth 16 ↔ 4 ≤ next.toNat := by
    constructor
    · intro waited
      bv_omega
    · intro waited
      bv_omega
  rw [Timer.overdue, Bool.and_eq_true, decide_eq_true_eq, update_pending,
    update_overflowCycles]
  cases overflow : world.overflows cycles with
  | true =>
      simpa using fresh
  | false =>
      cases overdue : world.timer.overdue cycles <;>
        cases pending : world.timer.timaOverflow <;> simp

/-- A call of no cycles passes no time. -/
structure SameInstant (world later : TimerWorld) : Prop where
  overdue : ∀ next, later.timer.overdue next = world.timer.overdue next
  divider : later.timer.divInternal = world.timer.divInternal
  control : later.memory tacAddr = world.memory tacAddr
  modulo : later.memory tmaAddr = world.memory tmaAddr

theorem seesEdge_zero (world : TimerWorld) : world.seesEdge 0 = false := by
  have still :
      world.timer.divInternal + (0 : Cycles).setWidth 16 * 4 =
        world.timer.divInternal := by
    bv_omega
  rw [seesEdge, timerEdge, still, Bool.and_not_self]

theorem update_zero
    {world : TimerWorld} (waiting : world.timer.overdue 0 = false) :
    world.SameInstant (world.apply (.update 0)) where
  overdue := by
    intro next
    have noOverflow : world.overflows 0 = false := by
      rw [overflows, seesEdge_zero, Bool.false_and]
    have sum :
        world.timer.overflowCycles + (0 : Cycles).setWidth 16 +
            next.setWidth 16 =
          world.timer.overflowCycles + next.setWidth 16 := by
      bv_omega
    rw [Bool.eq_iff_iff, update_overdue, noOverflow, waiting, sum,
      Timer.overdue]
    simp
  divider := by
    change (world.timer.update world.memory 0).1.divInternal = _
    rw [Timer.update_divInternal]
    bv_omega
  control :=
    update_memory world 0 (by decide) (by decide) (by decide)
  modulo :=
    update_memory world 0 (by decide) (by decide) (by decide)

/-- Calls of no cycles request nothing and leave a waiting overflow as it
is. -/
theorem run_zeros
    {world : TimerWorld} (waiting : world.timer.overdue 0 = false)
    {calls : List Cycles} (zeros : ∀ call ∈ calls, call = 0) :
    world.SameInstant (world.run (calls.map .update)) ∧
      trace apply requestEvents world (calls.map .update) = [] := by
  induction calls generalizing world with
  | nil =>
      exact ⟨⟨fun _ => rfl, rfl, rfl, rfl⟩, rfl⟩
  | cons call rest inductionHypothesis =>
      obtain rfl : call = 0 := zeros call List.mem_cons_self
      have here := update_zero waiting
      rcases inductionHypothesis ((here.overdue 0).trans waiting)
          (fun later member => zeros later (List.mem_cons_of_mem 0 member))
        with ⟨there, silent⟩
      constructor
      · exact
          { overdue := fun next =>
              (there.overdue next).trans (here.overdue next)
            divider := there.divider.trans here.divider
            control := there.control.trans here.control
            modulo := there.modulo.trans here.modulo }
      · have quiet : world.requestEvents (.update 0) = [] := by
          rw [update_requests_eq, waiting]
          rfl
        rw [List.map_cons, trace, quiet, List.nil_append]
        exact silent

theorem overflowsAt_iff
    (world : TimerWorld) (cycles : Cycles) (clock : Nat) :
    world.overflowsAt cycles clock = true ↔
      (0 < clock ∧ clock ≤ 4 * cycles.toNat) ∧
        fallsAt (world.memory tacAddr) world.timer.divInternal clock =
          true ∧
        world.timaAt cycles (clock - 1) = 0xFF := by
  simp only [overflowsAt, Bool.and_eq_true, decide_eq_true_eq, and_assoc]

/-- An edge in the last four clocks of a call leaves the selected bit
clear. -/
theorem selectedBit_of_late
    {world : TimerWorld} {cycles : Cycles} {clock : Nat}
    (overflow : world.overflowsAt cycles clock = true)
    (atEnd : 4 * cycles.toNat < clock + 4) :
    selectedBit (world.memory tacAddr)
      (world.timer.divInternal + cycles.setWidth 16 * 4) = false := by
  rcases (overflowsAt_iff world cycles clock).mp overflow with
    ⟨⟨later, inside⟩, falls, -⟩
  have multiple := ((fallsAt_iff _ _ later).mp falls).2
  have large := timerPeriod_large (world.memory tacAddr)
  have moved :
      world.timer.divInternal + cycles.setWidth 16 * 4 =
        world.timer.divInternal + BitVec.ofNat 16 (4 * cycles.toNat) := by
    bv_omega
  have phase :
      (world.timer.divInternal.toNat + 4 * cycles.toNat) %
          timerPeriod (world.memory tacAddr) =
        4 * cycles.toNat - clock := by
    have split :
        world.timer.divInternal.toNat + 4 * cycles.toNat =
          (4 * cycles.toNat - clock) +
            (world.timer.divInternal.toNat + clock) := by
      omega
    rw [split, Nat.add_mod, Nat.mod_eq_zero_of_dvd multiple, Nat.add_zero,
      Nat.mod_mod]
    exact Nat.mod_eq_of_lt (by omega)
  rw [Bool.eq_false_iff, Ne, moved, selectedBit_at, phase]
  omega

/-- The endpoints show such an edge if the selected bit is set before the
call. -/
theorem seesEdge_of_late
    {world : TimerWorld} {cycles : Cycles} {clock : Nat}
    (overflow : world.overflowsAt cycles clock = true)
    (atEnd : 4 * cycles.toNat < clock + 4) :
    world.seesEdge cycles =
      selectedBit (world.memory tacAddr) world.timer.divInternal := by
  rcases (overflowsAt_iff world cycles clock).mp overflow with
    ⟨⟨later, -⟩, falls, -⟩
  have enabled := ((fallsAt_iff _ _ later).mp falls).1
  rw [seesEdge, timerEdge, timerSignal_eq, timerSignal_eq, enabled,
    selectedBit_of_late overflow atEnd]
  simp

theorem overflows_of_late
    {world : TimerWorld} {cycles : Cycles} {clock : Nat}
    (overflow : world.overflowsAt cycles clock = true)
    (atEnd : 4 * cycles.toNat < clock + 4) :
    world.overflows cycles = world.seesOverflow cycles := by
  rw [overflows, seesOverflow, seesEdge_of_late overflow atEnd,
    countedTima_eq]

theorem requestsDue_of_first
    {world : TimerWorld} {cycles : Cycles} {clock : Nat}
    (overflow : world.overflowsAt cycles clock = true)
    (first : ∀ earlier < clock, world.overflowsAt cycles earlier = false)
    (passed : Nat) :
    world.requestsDue cycles clock passed =
      (if world.timer.overdue cycles = true then 1 else 0) +
        (if clock + 4 ≤ passed then 1 else 0) := by
  have none :
      (List.range clock).countP
        (fun earlier =>
          world.overflowsAt cycles earlier &&
            decide (earlier + 4 ≤ passed)) = 0 := by
    rw [List.countP_eq_zero]
    intro earlier member
    rw [first earlier (List.mem_range.mp member)]
    simp
  rw [requestsDue, List.range_succ, List.countP_append, none,
    List.countP_singleton, overflow]
  simp

/-- An overflow that is four clocks old at the end of its call is missing
among its requests. -/
theorem requestsDue_of_old
    {world : TimerWorld} {cycles : Cycles} {clock old : Nat}
    (overflow : world.overflowsAt cycles old = true)
    (notLater : old ≤ clock) {passed : Nat} (due : old + 4 ≤ passed) :
    (if world.timer.overdue cycles = true then 1 else 0) <
      world.requestsDue cycles clock passed := by
  have some :
      0 < (List.range (clock + 1)).countP
        (fun earlier =>
          world.overflowsAt cycles earlier &&
            decide (earlier + 4 ≤ passed)) := by
    rw [List.countP_pos_iff]
    refine ⟨old, List.mem_range.mpr (by omega), ?_⟩
    rw [overflow, decide_eq_true due]
    rfl
  rw [requestsDue]
  omega

theorem clocks_append (earlier later : List Cycles) :
    clocks (earlier ++ later) = clocks earlier + clocks later := by
  rw [clocks, clocks, clocks, List.map_append, List.sum_append, Nat.mul_add]

theorem clocks_cons (call : Cycles) (later : List Cycles) :
    clocks (call :: later) = 4 * call.toNat + clocks later := by
  rw [clocks, clocks, List.map_cons, List.sum_cons, Nat.mul_add]

theorem clocks_zeros
    {calls : List Cycles} :
    clocks calls = 0 ↔ ∀ call ∈ calls, call = 0 := by
  induction calls with
  | nil =>
      simp [clocks]
  | cons call rest inductionHypothesis =>
      have zero : call.toNat = 0 ↔ call = 0 := by
        constructor
        · intro none
          exact BitVec.eq_of_toNat_eq none
        · rintro rfl
          rfl
      rw [clocks_cons, List.forall_mem_cons, ← inductionHypothesis, ← zero]
      omega

/-- A call leaves nothing that is overdue at once. -/
theorem update_waiting (world : TimerWorld) (cycles : Cycles) :
    (world.apply (.update cycles)).timer.overdue 0 = false := by
  rw [Bool.eq_false_iff, Ne, update_overdue]
  rintro (⟨-, waited⟩ | ⟨-, pending, notOverdue, waited⟩)
  · exact absurd waited (by decide)
  · have still :
        world.timer.overflowCycles + cycles.setWidth 16 +
            (0 : Cycles).setWidth 16 =
          world.timer.overflowCycles + cycles.setWidth 16 := by
      bv_omega
    rw [still] at waited
    rw [Timer.overdue, pending, decide_eq_true waited] at notOverdue
    exact absurd notOverdue (by decide)

section FirstCall

variable (world : TimerWorld) (cycles : Cycles)

/-- The instant at which the next call that takes time begins. -/
theorem run_to_next
    {between : List Cycles} (zeros : ∀ call ∈ between, call = 0) :
    (world.apply (.update cycles)).SameInstant
      (world.run ((cycles :: between).map .update)) :=
  (run_zeros (update_waiting world cycles) zeros).1

theorem requests_to_next
    {between : List Cycles} (zeros : ∀ call ∈ between, call = 0)
    (next : Cycles) :
    (trace apply requestEvents world
        ((cycles :: between ++ [next]).map .update)).length =
      (if world.timer.overdue cycles = true then 1 else 0) +
        (if (world.apply (.update cycles)).timer.overdue next = true then 1
          else 0) := by
  have silent := (run_zeros (update_waiting world cycles) zeros).2
  have same := (run_to_next world cycles zeros).overdue next
  have first :
      trace apply requestEvents world ((cycles :: between).map .update) =
        world.requestEvents (.update cycles) := by
    rw [List.map_cons, trace, silent, List.append_nil]
  rw [List.map_append, List.map_singleton, trace_concat, first,
    List.length_append, requests_length]
  change _ + ((world.run ((cycles :: between).map .update)).requestEvents
    (.update next)).length = _
  rw [requests_length, same]

variable {world cycles}

/-- The next call finds the selected bit clear: it reloads and does not
count. -/
theorem tima_at_next
    {clock : Nat} (overflow : world.overflowsAt cycles clock = true)
    (atEnd : 4 * cycles.toNat < clock + 4)
    {between : List Cycles} (zeros : ∀ call ∈ between, call = 0)
    {next : Cycles}
    (overdue :
      (world.apply (.update cycles)).timer.overdue next = true) :
    (world.run ((cycles :: between ++ [next]).map .update)).memory 0xFF05 =
      world.memory 0xFF06 := by
  have instant := run_to_next world cycles zeros
  have divider :
      (world.apply (.update cycles)).timer.divInternal =
        world.timer.divInternal + cycles.setWidth 16 * 4 :=
    Timer.update_divInternal world.timer world.memory cycles
  have control :
      (world.apply (.update cycles)).memory tacAddr =
        world.memory tacAddr :=
    update_memory world cycles (by decide) (by decide) (by decide)
  have modulo :
      (world.apply (.update cycles)).memory tmaAddr =
        world.memory tmaAddr :=
    update_memory world cycles (by decide) (by decide) (by decide)
  have steady :
      (world.run ((cycles :: between).map .update)).seesEdge next =
        false := by
    rw [seesEdge, timerEdge, timerSignal_eq, instant.control,
      instant.divider, control, divider,
      selectedBit_of_late overflow atEnd, Bool.and_false, Bool.false_and]
  rw [List.map_append, List.map_singleton, run_concat,
    show (0xFF05 : Address) = timaAddr from rfl, update_tima, steady,
    countedTima_eq, instant.overdue, overdue, instant.modulo, modulo]
  exact BitVec.add_zero _

theorem overdue_next_iff
    {clock : Nat} (overflow : world.overflowsAt cycles clock = true)
    (atEnd : 4 * cycles.toNat < clock + 4) (next : Cycles) :
    (world.apply (.update cycles)).timer.overdue next = true ↔
      (world.seesOverflow cycles = true ∧ 4 ≤ next.toNat) ∨
        (world.seesOverflow cycles = false ∧
          world.timer.timaOverflow = true ∧
          world.timer.overdue cycles = false ∧
          4 ≤ world.timer.overflowCycles + cycles.setWidth 16 +
            next.setWidth 16) := by
  rw [update_overdue, overflows_of_late overflow atEnd]

end FirstCall

/-- The calls before the due one are those of the overflow and some that take
no time. -/
theorem prefix_cases
    {cycles last : Cycles} {earlier later : List Cycles} {clock : Nat}
    (called : earlier ++ [last] <+: cycles :: later)
    (early : clocks earlier < clock + 4)
    (inside : clock ≤ 4 * cycles.toNat) :
    (earlier = [] ∧ last = cycles) ∨
      ∃ between, earlier = cycles :: between ∧
        (∀ call ∈ between, call = 0) ∧ between ++ [last] <+: later := by
  cases earlier with
  | nil =>
      exact Or.inl ⟨rfl, (List.cons_prefix_cons.mp called).1⟩
  | cons first between =>
      rcases List.cons_prefix_cons.mp called with ⟨rfl, rest⟩
      refine Or.inr ⟨between, rfl, ?_, rest⟩
      rw [← clocks_zeros]
      rw [clocks_cons] at early
      have whole : 4 ∣ clocks between := Nat.dvd_mul_right 4 _
      omega

/-- The first call that takes time, after those that take none. -/
theorem find_next_of_prefix
    {between later : List Cycles} {last : Cycles}
    (zeros : ∀ call ∈ between, call = 0) (takesTime : last ≠ 0)
    (called : between ++ [last] <+: later) :
    later.find? (fun call => decide (call ≠ 0)) = some last := by
  obtain ⟨rest, rfl⟩ := called
  rw [List.append_assoc, List.find?_append, List.find?_eq_none.mpr]
  · have here : decide (last ≠ 0) = true := decide_eq_true takesTime
    rw [List.singleton_append, List.find?_cons, here]
    rfl
  · intro call member
    simp [zeros call member]

/-! ## The main result -/

section OnTime

variable {world : TimerWorld} {cycles : Cycles} {later : List Cycles}
variable {clock : Nat}

/-- The first call requests nothing for an overflow of its own, so none of
them is four clocks old when it ends. -/
theorem ServedOnTime.recent
    (served : world.ServedOnTime cycles later clock) :
    ∀ old ≤ clock, world.overflowsAt cycles old = true →
      4 * cycles.toNat < old + 4 := by
  intro old notLater full
  have atOnce :=
    served.requested [] cycles (List.cons_prefix_cons.mpr ⟨rfl,
      List.nil_prefix⟩) (show clocks [] < clock + 4 by simp [clocks])
  have single : clocks ([] ++ [cycles]) = 4 * cycles.toNat := by
    simp [clocks]
  rw [List.nil_append, List.map_singleton, trace, trace, List.append_nil,
    requests_length, ← List.nil_append [cycles], single] at atOnce
  by_contra due
  have more :=
    requestsDue_of_old full notLater
      (show old + 4 ≤ 4 * cycles.toNat by omega)
  omega

/-- Two overflows are a period apart, so only one can be that recent. -/
theorem ServedOnTime.isFirst
    (served : world.ServedOnTime cycles later clock)
    (overflow : world.overflowsAt cycles clock = true) :
    ∀ earlier < clock, world.overflowsAt cycles earlier = false := by
  intro earlier before
  by_contra full
  rw [Bool.not_eq_false] at full
  rcases (overflowsAt_iff world cycles earlier).mp full with
    ⟨⟨started, -⟩, earlierFalls, -⟩
  rcases (overflowsAt_iff world cycles clock).mp overflow with
    ⟨⟨-, inside⟩, falls, -⟩
  have apart := fallsAt_apart started before earlierFalls falls
  have large := timerPeriod_large (world.memory tacAddr)
  have recent := served.recent earlier (Nat.le_of_lt before) full
  omega

/-- The next call that takes time ends four clocks after the overflow, so it
is the one that requests. -/
theorem ServedOnTime.overdue_next
    (served : world.ServedOnTime cycles later clock)
    (overflow : world.overflowsAt cycles clock = true) {next : Cycles}
    (found :
      later.find? (fun call => decide (call ≠ 0)) = some next) :
    (world.apply (.update cycles)).timer.overdue next = true := by
  have inside := ((overflowsAt_iff world cycles clock).mp overflow).1.2
  have atEnd := served.recent clock (Nat.le_refl clock) overflow
  rcases List.find?_eq_some_iff_append.mp found with
    ⟨takesTime, between, rest, rfl, zeros⟩
  have zeros : ∀ call ∈ between, call = 0 := by
    intro call member
    simpa using zeros call member
  have positive : next.toNat ≠ 0 := by
    intro none
    exact of_decide_eq_true takesTime (BitVec.eq_of_toNat_eq none)
  have early : clocks (cycles :: between) = 4 * cycles.toNat := by
    rw [clocks_cons, clocks_zeros.mpr zeros, Nat.add_zero]
  have due : clock + 4 ≤ clocks (cycles :: between ++ [next]) := by
    rw [clocks_append, early, clocks_cons]
    omega
  have atNext :=
    served.requested (cycles :: between) next ⟨rest, by simp⟩ (by omega)
  rw [requests_to_next world cycles zeros,
    requestsDue_of_first overflow (served.isFirst overflow),
    if_pos due] at atNext
  by_contra waiting
  rw [if_neg waiting] at atNext
  omega

/-- Of the calls up to the first that takes time, the one that ends four
clocks after the overflow finds it overdue. -/
theorem WaitsInTime.overdue_iff
    (waits : world.WaitsInTime cycles later clock)
    (overflow : world.overflowsAt cycles clock = true)
    {between : List Cycles} {last : Cycles}
    (zeros : ∀ call ∈ between, call = 0)
    (called : between ++ [last] <+: later) :
    (world.apply (.update cycles)).timer.overdue last = true ↔
      clock + 4 ≤ clocks (cycles :: between ++ [last]) := by
  have inside := ((overflowsAt_iff world cycles clock).mp overflow).1.2
  have atEnd := waits.atEnd
  have passed :
      clocks (cycles :: between ++ [last]) =
        4 * cycles.toNat + 4 * last.toNat := by
    rw [clocks_append, clocks_cons, clocks_zeros.mpr zeros, clocks_cons]
    rfl
  rw [passed]
  by_cases takesTime : last = 0
  · subst takesTime
    rw [update_waiting]
    simp
    omega
  · have found := find_next_of_prefix zeros takesTime called
    have positive : last.toNat ≠ 0 := by
      intro none
      exact takesTime (BitVec.eq_of_toNat_eq none)
    rw [overdue_next_iff overflow atEnd]
    exact iff_of_true (waits.waited last found) (by omega)

theorem WaitsInTime.servedOnTime
    (waits : world.WaitsInTime cycles later clock)
    (overflow : world.overflowsAt cycles clock = true) :
    world.ServedOnTime cycles later clock := by
  have inside := ((overflowsAt_iff world cycles clock).mp overflow).1.2
  have atEnd := waits.atEnd
  have single : ∀ call : Cycles, clocks ([] ++ [call]) = 4 * call.toNat := by
    intro call
    simp [clocks]
  constructor
  · intro earlier last called early
    rw [requestsDue_of_first overflow waits.first]
    rcases prefix_cases called early inside with
      ⟨rfl, rfl⟩ | ⟨between, rfl, zeros, rest⟩
    · have notYet : ¬ clock + 4 ≤ clocks ([] ++ [last]) := by
        rw [single]
        omega
      rw [if_neg notYet, List.nil_append, List.map_singleton, trace, trace,
        List.append_nil, requests_length]
      rfl
    · rw [requests_to_next world cycles zeros]
      simp only [waits.overdue_iff overflow zeros rest]
  · intro earlier last called early due
    rcases prefix_cases called early inside with
      ⟨rfl, rfl⟩ | ⟨between, rfl, zeros, rest⟩
    · rw [single] at due
      omega
    · exact
        tima_at_next overflow atEnd zeros
          ((waits.overdue_iff overflow zeros rest).mpr due)

end OnTime

/-- An overflow is served on time exactly if it is the first of its call,
falls into the last four clocks of it, and the timer is waiting for it long
enough when the next call that takes time begins. -/
theorem overflow_served_on_time_iff
    (world : TimerWorld) (cycles : Cycles) (later : List Cycles)
    (clock : Nat) (overflow : world.overflowsAt cycles clock = true) :
    world.ServedOnTime cycles later clock ↔
      world.WaitsInTime cycles later clock := by
  constructor
  · intro served
    have atEnd := served.recent clock (Nat.le_refl clock) overflow
    refine ⟨served.isFirst overflow, atEnd, ?_⟩
    intro next found
    exact
      (overdue_next_iff overflow atEnd next).mp
        (served.overdue_next overflow found)
  · intro waits
    exact waits.servedOnTime overflow

/-- An overflow that ends its call is served by a call of four. -/
theorem overflow_served_by_four :
    let world : TimerWorld :=
      { timer := { divInternal := 8 }
        memory :=
          Function.update (Function.update (fun _ => 0x42) 0xFF07 0x05)
            0xFF05 0xFF }
    (world.run [.update 2, .update 0, .update 4]).memory 0xFF05 = 0x42 := by
  intro world
  have served :=
    (overflow_served_on_time_iff world 2 [0, 4] 8 (by decide)).mpr
      { first := by decide
        atEnd := by decide
        waited := by
          intro next found
          obtain rfl : 4 = next := Option.some.inj found
          exact Or.inl (by decide) }
  exact
    (served.reloaded [2, 0] 4 List.prefix_rfl (by decide) (by decide)).trans
      (by decide)

/-- A single call past the overflow leaves it pending. -/
theorem overflow_outlives_call :
    ¬ ∀ (world : TimerWorld) (cycles : Cycles) (later : List Cycles)
      (clock : Nat), world.overflowsAt cycles clock = true →
        world.ServedOnTime cycles later clock := by
  intro always
  let world : TimerWorld :=
    { timer := { divInternal := 8 }
      memory :=
        Function.update (Function.update (fun _ => 0x42) 0xFF07 0x05)
          0xFF05 0xFF }
  have served := always world 6 [] 8 (by decide)
  have requested :=
    served.requested [] 6 List.prefix_rfl (by decide)
  exact absurd requested (by decide)

end TimerWorld

end CyclePerfectGameboy
