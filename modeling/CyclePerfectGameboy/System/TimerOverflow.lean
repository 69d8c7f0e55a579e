import CyclePerfectGameboy.Foundations.EventLog
import CyclePerfectGameboy.System.TimerWorld
import Mathlib.Data.List.Induction

/-!
# Servicing an overflow

An overflow is serviced by the next update.  The requests of an update are
read off the log of its stores, and its overflow is a falling edge that finds
`TIMA` full.
-/

namespace CyclePerfectGameboy

open EventLog

namespace Timer

@[simp]
theorem incrementTima_tima (timer : Timer) :
    timer.incrementTima.tima = timer.tima + 1 := by
  unfold incrementTima
  split
  · rename_i full
    rw [full]
    rfl
  · rfl

@[simp]
theorem incrementTima_timaOverflow (timer : Timer) :
    timer.incrementTima.timaOverflow =
      (decide (timer.tima = 0xFF) || timer.timaOverflow) := by
  unfold incrementTima
  split
  · rename_i full
    rw [full]
    rfl
  · rename_i notFull
    rw [decide_eq_false notFull, Bool.false_or]

@[simp]
theorem serviceOverflow_tac
    {M : Type} [MemoryInterface M]
    (timer : Timer) (memory : M) (cycleCount : Cycles) :
    (timer.serviceOverflow memory cycleCount).1.tac = timer.tac := by
  simp only [serviceOverflow]
  split
  · split <;> rfl
  · rfl

/-- The pending overflow has waited for four cycles once these have
passed. -/
def overdue (timer : Timer) (cycleCount : Cycles) : Bool :=
  timer.timaOverflow &&
    decide (4 ≤ timer.overflowCycles + cycleCount.setWidth 16)

section Memory

variable {M : Type} [MemoryInterface M]

theorem overdue_readRegisters
    (timer : Timer) (memory : M) (cycleCount : Cycles) :
    (timer.readRegisters memory).overdue cycleCount =
      timer.overdue cycleCount :=
  rfl

theorem serviceOverflow_of_overdue
    {timer : Timer} {cycleCount : Cycles}
    (overdue : timer.overdue cycleCount = true) (memory : M) :
    timer.serviceOverflow memory cycleCount =
      ({ timer with
          tima := timer.tma, timaOverflow := false, overflowCycles := 0 },
        requestInterrupt memory) := by
  rw [Timer.overdue, Bool.and_eq_true, decide_eq_true_eq] at overdue
  rcases overdue with ⟨pending, waited⟩
  simp only [serviceOverflow, pending, waited, if_true]

/-- Otherwise at most the waiting time changes. -/
theorem serviceOverflow_of_waiting
    {timer : Timer} {cycleCount : Cycles}
    (waiting : timer.overdue cycleCount = false) (memory : M) :
    timer.serviceOverflow memory cycleCount =
      ({ timer with
          overflowCycles :=
            if timer.timaOverflow = true then
              timer.overflowCycles + cycleCount.setWidth 16
            else
              timer.overflowCycles },
        memory) := by
  by_cases pending : timer.timaOverflow = true
  · have early :
        ¬ 4 ≤ timer.overflowCycles + cycleCount.setWidth 16 := by
      simpa [Timer.overdue, pending] using waiting
    simp only [serviceOverflow, pending, early, if_true, if_false]
  · rw [serviceOverflow_of_idle (Bool.eq_false_iff.mpr pending),
      if_neg pending]

/-- A settled timer services its overflow in the next update of four
cycles. -/
theorem overdue_of_settled
    {timer : Timer} (settled : timer.Settled) {cycleCount : Cycles}
    (enough : 4 ≤ cycleCount.toNat) :
    timer.overdue cycleCount = timer.timaOverflow := by
  have waited : 4 ≤ timer.overflowCycles + cycleCount.setWidth 16 := by
    rw [settled.overflowCycles]
    bv_omega
  rw [Timer.overdue, decide_eq_true waited, Bool.and_true]

end Memory

end Timer

namespace TimerOperation

/-- A direct store to the memory. -/
def isStore : TimerOperation → Bool
  | .store _ _ => true
  | _ => false

/-- A direct store, or an update by a count that an instruction can
return. -/
def Ticks : TimerOperation → Prop
  | .store _ _ => True
  | .update cycles => 4 ≤ cycles.toNat
  | _ => False

end TimerOperation

namespace TimerWorld

/-- The `TIMA` that an update finds when it comes to count: the register, or
what an overflow serviced by the same call has loaded. -/
def countedTima (world : TimerWorld) (cycles : Cycles) : Byte :=
  ((world.timer.readRegisters world.memory).serviceOverflow world.memory
    cycles).1.tima

/-- An update sees a falling edge. -/
def seesEdge (world : TimerWorld) (cycles : Cycles) : Bool :=
  timerEdge (world.memory tacAddr) world.timer.divInternal cycles

/-- An update sees a falling edge with `TIMA` full. -/
def overflows (world : TimerWorld) (cycles : Cycles) : Bool :=
  world.seesEdge cycles && decide (world.countedTima cycles = 0xFF)

/-- The overflow of an operation, named by the cycles of its update. -/
def overflowEvents (world : TimerWorld) : TimerOperation → List Cycles
  | .update cycles => if world.overflows cycles then [cycles] else []
  | _ => []

/-- The stores of an operation that request the timer interrupt. -/
def requestEvents (world : TimerWorld) :
    TimerOperation → List (Address × Byte)
  | .update cycles =>
      (world.timer.update (StoreLog.start world.memory)
        cycles).2.stores.filter
        (fun store => decide (store.1 = 0xFF0F) && store.2.getLsbD 2)
  | _ => []

section Update

variable {world : TimerWorld} {cycles : Cycles}

/-- The `TIMA` that counts is the modulo if an overflow is overdue. -/
theorem countedTima_eq (world : TimerWorld) (cycles : Cycles) :
    world.countedTima cycles =
      if world.timer.overdue cycles = true then world.memory tmaAddr
      else world.memory timaAddr := by
  have same := world.timer.overdue_readRegisters world.memory cycles
  rw [countedTima]
  split
  · rename_i overdue
    rw [Timer.serviceOverflow_of_overdue (same.trans overdue)]
    rfl
  · rename_i waiting
    rw [Timer.serviceOverflow_of_waiting
      (same.trans (Bool.eq_false_iff.mpr waiting))]
    rfl

theorem countedTima_of_pending
    (settled : world.timer.Settled)
    (pending : world.timer.timaOverflow = true)
    (enough : 4 ≤ cycles.toNat) :
    world.countedTima cycles = world.memory tmaAddr := by
  rw [countedTima_eq, Timer.overdue_of_settled settled enough,
    if_pos pending]

/-- The timer that an update leaves: the serviced one, advanced. -/
theorem update_timer (world : TimerWorld) (cycles : Cycles) :
    (world.apply (.update cycles)).timer =
      ((world.timer.readRegisters world.memory).serviceOverflow world.memory
        cycles).1.advanceDivider cycles :=
  rfl

/-- An update counts the edge it sees on top of `countedTima`. -/
theorem update_tima (world : TimerWorld) (cycles : Cycles) :
    (world.apply (.update cycles)).memory timaAddr =
      world.countedTima cycles +
        (if world.seesEdge cycles = true then 1 else 0) := by
  have stored :
      (world.apply (.update cycles)).memory timaAddr =
        (((world.timer.readRegisters world.memory).serviceOverflow
          world.memory cycles).1.advanceDivider cycles).tima := by
    simp only [apply, ofResult, Timer.update, Timer.writeRegisters,
      FlatMemory.write_eq, Function.update_self]
  rw [stored, Timer.advanceDivider_eq, Timer.serviceOverflow_tac,
    Timer.serviceOverflow_divInternal]
  change (if world.seesEdge cycles = true then _ else _ : Timer).tima = _
  split
  · exact Timer.incrementTima_tima _
  · exact (BitVec.add_zero _).symm

/-- Only `DIV`, `TIMA` and `IF` are stored to. -/
theorem update_memory
    (world : TimerWorld) (cycles : Cycles) {addr : Address}
    (notDiv : addr ≠ divAddr) (notTima : addr ≠ timaAddr)
    (notIf : addr ≠ 0xFF0F) :
    (world.apply (.update cycles)).memory addr = world.memory addr := by
  simp only [apply, ofResult, Timer.update, Timer.writeRegisters,
    FlatMemory.write_eq]
  rw [Function.update_of_ne notTima, Function.update_of_ne notDiv,
    Timer.serviceOverflow_memory]
  split
  · exact Function.update_of_ne notIf _ _
  · rfl

/-- After an update an overflow is pending if this update made it, or if an
earlier one still waits. -/
theorem update_pending (world : TimerWorld) (cycles : Cycles) :
    (world.apply (.update cycles)).timer.timaOverflow =
      (world.overflows cycles ||
        (world.timer.timaOverflow && !world.timer.overdue cycles)) := by
  have serviced :
      ((world.timer.readRegisters world.memory).serviceOverflow world.memory
          cycles).1.timaOverflow =
        (world.timer.timaOverflow && !world.timer.overdue cycles) := by
    rw [← world.timer.overdue_readRegisters world.memory cycles]
    cases overdue :
        (world.timer.readRegisters world.memory).overdue cycles with
    | true =>
        rw [Timer.serviceOverflow_of_overdue overdue, Bool.not_true,
          Bool.and_false]
    | false =>
        rw [Timer.serviceOverflow_of_waiting overdue, Bool.not_false,
          Bool.and_true]
        rfl
  rw [update_timer, Timer.advanceDivider_eq, Timer.serviceOverflow_tac,
    Timer.serviceOverflow_divInternal, overflows]
  change (if world.seesEdge cycles = true then _ else _ :
    Timer).timaOverflow = _
  split
  · rename_i edge
    rw [Timer.incrementTima_timaOverflow, edge, Bool.true_and, ← serviced]
    rfl
  · rename_i noEdge
    rw [Bool.eq_false_iff.mpr noEdge, Bool.false_and, Bool.false_or]
    exact serviced

theorem update_timaOverflow
    (settled : world.timer.Settled) (enough : 4 ≤ cycles.toNat) :
    (world.apply (.update cycles)).timer.timaOverflow =
      world.overflows cycles := by
  rw [update_pending, Timer.overdue_of_settled settled enough,
    Bool.and_not_self, Bool.or_false]

/-- An update requests the interrupt once if an overflow is overdue, and not
at all otherwise. -/
theorem update_requests_eq (world : TimerWorld) (cycles : Cycles) :
    world.requestEvents (.update cycles) =
      if world.timer.overdue cycles = true then
        [(0xFF0F, world.memory 0xFF0F ||| 0x04)]
      else
        [] := by
  let log : StoreLog FlatMemory := StoreLog.start world.memory
  have same := world.timer.overdue_readRegisters log cycles
  simp only [requestEvents, Timer.update]
  change List.filter _
    (Timer.writeRegisters _
      ((world.timer.readRegisters log).serviceOverflow log cycles).2).stores =
    _
  split
  · rename_i overdue
    rw [Timer.serviceOverflow_of_overdue (same.trans overdue)]
    simp [Timer.writeRegisters, Timer.requestInterrupt, log, StoreLog.start,
      divAddr, timaAddr]
  · rename_i waiting
    rw [Timer.serviceOverflow_of_waiting
      (same.trans (Bool.eq_false_iff.mpr waiting))]
    simp [Timer.writeRegisters, log, StoreLog.start, divAddr, timaAddr]

theorem update_requests
    (settled : world.timer.Settled) (enough : 4 ≤ cycles.toNat) :
    world.requestEvents (.update cycles) =
      if world.timer.timaOverflow = true then
        [(0xFF0F, world.memory 0xFF0F ||| 0x04)]
      else
        [] := by
  rw [update_requests_eq, Timer.overdue_of_settled settled enough]

end Update

/-! ## Whole runs -/

section Runs

variable {start : TimerWorld} {operations : List TimerOperation}

/-- Ticking operations keep the timer settled. -/
theorem run_settled
    (settled : start.timer.Settled)
    (ticks : ∀ operation ∈ operations, operation.Ticks) :
    (start.run operations).timer.Settled := by
  have preserved :
      ∀ world : TimerWorld, ∀ operation ∈ operations,
        world.timer.Settled → (world.apply operation).timer.Settled := by
    intro world operation member settled
    have ticking := ticks operation member
    cases operation with
    | store addr value =>
        exact settled
    | update cycles =>
        exact Timer.update_settled settled world.memory ticking
    | initialized | resetDiv | tacUpdated =>
        exact absurd ticking id
  exact run_invariant preserved settled

/-- Direct stores leave the timer alone. -/
theorem run_timer_of_stores
    (stores : ∀ operation ∈ operations, operation.isStore = true)
    (world : TimerWorld) :
    (world.run operations).timer = world.timer := by
  have preserved :
      ∀ later : TimerWorld, ∀ operation ∈ operations,
        later.timer = world.timer →
          (later.apply operation).timer = world.timer := by
    intro later operation member same
    have store := stores operation member
    cases operation with
    | store addr value =>
        exact same
    | initialized | update | resetDiv | tacUpdated =>
        exact absurd store Bool.false_ne_true
  exact run_invariant preserved rfl

/-- The overflows so far are the requests so far, and the pending one. -/
theorem overflows_eq_requests
    (settled : start.timer.Settled)
    (idle : start.timer.timaOverflow = false)
    (ticks : ∀ operation ∈ operations, operation.Ticks) :
    (trace apply overflowEvents start operations).length =
      (trace apply requestEvents start operations).length +
        (if (start.run operations).timer.timaOverflow = true then 1
          else 0) := by
  induction operations using List.reverseRecOn with
  | nil =>
      rw [if_neg (by rw [show start.run [] = start from rfl, idle]; simp)]
      rfl
  | append_singleton earlier operation inductionHypothesis =>
      have earlierTicks : ∀ operation ∈ earlier, operation.Ticks := by
        intro operation member
        exact ticks operation (List.mem_append_left _ member)
      have ticking : operation.Ticks :=
        ticks operation
          (List.mem_append_right _ (List.mem_singleton_self _))
      have before := inductionHypothesis earlierTicks
      have here : (start.run earlier).timer.Settled :=
        run_settled settled earlierTicks
      rw [trace_concat, trace_concat, List.length_append,
        List.length_append, before, run_concat]
      change _ + (overflowEvents (start.run earlier) operation).length =
        _ + (requestEvents (start.run earlier) operation).length + _
      cases operation with
      | store addr value =>
          rfl
      | update cycles =>
          rw [update_requests here ticking,
            update_timaOverflow here ticking, overflowEvents]
          cases (start.run earlier).timer.timaOverflow <;>
            cases (start.run earlier).overflows cycles <;> rfl
      | initialized | resetDiv | tacUpdated =>
          exact absurd ticking id

/-- What a run should do with its overflows. -/
structure ServicesOverflows (start : TimerWorld)
    (operations : List TimerOperation) : Prop where
  /-- Every overflow has been requested, but for the pending one. -/
  balanced :
    ∀ earlier, earlier <+: operations →
      (trace apply overflowEvents start earlier).length =
        (trace apply requestEvents start earlier).length +
          (if (start.run earlier).timer.timaOverflow = true then 1 else 0)
  /-- The next update makes the request, once. -/
  requested :
    ∀ before first between second,
      before ++ .update first :: (between ++ [.update second]) <+:
          operations →
        (∀ operation ∈ between, operation.isStore = true) →
          (requestEvents (start.run (before ++ .update first :: between))
              (.update second)).length =
            (overflowEvents (start.run before) (.update first)).length
  /-- The first update has nothing to request. -/
  quiet :
    ∀ between first,
      between ++ [.update first] <+: operations →
        (∀ operation ∈ between, operation.isStore = true) →
          requestEvents (start.run between) (.update first) = []
  /-- An update that makes a request counts on top of `TMA`. -/
  reloaded :
    ∀ earlier cycles,
      earlier ++ [.update cycles] <+: operations →
        requestEvents (start.run earlier) (.update cycles) ≠ [] →
          (start.run (earlier ++ [.update cycles])).memory timaAddr =
            (start.run earlier).memory tmaAddr +
              (if (start.run earlier).seesEdge cycles = true then 1 else 0)

/-- From `initialize` on, updates by at least four cycles and direct stores
service every overflow exactly once. -/
theorem overflow_serviced_once
    (world : TimerWorld) (operations : List TimerOperation)
    (ticks : ∀ operation ∈ operations, operation.Ticks) :
    ServicesOverflows (world.apply .initialized) operations := by
  have settled : (world.apply .initialized).timer.Settled :=
    Timer.initial_settled
  have idle : (world.apply .initialized).timer.timaOverflow = false := rfl
  have before :
      ∀ earlier, earlier <+: operations →
        ((world.apply .initialized).run earlier).timer.Settled := by
    intro earlier called
    exact run_settled settled
      (fun operation member => ticks operation (called.subset member))
  have enough :
      ∀ (earlier : List TimerOperation) (cycles : Cycles),
        earlier ++ [.update cycles] <+: operations → 4 ≤ cycles.toNat := by
    intro earlier cycles called
    exact
      ticks (.update cycles)
        (called.subset
          (List.mem_append_right _ (List.mem_singleton_self _)))
  refine
    { balanced := ?_
      requested := ?_
      quiet := ?_
      reloaded := ?_ }
  · intro earlier called
    exact overflows_eq_requests settled idle
      (fun operation member => ticks operation (called.subset member))
  · intro earlier first between second called stores
    have shape :
        earlier ++ .update first :: (between ++ [.update second]) =
          (earlier ++ .update first :: between) ++ [.update second] := by
      rw [List.append_assoc, List.cons_append]
    have firstCalled : earlier ++ [.update first] <+: operations := by
      refine List.IsPrefix.trans ?_ called
      exact ⟨between ++ [.update second], List.append_assoc _ _ _⟩
    have secondCalled :
        (earlier ++ .update first :: between) ++ [.update second] <+:
          operations := shape ▸ called
    have pending :
        ((world.apply .initialized).run
            (earlier ++ .update first :: between)).timer.timaOverflow =
          ((world.apply .initialized).run earlier).overflows first := by
      rw [run_append, ← List.singleton_append, run_append,
        run_timer_of_stores stores]
      exact
        update_timaOverflow
          (before earlier ((List.prefix_append _ _).trans firstCalled))
          (enough earlier first firstCalled)
    rw [update_requests
      (before _ ((List.prefix_append _ _).trans secondCalled))
      (enough _ second secondCalled), pending, overflowEvents]
    split <;> rfl
  · intro between first called stores
    rw [update_requests
      (before _ ((List.prefix_append _ _).trans called))
      (enough _ first called), run_timer_of_stores stores, idle]
    rfl
  · intro earlier cycles called requested
    have here := before _ ((List.prefix_append _ _).trans called)
    have waited := enough _ cycles called
    rw [update_requests here waited] at requested
    have pending :
        ((world.apply .initialized).run earlier).timer.timaOverflow =
          true := by
      by_contra none
      exact requested (if_neg none)
    rw [run_concat, update_tima, countedTima_of_pending here pending waited]

/-- `TIMA` is full when the second update sees the edge; the third requests
the interrupt. -/
theorem overflow_requested_by_third_update :
    let world : TimerWorld := { timer := {}, memory := fun _ => 0 }
    let start := world.apply .initialized
    (requestEvents
      (start.run
        ([.store 0xFF07 0x05, .store 0xFF05 0xFF, .update 6] ++
          .update 6 :: []))
      (.update 4)).length = 1 := by
  intro world start
  have serviced :=
    overflow_serviced_once world
      [.store 0xFF07 0x05, .store 0xFF05 0xFF, .update 6, .update 6,
        .update 4]
      (by simp [TimerOperation.Ticks])
  have requested :=
    serviced.requested [.store 0xFF07 0x05, .store 0xFF05 0xFF, .update 6]
      6 [] 4 List.prefix_rfl (by simp)
  exact requested.trans (by decide)

end Runs

end TimerWorld

end CyclePerfectGameboy
