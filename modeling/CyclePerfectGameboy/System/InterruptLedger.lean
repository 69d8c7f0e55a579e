import CyclePerfectGameboy.Foundations.EventLog
import CyclePerfectGameboy.System.InterruptArbiters
import CyclePerfectGameboy.System.Timer

/-!
# The ledger of interrupt bits

The interrupt controller, the timer and the CPU share `IF` and `IE` and
rewrite them without coordination.  In every interleaving of their operations
each bit still shows what the most recent event for that bit gave it.
-/

namespace CyclePerfectGameboy

open BitMask EventLog PriorityDrain

inductive InterruptRegister where
  | flag
  | enable
  deriving DecidableEq, Repr

namespace InterruptRegister

def address : InterruptRegister → Address
  | .flag => ifAddr
  | .enable => ieAddr

theorem address_injective {left right : InterruptRegister}
    (same : left.address = right.address) :
    left = right := by
  cases left <;> cases right <;> first | rfl | exact absurd same (by decide)

end InterruptRegister

/-- One bit of `IF` or of `IE`. -/
abbrev InterruptBit := InterruptRegister × Fin 8

/-- What can happen to an interrupt bit. -/
inductive InterruptEvent where
  | setBit (register : InterruptRegister) (bit : Nat)
  | clearBit (register : InterruptRegister) (bit : Nat)
  | store (addr : Address) (value : Byte)
  deriving DecidableEq, Repr

namespace InterruptEvent

/-- The value that an event gives to a bit, if it targets that bit. -/
def effect : InterruptEvent → InterruptBit → Option Bool
  | .setBit register bit, target =>
      if register = target.1 ∧ bit = target.2 then some true else none
  | .clearBit register bit, target =>
      if register = target.1 ∧ bit = target.2 then some false else none
  | .store addr value, target =>
      if addr = target.1.address then some (value.getLsbD target.2) else none

end InterruptEvent

/-- The bits that a flat memory holds. -/
def interruptBit (memory : FlatMemory) (target : InterruptBit) : Bool :=
  (memory target.1.address).getLsbD target.2

theorem interruptBit_store
    (memory : FlatMemory) (addr : Address) (value : Byte)
    (target : InterruptBit) :
    interruptBit (Function.update memory addr value) target =
      ((InterruptEvent.store addr value).effect target).getD
        (interruptBit memory target) := by
  by_cases same : addr = target.1.address
  · rw [interruptBit, same, Function.update_self, InterruptEvent.effect,
      if_pos rfl, Option.getD_some]
  · rw [interruptBit, Function.update_of_ne (Ne.symm same),
      InterruptEvent.effect, if_neg same, Option.getD_none, interruptBit]

/-- A store that changes one bit of the register is an event of that bit. -/
theorem interruptBit_update
    (memory : FlatMemory) (register : InterruptRegister) (value : Byte)
    {event : InterruptEvent}
    (elsewhere :
      ∀ other bit, other ≠ register → event.effect (other, bit) = none)
    (here :
      ∀ bit : Fin 8,
        value.getLsbD bit =
          (event.effect (register, bit)).getD
            ((memory register.address).getLsbD bit))
    (target : InterruptBit) :
    interruptBit (Function.update memory register.address value) target =
      (event.effect target).getD (interruptBit memory target) := by
  obtain ⟨other, bit⟩ := target
  by_cases same : other = register
  · subst same
    rw [interruptBit, Function.update_self]
    exact here bit
  · have distinct : other.address ≠ register.address := by
      intro equal
      exact same (InterruptRegister.address_injective equal)
    rw [elsewhere other bit same, interruptBit, Function.update_of_ne distinct,
      Option.getD_none, interruptBit]

theorem interruptBit_set
    (memory : FlatMemory) (register : InterruptRegister) {bit : Nat}
    (inside : bit < 8) (target : InterruptBit) :
    interruptBit
        (Function.update memory register.address
          (memory register.address ||| (1#8 <<< bit))) target =
      ((InterruptEvent.setBit register bit).effect target).getD
        (interruptBit memory target) := by
  refine interruptBit_update memory register _ ?_ ?_ target
  · intro other bit different
    exact if_neg (fun both => different both.1.symm)
  · intro other
    rw [getLsbD_set _ inside]
    by_cases same : bit = other
    · simp [InterruptEvent.effect, same]
    · simp [InterruptEvent.effect, same, Ne.symm same]

theorem interruptBit_clear
    (memory : FlatMemory) (register : InterruptRegister) (bit : Nat)
    (target : InterruptBit) :
    interruptBit
        (Function.update memory register.address
          (memory register.address &&& ~~~(1#8 <<< bit))) target =
      ((InterruptEvent.clearBit register bit).effect target).getD
        (interruptBit memory target) := by
  refine interruptBit_update memory register _ ?_ ?_ target
  · intro other bit different
    exact if_neg (fun both => different both.1.symm)
  · intro other
    rw [getLsbD_clear]
    by_cases same : bit = other
    · simp [InterruptEvent.effect, same]
    · simp [InterruptEvent.effect, same, Ne.symm same]

/-! ## The operations of the three actors -/

/-- The state of the interrupt controller, the timer and their memory. -/
structure InterruptWorld where
  controller : InterruptController := {}
  timer : Timer := {}
  memory : FlatMemory

/-- One operation on the shared memory; a dispatch is the
`handle_interrupts` of a CPU in any state. -/
inductive InterruptOperation where
  | request (interrupt : Fin 5)
  | clear (interrupt : Fin 5)
  | enable (interrupt : Fin 5)
  | disable (interrupt : Fin 5)
  | pending
  | vector
  | timerUpdate (cycles : Cycles)
  | dispatch (cpu : CPU)
  | store (addr : Address) (value : Byte)

/-- The bit behind a vector. -/
def servedBit (vector : Word) : Nat :=
  ((vector - 0x0040) / 8).toNat

theorem servedBit_vectorAddress :
    ∀ bit < 5, servedBit (vectorAddress bit) = bit := by
  decide

namespace InterruptWorld

def run (world : InterruptWorld) :
    InterruptOperation → InterruptWorld
  | .request interrupt =>
      let (controller, memory) :=
        world.controller.requestInterrupt world.memory interrupt
      { world with controller := controller, memory := memory }
  | .clear interrupt =>
      let (controller, memory) :=
        world.controller.clearInterrupt world.memory interrupt
      { world with controller := controller, memory := memory }
  | .enable interrupt =>
      let (controller, memory) :=
        world.controller.enableInterrupt world.memory interrupt
      { world with controller := controller, memory := memory }
  | .disable interrupt =>
      let (controller, memory) :=
        world.controller.disableInterrupt world.memory interrupt
      { world with controller := controller, memory := memory }
  | .pending =>
      let (_, controller) := world.controller.interruptsPending world.memory
      { world with controller := controller }
  | .vector =>
      let (_, controller, memory) :=
        world.controller.getInterruptVector world.memory
      { world with controller := controller, memory := memory }
  | .timerUpdate cycles =>
      let (timer, memory) := world.timer.update world.memory cycles
      { world with timer := timer, memory := memory }
  | .dispatch cpu =>
      { world with memory := (cpu.handleInterrupts world.memory).memory }
  | .store addr value =>
      { world with memory := write world.memory addr value }

/-- What an operation does to interrupt bits, read off the request, the
returned vector, the pending overflow or the dispatch. -/
def events (world : InterruptWorld) :
    InterruptOperation → List InterruptEvent
  | .request interrupt => [.setBit .flag interrupt]
  | .clear interrupt => [.clearBit .flag interrupt]
  | .enable interrupt => [.setBit .enable interrupt]
  | .disable interrupt => [.clearBit .enable interrupt]
  | .pending => []
  | .vector =>
      let vector := (world.controller.getInterruptVector world.memory).1
      if vector = 0 then [] else [.clearBit .flag (servedBit vector)]
  | .timerUpdate cycles =>
      if world.timer.timaOverflow ∧
          4 ≤ world.timer.overflowCycles + cycles.setWidth 16 then
        [.setBit .flag interruptTimer]
      else
        []
  | .dispatch cpu =>
      let result := cpu.handleInterrupts world.memory
      let sp := cpu.registers.sp.value
      let pc := cpu.registers.pc.value
      if result.cycles = 0 then
        []
      else
        [.clearBit .flag (servedBit result.cpu.registers.pc.value),
          .store (sp - 2) (lowByte pc),
          .store (sp - 1) (highByte pc)]
  | .store addr value => [.store addr value]

end InterruptWorld

namespace InterruptController

variable (controller : InterruptController) (memory : FlatMemory)

theorem requestInterrupt_flat (interrupt : Nat) :
    (controller.requestInterrupt memory interrupt).2 =
      Function.update memory InterruptRegister.flag.address
        (memory InterruptRegister.flag.address ||| (1#8 <<< interrupt)) :=
  controller.changeRegisters_of_enableKept memory rfl

theorem enableInterrupt_flat (interrupt : Nat) :
    (controller.enableInterrupt memory interrupt).2 =
      Function.update memory InterruptRegister.enable.address
        (memory InterruptRegister.enable.address |||
          (1#8 <<< interrupt)) :=
  controller.changeRegisters_of_flagKept memory rfl

theorem disableInterrupt_flat (interrupt : Nat) :
    (controller.disableInterrupt memory interrupt).2 =
      Function.update memory InterruptRegister.enable.address
        (memory InterruptRegister.enable.address &&&
          ~~~(1#8 <<< interrupt)) :=
  controller.changeRegisters_of_flagKept memory rfl

end InterruptController

/-- The timer touches the interrupt registers only to request its own
interrupt. -/
theorem Timer.update_interruptBit
    (timer : Timer) (memory : FlatMemory) (cycles : Cycles)
    (target : InterruptBit) :
    interruptBit (timer.update memory cycles).2 target =
      interruptBit
        (if timer.timaOverflow ∧
            4 ≤ timer.overflowCycles + cycles.setWidth 16 then
          Timer.requestInterrupt memory
        else
          memory) target := by
  have serviced :=
    (timer.readRegisters memory).serviceOverflow_memory memory cycles
  have outside :
      target.1.address ≠ divAddr ∧ target.1.address ≠ timaAddr := by
    cases target.1 <;> decide
  simp only [Timer.update, Timer.writeRegisters, FlatMemory.write_eq,
    interruptBit, Function.update_of_ne outside.1,
    Function.update_of_ne outside.2, serviced]
  rfl

/-- A dispatch is an acknowledge followed by two stores. -/
theorem dispatchMemory_interruptBit
    (memory : FlatMemory) (sp pc : Word) (bit : Nat)
    (target : InterruptBit) :
    interruptBit (CPU.dispatchMemory memory sp pc bit) target =
      (latest InterruptEvent.effect
        [.clearBit .flag bit, .store (sp - 2) (lowByte pc),
          .store (sp - 1) (highByte pc)] target).getD
        (interruptBit memory target) := by
  rw [← List.singleton_append, getD_latest_append, ← List.singleton_append,
    getD_latest_append, latest_singleton, latest_singleton,
    latest_singleton, CPU.dispatchMemory, interruptBit_store,
    interruptBit_store]
  exact congrArg _ (congrArg _
    (interruptBit_clear memory .flag bit target))

theorem vector_tracked
    (controller : InterruptController) (memory : FlatMemory)
    (target : InterruptBit) :
    interruptBit (controller.getInterruptVector memory).2.2 target =
      (latest InterruptEvent.effect
        (if (controller.getInterruptVector memory).1 = 0 then []
          else
            [.clearBit .flag
              (servedBit (controller.getInterruptVector memory).1)])
        target).getD (interruptBit memory target) := by
  cases queue : setBits (CPU.pendingMask memory) with
  | nil =>
      rw [controller.getInterruptVector_of_quiet (setBits_eq_nil.mp queue),
        if_pos rfl]
      rfl
  | cons bit rest =>
      have inside := pendingMask_lt (setBits_lowest queue).1
      have notZero : ∀ bit < 5, vectorAddress bit ≠ 0 := by
        decide
      rw [controller.getInterruptVector_of_head queue,
        if_neg (notZero bit inside), servedBit_vectorAddress bit inside,
        latest_singleton]
      exact interruptBit_clear memory .flag bit target

theorem dispatch_tracked
    (cpu : CPU) (memory : FlatMemory) (target : InterruptBit) :
    interruptBit (cpu.handleInterrupts memory).memory target =
      (latest InterruptEvent.effect
        (if (cpu.handleInterrupts memory).cycles = 0 then []
          else
            [.clearBit .flag
                (servedBit
                  (cpu.handleInterrupts memory).cpu.registers.pc.value),
              .store (cpu.registers.sp.value - 2)
                (lowByte cpu.registers.pc.value),
              .store (cpu.registers.sp.value - 1)
                (highByte cpu.registers.pc.value)])
        target).getD (interruptBit memory target) := by
  by_cases quiet : CPU.pendingMask memory = 0
  · rw [CPU.handleInterrupts_of_quiet cpu quiet, if_pos rfl]
    rfl
  · by_cases enabled : cpu.ime = true
    · obtain ⟨bit, inside, _, _, serviced⟩ :=
        CPU.handleInterrupts_of_pending quiet enabled
      rw [FlatMemory.read_eq, CPU.serviceInterrupt_flat _ memory inside]
        at serviced
      have jumped :
          servedBit
              (CPU.dispatchRegisters cpu.registers bit).pc.value =
            bit :=
        servedBit_vectorAddress bit inside
      have dispatched : (cpu.handleInterrupts memory).cycles ≠ 0 := by
        rw [serviced]
        exact show (20 : Cycles) ≠ 0 by decide
      rw [if_neg dispatched, serviced, jumped]
      exact dispatchMemory_interruptBit memory _ _ bit target
    · rw [CPU.handleInterrupts_of_disabled quiet
        (Bool.eq_false_iff.mpr enabled), if_pos rfl]
      rfl

/-- The step lemma of the ledger. -/
theorem run_tracked
    (world : InterruptWorld) (operation : InterruptOperation)
    (target : InterruptBit) :
    interruptBit (world.run operation).memory target =
      (latest InterruptEvent.effect (world.events operation) target).getD
        (interruptBit world.memory target) := by
  cases operation with
  | request interrupt =>
      change interruptBit
        (world.controller.requestInterrupt world.memory interrupt).2 _ = _
      rw [InterruptWorld.events, latest_singleton,
        InterruptController.requestInterrupt_flat,
        interruptBit_set _ _ (by omega)]
  | clear interrupt =>
      rw [InterruptWorld.events, latest_singleton, InterruptWorld.run,
        InterruptController.clearInterrupt_flat]
      exact interruptBit_clear world.memory .flag interrupt target
  | enable interrupt =>
      change interruptBit
        (world.controller.enableInterrupt world.memory interrupt).2 _ = _
      rw [InterruptWorld.events, latest_singleton,
        InterruptController.enableInterrupt_flat,
        interruptBit_set _ _ (by omega)]
  | disable interrupt =>
      change interruptBit
        (world.controller.disableInterrupt world.memory interrupt).2 _ = _
      rw [InterruptWorld.events, latest_singleton,
        InterruptController.disableInterrupt_flat, interruptBit_clear]
  | pending =>
      rfl
  | vector =>
      exact vector_tracked world.controller world.memory target
  | timerUpdate cycles =>
      rw [InterruptWorld.run, Timer.update_interruptBit,
        InterruptWorld.events]
      by_cases overflowed :
          world.timer.timaOverflow ∧
            4 ≤ world.timer.overflowCycles + cycles.setWidth 16
      · rw [if_pos overflowed, if_pos overflowed, latest_singleton]
        exact interruptBit_set world.memory .flag (by decide) target
      · rw [if_neg overflowed, if_neg overflowed]
        rfl
  | dispatch cpu =>
      exact dispatch_tracked cpu world.memory target
  | store addr value =>
      rw [InterruptWorld.events, latest_singleton]
      exact interruptBit_store world.memory addr value target

/-- After every interleaving, every bit of `IF` and of `IE` has the value
that the most recent event for that bit gave it. -/
theorem interrupts_follow_events
    (world : InterruptWorld) (operations : List InterruptOperation)
    (register : InterruptRegister) (bit : Fin 8) :
    ((operations.foldl InterruptWorld.run world).memory
        register.address).getLsbD bit =
      (latest InterruptEvent.effect
        (trace InterruptWorld.run InterruptWorld.events world operations)
        (register, bit)).getD
        ((world.memory register.address).getLsbD bit) := by
  have observed :=
    observe_run
      (fun (world : InterruptWorld) target =>
        interruptBit world.memory target)
      run_tracked operations world (register, bit)
  exact observed

end CyclePerfectGameboy
