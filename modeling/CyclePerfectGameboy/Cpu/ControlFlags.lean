import CyclePerfectGameboy.Cpu.PublicCalls

/-!
# The control flags over sequences of calls

No opcode reaches `ime_`, `halted_` or `stopped_`: what is in them comes from
the calls on the CPU, and an interrupt can only take away what a call has
granted.
-/

namespace CyclePerfectGameboy

open BudgetLoop CallSequence Lockstep

universe u

namespace CpuCall

@[simp]
def resets : CpuCall → Bool
  | .initialized => true
  | _ => false

@[simp]
def stops : CpuCall → Bool
  | .stop => true
  | _ => false

@[simp]
def halts : CpuCall → Bool
  | .halt => true
  | _ => false

@[simp]
def enables : CpuCall → Bool
  | .enableInterrupts => true
  | _ => false

/-- The calls after which interrupts are off in any case. -/
@[simp]
def disables : CpuCall → Bool
  | .initialized | .disableInterrupts => true
  | _ => false

/-- The calls that can end the halted state. -/
@[simp]
def mayWake : CpuCall → Bool
  | .initialized | .handleInterrupts => true
  | _ => false

/-- The calls that can switch interrupts off, those that may dispatch one
among them. -/
@[simp]
def mayDisable : CpuCall → Bool
  | .initialized | .disableInterrupts | .executeInstruction | .run _ _
  | .handleInterrupts => true
  | _ => false

/-- The store that a call makes for another component. -/
@[simp]
def stored : CpuCall → Option (Address × Byte)
  | .writeMemory addr value => some (addr, value)
  | _ => none

end CpuCall

namespace CPU

section Step

variable {M : Type u} [MemoryInterface M]

/-- Every way through `handle_interrupts`. -/
theorem handleInterrupts_flags (cpu : CPU) (memory : M) :
    (cpu.handleInterrupts memory).cpu.stopped = cpu.stopped ∧
      (cpu.handleInterrupts memory).cpu.halted ≤ cpu.halted ∧
      (cpu.handleInterrupts memory).cpu.ime ≤ cpu.ime := by
  by_cases quiet : pendingMask memory = 0
  · rw [handleInterrupts_of_quiet cpu quiet]
    exact ⟨rfl, le_refl _, le_refl _⟩
  · by_cases enabled : cpu.ime = true
    · obtain ⟨bit, _, _, _, serviced⟩ :=
        handleInterrupts_of_pending quiet enabled
      rw [serviced]
      exact ⟨rfl, Bool.false_le _, Bool.false_le _⟩
    · rw [handleInterrupts_of_disabled quiet (Bool.eq_false_iff.mpr enabled)]
      exact ⟨rfl, Bool.false_le _, le_refl _⟩

/-- Every way through `execute_instruction`. -/
theorem executeInstruction_flags (cpu : CPU) (memory : M) :
    (cpu.executeInstruction memory).cpu.stopped = cpu.stopped ∧
      (cpu.executeInstruction memory).cpu.halted = cpu.halted ∧
      (cpu.executeInstruction memory).cpu.ime ≤ cpu.ime := by
  by_cases halted : cpu.halted = true
  · rw [executeInstruction_of_halted halted memory]
    exact ⟨rfl, rfl, le_refl _⟩
  · rcases cpu.executeInstruction_cases memory with
      idle | ⟨bit, _, dispatched⟩ | executed
    · rw [idle]
      exact ⟨rfl, rfl, le_refl _⟩
    · rw [dispatched]
      exact ⟨rfl, (Bool.eq_false_iff.mpr halted).symm, Bool.false_le _⟩
    · rw [executed, executeOpcode_cpu]
      exact ⟨rfl, rfl, le_refl _⟩

/-- The flags of `reached` come from those of `start` by instructions. -/
structure FlagsFrom (start reached : CPU) : Prop where
  stopped : reached.stopped = start.stopped
  halted : reached.halted = start.halted
  ime : reached.ime ≤ start.ime

/-- A run does to the flags what its instructions do. -/
theorem run_flags
    {fuel : Nat} {cycles : BitVec 32} {machine final : CPU × M}
    (returned : run fuel cycles machine = some final) :
    FlagsFrom machine.1 final.1 := by
  obtain ⟨passes, rfl, _⟩ := after_of_loop runBody returned
  have kept :
      ∀ reached : CPU × M, FlagsFrom machine.1 reached.1 →
        FlagsFrom machine.1 (runBody reached).2.1 := by
    rintro ⟨cpu, memory⟩ ⟨stopped, halted, ime⟩
    rcases executeInstruction_flags cpu memory with
      ⟨sameStopped, sameHalted, lessIme⟩
    exact
      ⟨sameStopped.trans stopped, sameHalted.trans halted, lessIme.trans ime⟩
  exact after_invariant kept ⟨rfl, rfl, le_refl _⟩ passes

/-- Halted or stopped. -/
def idle (cpu : CPU) : Prop :=
  cpu.halted = true ∨ cpu.stopped = true

/-- A run of an idle CPU changes nothing. -/
theorem run_of_idle
    {fuel : Nat} {cycles : BitVec 32} {machine final : CPU × M}
    (idle : machine.1.idle)
    (returned : run fuel cycles machine = some final) :
    final = machine := by
  obtain ⟨passes, rfl, _⟩ := after_of_loop runBody returned
  have kept :
      ∀ reached : CPU × M, reached = machine →
        (runBody reached).2 = machine := by
    rintro reached rfl
    have nothing := executeInstruction_of_idle reached.2 idle
    simp only [runBody, nothing]
  exact after_invariant kept rfl passes

/-- What a call can do to the flags. -/
structure FlagStep (call : CpuCall) (before after : CPU) : Prop where
  stopped :
    after.stopped = (call.stops || before.stopped && !call.resets)
  haltedLe :
    after.halted ≤ (call.halts || before.halted && !call.resets)
  leHalted :
    (call.halts || before.halted && !call.mayWake) ≤ after.halted
  imeLe : after.ime ≤ (call.enables || before.ime && !call.disables)
  leIme : (call.enables || before.ime && !call.mayDisable) ≤ after.ime

theorem invoke_flags
    {machine next : CPU × M} {call : CpuCall} {answer : CpuAnswer}
    (returned : invoke machine call = some (answer, next)) :
    FlagStep call machine.1 next.1 := by
  cases call with
  | initialized | enableInterrupts | disableInterrupts | halt | stop
  | getState | readMemory addr | writeMemory addr value =>
      cases returned
      constructor <;>
        simp [initialized, enableInterrupts, disableInterrupts, CPU.halt,
          CPU.stop]
  | executeInstruction =>
      cases returned
      rcases executeInstruction_flags machine.1 machine.2 with
        ⟨stopped, halted, ime⟩
      constructor <;> simp [stopped, halted, ime]
  | handleInterrupts =>
      cases returned
      rcases handleInterrupts_flags machine.1 machine.2 with
        ⟨stopped, halted, ime⟩
      constructor <;> simp [stopped, halted, ime]
  | run fuel cycles =>
      obtain ⟨final, ran, same⟩ := Option.map_eq_some_iff.mp returned
      cases same
      rcases run_flags ran with ⟨stopped, halted, ime⟩
      constructor <;> simp [stopped, halted, ime]

/-- An idle CPU that no call wakes keeps its registers, and the memory takes
the stores of the others only. -/
theorem invoke_of_idle
    {machine next : CPU × M} {call : CpuCall} {answer : CpuAnswer}
    (idle : machine.1.idle) (sleeps : call.mayWake = false)
    (returned : invoke machine call = some (answer, next)) :
    next.1.idle ∧ next.1.registers = machine.1.registers ∧
      next.2 = writeAll machine.2 call.stored.toList := by
  cases call with
  | initialized | handleInterrupts =>
      cases sleeps
  | enableInterrupts | disableInterrupts | getState | readMemory addr
  | writeMemory addr value =>
      cases returned
      exact ⟨idle, rfl, rfl⟩
  | halt =>
      cases returned
      exact ⟨Or.inl rfl, rfl, rfl⟩
  | stop =>
      cases returned
      exact ⟨Or.inr rfl, rfl, rfl⟩
  | executeInstruction =>
      cases returned
      rw [executeInstruction_of_idle machine.2 idle]
      exact ⟨idle, rfl, rfl⟩
  | run fuel cycles =>
      obtain ⟨final, ran, same⟩ := Option.map_eq_some_iff.mp returned
      cases same
      cases run_of_idle idle ran
      exact ⟨idle, rfl, rfl⟩

end Step

section Sequences

variable {M : Type u} [MemoryInterface M]
variable {machine final : CPU × M} {calls : List CpuCall}

theorem runs_of_idle
    (runs : Runs invoke machine calls final)
    (idle : machine.1.idle)
    (sleeps : ∀ call ∈ calls, call.mayWake = false) :
    final.1.registers = machine.1.registers ∧
      final.2 = writeAll machine.2 (calls.filterMap CpuCall.stored) := by
  induction runs with
  | nil machine =>
      exact ⟨rfl, rfl⟩
  | cons returned runs inductionHypothesis =>
      rename_i machine next final call answer rest
      rcases
          invoke_of_idle idle (sleeps call List.mem_cons_self) returned with
        ⟨stillIdle, registers, memory⟩
      rcases
          inductionHypothesis stillIdle
            (fun later member =>
              sleeps later (List.mem_cons_of_mem call member)) with
        ⟨sameRegisters, sameMemory⟩
      refine ⟨sameRegisters.trans registers, ?_⟩
      rw [sameMemory, memory]
      cases stored : call.stored with
      | none =>
          rw [List.filterMap_cons_none stored]
          rfl
      | some entry =>
          rw [List.filterMap_cons_some stored]
          rfl

/-- Over any memory and under any program, `stopped_` is what the last call
of `stop` or `initialize` left; only `halt` and `enable_interrupts` set their
flags; and while a flag keeps the CPU idle, no call but `initialize` and
`handle_interrupts` changes a register or a byte. -/
theorem control_flags_by_history
    (runs : Runs invoke machine calls final) :
    final.1.stopped =
        latched CpuCall.stops CpuCall.resets machine.1.stopped calls ∧
      latched CpuCall.halts CpuCall.mayWake machine.1.halted calls ≤
        final.1.halted ∧
      final.1.halted ≤
        latched CpuCall.halts CpuCall.resets machine.1.halted calls ∧
      latched CpuCall.enables CpuCall.mayDisable machine.1.ime calls ≤
        final.1.ime ∧
      final.1.ime ≤
        latched CpuCall.enables CpuCall.disables machine.1.ime calls ∧
      (machine.1.idle → (∀ call ∈ calls, call.mayWake = false) →
        final.1.registers = machine.1.registers ∧
          final.2 =
            writeAll machine.2 (calls.filterMap CpuCall.stored)) := by
  refine ⟨?_, ?_, ?_, ?_, ?_, runs_of_idle runs⟩
  · refine le_antisymm ?_ ?_
    · refine runs.le_latched (fun state => state.1.stopped) ?_ (le_refl _)
      intro state call answer next returned
      exact le_of_eq (invoke_flags returned).stopped
    · refine runs.latched_le (fun state => state.1.stopped) ?_ (le_refl _)
      intro state call answer next returned
      exact le_of_eq (invoke_flags returned).stopped.symm
  · refine runs.latched_le (fun state => state.1.halted) ?_ (le_refl _)
    intro state call answer next returned
    exact (invoke_flags returned).leHalted
  · refine runs.le_latched (fun state => state.1.halted) ?_ (le_refl _)
    intro state call answer next returned
    exact (invoke_flags returned).haltedLe
  · refine runs.latched_le (fun state => state.1.ime) ?_ (le_refl _)
    intro state call answer next returned
    exact (invoke_flags returned).leIme
  · refine runs.le_latched (fun state => state.1.ime) ?_ (le_refl _)
    intro state call answer next returned
    exact (invoke_flags returned).imeLe

/-- Interrupts that are enabled before `stop` stay enabled, and a stopped CPU
sleeps over a store that makes one pending. -/
theorem control_flags_of_stopped :
    let memory : FlatMemory := fun _ => 0
    let calls : List CpuCall :=
      [.enableInterrupts, .stop, .writeMemory 0xFFFF 0x04,
        .writeMemory 0xFF0F 0x04, .run 2 8]
    ∃ final : CPU × FlatMemory,
      Runs invoke (({} : CPU), memory) calls final ∧
        final.1.stopped = true ∧ final.1.halted = false := by
  intro memory calls
  have runs : Runs invoke (({} : CPU), memory) calls _ :=
    .cons rfl (.cons rfl (.cons rfl (.cons rfl (.cons rfl (.nil _)))))
  rcases control_flags_by_history runs with ⟨stopped, _, halted, _⟩
  exact ⟨_, runs, stopped, le_antisymm halted (Bool.false_le _)⟩

end Sequences

end CPU

end CyclePerfectGameboy
