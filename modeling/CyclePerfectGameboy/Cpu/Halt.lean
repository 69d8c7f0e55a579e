import CyclePerfectGameboy.Cpu.InterruptDispatch

/-!
# Waking from HALT

`handle_interrupts` ends the halted state, but `execute_instruction` returns
before it gets there.
-/

namespace CyclePerfectGameboy

universe u

namespace CPU

/-- `halt`, one of the control methods. -/
def halt (cpu : CPU) : CPU :=
  { cpu with halted := true }

/-- What a call on a halted CPU is for: wait until an interrupt is pending,
then wake up and dispatch it if the master flag is on. -/
structure WakesOnInterrupt (cpu : CPU) (memory : FlatMemory) : Prop where
  waits :
    pendingMask memory = 0 →
      (cpu.executeInstruction memory).cpu.halted = true ∧
        (cpu.executeInstruction memory).cpu.registers.pc =
          cpu.registers.pc
  wakes :
    pendingMask memory ≠ 0 →
      (cpu.executeInstruction memory).cpu.halted = false
  dispatches :
    pendingMask memory ≠ 0 → cpu.ime = true →
      ∃ bit < 5,
        (pendingMask memory).getLsbD bit = true ∧
          (∀ below < bit, (pendingMask memory).getLsbD below = false) ∧
          (cpu.executeInstruction memory).cpu.registers =
            dispatchRegisters cpu.registers bit ∧
          (cpu.executeInstruction memory).cpu.ime = false ∧
          (cpu.executeInstruction memory).memory =
            dispatchMemory memory cpu.registers.sp.value
              cpu.registers.pc.value bit

theorem executeInstruction_of_halted
    {M : Type u} [MemoryInterface M]
    {cpu : CPU} (halted : cpu.halted = true) (memory : M) :
    cpu.executeInstruction memory =
      { cycles := 4, cpu := cpu, memory := memory } :=
  executeInstruction_of_idle memory (Or.inl halted)

theorem wakesOnInterrupt_iff_quiet
    {cpu : CPU} (halted : cpu.halted = true) (memory : FlatMemory) :
    cpu.WakesOnInterrupt memory ↔ pendingMask memory = 0 := by
  have executed := executeInstruction_of_halted halted memory
  constructor
  · intro wakes
    by_contra pending
    have awake := wakes.wakes pending
    rw [executed] at awake
    exact Bool.false_ne_true (awake.symm.trans halted)
  · intro quiet
    refine
      { waits := ?_
        wakes := fun pending => absurd quiet pending
        dispatches := fun pending => absurd quiet pending }
    intro _
    rw [executed]
    exact ⟨halted, rfl⟩

/-- One call for each memory: between two calls the rest of the machine may
store anything. -/
def executeAll (cpu : CPU) (memories : List FlatMemory) : CPU :=
  memories.foldl (fun cpu memory => (cpu.executeInstruction memory).cpu) cpu

/-- No sequence of calls moves a halted CPU. -/
theorem executeAll_of_halted
    {cpu : CPU} (halted : cpu.halted = true) (memories : List FlatMemory) :
    cpu.executeAll memories = cpu := by
  induction memories with
  | nil =>
      rfl
  | cons memory rest inductionHypothesis =>
      rw [executeAll, List.foldl_cons,
        executeInstruction_of_halted halted memory]
      exact inductionHypothesis

/-- A halted CPU alone with its memory stays where it is. -/
theorem after_of_halted
    {cpu : CPU} (halted : cpu.halted = true) (memory : FlatMemory)
    (count : Nat) :
    BudgetLoop.after runBody count (cpu, memory) = (cpu, memory) := by
  have fixed : (runBody (cpu, memory)).2 = (cpu, memory) := by
    rw [runBody, executeInstruction_of_halted halted]
  induction count with
  | zero =>
      rfl
  | succ count inductionHypothesis =>
      rw [BudgetLoop.after_succ, fixed]
      exact inductionHypothesis

/-- A halted CPU does what it should, in one call, in a sequence of calls and
left alone, exactly as long as no enabled interrupt is pending. -/
theorem halt_ends_on_interrupt_iff
    (cpu : CPU) (halted : cpu.halted = true) :
    (∀ memory,
      cpu.WakesOnInterrupt memory ↔
        memory 0xFF0F &&& memory 0xFFFF &&& 0x1F = 0) ∧
      (∀ memories : List FlatMemory,
        (∀ earlier memory, earlier ++ [memory] <+: memories →
          (cpu.executeAll earlier).WakesOnInterrupt memory) ↔
          ∀ memory ∈ memories,
            memory 0xFF0F &&& memory 0xFFFF &&& 0x1F = 0) ∧
      ∀ memory : FlatMemory,
        (memory 0xFF0F &&& memory 0xFFFF &&& 0x1F ≠ 0 →
          ∃ count,
            (BudgetLoop.after runBody count
              (cpu, memory)).1.halted = false) ↔
          memory 0xFF0F &&& memory 0xFFFF &&& 0x1F = 0 := by
  refine ⟨wakesOnInterrupt_iff_quiet halted, ?_, ?_⟩
  · intro memories
    constructor
    · intro wakes memory member
      rcases List.append_of_mem member with ⟨earlier, later, rfl⟩
      have called : earlier ++ [memory] <+: earlier ++ memory :: later :=
        ⟨later, List.append_assoc _ _ _⟩
      have woken := wakes earlier memory called
      rw [executeAll_of_halted halted] at woken
      exact (wakesOnInterrupt_iff_quiet halted memory).mp woken
    · intro quiet earlier memory called
      have member : memory ∈ memories :=
        called.subset (List.mem_append_right _ (List.mem_singleton_self _))
      rw [executeAll_of_halted halted]
      exact (wakesOnInterrupt_iff_quiet halted memory).mpr
        (quiet memory member)
  · intro memory
    constructor
    · intro ends
      by_contra pending
      rcases ends pending with ⟨count, awake⟩
      rw [after_of_halted halted] at awake
      exact Bool.false_ne_true (awake.symm.trans halted)
    · intro quiet pending
      exact absurd quiet pending

/-- Over a memory of zeros the CPU waits, as it should. -/
theorem halt_waits_over_zeros :
    let cpu : CPU := CPU.halt (CPU.initialized {})
    cpu.WakesOnInterrupt (fun _ => 0) := by
  intro cpu
  exact
    ((halt_ends_on_interrupt_iff cpu rfl).1 (fun _ => 0)).mpr
      (by decide)

/-- A pending interrupt does not wake the CPU. -/
theorem halt_ignores_interrupt :
    ¬ ∀ (cpu : CPU) (memory : FlatMemory),
      cpu.halted = true → cpu.stopped = false →
        cpu.WakesOnInterrupt memory := by
  intro always
  have wakes := always (CPU.halt (CPU.initialized {})) (fun _ => 0x01) rfl rfl
  have quiet := (wakesOnInterrupt_iff_quiet rfl _).mp wakes
  exact absurd quiet (by decide)

end CPU

end CyclePerfectGameboy
