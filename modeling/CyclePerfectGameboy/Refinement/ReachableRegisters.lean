import CyclePerfectGameboy.Cpu.Cpu
import CyclePerfectGameboy.Refinement.RegisterCells

/-!
# The registers of a reachable CPU

Instructions and interrupts touch the registers through their setters only,
so the register file of a reachable CPU is one that setter calls make.
-/

namespace CyclePerfectGameboy

universe u

namespace Registers

/-- One register file comes from another by calls of setters. -/
def SetFrom (start regs : Registers) : Prop :=
  ∃ calls : List SetterCall, regs = start.callSetters calls

namespace SetFrom

variable {first second third : Registers}

theorem refl (regs : Registers) : SetFrom regs regs :=
  ⟨[], rfl⟩

theorem call (regs : Registers) (call : SetterCall) :
    SetFrom regs (regs.callSetter call) :=
  ⟨[call], rfl⟩

theorem trans
    (earlier : SetFrom first second) (later : SetFrom second third) :
    SetFrom first third := by
  obtain ⟨earlierCalls, rfl⟩ := earlier
  obtain ⟨laterCalls, rfl⟩ := later
  refine ⟨earlierCalls ++ laterCalls, ?_⟩
  exact List.foldl_append.symm

theorem then_call
    (earlier : SetFrom first second) (call : SetterCall) :
    SetFrom first (second.callSetter call) :=
  earlier.trans (SetFrom.call second call)

end SetFrom

end Registers

open Registers

section Handlers

variable {M : Type u} [MemoryInterface M]
variable (regs : Registers) (memory : M) (pc : Address)

theorem ldRN_setFrom : SetFrom regs (ldRN regs memory pc).regs := by
  simp only [ldRN]
  split
  · exact SetFrom.call regs (.byte .b _)
  · exact SetFrom.call regs (.byte .c _)
  · exact SetFrom.call regs (.byte .d _)
  · exact SetFrom.call regs (.byte .e _)
  · exact SetFrom.call regs (.byte .h _)
  · exact SetFrom.call regs (.byte .l _)
  · exact SetFrom.call regs (.byte .a _)
  · exact SetFrom.refl regs

theorem ldRRDestination_setFrom (dstReg value : Byte) :
    SetFrom regs (ldRRDestination regs memory dstReg value).1 := by
  simp only [ldRRDestination]
  split
  · exact SetFrom.call regs (.byte .b _)
  · exact SetFrom.call regs (.byte .c _)
  · exact SetFrom.call regs (.byte .d _)
  · exact SetFrom.call regs (.byte .e _)
  · exact SetFrom.call regs (.byte .h _)
  · exact SetFrom.call regs (.byte .l _)
  · exact SetFrom.refl regs
  · exact SetFrom.call regs (.byte .a _)
  · exact SetFrom.refl regs

theorem hlUpdate_setFrom (update : HlUpdate) :
    SetFrom regs (update.apply regs) := by
  cases update with
  | none => exact SetFrom.refl regs
  | increment => exact SetFrom.call regs (.pair .hl _)
  | decrement => exact SetFrom.call regs (.pair .hl _)

theorem ldAAbs_setFrom : SetFrom regs (ldAAbs regs memory pc).regs := by
  simp only [ldAAbs]
  split
  · exact SetFrom.refl regs
  · split
    · exact SetFrom.call regs (.byte .a _)
    · exact SetFrom.refl regs

theorem ldRpNn_setFrom : SetFrom regs (ldRpNn regs memory pc).regs := by
  simp only [ldRpNn]
  split
  · exact SetFrom.call regs (.pair .bc _)
  · exact SetFrom.call regs (.pair .de _)
  · exact SetFrom.call regs (.pair .hl _)
  · exact SetFrom.call regs (.pair .sp _)
  · exact SetFrom.refl regs

theorem pushRp_setFrom : SetFrom regs (pushRp regs memory pc).regs :=
  (SetFrom.call regs (.pair .sp _)).then_call (.pair .sp _)

theorem popRp_setFrom : SetFrom regs (popRp regs memory pc).regs := by
  have popped :
      SetFrom regs
        ((regs.setSpPair ⟨regs.sp.value + 1⟩).setSpPair
          ⟨(regs.setSpPair ⟨regs.sp.value + 1⟩).sp.value + 1⟩) :=
    (SetFrom.call regs (.pair .sp _)).then_call (.pair .sp _)
  simp only [popRp]
  split
  · exact popped.then_call (.pair .bc _)
  · exact popped.then_call (.pair .de _)
  · exact popped.then_call (.pair .hl _)
  · exact popped.then_call (.pair .af _)
  · exact popped

theorem ldIoA_setFrom : SetFrom regs (ldIoA regs memory pc).regs := by
  simp only [ldIoA]
  split
  · exact SetFrom.refl regs
  · exact SetFrom.call regs (.byte .a _)
  · exact SetFrom.refl regs
  · exact SetFrom.call regs (.byte .a _)
  · exact SetFrom.call regs (.byte .a _)

theorem ldHlSpN_setFrom : SetFrom regs (ldHlSpN regs memory pc).regs :=
  ((((SetFrom.call regs (.pair .hl _)).then_call
    (.namedFlag .zero _)).then_call (.namedFlag .subtract _)).then_call
    (.namedFlag .halfCarry _)).then_call (.namedFlag .carry _)

/-- No handler touches the registers but through their setters. -/
theorem Handler.call_setFrom (handler : Handler) :
    SetFrom regs (handler.call regs memory pc).regs := by
  cases handler with
  | nop | halt | ldNnSp =>
      exact SetFrom.refl regs
  | ldRN =>
      exact ldRN_setFrom regs memory pc
  | ldRR =>
      exact ldRRDestination_setFrom regs memory _ _
  | ldAMem =>
      exact (SetFrom.call regs (.byte .a _)).trans (hlUpdate_setFrom _ _)
  | ldMemA =>
      exact hlUpdate_setFrom regs _
  | ldAAbs =>
      exact ldAAbs_setFrom regs memory pc
  | ldRpNn =>
      exact ldRpNn_setFrom regs memory pc
  | ldSpHl =>
      exact SetFrom.call regs (.pair .sp _)
  | pushRp =>
      exact pushRp_setFrom regs memory pc
  | popRp =>
      exact popRp_setFrom regs memory pc
  | ldIoA =>
      exact ldIoA_setFrom regs memory pc
  | ldHlSpN =>
      exact ldHlSpN_setFrom regs memory pc

end Handlers

namespace CPU

section Calls

variable {M : Type u} [MemoryInterface M]

theorem initialized_setFrom (cpu : CPU) :
    SetFrom cpu.registers cpu.initialized.registers :=
  (((((SetFrom.call cpu.registers (.word .af _)).then_call
    (.word .bc _)).then_call (.word .de _)).then_call
    (.word .hl _)).then_call (.word .sp _)).then_call (.word .pc _)

theorem serviceInterrupt_setFrom
    (cpu : CPU) (memory : M) (interruptFlag : Byte) (bit : Nat) :
    SetFrom cpu.registers
      (cpu.serviceInterrupt memory interruptFlag bit).cpu.registers :=
  (SetFrom.call cpu.registers (.word .sp _)).then_call (.word .pc _)

theorem handleInterrupts_setFrom (cpu : CPU) (memory : M) :
    SetFrom cpu.registers (cpu.handleInterrupts memory).cpu.registers := by
  by_cases quiet : pendingMask memory = 0
  · rw [handleInterrupts_of_quiet cpu quiet]
    exact SetFrom.refl _
  · by_cases enabled : cpu.ime = true
    · obtain ⟨bit, _, _, _, serviced⟩ :=
        handleInterrupts_of_pending quiet enabled
      rw [serviced]
      exact serviceInterrupt_setFrom _ memory (read memory 0xFF0F) bit
    · rw [handleInterrupts_of_disabled quiet
        (Bool.eq_false_iff.mpr enabled)]
      exact SetFrom.refl _

theorem executeInstruction_setFrom (cpu : CPU) (memory : M) :
    SetFrom cpu.registers
      (cpu.executeInstruction memory).cpu.registers := by
  rcases cpu.executeInstruction_cases memory with
    idle | ⟨bit, _, dispatched⟩ | executed
  · rw [idle]
    exact SetFrom.refl _
  · rw [dispatched]
    exact serviceInterrupt_setFrom _ memory (read memory 0xFF0F) bit
  · rw [executed]
    rcases executeOpcode_cases cpu memory with
      ⟨_, executed⟩ | ⟨handler, _, executed⟩ | ⟨_, executed⟩
    · rw [executed]
      exact SetFrom.call cpu.registers (.pair .pc _)
    · rw [executed]
      exact
        (handler.call_setFrom cpu.registers memory _).then_call
          (.pair .pc _)
    · rw [executed]
      exact SetFrom.call cpu.registers (.pair .pc _)

end Calls

/-- The states of a CPU object: the memory may be another one at every call,
and the control methods set the three flags of the CPU as they like. -/
inductive ReachableOver (M : Type u) [MemoryInterface M] : CPU → Prop where
  | fresh : ReachableOver M {}
  | initialized {cpu : CPU} :
      ReachableOver M cpu → ReachableOver M cpu.initialized
  | execute {cpu : CPU} (memory : M) :
      ReachableOver M cpu →
        ReachableOver M (cpu.executeInstruction memory).cpu
  | interrupts {cpu : CPU} (memory : M) :
      ReachableOver M cpu →
        ReachableOver M (cpu.handleInterrupts memory).cpu
  | control {cpu : CPU} (ime halted stopped : Bool) :
      ReachableOver M cpu →
        ReachableOver M
          { cpu with ime := ime, halted := halted, stopped := stopped }

/-- The registers of a reachable CPU are made by setter calls. -/
theorem ReachableOver.setFrom
    {M : Type u} [MemoryInterface M] {cpu : CPU}
    (reachable : ReachableOver M cpu) :
    SetFrom {} cpu.registers := by
  induction reachable with
  | fresh =>
      exact SetFrom.refl {}
  | initialized _ inductionHypothesis =>
      exact inductionHypothesis.trans (initialized_setFrom _)
  | execute memory _ inductionHypothesis =>
      exact inductionHypothesis.trans (executeInstruction_setFrom _ memory)
  | interrupts memory _ inductionHypothesis =>
      exact inductionHypothesis.trans (handleInterrupts_setFrom _ memory)
  | control _ _ _ _ inductionHypothesis =>
      exact inductionHypothesis

end CPU

/-- Whatever setters are called, every getter agrees with the independent
cells, and the low nibble of `F` stays zero; so it does in every reachable
CPU. -/
theorem registers_are_independent_cells
    (M : Type u) [MemoryInterface M] :
    (∀ calls : List SetterCall,
        (Registers.callSetters {} calls).Agrees
            (RegisterCells.callSetters {} calls) ∧
          (Registers.callSetters {} calls).getF &&& 0x0F = 0) ∧
      ∀ cpu, CPU.ReachableOver M cpu → cpu.registers.getF &&& 0x0F = 0 := by
  have agrees :
      ∀ calls : List SetterCall,
        (Registers.callSetters {} calls).Agrees
          (RegisterCells.callSetters {} calls) := by
    intro calls
    exact (initial_shows.callSetters calls).agrees
  have lowNibble :
      ∀ calls : List SetterCall,
        (Registers.callSetters {} calls).getF &&& 0x0F = 0 := by
    intro calls
    rw [(agrees calls).getF]
    exact packFlags_lowNibble _
  constructor
  · intro calls
    exact ⟨agrees calls, lowNibble calls⟩
  · intro cpu reachable
    obtain ⟨calls, made⟩ := reachable.setFrom
    rw [made]
    exact lowNibble calls

end CyclePerfectGameboy
