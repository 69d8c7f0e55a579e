import CyclePerfectGameboy.Cpu.Cpu

/-!
# The CPU sees its memory only through the interface

Two memories that read alike and stay alike under writes drive the CPU
through the same states: the handlers are parametric in the memory.
-/

namespace CyclePerfectGameboy

universe u v

variable {M : Type u} {N : Type v} [MemoryInterface M] [MemoryInterface N]

/-- Equal registers, program counters and cycle counts, and related
memories. -/
structure HandlerResult.Matches (Related : M → N → Prop)
    (left : HandlerResult M) (right : HandlerResult N) : Prop where
  regs : left.regs = right.regs
  pc : left.pc = right.pc
  cycles : left.cycles = right.cycles
  memory : Related left.memory right.memory

structure CpuResult.Matches (Related : M → N → Prop)
    (left : CpuResult M) (right : CpuResult N) : Prop where
  cycles : left.cycles = right.cycles
  cpu : left.cpu = right.cpu
  memory : Related left.memory right.memory

variable {Related : M → N → Prop}

section Handlers

variable (simulation : MemorySimulation Related)
variable {left : M} {right : N} (related : Related left right)

include simulation related

private theorem ldRR_matches (regs : Registers) (pc : Address) :
    (ldRR regs left pc).Matches Related (ldRR regs right pc) := by
  have source : ∀ srcReg : Byte,
      ldRRSource regs left srcReg = ldRRSource regs right srcReg := by
    intro srcReg
    simp only [ldRRSource, simulation.read_eq related]
  have destination : ∀ dstReg value : Byte,
      (ldRRDestination regs left dstReg value).1 =
          (ldRRDestination regs right dstReg value).1 ∧
        Related (ldRRDestination regs left dstReg value).2
          (ldRRDestination regs right dstReg value).2 := by
    intro dstReg value
    unfold ldRRDestination
    split
    case h_7 => exact ⟨rfl, simulation.write_related related _ _⟩
    all_goals exact ⟨rfl, related⟩
  have opcode := simulation.read_eq related pc
  exact
    { regs := by
        simp only [ldRR, opcode, source]
        exact (destination _ _).1
      pc := rfl
      cycles := by simp only [ldRR, opcode]
      memory := by
        simp only [ldRR, opcode, source]
        exact (destination _ _).2 }

private theorem ldAAbs_matches (regs : Registers) (pc : Address) :
    (ldAAbs regs left pc).Matches Related (ldAAbs regs right pc) := by
  have reads := simulation.read_eq related
  simp only [ldAAbs, reads]
  split
  · exact ⟨rfl, rfl, rfl, simulation.write_related related _ _⟩
  · split
    · exact ⟨rfl, rfl, rfl, related⟩
    · exact ⟨rfl, rfl, rfl, related⟩

private theorem ldMemA_matches (regs : Registers) (pc : Address) :
    (ldMemA regs left pc).Matches Related (ldMemA regs right pc) := by
  have opcode := simulation.read_eq related pc
  simp only [ldMemA, opcode]
  exact ⟨rfl, rfl, rfl, simulation.write_related related _ _⟩

private theorem ldIoA_matches (regs : Registers) (pc : Address) :
    (ldIoA regs left pc).Matches Related (ldIoA regs right pc) := by
  have reads := simulation.read_eq related
  have written := simulation.write_related related
  simp only [ldIoA, reads]
  split
  · exact ⟨rfl, rfl, rfl, written _ _⟩
  · exact ⟨rfl, rfl, rfl, related⟩
  · exact ⟨rfl, rfl, rfl, written _ _⟩
  · exact ⟨rfl, rfl, rfl, related⟩
  · exact ⟨rfl, rfl, rfl, related⟩

private theorem ldNnSp_matches (regs : Registers) (pc : Address) :
    (ldNnSp regs left pc).Matches Related (ldNnSp regs right pc) := by
  have reads := simulation.read_eq related
  simp only [ldNnSp, reads]
  exact ⟨rfl, rfl, rfl,
    simulation.write_related
      (simulation.write_related related _ _) _ _⟩

private theorem pushRp_matches (regs : Registers) (pc : Address) :
    (pushRp regs left pc).Matches Related (pushRp regs right pc) := by
  have opcode := simulation.read_eq related pc
  simp only [pushRp, opcode]
  exact ⟨rfl, rfl, rfl,
    simulation.write_related
      (simulation.write_related related _ _) _ _⟩

/-- Every handler is parametric in the memory. -/
theorem Handler.call_matches
    (handler : Handler) (regs : Registers) (pc : Address) :
    (handler.call regs left pc).Matches Related
      (handler.call regs right pc) := by
  have reads := simulation.read_eq related
  cases handler with
  | nop => exact ⟨rfl, rfl, rfl, related⟩
  | halt => exact ⟨rfl, rfl, rfl, related⟩
  | ldRN =>
      simp only [call, CyclePerfectGameboy.ldRN, reads]
      exact ⟨rfl, rfl, rfl, related⟩
  | ldRR => exact ldRR_matches simulation related regs pc
  | ldAMem =>
      simp only [call, CyclePerfectGameboy.ldAMem, reads]
      exact ⟨rfl, rfl, rfl, related⟩
  | ldMemA => exact ldMemA_matches simulation related regs pc
  | ldAAbs => exact ldAAbs_matches simulation related regs pc
  | ldRpNn =>
      simp only [call, CyclePerfectGameboy.ldRpNn, reads]
      exact ⟨rfl, rfl, rfl, related⟩
  | ldNnSp => exact ldNnSp_matches simulation related regs pc
  | ldSpHl => exact ⟨rfl, rfl, rfl, related⟩
  | pushRp => exact pushRp_matches simulation related regs pc
  | popRp =>
      simp only [call, CyclePerfectGameboy.popRp, reads]
      exact ⟨rfl, rfl, rfl, related⟩
  | ldIoA => exact ldIoA_matches simulation related regs pc
  | ldHlSpN =>
      simp only [call, CyclePerfectGameboy.ldHlSpN, reads]
      exact ⟨rfl, rfl, rfl, related⟩

end Handlers

namespace CPU

variable (simulation : MemorySimulation Related)
variable {left : M} {right : N} (related : Related left right)

include simulation related

theorem serviceInterrupt_matches
    (cpu : CPU) (interruptFlag : Byte) (bit : Nat) :
    (cpu.serviceInterrupt left interruptFlag bit).Matches Related
      (cpu.serviceInterrupt right interruptFlag bit) := by
  refine ⟨rfl, rfl, ?_⟩
  exact
    simulation.write_related
      (simulation.write_related
        (simulation.write_related related _ _) _ _) _ _

theorem handleInterrupts_matches (cpu : CPU) :
    (cpu.handleInterrupts left).Matches Related
      (cpu.handleInterrupts right) := by
  have reads := simulation.read_eq related
  simp only [handleInterrupts, reads]
  split
  · exact ⟨rfl, rfl, related⟩
  · split
    · split
      · exact serviceInterrupt_matches simulation related _ _ _
      · exact ⟨rfl, rfl, related⟩
    · exact ⟨rfl, rfl, related⟩

theorem executeOpcode_matches (cpu : CPU) :
    (cpu.executeOpcode left).Matches Related
      (cpu.executeOpcode right) := by
  have opcode :=
    simulation.read_eq related cpu.registers.pc.toAddress
  simp only [executeOpcode, opcode]
  split
  · exact ⟨rfl, rfl, related⟩
  · split
    · rename_i handler _
      have result :=
        handler.call_matches simulation related cpu.registers
          cpu.registers.pc.toAddress
      exact
        { cycles := result.cycles
          cpu := by simp only [result.regs, result.pc]
          memory := result.memory }
    · exact ⟨rfl, rfl, related⟩

/-- One instruction is parametric in the memory. -/
theorem executeInstruction_matches (cpu : CPU) :
    (cpu.executeInstruction left).Matches Related
      (cpu.executeInstruction right) := by
  have interrupts := handleInterrupts_matches simulation related cpu
  unfold executeInstruction
  split
  · exact ⟨rfl, rfl, related⟩
  · split
    · exact ⟨rfl, rfl, related⟩
    · split
      · simp only [interrupts.cycles]
        split
        · exact interrupts
        · rw [interrupts.cpu]
          exact executeOpcode_matches simulation interrupts.memory _
      · exact executeOpcode_matches simulation related cpu

end CPU

end CyclePerfectGameboy
