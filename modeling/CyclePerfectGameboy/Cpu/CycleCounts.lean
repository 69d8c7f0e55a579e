import CyclePerfectGameboy.Cpu.Cpu

/-!
# The cycle counts of one instruction

Every path through `execute_instruction` returns one of five counts, whatever
the memory behind the interface does.
-/

namespace CyclePerfectGameboy

universe u

variable {M : Type u} [MemoryInterface M]

/-- The counts that `execute_instruction` can return. -/
def instructionCycles : List Cycles := [4, 8, 12, 16, 20]

theorem Handler.call_cycles_mem
    (handler : Handler) (regs : Registers) (memory : M) (pc : Address) :
    (handler.call regs memory pc).cycles ∈ instructionCycles := by
  have four : (4 : Cycles) ∈ instructionCycles := by decide
  have eight : (8 : Cycles) ∈ instructionCycles := by decide
  have twelve : (12 : Cycles) ∈ instructionCycles := by decide
  have sixteen : (16 : Cycles) ∈ instructionCycles := by decide
  have twenty : (20 : Cycles) ∈ instructionCycles := by decide
  cases handler with
  | nop | halt => exact four
  | ldRR =>
      simp only [call, CyclePerfectGameboy.ldRR]
      split
      · exact eight
      · exact four
  | ldRN | ldAMem | ldMemA | ldSpHl => exact eight
  | ldRpNn | popRp | ldIoA | ldHlSpN => exact twelve
  | ldAAbs | pushRp => exact sixteen
  | ldNnSp => exact twenty

namespace CPU

theorem executeOpcode_cycles_mem (cpu : CPU) (memory : M) :
    (cpu.executeOpcode memory).cycles ∈ instructionCycles := by
  have idle : (4 : Cycles) ∈ instructionCycles := by decide
  rcases executeOpcode_cases cpu memory with
    ⟨_, executed⟩ | ⟨handler, _, executed⟩ | ⟨_, executed⟩
  · rw [executed]
    exact idle
  · rw [executed]
    exact handler.call_cycles_mem _ _ _
  · rw [executed]
    exact idle

theorem executeInstruction_cycles_mem (cpu : CPU) (memory : M) :
    (cpu.executeInstruction memory).cycles ∈ instructionCycles := by
  rcases cpu.executeInstruction_cases memory with
    idle | ⟨bit, _, dispatched⟩ | executed
  · rw [idle]
    exact (by decide : (4 : Cycles) ∈ instructionCycles)
  · rw [dispatched]
    exact (by decide : (20 : Cycles) ∈ instructionCycles)
  · rw [executed]
    exact executeOpcode_cycles_mem cpu memory

theorem executeInstruction_cycles_pos (cpu : CPU) (memory : M) :
    4 ≤ (cpu.executeInstruction memory).cycles.toNat := by
  have counts : ∀ cycles ∈ instructionCycles, 4 ≤ cycles.toNat := by decide
  exact counts _ (executeInstruction_cycles_mem cpu memory)

end CPU

/-- The count that a handler returns; only `ld_r_r` looks at the opcode. -/
def Handler.cycleCount (handler : Handler) (opcode : Byte) : Cycles :=
  match handler with
  | .nop | .halt => 4
  | .ldRR =>
      if opcode &&& 0x07 = 6 ∨ (opcode >>> 3) &&& 0x07 = 6 then 8 else 4
  | .ldRN | .ldAMem | .ldMemA | .ldSpHl => 8
  | .ldRpNn | .popRp | .ldIoA | .ldHlSpN => 12
  | .ldAAbs | .pushRp => 16
  | .ldNnSp => 20

theorem Handler.call_cycles
    (handler : Handler) (regs : Registers) (memory : M) (pc : Address) :
    (handler.call regs memory pc).cycles =
      handler.cycleCount (read memory pc) := by
  cases handler <;> rfl

/-- The cycles of an opcode, whatever the registers and the memory hold. -/
def opcodeCycles (opcode : Byte) : Cycles :=
  match (instructionAt opcode).handler with
  | some handler => handler.cycleCount opcode
  | none => 4

theorem opcodeCycles_mem (opcode : Byte) :
    opcodeCycles opcode ∈ instructionCycles := by
  unfold opcodeCycles
  cases (instructionAt opcode).handler with
  | none =>
      exact (by decide : (4 : Cycles) ∈ instructionCycles)
  | some handler =>
      have counted :=
        handler.call_cycles_mem {} (fun _ => opcode : FlatMemory) 0
      rw [Handler.call_cycles] at counted
      exact counted

theorem CPU.executeOpcode_cycles (cpu : CPU) (memory : M) :
    (cpu.executeOpcode memory).cycles =
      opcodeCycles (read memory cpu.registers.pc.toAddress) := by
  rcases executeOpcode_cases cpu memory with
    ⟨fetched, executed⟩ | ⟨handler, entry, executed⟩ | ⟨notPrefix, _⟩
  · rw [executed, fetched]
    rfl
  · rw [executed, opcodeCycles, entry]
    exact handler.call_cycles _ _ _
  · cases entry :
        (instructionAt
          (read memory cpu.registers.pc.toAddress)).handler with
    | none =>
        rw [executeOpcode_of_unimplemented notPrefix entry, opcodeCycles,
          entry]
    | some handler =>
        rw [executeOpcode_of_handler entry, opcodeCycles, entry]
        exact handler.call_cycles _ _ _

/-- Widening to the 32-bit accumulator loses nothing. -/
@[simp]
theorem toNat_widen_cycles (cycles : Cycles) :
    (cycles.setWidth 32).toNat = cycles.toNat := by
  rw [BitVec.toNat_setWidth]
  exact Nat.mod_eq_of_lt
    (Nat.lt_of_lt_of_le cycles.isLt (by decide))

end CyclePerfectGameboy
