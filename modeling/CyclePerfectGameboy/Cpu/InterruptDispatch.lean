import CyclePerfectGameboy.Cpu.Cpu

/-!
# Interrupt dispatch

What one call does when the master flag is on: over a flat memory the
dispatch is three writes and a jump, and without a pending interrupt the flag
makes no difference.
-/

namespace CyclePerfectGameboy

universe u

namespace CPU

section Flag

variable {M : Type u} [MemoryInterface M]

/-- No opcode looks at the master flag or changes it. -/
theorem executeOpcode_ime (cpu : CPU) (ime : Bool) (memory : M) :
    CPU.executeOpcode { cpu with ime := ime } memory =
      { cpu.executeOpcode memory with
        cpu := { (cpu.executeOpcode memory).cpu with ime := ime } } := by
  let flagged : CPU := { cpu with ime := ime }
  have samePc : flagged.registers.pc = cpu.registers.pc := rfl
  change flagged.executeOpcode memory = _
  by_cases isPrefix :
      read memory cpu.registers.pc.toAddress = 0xCB
  · have isPrefix' :
        read memory flagged.registers.pc.toAddress = 0xCB := isPrefix
    rw [executeOpcode_of_cb isPrefix, executeOpcode_of_cb isPrefix']
  · cases entry :
        (instructionAt
          (read memory cpu.registers.pc.toAddress)).handler with
    | none =>
        rw [← samePc] at isPrefix entry
        rw [executeOpcode_of_unimplemented isPrefix entry]
        rw [samePc] at isPrefix entry
        rw [executeOpcode_of_unimplemented isPrefix entry]
    | some handler =>
        rw [executeOpcode_of_handler entry]
        rw [← samePc] at entry
        rw [executeOpcode_of_handler entry]

end Flag

/-- `interrupt_vectors` lists `0x0040 + 8 * bit`. -/
theorem interruptVectors_getD :
    ∀ bit < 5,
      interruptVectors.getD bit 0 = 0x0040 + 8 * BitVec.ofNat 16 bit := by
  decide

/-- The three writes of a dispatch, in order: the acknowledge, then the two
bytes of the interrupted program counter. -/
def dispatchMemory (memory : FlatMemory) (sp pc : Word) (bit : Nat) :
    FlatMemory :=
  Function.update
    (Function.update
      (Function.update memory 0xFF0F (memory 0xFF0F &&& ~~~(1#8 <<< bit)))
      (sp - 2) (lowByte pc))
    (sp - 1) (highByte pc)

/-- The registers after a dispatch: only `SP` and `PC` change. -/
def dispatchRegisters (registers : Registers) (bit : Nat) : Registers :=
  { registers with
    sp := ⟨registers.sp.value - 2⟩
    pc := ⟨0x0040 + 8 * BitVec.ofNat 16 bit⟩ }

theorem serviceInterrupt_flat
    (cpu : CPU) (memory : FlatMemory) {bit : Nat} (inside : bit < 5) :
    cpu.serviceInterrupt memory (memory 0xFF0F) bit =
      { cycles := 20
        cpu := { cpu with registers := dispatchRegisters cpu.registers bit }
        memory :=
          dispatchMemory memory cpu.registers.sp.value
            cpu.registers.pc.value bit } := by
  have next : cpu.registers.sp.value - 2 + 1 = cpu.registers.sp.value - 1 := by
    bv_omega
  simp only [serviceInterrupt, dispatchRegisters, dispatchMemory,
    Registers.setSp, Registers.setPc, RegisterPair.toAddress,
    FlatMemory.write_eq, next, interruptVectors_getD bit inside]

/-- With the master flag on, a CPU that is neither halted nor stopped either
dispatches the lowest pending interrupt, exactly, or executes as if the flag
were off. -/
theorem executeInstruction_interrupt_exact
    (cpu : CPU) (memory : FlatMemory)
    (enabled : cpu.ime = true) (awake : cpu.running) :
    (memory 0xFF0F &&& memory 0xFFFF &&& 0x1F ≠ 0 →
      ∃ bit < 5,
        (memory 0xFF0F &&& memory 0xFFFF &&& 0x1F).getLsbD bit = true ∧
          (∀ below < bit,
            (memory 0xFF0F &&& memory 0xFFFF &&& 0x1F).getLsbD below =
              false) ∧
          cpu.executeInstruction memory =
            { cycles := 20
              cpu :=
                { cpu with
                  registers := dispatchRegisters cpu.registers bit
                  ime := false }
              memory :=
                dispatchMemory memory cpu.registers.sp.value
                  cpu.registers.pc.value bit }) ∧
      (memory 0xFF0F &&& memory 0xFFFF &&& 0x1F = 0 →
        cpu.executeInstruction memory =
          let disabled := CPU.executeInstruction { cpu with ime := false } memory
          { disabled with cpu := { disabled.cpu with ime := true } }) := by
  constructor
  · intro (pending : pendingMask memory ≠ 0)
    obtain ⟨bit, inside, set, lowest, serviced⟩ :=
      handleInterrupts_of_pending pending enabled
    refine ⟨bit, inside, set, lowest, ?_⟩
    have halted : cpu.halted = false := awake.1
    rw [executeInstruction_of_pending awake enabled pending, serviced,
      FlatMemory.read_eq, serviceInterrupt_flat _ memory inside]
    simp only [halted]
  · intro (quiet : pendingMask memory = 0)
    have sleepy : CPU.running { cpu with ime := false } := awake
    have restored : { cpu with ime := true } = cpu := by
      rw [← enabled]
    have executed := executeOpcode_ime cpu true memory
    rw [restored] at executed
    rw [executeInstruction_of_quiet awake quiet,
      executeInstruction_of_disabled memory sleepy rfl,
      executeOpcode_ime cpu false memory]
    exact executed

/-- The stack wraps onto `IE`: the interrupt of bit 2 pushes the low byte of
`PC` to `0xFFFF` and the high byte to `0x0000`. -/
theorem executeInstruction_interrupt_wraps :
    let cpu : CPU :=
      { registers := { sp := ⟨0x0001⟩, pc := ⟨0x1234⟩ }, ime := true }
    let memory : FlatMemory := fun _ => 0x0C
    let result := cpu.executeInstruction memory
    result.cycles = 20 ∧
      result.cpu.registers.sp.value = 0xFFFF ∧
      result.cpu.registers.pc.value = 0x0050 ∧
      result.memory 0xFF0F = 0x08 ∧
      result.memory 0xFFFF = 0x34 ∧
      result.memory 0x0000 = 0x12 := by
  intro cpu memory result
  obtain ⟨bit, inside, set, lowest, executed⟩ :=
    (executeInstruction_interrupt_exact cpu memory rfl ⟨rfl, rfl⟩).1
      (by decide)
  have mask : memory 0xFF0F &&& memory 0xFFFF &&& 0x1F = 0x0C := by
    decide
  have third :
      ∀ bit < 5, (0x0C#8).getLsbD bit = true →
        (∀ below < bit, (0x0C#8).getLsbD below = false) → bit = 2 := by
    decide
  rw [mask] at set lowest
  cases third bit inside set lowest
  have dispatched : result = _ := executed
  rw [dispatched]
  decide

end CPU

end CyclePerfectGameboy
