import CyclePerfectGameboy.Cpu.Instructions
import CyclePerfectGameboy.Foundations.BudgetLoop

/-!
# The CPU

The CPU holds two references to one memory; a call takes that memory and
returns it with the CPU.
-/

namespace CyclePerfectGameboy

universe u

/-- `cpu::CPU` without its references. -/
structure CPU where
  registers : Registers := {}
  ime : Bool := false
  halted : Bool := false
  stopped : Bool := false
  deriving DecidableEq, Repr

structure CpuResult (M : Type u) where
  cycles : Cycles
  cpu : CPU
  memory : M

/-- `interrupt_vectors[bit]`. -/
def interruptVectors : List Word :=
  [0x0040, 0x0048, 0x0050, 0x0058, 0x0060]

namespace CPU

/-- `initialize`; the name is a keyword here. -/
def initialized (cpu : CPU) : CPU :=
  let registers := cpu.registers.setAf 0x01B0
  let registers := registers.setBc 0x0013
  let registers := registers.setDe 0x00D8
  let registers := registers.setHl 0x014D
  let registers := registers.setSp 0xFFFE
  let registers := registers.setPc 0x0100
  { registers := registers, ime := false, halted := false, stopped := false }

def enableInterrupts (cpu : CPU) : CPU :=
  { cpu with ime := true }

section Execution

variable {M : Type u} [MemoryInterface M]

/-- The body of the priority loop of `handle_interrupts` for the bit that it
stops at. -/
def serviceInterrupt (cpu : CPU) (memory : M)
    (interruptFlag : Byte) (bit : Nat) : CpuResult M :=
  let memory :=
    write memory 0xFF0F (interruptFlag &&& ~~~(1#8 <<< bit))
  let registers := cpu.registers.setSp (cpu.registers.sp.value - 2)
  let sp := registers.sp.toAddress
  let memory := write memory sp (lowByte registers.pc.value)
  let memory := write memory (sp + 1) (highByte registers.pc.value)
  { cycles := 20
    cpu :=
      { cpu with registers := registers.setPc (interruptVectors.getD bit 0) }
    memory := memory }

/-- `handle_interrupts`.  The loop over the bits `0` to `4` leaves at the
first pending one; running off its end leaves `ime_` cleared. -/
def handleInterrupts (cpu : CPU) (memory : M) : CpuResult M :=
  let interruptFlag := read memory 0xFF0F
  let interruptEnable := read memory 0xFFFF
  if interruptFlag &&& interruptEnable &&& 0x1F = 0 then
    { cycles := 0, cpu := cpu, memory := memory }
  else
    let cpu := { cpu with halted := false }
    if cpu.ime then
      let cpu := { cpu with ime := false }
      let pendingInterrupts := interruptFlag &&& interruptEnable &&& 0x1F
      match (List.range 5).find?
          (fun bit => pendingInterrupts &&& (1#8 <<< bit) != 0) with
      | some bit => cpu.serviceInterrupt memory interruptFlag bit
      | none => { cycles := 0, cpu := cpu, memory := memory }
    else
      { cycles := 0, cpu := cpu, memory := memory }

/-- The fetch and the dispatch through the table that end
`execute_instruction`. -/
def executeOpcode (cpu : CPU) (memory : M) : CpuResult M :=
  let pc := cpu.registers.pc.toAddress
  let opcode := read memory pc
  if opcode = 0xCB then
    -- only the prefix is skipped; the byte after it is fetched next
    { cycles := 4
      cpu :=
        { cpu with
          registers :=
            cpu.registers.setPcPair ⟨cpu.registers.pc.value + 1⟩ }
      memory := memory }
  else
    let instruction := instructionAt opcode
    match instruction.handler with
    | some handler =>
        let result := handler.call cpu.registers memory pc
        { cycles := result.cycles
          cpu := { cpu with registers := result.regs.setPcPair ⟨result.pc⟩ }
          memory := result.memory }
    | none =>
        { cycles := 4
          cpu :=
            { cpu with
              registers :=
                cpu.registers.setPcPair
                  ⟨cpu.registers.pc.value +
                    instruction.length.setWidth 16⟩ }
          memory := memory }

/-- `execute_instruction`. -/
def executeInstruction (cpu : CPU) (memory : M) : CpuResult M :=
  if cpu.halted then
    { cycles := 4, cpu := cpu, memory := memory }
  else if cpu.stopped then
    { cycles := 4, cpu := cpu, memory := memory }
  else if cpu.ime then
    let interrupts := cpu.handleInterrupts memory
    if 0 < interrupts.cycles then
      interrupts
    else
      interrupts.cpu.executeOpcode interrupts.memory
  else
    cpu.executeOpcode memory

/-- One pass of the loop of `run`: the cycle count is widened to the 32-bit
accumulator. -/
def runBody (machine : CPU × M) : BitVec 32 × (CPU × M) :=
  let result := machine.1.executeInstruction machine.2
  (result.cycles.setWidth 32, (result.cpu, result.memory))

/-- `run`, with fuel for the passes of its loop. -/
def run (fuel : Nat) (cycles : BitVec 32) (machine : CPU × M) :
    Option (CPU × M) :=
  BudgetLoop.loop runBody cycles fuel 0 machine

end Execution

section Cases

variable {M : Type u} [MemoryInterface M]

/-- The mask `IF & IE & 0x1F` that both the CPU and the interrupt controller
compute. -/
def pendingMask (memory : M) : Byte :=
  read memory 0xFF0F &&& read memory 0xFFFF &&& 0x1F

/-- The priority loop stops at the lowest set bit of a non-empty mask. -/
theorem find_lowest_bit :
    ∀ mask : Byte, mask &&& 0x1F ≠ 0 →
      ∃ bit < 5,
        (List.range 5).find?
            (fun bit => mask &&& (0x1F : Byte) &&& (1#8 <<< bit) != 0) =
          some bit ∧
          (mask &&& 0x1F).getLsbD bit = true ∧
          ∀ below < bit, (mask &&& 0x1F).getLsbD below = false := by
  decide

theorem handleInterrupts_of_quiet
    (cpu : CPU) {memory : M} (quiet : pendingMask memory = 0) :
    cpu.handleInterrupts memory =
      { cycles := 0, cpu := cpu, memory := memory } :=
  if_pos quiet

theorem handleInterrupts_of_disabled
    {cpu : CPU} {memory : M} (pending : pendingMask memory ≠ 0)
    (disabled : cpu.ime = false) :
    cpu.handleInterrupts memory =
      { cycles := 0, cpu := { cpu with halted := false }, memory := memory } := by
  have notQuiet :
      ¬ read memory 0xFF0F &&& read memory 0xFFFF &&& 0x1F = 0 := pending
  simp only [handleInterrupts]
  rw [if_neg notQuiet, if_neg (by simp [disabled])]

/-- With the master flag on, the lowest pending bit is serviced. -/
theorem handleInterrupts_of_pending
    {cpu : CPU} {memory : M} (pending : pendingMask memory ≠ 0)
    (enabled : cpu.ime = true) :
    ∃ bit < 5,
      (pendingMask memory).getLsbD bit = true ∧
        (∀ below < bit, (pendingMask memory).getLsbD below = false) ∧
        cpu.handleInterrupts memory =
          CPU.serviceInterrupt { cpu with halted := false, ime := false }
            memory (read memory 0xFF0F) bit := by
  obtain ⟨bit, inside, found, set, lowest⟩ :=
    find_lowest_bit (read memory 0xFF0F &&& read memory 0xFFFF) pending
  have notQuiet :
      ¬ read memory 0xFF0F &&& read memory 0xFFFF &&& 0x1F = 0 := pending
  refine ⟨bit, inside, set, lowest, ?_⟩
  simp only [handleInterrupts]
  rw [if_neg notQuiet, if_pos enabled]
  simp only [found]

theorem executeOpcode_of_cb
    {cpu : CPU} {memory : M}
    (fetched : read memory cpu.registers.pc.toAddress = 0xCB) :
    cpu.executeOpcode memory =
      { cycles := 4
        cpu :=
          { cpu with
            registers :=
              cpu.registers.setPcPair ⟨cpu.registers.pc.value + 1⟩ }
        memory := memory } :=
  if_pos fetched

private theorem prefix_has_no_handler :
    ∀ entry ∈ instructionTable,
      entry.opcode = 0xCB → entry.handler = none := by
  decide +kernel

/-- An opcode with a handler is not the prefix. -/
theorem opcode_ne_prefix_of_handler
    {opcode : Byte} {handler : Handler}
    (entry : (instructionAt opcode).handler = some handler) :
    opcode ≠ 0xCB := by
  intro isPrefix
  have absent :=
    instructionAt_property prefix_has_no_handler opcode
      (by rw [instructionAt_opcode, isPrefix])
  rw [entry] at absent
  exact Option.some_ne_none _ absent

/-- An opcode with a handler is executed by that handler. -/
theorem executeOpcode_of_handler
    {cpu : CPU} {memory : M} {handler : Handler}
    (entry :
      (instructionAt (read memory cpu.registers.pc.toAddress)).handler =
        some handler) :
    cpu.executeOpcode memory =
      let result :=
        handler.call cpu.registers memory cpu.registers.pc.toAddress
      { cycles := result.cycles
        cpu := { cpu with registers := result.regs.setPcPair ⟨result.pc⟩ }
        memory := result.memory } := by
  simp only [executeOpcode]
  rw [if_neg (opcode_ne_prefix_of_handler entry)]
  simp only [entry]

theorem executeOpcode_of_unimplemented
    {cpu : CPU} {memory : M}
    (notPrefix : read memory cpu.registers.pc.toAddress ≠ 0xCB)
    (entry :
      (instructionAt (read memory cpu.registers.pc.toAddress)).handler =
        none) :
    cpu.executeOpcode memory =
      { cycles := 4
        cpu :=
          { cpu with
            registers :=
              cpu.registers.setPcPair
                ⟨cpu.registers.pc.value +
                  (instructionAt
                    (read memory
                      cpu.registers.pc.toAddress)).length.setWidth 16⟩ }
        memory := memory } := by
  simp only [executeOpcode]
  rw [if_neg notPrefix]
  simp only [entry]

/-- Every opcode is the prefix, has a handler or is skipped. -/
theorem executeOpcode_cases (cpu : CPU) (memory : M) :
    (read memory cpu.registers.pc.toAddress = 0xCB ∧
        cpu.executeOpcode memory =
          { cycles := 4
            cpu :=
              { cpu with
                registers :=
                  cpu.registers.setPcPair ⟨cpu.registers.pc.value + 1⟩ }
            memory := memory }) ∨
      (∃ handler,
        (instructionAt (read memory cpu.registers.pc.toAddress)).handler =
            some handler ∧
          cpu.executeOpcode memory =
            let result :=
              handler.call cpu.registers memory cpu.registers.pc.toAddress
            { cycles := result.cycles
              cpu :=
                { cpu with registers := result.regs.setPcPair ⟨result.pc⟩ }
              memory := result.memory }) ∨
      (read memory cpu.registers.pc.toAddress ≠ 0xCB ∧
        cpu.executeOpcode memory =
          { cycles := 4
            cpu :=
              { cpu with
                registers :=
                  cpu.registers.setPcPair
                    ⟨cpu.registers.pc.value +
                      (instructionAt
                        (read memory
                          cpu.registers.pc.toAddress)).length.setWidth 16⟩ }
            memory := memory }) := by
  by_cases isPrefix : read memory cpu.registers.pc.toAddress = 0xCB
  · exact Or.inl ⟨isPrefix, executeOpcode_of_cb isPrefix⟩
  · cases entry :
        (instructionAt
          (read memory cpu.registers.pc.toAddress)).handler with
    | none =>
        exact Or.inr (Or.inr
          ⟨isPrefix, executeOpcode_of_unimplemented isPrefix entry⟩)
    | some handler =>
        exact Or.inr (Or.inl
          ⟨handler, rfl, executeOpcode_of_handler entry⟩)

/-- No opcode touches anything of the CPU but its registers. -/
theorem executeOpcode_cpu (cpu : CPU) (memory : M) :
    (cpu.executeOpcode memory).cpu =
      { cpu with registers := (cpu.executeOpcode memory).cpu.registers } := by
  rcases executeOpcode_cases cpu memory with
    ⟨_, executed⟩ | ⟨handler, _, executed⟩ | ⟨_, executed⟩
  · rw [executed]
  · rw [executed]
  · rw [executed]

/-- Neither halted nor stopped. -/
def running (cpu : CPU) : Prop :=
  cpu.halted = false ∧ cpu.stopped = false

theorem executeInstruction_of_idle
    {cpu : CPU} (memory : M)
    (idle : cpu.halted = true ∨ cpu.stopped = true) :
    cpu.executeInstruction memory =
      { cycles := 4, cpu := cpu, memory := memory } := by
  by_cases halted : cpu.halted = true
  · rw [executeInstruction, if_pos halted]
  · rw [executeInstruction, if_neg halted,
      if_pos (idle.resolve_left halted)]

theorem executeInstruction_of_disabled
    {cpu : CPU} (memory : M) (awake : cpu.running)
    (disabled : cpu.ime = false) :
    cpu.executeInstruction memory = cpu.executeOpcode memory := by
  rw [executeInstruction, if_neg (by simp [awake.1]),
    if_neg (by simp [awake.2]), if_neg (by simp [disabled])]

theorem executeInstruction_of_quiet
    {cpu : CPU} {memory : M} (awake : cpu.running)
    (quiet : pendingMask memory = 0) :
    cpu.executeInstruction memory = cpu.executeOpcode memory := by
  by_cases enabled : cpu.ime = true
  · rw [executeInstruction, if_neg (by simp [awake.1]),
      if_neg (by simp [awake.2]), if_pos enabled,
      handleInterrupts_of_quiet cpu quiet]
    exact if_neg (show ¬ (0 : Cycles) < 0 by decide)
  · exact executeInstruction_of_disabled memory awake
      (Bool.eq_false_iff.mpr enabled)

/-- A pending interrupt takes the place of the instruction. -/
theorem executeInstruction_of_pending
    {cpu : CPU} {memory : M} (awake : cpu.running)
    (enabled : cpu.ime = true) (pending : pendingMask memory ≠ 0) :
    cpu.executeInstruction memory = cpu.handleInterrupts memory := by
  obtain ⟨bit, _, _, _, serviced⟩ :=
    handleInterrupts_of_pending pending enabled
  have cycles : (cpu.handleInterrupts memory).cycles = 20 := by
    rw [serviced]
    rfl
  rw [executeInstruction, if_neg (by simp [awake.1]),
    if_neg (by simp [awake.2]), if_pos enabled]
  exact if_pos (by rw [cycles]; decide)

/-- Every call idles, dispatches an interrupt or executes one opcode. -/
theorem executeInstruction_cases (cpu : CPU) (memory : M) :
    cpu.executeInstruction memory =
        { cycles := 4, cpu := cpu, memory := memory } ∨
      (∃ bit < 5,
        cpu.executeInstruction memory =
          CPU.serviceInterrupt { cpu with halted := false, ime := false }
            memory (read memory 0xFF0F) bit) ∨
      cpu.executeInstruction memory = cpu.executeOpcode memory := by
  by_cases awake : cpu.running
  · by_cases quiet : pendingMask memory = 0
    · exact Or.inr (Or.inr (executeInstruction_of_quiet awake quiet))
    · by_cases enabled : cpu.ime = true
      · obtain ⟨bit, inside, _, _, serviced⟩ :=
          handleInterrupts_of_pending quiet enabled
        refine Or.inr (Or.inl ⟨bit, inside, ?_⟩)
        rw [executeInstruction_of_pending awake enabled quiet, serviced]
      · exact Or.inr (Or.inr
          (executeInstruction_of_disabled memory awake
            (Bool.eq_false_iff.mpr enabled)))
  · refine Or.inl (executeInstruction_of_idle memory ?_)
    simp only [running, not_and_or, Bool.not_eq_false] at awake
    exact awake

end Cases

end CPU

end CyclePerfectGameboy
