import CyclePerfectGameboy.Cpu.Cpu
import CyclePerfectGameboy.Refinement.LoadHandlers

/-!
# The load group of the CPU refines the reference semantics

The instruction table names each load instruction, gives its length and picks
its handler; `execute_instruction` then does what the name says.
-/

namespace CyclePerfectGameboy

open Reference

/-- Every mnemonic names one instruction. -/
theorem Reference.LoadInstruction.ofMnemonic_mnemonic :
    ∀ instruction ∈ LoadInstruction.all,
      LoadInstruction.ofMnemonic instruction.mnemonic =
        some instruction := by
  decide +kernel

theorem Reference.LoadInstruction.mem_all (instruction : LoadInstruction) :
    instruction ∈ LoadInstruction.all := by
  cases instruction with
  | ldImmediate target | ldFromHl target | ldToHl target =>
      cases target <;> decide
  | ldReg target source =>
      cases target <;> cases source <;> decide
  | loadA pointer | storeA pointer =>
      cases pointer <;> decide
  | ldPair target | push target | pop target =>
      cases target <;> decide
  | loadAAbsolute | storeAAbsolute | ldSp | storeSp | ldSpHl | pushAf
  | popAf | loadAHigh | storeAHigh | loadAHighC | storeAHighC
  | ldHlSpOffset =>
      decide

/-- The table dispatches the opcode of each instruction to its handler. -/
theorem instructionAt_load :
    ∀ instruction ∈ LoadInstruction.all,
      (instructionAt instruction.opcode).handler =
        some instruction.handler := by
  decide +kernel

/-- Each load entry of the table sits at the opcode of an instruction, with
the handler, the length and the mnemonic of that instruction. -/
theorem instructionTable_loads :
    ∀ entry ∈ instructionTable,
      entry.handler.any Handler.isLoad = true →
        ∃ instruction ∈ LoadInstruction.all,
          entry.opcode = instruction.opcode ∧
            entry.handler = some instruction.handler ∧
            entry.length.setWidth 16 =
              BitVec.ofNat 16 instruction.length ∧
            entry.mnemonic = instruction.mnemonic := by
  decide +kernel

namespace CPU

/-- With interrupts disabled, the opcode of a load instruction is executed as
that instruction. -/
theorem executeInstruction_of_load
    {cpu : CPU} {memory : FlatMemory}
    (awake : cpu.running) (disabled : cpu.ime = false)
    {named : LoadInstruction}
    (fetched : memory cpu.registers.pc.value = named.opcode) :
    let result := cpu.executeInstruction memory
    referenceState result.cpu.registers result.memory =
        (referenceState cpu.registers memory).execute named ∧
      result.cpu.ime = false ∧
      result.cpu.running := by
  intro result
  have handled :
      (instructionAt (memory cpu.registers.pc.value)).handler =
        some named.handler := by
    rw [fetched]
    exact instructionAt_load named named.mem_all
  have refines := handler_refines cpu.registers memory named fetched
  have executed : result = cpu.executeOpcode memory :=
    executeInstruction_of_disabled memory awake disabled
  rw [executeOpcode_of_handler handled] at executed
  rw [executed]
  exact ⟨refines.execute, disabled, awake⟩

/-- With interrupts disabled, an opcode whose table entry has a load handler
is executed as the instruction that the entry's mnemonic names. -/
theorem executeInstruction_refines_load
    (cpu : CPU) (memory : FlatMemory)
    (awake : cpu.running) (disabled : cpu.ime = false)
    {handler : Handler}
    (entry :
      (instructionAt (memory cpu.registers.pc.value)).handler =
        some handler)
    (load : handler.isLoad = true) :
    let instruction := instructionAt (memory cpu.registers.pc.value)
    let result := cpu.executeInstruction memory
    ∃ named,
      LoadInstruction.ofMnemonic instruction.mnemonic = some named ∧
        referenceState result.cpu.registers result.memory =
          (referenceState cpu.registers memory).execute named ∧
        result.cpu.registers.pc.value =
          cpu.registers.pc.value + instruction.length.setWidth 16 ∧
        result.cpu.ime = false ∧
        result.cpu.halted = false ∧
        result.cpu.stopped = false := by
  intro instruction result
  have isLoad : instruction.handler.any Handler.isLoad = true := by
    rw [show instruction.handler = some handler from entry]
    exact load
  rcases
      instructionAt_property instructionTable_loads
        (memory cpu.registers.pc.value) isLoad with
    ⟨named, member, opcode, _, length, mnemonic⟩
  have names :
      LoadInstruction.ofMnemonic instruction.mnemonic = some named := by
    rw [show instruction.mnemonic = named.mnemonic from mnemonic]
    exact LoadInstruction.ofMnemonic_mnemonic named member
  rw [instructionAt_opcode] at opcode
  rcases executeInstruction_of_load awake disabled opcode with
    ⟨executed, stillDisabled, stillAwake⟩
  have moved :
      result.cpu.registers.pc.value =
        cpu.registers.pc.value + BitVec.ofNat 16 named.length :=
    congrArg (fun state : State => state.cells.pc) executed
  refine ⟨named, names, executed, ?_, stillDisabled, stillAwake⟩
  rw [moved, ← length]

/-- `LD HL,SP+n` at `0xFFFF`: the operand is fetched from `0x0000`, and both
carries are set. -/
theorem executeInstruction_refines_load_wraps :
    let cpu : CPU :=
      { registers := { pc := ⟨0xFFFF⟩, sp := ⟨0xFFFF⟩, af := ⟨0x12C0⟩ } }
    let memory : FlatMemory := Function.update (fun _ => 0x01) 0xFFFF 0xF8
    let result := cpu.executeInstruction memory
    result.cpu.registers.cells =
      { a := 0x12, f := 0x30, b := 0, c := 0, d := 0, e := 0, h := 0, l := 0
        sp := 0xFFFF, pc := 0x0001 } := by
  intro cpu memory result
  obtain ⟨named, mnemonic, executed, _⟩ :=
    executeInstruction_refines_load cpu memory ⟨rfl, rfl⟩ rfl
      (show _ = some Handler.ldHlSpN by decide) rfl
  have isOffset :
      LoadInstruction.ofMnemonic
          (instructionAt (memory cpu.registers.pc.value)).mnemonic =
        some .ldHlSpOffset := by
    decide
  rw [isOffset, Option.some.injEq] at mnemonic
  subst mnemonic
  have cells := congrArg State.cells executed
  exact cells.trans (by decide)

end CPU

end CyclePerfectGameboy
