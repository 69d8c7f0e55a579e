import CyclePerfectGameboy.Cpu.CycleCounts
import CyclePerfectGameboy.Cpu.InstructionStream
import CyclePerfectGameboy.Cpu.InterruptDispatch
import CyclePerfectGameboy.Refinement.LoadGroup

/-!
# Cycle counts and bus activity

The LR35902 takes one machine cycle for each byte that it moves, and a few
instructions take an internal one.  The bytes are read off the reference
semantics; the stores are those that the handlers make, and the loads are all
that their results depend on.
-/

namespace CyclePerfectGameboy

open Reference

namespace Reference.LoadInstruction

/-- The addresses of the data bytes that an instruction reads. -/
def dataReads (state : State) : LoadInstruction → List Address
  | .ldFromHl _ => [state.cells.getPair .hl]
  | .loadA pointer => [state.cells.address pointer]
  | .loadAAbsolute => [state.immediate16]
  | .pop _ | .popAf => [state.cells.sp, state.cells.sp + 1]
  | .loadAHigh => [State.highPage state.immediate8]
  | .loadAHighC => [State.highPage state.cells.c]
  | _ => []

/-- The addresses of the data bytes that it writes, in order. -/
def dataWrites (state : State) : LoadInstruction → List Address
  | .ldToHl _ => [state.cells.getPair .hl]
  | .storeA pointer => [state.cells.address pointer]
  | .storeAAbsolute => [state.immediate16]
  | .storeSp => [state.immediate16, state.immediate16 + 1]
  | .push _ | .pushAf => [state.cells.sp - 1, state.cells.sp - 2]
  | .storeAHigh => [State.highPage state.immediate8]
  | .storeAHighC => [State.highPage state.cells.c]
  | _ => []

theorem length_pos (instruction : LoadInstruction) :
    0 < instruction.length := by
  cases instruction <;> exact Nat.zero_lt_succ _

/-- Machine cycles in which no byte moves. -/
def internalCycles : LoadInstruction → Nat
  | .push _ | .pushAf | .ldSpHl | .ldHlSpOffset => 1
  | _ => 0

/-- The machine cycles of an instruction by the bus rule. -/
def busCycles (state : State) (instruction : LoadInstruction) : Nat :=
  instruction.length + (instruction.dataReads state).length +
    (instruction.dataWrites state).length + instruction.internalCycles

end Reference.LoadInstruction

section Bytes

variable (state : State) (instruction : LoadInstruction)

/-- The registers depend on the operand bytes and the data bytes read. -/
theorem transfer_cells_congr
    {memory : Address → Byte}
    (operands :
      ∀ offset < instruction.length,
        memory (state.cells.pc + BitVec.ofNat 16 offset) =
          state.memory (state.cells.pc + BitVec.ofNat 16 offset))
    (data :
      ∀ addr ∈ instruction.dataReads state,
        memory addr = state.memory addr) :
    (State.transfer { state with memory := memory } instruction).cells =
      (state.transfer instruction).cells := by
  let other : State := { state with memory := memory }
  have immediate8 :
      1 < instruction.length → other.immediate8 = state.immediate8 :=
    fun long => operands 1 long
  have immediate16 :
      2 < instruction.length → other.immediate16 = state.immediate16 :=
    fun long =>
      congrArg₂ word (operands 2 long) (operands 1 (Nat.lt_of_succ_lt long))
  have top :
      memory state.cells.sp = state.memory state.cells.sp →
        memory (state.cells.sp + 1) = state.memory (state.cells.sp + 1) →
          other.top = state.top :=
    fun first second => congrArg₂ word second first
  cases instruction with
  | ldReg | ldToHl | storeA | storeAAbsolute | storeSp | ldSpHl | push
  | pushAf | storeAHigh | storeAHighC =>
      rfl
  | ldImmediate target =>
      exact congrArg (state.cells.set target) (immediate8 Nat.one_lt_two)
  | ldFromHl target =>
      exact
        congrArg (state.cells.set target)
          (data _ (List.mem_singleton_self _))
  | loadA pointer =>
      exact
        congrArg (fun value => (state.cells.set .a value).bump pointer)
          (data _ (List.mem_singleton_self _))
  | loadAAbsolute =>
      change state.cells.set .a (memory other.immediate16) = _
      rw [immediate16 (Nat.lt_succ_self 2),
        data _ (List.mem_singleton_self _)]
      rfl
  | ldPair target =>
      exact
        congrArg (state.cells.setPair target)
          (immediate16 (Nat.lt_succ_self 2))
  | ldSp =>
      exact
        congrArg (fun value => { state.cells with sp := value })
          (immediate16 (Nat.lt_succ_self 2))
  | pop target =>
      exact
        congrArg
          (fun value =>
            { state.cells.setPair target value with
              sp := state.cells.sp + 2 })
          (top (data _ List.mem_cons_self)
            (data _ (List.mem_cons_of_mem _ (List.mem_singleton_self _))))
  | popAf =>
      exact
        congrArg
          (fun value =>
            { state.cells with
              a := upper value
              f := lower value &&& 0xF0
              sp := state.cells.sp + 2 })
          (top (data _ List.mem_cons_self)
            (data _ (List.mem_cons_of_mem _ (List.mem_singleton_self _))))
  | loadAHigh =>
      change state.cells.set .a (memory (State.highPage other.immediate8)) = _
      rw [immediate8 Nat.one_lt_two, data _ (List.mem_singleton_self _)]
      rfl
  | loadAHighC =>
      exact
        congrArg (state.cells.set .a) (data _ (List.mem_singleton_self _))
  | ldHlSpOffset =>
      change
        { state.cells.setPair .hl
            (state.cells.sp + other.immediate8.signExtend 16) with
          f :=
            State.carryFlags
              (decide
                (16 ≤ state.cells.sp.toNat % 16 +
                  other.immediate8.toNat % 16))
              (decide
                (256 ≤ state.cells.sp.toNat % 256 +
                  other.immediate8.toNat)) } =
          _
      rw [immediate8 Nat.one_lt_two]
      rfl

end Bytes

section Handlers

variable (regs : Registers) (memory : FlatMemory)

/-- The handlers store exactly the data bytes that the reference names. -/
theorem handler_stores
    (instruction : LoadInstruction)
    (opcode : memory regs.pc.value = instruction.opcode) :
    (instruction.handler.call regs (StoreLog.start memory)
        regs.pc.value).memory.stores.map Prod.fst =
      instruction.dataWrites (referenceState regs memory) := by
  have fetched :
      ∀ addr, read (StoreLog.start memory) addr = memory addr :=
    fun _ => rfl
  cases instruction with
  | ldImmediate | loadA | ldPair | ldSp | ldSpHl | pop | popAf
  | ldHlSpOffset =>
      rfl
  | loadAAbsolute | loadAHigh | loadAHighC =>
      simp only [LoadInstruction.handler, Handler.call, ldAAbs, ldIoA,
        fetched, opcode]
      rfl
  | ldReg target source =>
      have targetIndex :
          ((LoadInstruction.ldReg target source).opcode >>> 3) &&&
            (0x07 : Byte) = target.code := by
        cases target <;> cases source <;> decide
      simp only [LoadInstruction.handler, Handler.call, ldRR, fetched, opcode,
        targetIndex]
      cases target <;> rfl
  | ldFromHl target =>
      have targetIndex :
          ((LoadInstruction.ldFromHl target).opcode >>> 3) &&&
            (0x07 : Byte) = target.code := by
        cases target <;> decide
      simp only [LoadInstruction.handler, Handler.call, ldRR, fetched, opcode,
        targetIndex]
      cases target <;> rfl
  | ldToHl source =>
      have targetIndex :
          ((LoadInstruction.ldToHl source).opcode >>> 3) &&&
            (0x07 : Byte) = 6 := by
        cases source <;> decide
      have hl : regs.cells.getPair .hl = regs.hl.value :=
        regs.cells_getPair .hl
      simp only [LoadInstruction.handler, Handler.call, ldRR, fetched, opcode,
        targetIndex, LoadInstruction.dataWrites, referenceState, hl]
      rfl
  | storeA pointer =>
      simp only [LoadInstruction.handler, Handler.call, ldMemA, fetched,
        opcode, LoadInstruction.dataWrites, referenceState, cells_address]
      cases pointer <;> rfl
  | storeAAbsolute =>
      simp only [LoadInstruction.handler, Handler.call, ldAAbs, fetched,
        opcode, LoadInstruction.dataWrites, immediate16_eq]
      rfl
  | storeSp =>
      simp only [LoadInstruction.handler, Handler.call, ldNnSp, fetched,
        LoadInstruction.dataWrites, immediate16_eq]
      rfl
  | push | pushAf =>
      have twice : regs.sp.value - 1 - 1 = regs.sp.value - 2 := by
        bv_omega
      exact
        congrArg (fun second => [regs.sp.value - 1, second]) twice
  | storeAHigh | storeAHighC =>
      simp only [LoadInstruction.handler, Handler.call, ldIoA, fetched,
        opcode, LoadInstruction.dataWrites, highPage_eq]
      rfl

/-- The registers that a handler leaves depend on the bytes of its
instruction and on the data bytes that the reference names. -/
theorem handler_reads
    (instruction : LoadInstruction)
    (opcode : memory regs.pc.value = instruction.opcode)
    {other : FlatMemory}
    (sameInstruction :
      ∀ offset < instruction.length,
        other (regs.pc.value + BitVec.ofNat 16 offset) =
          memory (regs.pc.value + BitVec.ofNat 16 offset))
    (sameData :
      ∀ addr ∈ instruction.dataReads (referenceState regs memory),
        other addr = memory addr) :
    (instruction.handler.call regs other regs.pc.value).regs.cells =
      (instruction.handler.call regs memory regs.pc.value).regs.cells := by
  have sameOpcode : other regs.pc.value = memory regs.pc.value := by
    have first := sameInstruction 0 instruction.length_pos
    rwa [BitVec.add_zero] at first
  have left := handler_refines regs other instruction (sameOpcode.trans opcode)
  have right := handler_refines regs memory instruction opcode
  calc
    (instruction.handler.call regs other regs.pc.value).regs.cells =
        ((referenceState regs other).transfer instruction).cells :=
      congrArg State.cells left.transfer
    _ = ((referenceState regs memory).transfer instruction).cells :=
      transfer_cells_congr (referenceState regs memory) instruction
        sameInstruction sameData
    _ = (instruction.handler.call regs memory regs.pc.value).regs.cells :=
      (congrArg State.cells right.transfer).symm

/-- The one-byte forms of `ld_io_a`: `LD (C),A` and `LD A,(C)`. -/
def offsetByC : List Byte := [0xE2, 0xF2]

/-- `LD r,r'` takes a second machine cycle for its `(HL)` forms. -/
theorem ldRR_cycles
    {opcode : Byte} (fetched : memory regs.pc.value = opcode) :
    (ldRR regs memory regs.pc.value).cycles =
      if opcode &&& 0x07 = 6 ∨ (opcode >>> 3) &&& (0x07 : Byte) = 6 then 8
      else 4 := by
  rw [← fetched]
  rfl

/-- A handler returns four clock cycles for each machine cycle of the bus
rule, and one machine cycle more for the port forms through `C`. -/
theorem handler_cycles
    (instruction : LoadInstruction)
    (opcode : memory regs.pc.value = instruction.opcode) :
    (instruction.handler.call regs memory regs.pc.value).cycles.toNat =
      4 * instruction.busCycles (referenceState regs memory) +
        (if instruction.opcode ∈ offsetByC then 4 else 0) := by
  cases instruction with
  | ldReg target source =>
      change (ldRR regs memory regs.pc.value).cycles.toNat = _
      rw [ldRR_cycles regs memory opcode]
      cases target <;> cases source <;> rfl
  | ldFromHl target =>
      change (ldRR regs memory regs.pc.value).cycles.toNat = _
      rw [ldRR_cycles regs memory opcode]
      cases target <;> rfl
  | ldToHl source =>
      change (ldRR regs memory regs.pc.value).cycles.toNat = _
      rw [ldRR_cycles regs memory opcode]
      cases source <;> rfl
  | ldImmediate target => cases target <;> rfl
  | loadA pointer | storeA pointer => cases pointer <;> rfl
  | ldPair target | push target | pop target => cases target <;> rfl
  | loadAAbsolute | storeAAbsolute | ldSp | storeSp | ldSpHl | pushAf
  | popAf | loadAHigh | storeAHigh | loadAHighC | storeAHighC
  | ldHlSpOffset =>
      rfl

end Handlers

/-! ## Runs -/

/-- The opcodes of `NOP` and of the load and stack handlers. -/
def isLoadOrNop (opcode : Byte) : Bool :=
  opcode == 0x00 || (instructionAt opcode).handler.any Handler.isLoad

namespace CPU

/-- The machine cycles of the instruction at `PC` by the bus rule; what the
reference does not name moves its opcode only. -/
def busCycles (cpu : CPU) (memory : FlatMemory) : Nat :=
  match LoadInstruction.ofMnemonic
      (instructionAt (cpu.fetch memory)).mnemonic with
  | some named => named.busCycles (referenceState cpu.registers memory)
  | none => 1

/-- Along a run, those of the next call. -/
def busCyclesAt (machine : CPU × FlatMemory) (calls : Nat) : Nat :=
  (machineAt machine calls).1.busCycles (machineAt machine calls).2

section Step

variable {cpu : CPU} {memory : FlatMemory}
variable (awake : cpu.running) (disabled : cpu.ime = false)

include awake disabled

private theorem nop_step (fetched : cpu.fetch memory = 0x00) :
    (cpu.executeInstruction memory).cycles.toNat =
      4 * cpu.busCycles memory +
        (if cpu.fetch memory ∈ offsetByC then 4 else 0) := by
  have handled :
      (instructionAt (cpu.fetch memory)).handler = some .nop := by
    rw [fetched]
    rfl
  have unnamed : LoadInstruction.ofMnemonic (instructionAt 0x00).mnemonic =
      none := by
    decide
  rw [executeInstruction_of_disabled memory awake disabled,
    executeOpcode_of_handler handled, busCycles, fetched, unnamed]
  rfl

private theorem load_step
    (load :
      (instructionAt (cpu.fetch memory)).handler.any Handler.isLoad =
        true) :
    (cpu.executeInstruction memory).cycles.toNat =
      4 * cpu.busCycles memory +
        (if cpu.fetch memory ∈ offsetByC then 4 else 0) := by
  rcases
      instructionAt_property instructionTable_loads (cpu.fetch memory)
        load with
    ⟨named, member, fetched, handled, _, mnemonic⟩
  rw [instructionAt_opcode] at fetched
  have byRule :
      cpu.busCycles memory =
        named.busCycles (referenceState cpu.registers memory) := by
    rw [busCycles, mnemonic,
      LoadInstruction.ofMnemonic_mnemonic named member]
  rw [executeInstruction_of_disabled memory awake disabled,
    executeOpcode_of_handler handled, byRule, fetched]
  exact handler_cycles cpu.registers memory named fetched

/-- One instruction of a run. -/
theorem executeInstruction_busCycles
    (implemented : isLoadOrNop (cpu.fetch memory) = true) :
    (cpu.executeInstruction memory).cycles.toNat =
      4 * cpu.busCycles memory +
        (if cpu.fetch memory ∈ offsetByC then 4 else 0) := by
  rcases Bool.or_eq_true_iff.mp implemented with isNop | load
  · exact nop_step awake disabled (beq_iff_eq.mp isNop)
  · exact load_step awake disabled load

/-- It leaves interrupts off and the CPU awake. -/
theorem executeInstruction_stays :
    (cpu.executeInstruction memory).cpu.running ∧
      (cpu.executeInstruction memory).cpu.ime = false := by
  rw [executeInstruction_of_disabled memory awake disabled]
  refine ⟨executeOpcode_running awake memory, ?_⟩
  have same : { cpu with ime := false } = cpu := by
    rw [← disabled]
  have kept :=
    congrArg (fun result => result.cpu.ime)
      (executeOpcode_ime cpu false memory)
  rw [same] at kept
  exact kept

end Step

section Run

variable {machine : CPU × FlatMemory}
variable (awake : machine.1.running) (disabled : machine.1.ime = false)

include awake disabled

theorem machineAt_stays (calls : Nat) :
    (machineAt machine calls).1.running ∧
      (machineAt machine calls).1.ime = false := by
  induction calls with
  | zero =>
      exact ⟨awake, disabled⟩
  | succ calls inductionHypothesis =>
      rw [machineAt_succ]
      exact
        executeInstruction_stays inductionHypothesis.1
          inductionHypothesis.2

/-- A run spends four clock cycles for each machine cycle of the bus rule,
and four more each time that it meets a port form through `C`. -/
theorem spent_eq_busCycles
    (calls : Nat)
    (implemented :
      ∀ k < calls, isLoadOrNop (opcodeAt machine k) = true) :
    BudgetLoop.spent runBody calls machine =
      4 * ((List.range calls).map (busCyclesAt machine)).sum +
        4 * (List.range calls).countP
          (fun k => decide (opcodeAt machine k ∈ offsetByC)) := by
  induction calls with
  | zero =>
      rfl
  | succ calls inductionHypothesis =>
      have stays := machineAt_stays awake disabled calls
      have step :
          (runBody (machineAt machine calls)).1.toNat =
            4 * busCyclesAt machine calls +
              (if opcodeAt machine calls ∈ offsetByC then 4 else 0) :=
        (toNat_widen_cycles _).trans
          (executeInstruction_busCycles stays.1 stays.2
            (implemented calls (Nat.lt_succ_self calls)))
      have before :=
        inductionHypothesis
          (fun k earlier => implemented k (Nat.lt_succ_of_lt earlier))
      rw [BudgetLoop.spent_succ', before]
      change _ + (runBody (machineAt machine calls)).1.toNat = _
      rw [step, List.range_succ, List.map_append, List.sum_append,
        List.countP_append, List.map_singleton, List.sum_singleton,
        List.countP_singleton]
      by_cases slow : opcodeAt machine calls ∈ offsetByC
      · simp only [slow, if_true, decide_true]
        omega
      · simp only [slow, if_false, decide_false, Bool.false_eq_true]
        omega

end Run

/-- The cycles of a run of `NOP`, load and stack instructions with interrupts
off follow the bus exactly when it meets neither `LD (C),A` nor
`LD A,(C)`. -/
theorem load_timing_follows_bus_iff
    (cpu : CPU) (memory : FlatMemory)
    (awake : cpu.running) (disabled : cpu.ime = false)
    (calls : Nat)
    (implemented :
      ∀ k < calls, isLoadOrNop (opcodeAt (cpu, memory) k) = true) :
    BudgetLoop.spent runBody calls (cpu, memory) =
        4 * ((List.range calls).map (busCyclesAt (cpu, memory))).sum ↔
      ∀ k < calls, opcodeAt (cpu, memory) k ∉ [(0xE2 : Byte), 0xF2] := by
  have total :=
    spent_eq_busCycles (show (cpu, memory).1.running from awake) disabled calls
      implemented
  have none :
      (List.range calls).countP
            (fun k => decide (opcodeAt (cpu, memory) k ∈ offsetByC)) = 0 ↔
        ∀ k < calls, opcodeAt (cpu, memory) k ∉ [(0xE2 : Byte), 0xF2] := by
    rw [List.countP_eq_zero]
    simp only [List.mem_range, decide_eq_true_eq]
    rfl
  rw [← none, total]
  omega

/-- `PUSH BC` and two `NOP`s: six machine cycles. -/
theorem load_timing_of_push :
    let memory : FlatMemory := Function.update (fun _ => 0) 0 0xC5
    BudgetLoop.spent runBody 3 (({} : CPU), memory) = 4 * (4 + 1 + 1) := by
  intro memory
  have follows :=
    (load_timing_follows_bus_iff {} memory ⟨rfl, rfl⟩ rfl 3
      (by decide)).mpr (by decide)
  exact follows.trans (by decide)

/-- `LD (C),A` moves two bytes in three machine cycles. -/
theorem load_timing_of_ld_c_a :
    ¬ ∀ (cpu : CPU) (memory : FlatMemory),
      cpu.running → cpu.ime = false →
        ∀ calls,
          (∀ k < calls,
            isLoadOrNop (opcodeAt (cpu, memory) k) = true) →
          BudgetLoop.spent runBody calls (cpu, memory) =
            4 * ((List.range calls).map
              (busCyclesAt (cpu, memory))).sum := by
  intro always
  have follows :=
    always {} (fun _ => 0xE2) ⟨rfl, rfl⟩ rfl 1 (by decide)
  exact absurd follows (by decide)

end CPU

end CyclePerfectGameboy
