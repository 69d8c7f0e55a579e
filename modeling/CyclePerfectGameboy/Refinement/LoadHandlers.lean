import CyclePerfectGameboy.Cpu.Instructions
import CyclePerfectGameboy.Refinement.Registers

/-!
# The load handlers refine the reference semantics

Each handler decodes its opcode again.  For every reference instruction, the
handler that runs for its opcode makes the transfer that its mnemonic says
and moves the program counter past it.
-/

namespace CyclePerfectGameboy

open Reference

namespace Reference

/-- The three bits that encode a register. -/
def Reg8.code : Reg8 → Byte
  | .b => 0
  | .c => 1
  | .d => 2
  | .e => 3
  | .h => 4
  | .l => 5
  | .a => 7

def Pair.code : Pair → Byte
  | .bc => 0
  | .de => 1
  | .hl => 2

def Pointer.code : Pointer → Byte
  | .bc => 0
  | .de => 1
  | .hlIncrement => 2
  | .hlDecrement => 3

namespace LoadInstruction

def opcode : LoadInstruction → Byte
  | .ldImmediate target => 0x06 + 8 * target.code
  | .ldReg target source => 0x40 + 8 * target.code + source.code
  | .ldFromHl target => 0x46 + 8 * target.code
  | .ldToHl source => 0x70 + source.code
  | .loadA pointer => 0x0A + 16 * pointer.code
  | .storeA pointer => 0x02 + 16 * pointer.code
  | .loadAAbsolute => 0xFA
  | .storeAAbsolute => 0xEA
  | .ldPair target => 0x01 + 16 * target.code
  | .ldSp => 0x31
  | .storeSp => 0x08
  | .ldSpHl => 0xF9
  | .push source => 0xC5 + 16 * source.code
  | .pushAf => 0xF5
  | .pop target => 0xC1 + 16 * target.code
  | .popAf => 0xF1
  | .loadAHigh => 0xF0
  | .storeAHigh => 0xE0
  | .loadAHighC => 0xF2
  | .storeAHighC => 0xE2
  | .ldHlSpOffset => 0xF8

/-- The handler of the source for each instruction. -/
def handler : LoadInstruction → Handler
  | .ldImmediate _ => .ldRN
  | .ldReg _ _ => .ldRR
  | .ldFromHl _ => .ldRR
  | .ldToHl _ => .ldRR
  | .loadA _ => .ldAMem
  | .storeA _ => .ldMemA
  | .loadAAbsolute => .ldAAbs
  | .storeAAbsolute => .ldAAbs
  | .ldPair _ => .ldRpNn
  | .ldSp => .ldRpNn
  | .storeSp => .ldNnSp
  | .ldSpHl => .ldSpHl
  | .push _ => .pushRp
  | .pushAf => .pushRp
  | .pop _ => .popRp
  | .popAf => .popRp
  | .loadAHigh => .ldIoA
  | .storeAHigh => .ldIoA
  | .loadAHighC => .ldIoA
  | .storeAHighC => .ldIoA
  | .ldHlSpOffset => .ldHlSpN

end LoadInstruction

end Reference

/-- The reference state of a register file and a flat memory. -/
def referenceState (regs : Registers) (memory : FlatMemory) : State :=
  { cells := regs.cells, memory := memory }

/-- The result of a handler is the transfer of `instruction`, and its program
counter is past it. -/
structure HandlerResult.Refines (instruction : LoadInstruction)
    (regs : Registers) (memory : FlatMemory)
    (result : HandlerResult FlatMemory) : Prop where
  transfer :
    referenceState result.regs result.memory =
      (referenceState regs memory).transfer instruction
  pc :
    result.pc = regs.pc.value + BitVec.ofNat 16 instruction.length

/-- With the program counter stored, the whole instruction is executed. -/
theorem HandlerResult.Refines.execute
    {instruction : LoadInstruction} {regs : Registers} {memory : FlatMemory}
    {result : HandlerResult FlatMemory}
    (refines : result.Refines instruction regs memory) :
    referenceState (result.regs.setPcPair ⟨result.pc⟩) result.memory =
      (referenceState regs memory).execute instruction := by
  rw [State.execute, ← refines.transfer, refines.pc]
  rfl

section Handlers

variable (regs : Registers) (memory : FlatMemory)

theorem ldRN_refines (target : Reg8)
    (opcode :
      memory regs.pc.value = (LoadInstruction.ldImmediate target).opcode) :
    (ldRN regs memory regs.pc.value).Refines (.ldImmediate target) regs
      memory := by
  have index :
      (((LoadInstruction.ldImmediate target).opcode >>> 3) &&&
        (0x07 : Byte)) = target.code := by
    cases target <;> decide
  have stored :
      (ldRN regs memory regs.pc.value).regs =
        regs.setReg target (memory (regs.pc.value + 1)) := by
    simp only [ldRN, FlatMemory.read_eq, opcode, index]
    cases target <;> rfl
  refine ⟨?_, rfl⟩
  rw [referenceState, stored, Registers.cells_setReg]
  rfl

theorem ldRRSource_code (source : Reg8) :
    ldRRSource regs memory source.code = regs.cells.get source := by
  cases source <;> rfl

theorem ldRRDestination_code (target : Reg8) (value : Byte) :
    ldRRDestination regs memory target.code value =
      (regs.setReg target value, memory) := by
  cases target <;> rfl

theorem ldReg_refines (target source : Reg8)
    (opcode :
      memory regs.pc.value = (LoadInstruction.ldReg target source).opcode) :
    (ldRR regs memory regs.pc.value).Refines (.ldReg target source) regs
      memory := by
  have sourceIndex :
      (LoadInstruction.ldReg target source).opcode &&& (0x07 : Byte) =
        source.code := by
    cases target <;> cases source <;> decide
  have targetIndex :
      ((LoadInstruction.ldReg target source).opcode >>> 3) &&&
        (0x07 : Byte) = target.code := by
    cases target <;> cases source <;> decide
  refine ⟨?_, rfl⟩
  simp only [ldRR, FlatMemory.read_eq, opcode, sourceIndex, targetIndex,
    ldRRSource_code, ldRRDestination_code, referenceState,
    Registers.cells_setReg]
  rfl

theorem ldFromHl_refines (target : Reg8)
    (opcode :
      memory regs.pc.value = (LoadInstruction.ldFromHl target).opcode) :
    (ldRR regs memory regs.pc.value).Refines (.ldFromHl target) regs
      memory := by
  have sourceIndex :
      (LoadInstruction.ldFromHl target).opcode &&& (0x07 : Byte) = 6 := by
    cases target <;> decide
  have targetIndex :
      ((LoadInstruction.ldFromHl target).opcode >>> 3) &&& (0x07 : Byte) =
        target.code := by
    cases target <;> decide
  have loaded : ldRRSource regs memory 6 = memory regs.hl.value := rfl
  refine ⟨?_, rfl⟩
  simp only [ldRR, FlatMemory.read_eq, opcode, sourceIndex, targetIndex,
    loaded, ldRRDestination_code, referenceState, Registers.cells_setReg,
    State.transfer, Registers.cells_getPair]
  rfl

theorem ldToHl_refines (source : Reg8)
    (opcode :
      memory regs.pc.value = (LoadInstruction.ldToHl source).opcode) :
    (ldRR regs memory regs.pc.value).Refines (.ldToHl source) regs
      memory := by
  have sourceIndex :
      (LoadInstruction.ldToHl source).opcode &&& (0x07 : Byte) =
        source.code := by
    cases source <;> decide
  have targetIndex :
      ((LoadInstruction.ldToHl source).opcode >>> 3) &&& (0x07 : Byte) =
        6 := by
    cases source <;> decide
  have stored : ∀ value,
      ldRRDestination regs memory 6 value =
        (regs, Function.update memory regs.hl.value value) :=
    fun _ => rfl
  refine ⟨?_, rfl⟩
  simp only [ldRR, FlatMemory.read_eq, opcode, sourceIndex, targetIndex,
    stored, ldRRSource_code, referenceState, State.transfer, State.store,
    Registers.cells_getPair]
  rfl

/-- What the handlers do to `HL` for each pointer. -/
def Reference.Pointer.update : Pointer → HlUpdate
  | .bc => .none
  | .de => .none
  | .hlIncrement => .increment
  | .hlDecrement => .decrement

theorem cells_update (pointer : Pointer) :
    (pointer.update.apply regs).cells = regs.cells.bump pointer := by
  cases pointer with
  | bc => rfl
  | de => rfl
  | hlIncrement =>
      rw [Cells.bump, Registers.cells_getPair]
      exact regs.cells_setRegPair .hl _
  | hlDecrement =>
      rw [Cells.bump, Registers.cells_getPair]
      exact regs.cells_setRegPair .hl _

theorem cells_address (pointer : Pointer) :
    regs.cells.address pointer = (regs.pair pointer.pair).value :=
  regs.cells_getPair pointer.pair

theorem loadA_refines (pointer : Pointer)
    (opcode :
      memory regs.pc.value = (LoadInstruction.loadA pointer).opcode) :
    (ldAMem regs memory regs.pc.value).Refines (.loadA pointer) regs
      memory := by
  have loaded :
      (ldAMem regs memory regs.pc.value).regs =
        pointer.update.apply
          (regs.setReg .a (memory (regs.cells.address pointer))) := by
    rw [cells_address]
    simp only [ldAMem, FlatMemory.read_eq, opcode]
    cases pointer <;> rfl
  refine ⟨?_, rfl⟩
  rw [referenceState, loaded, cells_update, Registers.cells_setReg]
  rfl

theorem storeA_refines (pointer : Pointer)
    (opcode :
      memory regs.pc.value = (LoadInstruction.storeA pointer).opcode) :
    (ldMemA regs memory regs.pc.value).Refines (.storeA pointer) regs
      memory := by
  have stored :
      (ldMemA regs memory regs.pc.value).memory =
        Function.update memory (regs.cells.address pointer) regs.getA := by
    rw [cells_address]
    simp only [ldMemA, FlatMemory.read_eq, FlatMemory.write_eq, opcode]
    cases pointer <;> rfl
  have updated :
      (ldMemA regs memory regs.pc.value).regs =
        pointer.update.apply regs := by
    simp only [ldMemA, FlatMemory.read_eq, opcode]
    cases pointer <;> rfl
  refine ⟨?_, rfl⟩
  rw [referenceState, stored, updated, cells_update]
  rfl

/-- A handler that loads `A` from `addr` and changes nothing else. -/
theorem refines_of_loadA
    {instruction : LoadInstruction} {addr : Address}
    {result : HandlerResult FlatMemory}
    (named :
      (referenceState regs memory).transfer instruction =
        (referenceState regs memory).withCells
          (regs.cells.set .a (memory addr)))
    (loaded : result.regs = regs.setReg .a (memory addr))
    (kept : result.memory = memory)
    (moved :
      result.pc = regs.pc.value + BitVec.ofNat 16 instruction.length) :
    result.Refines instruction regs memory := by
  refine ⟨?_, moved⟩
  rw [named, referenceState, loaded, kept, Registers.cells_setReg]
  rfl

/-- A handler that stores `A` at `addr` and changes nothing else. -/
theorem refines_of_storeA
    {instruction : LoadInstruction} {addr : Address}
    {result : HandlerResult FlatMemory}
    (named :
      (referenceState regs memory).transfer instruction =
        (referenceState regs memory).store addr regs.getA)
    (kept : result.regs = regs)
    (stored : result.memory = Function.update memory addr regs.getA)
    (moved :
      result.pc = regs.pc.value + BitVec.ofNat 16 instruction.length) :
    result.Refines instruction regs memory := by
  refine ⟨?_, moved⟩
  rw [named, referenceState, kept, stored]
  rfl

theorem immediate16_eq :
    (referenceState regs memory).immediate16 =
      joinBytes (memory (regs.pc.value + 2)) (memory (regs.pc.value + 1)) :=
  word_eq _ _

theorem loadAAbsolute_refines
    (opcode :
      memory regs.pc.value = LoadInstruction.loadAAbsolute.opcode) :
    (ldAAbs regs memory regs.pc.value).Refines .loadAAbsolute regs
      memory := by
  apply refines_of_loadA regs memory rfl
  · rw [immediate16_eq]
    simp only [ldAAbs, FlatMemory.read_eq, opcode]
    rfl
  · simp only [ldAAbs, FlatMemory.read_eq, opcode]
    rfl
  · rfl

theorem storeAAbsolute_refines
    (opcode :
      memory regs.pc.value = LoadInstruction.storeAAbsolute.opcode) :
    (ldAAbs regs memory regs.pc.value).Refines .storeAAbsolute regs
      memory := by
  apply refines_of_storeA regs memory rfl
  · simp only [ldAAbs, FlatMemory.read_eq, opcode]
    rfl
  · rw [immediate16_eq]
    simp only [ldAAbs, FlatMemory.read_eq, FlatMemory.write_eq, opcode]
    rfl
  · rfl

theorem ldPair_refines (target : Pair)
    (opcode :
      memory regs.pc.value = (LoadInstruction.ldPair target).opcode) :
    (ldRpNn regs memory regs.pc.value).Refines (.ldPair target) regs
      memory := by
  have loaded :
      (ldRpNn regs memory regs.pc.value).regs =
        regs.setRegPair target (referenceState regs memory).immediate16 := by
    rw [immediate16_eq]
    simp only [ldRpNn, FlatMemory.read_eq, opcode]
    cases target <;> rfl
  refine ⟨?_, rfl⟩
  rw [referenceState, loaded, Registers.cells_setRegPair]
  rfl

theorem ldSp_refines
    (opcode : memory regs.pc.value = LoadInstruction.ldSp.opcode) :
    (ldRpNn regs memory regs.pc.value).Refines .ldSp regs memory := by
  have loaded :
      (ldRpNn regs memory regs.pc.value).regs =
        regs.setSpPair ⟨(referenceState regs memory).immediate16⟩ := by
    rw [immediate16_eq]
    simp only [ldRpNn, FlatMemory.read_eq, opcode]
    rfl
  refine ⟨?_, rfl⟩
  rw [referenceState, loaded]
  rfl

theorem storeSp_refines :
    (ldNnSp regs memory regs.pc.value).Refines .storeSp regs memory := by
  refine ⟨?_, rfl⟩
  simp only [State.transfer, State.store, immediate16_eq, upper_eq, lower_eq]
  rfl

theorem ldSpHl_refines :
    (ldSpHl regs memory regs.pc.value).Refines .ldSpHl regs memory := by
  refine ⟨?_, rfl⟩
  have hl : (referenceState regs memory).cells.getPair .hl = regs.hl.value :=
    regs.cells_getPair .hl
  simp only [State.transfer, hl]
  rfl

/-- Both pushes write the upper byte below `SP` and the lower byte under
it. -/
theorem push_eq (value : Word) :
    (referenceState regs memory).push value =
      { cells := { regs.cells with sp := regs.sp.value - 2 }
        memory :=
          Function.update
            (Function.update memory (regs.sp.value - 1) (highByte value))
            (regs.sp.value - 2) (lowByte value) } := by
  simp only [State.push, State.store, State.withCells, upper_eq, lower_eq]
  rfl

private theorem sub_one_twice (sp : Word) : sp - 1 - 1 = sp - 2 := by
  bv_omega

private theorem add_one_twice (sp : Word) : sp + 1 + 1 = sp + 2 := by
  bv_omega

/-- `PUSH` decrements `SP` before each of its two stores. -/
theorem refines_of_push
    {instruction : LoadInstruction} {value : Word}
    (named :
      (referenceState regs memory).transfer instruction =
        (referenceState regs memory).push value)
    (length : instruction.length = 1)
    (stored :
      (pushRp regs memory regs.pc.value).memory =
        Function.update
          (Function.update memory (regs.sp.value - 1) (highByte value))
          (regs.sp.value - 1 - 1) (lowByte value)) :
    (pushRp regs memory regs.pc.value).Refines instruction regs
      memory := by
  have moved :
      (pushRp regs memory regs.pc.value).regs.cells =
        { regs.cells with sp := regs.sp.value - 2 } := by
    rw [← sub_one_twice]
    rfl
  constructor
  · rw [named, push_eq, referenceState, stored, moved, sub_one_twice]
  · rw [length]
    rfl

theorem push_refines (source : Pair)
    (opcode :
      memory regs.pc.value = (LoadInstruction.push source).opcode) :
    (pushRp regs memory regs.pc.value).Refines (.push source) regs
      memory := by
  have pair :
      (referenceState regs memory).cells.getPair source =
        (regs.pair source).value :=
    regs.cells_getPair source
  refine refines_of_push regs memory rfl rfl ?_
  rw [pair]
  simp only [pushRp, FlatMemory.read_eq, FlatMemory.write_eq, opcode]
  cases source <;> rfl

theorem pushAf_refines
    (opcode : memory regs.pc.value = LoadInstruction.pushAf.opcode) :
    (pushRp regs memory regs.pc.value).Refines .pushAf regs memory := by
  have pair :
      word (referenceState regs memory).cells.a
          (referenceState regs memory).cells.f = regs.af.value :=
    regs.cells_af
  refine refines_of_push regs memory rfl rfl ?_
  rw [pair]
  simp only [pushRp, FlatMemory.read_eq, FlatMemory.write_eq, opcode]
  rfl

theorem top_eq :
    (referenceState regs memory).top =
      joinBytes (memory (regs.sp.value + 1)) (memory regs.sp.value) :=
  word_eq _ _

theorem pop_refines (target : Pair)
    (opcode :
      memory regs.pc.value = (LoadInstruction.pop target).opcode) :
    (popRp regs memory regs.pc.value).Refines (.pop target) regs
      memory := by
  have loaded :
      (popRp regs memory regs.pc.value).regs =
        (regs.setSpPair ⟨regs.sp.value + 1 + 1⟩).setRegPair target
          (referenceState regs memory).top := by
    rw [top_eq]
    simp only [popRp, FlatMemory.read_eq, opcode]
    cases target <;> rfl
  refine ⟨?_, rfl⟩
  rw [referenceState, loaded, Registers.cells_setRegPair,
    Registers.cells_setSpPair, add_one_twice]
  cases target <;> rfl

theorem popAf_refines
    (opcode : memory regs.pc.value = LoadInstruction.popAf.opcode) :
    (popRp regs memory regs.pc.value).Refines .popAf regs memory := by
  have loaded :
      (popRp regs memory regs.pc.value).regs =
        (regs.setSpPair ⟨regs.sp.value + 1 + 1⟩).setAfPair
          ⟨(referenceState regs memory).top &&& 0xFFF0⟩ := by
    rw [top_eq]
    simp only [popRp, FlatMemory.read_eq, opcode]
    rfl
  -- the handler masks the word, and `set_af` masks it again
  have maskedOnce :
      (regs.setSpPair ⟨regs.sp.value + 1 + 1⟩).setAfPair
          ⟨(referenceState regs memory).top &&& 0xFFF0⟩ =
        (regs.setSpPair ⟨regs.sp.value + 1 + 1⟩).setAfPair
          ⟨(referenceState regs memory).top⟩ := by
    simp only [Registers.setAfPair, BitVec.and_assoc, BitVec.and_self]
  refine ⟨?_, rfl⟩
  rw [referenceState, loaded, maskedOnce, Registers.cells_setAfPair,
    Registers.cells_setSpPair, add_one_twice]
  rfl

theorem highPage_eq :
    ∀ offset : Byte, State.highPage offset = ioAddress offset := by
  decide

theorem loadAHigh_refines
    (opcode : memory regs.pc.value = LoadInstruction.loadAHigh.opcode) :
    (ldIoA regs memory regs.pc.value).Refines .loadAHigh regs memory := by
  apply refines_of_loadA regs memory rfl
  · rw [highPage_eq]
    simp only [ldIoA, FlatMemory.read_eq, opcode]
    rfl
  · simp only [ldIoA, FlatMemory.read_eq, opcode]
    rfl
  · simp only [ldIoA, FlatMemory.read_eq, opcode]
    rfl

theorem storeAHigh_refines
    (opcode : memory regs.pc.value = LoadInstruction.storeAHigh.opcode) :
    (ldIoA regs memory regs.pc.value).Refines .storeAHigh regs memory := by
  apply refines_of_storeA regs memory rfl
  · simp only [ldIoA, FlatMemory.read_eq, opcode]
    rfl
  · rw [highPage_eq]
    simp only [ldIoA, FlatMemory.read_eq, FlatMemory.write_eq, opcode]
    rfl
  · simp only [ldIoA, FlatMemory.read_eq, opcode]
    rfl

theorem loadAHighC_refines
    (opcode : memory regs.pc.value = LoadInstruction.loadAHighC.opcode) :
    (ldIoA regs memory regs.pc.value).Refines .loadAHighC regs memory := by
  apply refines_of_loadA regs memory rfl
  · rw [highPage_eq]
    simp only [ldIoA, FlatMemory.read_eq, opcode]
    rfl
  · simp only [ldIoA, FlatMemory.read_eq, opcode]
    rfl
  · simp only [ldIoA, FlatMemory.read_eq, opcode]
    rfl

theorem storeAHighC_refines
    (opcode : memory regs.pc.value = LoadInstruction.storeAHighC.opcode) :
    (ldIoA regs memory regs.pc.value).Refines .storeAHighC regs memory := by
  apply refines_of_storeA regs memory rfl
  · simp only [ldIoA, FlatMemory.read_eq, opcode]
    rfl
  · rw [highPage_eq]
    simp only [ldIoA, FlatMemory.read_eq, FlatMemory.write_eq, opcode]
    rfl
  · simp only [ldIoA, FlatMemory.read_eq, opcode]
    rfl

/-- The four flag setters leave exactly the two carries in `F`. -/
theorem carryFlags_eq :
    ∀ (flags : Byte) (halfCarry carry : Bool),
      let zeroed := ((FlagRegister.mk flags).setZero false).value &&& 0xF0
      let subtracted :=
        ((FlagRegister.mk zeroed).setSubtract false).value &&& 0xF0
      let halved :=
        ((FlagRegister.mk subtracted).setHalfCarry halfCarry).value &&& 0xF0
      ((FlagRegister.mk halved).setCarry carry).value &&& 0xF0 =
        State.carryFlags halfCarry carry := by
  decide

private theorem lowBits_toNat (sp : Word) :
    (sp.setWidth 32 &&& (0x0F : BitVec 32)).toNat = sp.toNat % 16 ∧
      (sp.setWidth 32 &&& (0xFF : BitVec 32)).toNat = sp.toNat % 256 := by
  have inside := sp.isLt
  constructor
  · rw [BitVec.toNat_and, BitVec.toNat_setWidth]
    change sp.toNat % 2 ^ 32 &&& (2 ^ 4 - 1) = _
    rw [Nat.and_two_pow_sub_one_eq_mod]
    omega
  · rw [BitVec.toNat_and, BitVec.toNat_setWidth]
    change sp.toNat % 2 ^ 32 &&& (2 ^ 8 - 1) = _
    rw [Nat.and_two_pow_sub_one_eq_mod]
    omega

private theorem offsetBits_toNat :
    ∀ offset : Byte,
      (offset.signExtend 32 &&& (0x0F : BitVec 32)).toNat =
          offset.toNat % 16 ∧
        (offset.signExtend 32 &&& (0xFF : BitVec 32)).toNat =
          offset.toNat := by
  decide

theorem halfCarry_iff (sp : Word) (offset : Byte) :
    ((sp.setWidth 32 &&& (0x0F : BitVec 32)) +
        (offset.signExtend 32 &&& (0x0F : BitVec 32))).toInt > 0x0F ↔
      16 ≤ sp.toNat % 16 + offset.toNat % 16 := by
  have left := (lowBits_toNat sp).1
  have right := (offsetBits_toNat offset).1
  rw [BitVec.toInt_eq_toNat_of_lt, BitVec.toNat_add, left, right]
  · omega
  · rw [BitVec.toNat_add, left, right]
    omega

theorem carry_iff (sp : Word) (offset : Byte) :
    ((sp.setWidth 32 &&& (0xFF : BitVec 32)) +
        (offset.signExtend 32 &&& (0xFF : BitVec 32))).toInt > 0xFF ↔
      256 ≤ sp.toNat % 256 + offset.toNat := by
  have left := (lowBits_toNat sp).2
  have right := (offsetBits_toNat offset).2
  have small := offset.isLt
  rw [BitVec.toInt_eq_toNat_of_lt, BitVec.toNat_add, left, right]
  · omega
  · rw [BitVec.toNat_add, left, right]
    omega

theorem sum_eq (sp : Word) (offset : Byte) :
    (sp.setWidth 32 + offset.signExtend 32).setWidth 16 =
      sp + offset.signExtend 16 := by
  have truncated :
      ∀ offset : Byte,
        (offset.signExtend 32).setWidth 16 = offset.signExtend 16 := by
    decide
  rw [BitVec.setWidth_add _ _ (by decide), truncated,
    BitVec.setWidth_setWidth_of_le _ (by decide), BitVec.setWidth_eq]

theorem cells_setFlags (halfCarry carry : Bool) :
    ((((regs.setZeroFlag false).setSubtractFlag false).setHalfCarryFlag
        halfCarry).setCarryFlag carry).cells =
      { regs.cells with f := State.carryFlags halfCarry carry } := by
  have masked : ∀ (regs : Registers) (value : Byte),
      (regs.setF value).f = ⟨value &&& 0xF0⟩ := by
    intro regs value
    exact congrArg (fun cells => FlagRegister.mk cells.f)
      (regs.cells_setF value)
  simp only [Registers.setZeroFlag, Registers.setFlagZero,
    Registers.setSubtractFlag, Registers.setFlagSubtract,
    Registers.setHalfCarryFlag, Registers.setFlagHalfCarry,
    Registers.setCarryFlag, Registers.setFlagCarry, Registers.cells_setF,
    masked]
  exact congrArg (fun flags => { regs.cells with f := flags })
    (carryFlags_eq regs.getF halfCarry carry)

theorem ldHlSpOffset_refines :
    (ldHlSpN regs memory regs.pc.value).Refines .ldHlSpOffset regs
      memory := by
  refine ⟨?_, rfl⟩
  simp only [ldHlSpN, FlatMemory.read_eq, referenceState, cells_setFlags,
    halfCarry_iff, carry_iff, sum_eq]
  have moved :=
    regs.cells_setRegPair .hl
      (regs.sp.value + (memory (regs.pc.value + 1)).signExtend 16)
  simp only [Registers.setRegPair] at moved
  rw [moved]
  rfl

/-! ## Every handler -/

/-- The handler that runs for the opcode of an instruction carries it out. -/
theorem handler_refines (instruction : LoadInstruction)
    (opcode : memory regs.pc.value = instruction.opcode) :
    (instruction.handler.call regs memory regs.pc.value).Refines instruction
      regs memory := by
  cases instruction with
  | ldImmediate target => exact ldRN_refines regs memory target opcode
  | ldReg target source => exact ldReg_refines regs memory target source opcode
  | ldFromHl target => exact ldFromHl_refines regs memory target opcode
  | ldToHl source => exact ldToHl_refines regs memory source opcode
  | loadA pointer => exact loadA_refines regs memory pointer opcode
  | storeA pointer => exact storeA_refines regs memory pointer opcode
  | loadAAbsolute => exact loadAAbsolute_refines regs memory opcode
  | storeAAbsolute => exact storeAAbsolute_refines regs memory opcode
  | ldPair target => exact ldPair_refines regs memory target opcode
  | ldSp => exact ldSp_refines regs memory opcode
  | storeSp => exact storeSp_refines regs memory
  | ldSpHl => exact ldSpHl_refines regs memory
  | push source => exact push_refines regs memory source opcode
  | pushAf => exact pushAf_refines regs memory opcode
  | pop target => exact pop_refines regs memory target opcode
  | popAf => exact popAf_refines regs memory opcode
  | loadAHigh => exact loadAHigh_refines regs memory opcode
  | storeAHigh => exact storeAHigh_refines regs memory opcode
  | loadAHighC => exact loadAHighC_refines regs memory opcode
  | storeAHighC => exact storeAHighC_refines regs memory opcode
  | ldHlSpOffset => exact ldHlSpOffset_refines regs memory

end Handlers

end CyclePerfectGameboy
