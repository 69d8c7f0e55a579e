import CyclePerfectGameboy.Refinement.Stack
import CyclePerfectGameboy.System.LoadPrograms

/-!
# An unrolled block copy

`LD A,(HL+)` and `LD (nn),A`, once for each byte, is all that the implemented
instructions offer for copying a block.  The copy is verified with the rules
for programs and run through `run`.
-/

namespace CyclePerfectGameboy

open BudgetLoop ProgramLogic Reference

/-- The bytes at consecutive addresses from `base`, which wrap. -/
def Holds (memory : FlatMemory) (base : Address) (bytes : List Byte) :
    Prop :=
  ∀ offset < bytes.length,
    bytes[offset]? = some (memory (base + BitVec.ofNat 16 offset))

theorem Holds.left
    {memory : FlatMemory} {base : Address} {first second : List Byte}
    (holds : Holds memory base (first ++ second)) :
    Holds memory base first := by
  intro offset inside
  have here := holds offset (by rw [List.length_append]; omega)
  rwa [List.getElem?_append_left inside] at here

theorem Holds.right
    {memory : FlatMemory} {base : Address} {first second : List Byte}
    (holds : Holds memory base (first ++ second)) :
    Holds memory (base + BitVec.ofNat 16 first.length) second := by
  intro offset inside
  have here :=
    holds (first.length + offset) (by rw [List.length_append]; omega)
  rw [List.getElem?_append_right (Nat.le_add_right _ _),
    Nat.add_sub_cancel_left, BitVec.ofNat_add, ← BitVec.add_assoc] at here
  exact here

/-- `LD A,(HL+)` and `LD (target + index),A`. -/
def copyBlock (target : Address) (index : Nat) : List Byte :=
  [0x2A, 0xEA, lower (target + BitVec.ofNat 16 index),
    upper (target + BitVec.ofNat 16 index)]

def copyCode (target : Address) (count : Nat) : List Byte :=
  (List.range count).flatMap (copyBlock target)

theorem copyCode_succ (target : Address) (count : Nat) :
    copyCode target (count + 1) =
      copyCode target count ++ copyBlock target count := by
  rw [copyCode, List.range_succ, List.flatMap_append, List.flatMap_singleton]
  rfl

theorem copyCode_length (target : Address) (count : Nat) :
    (copyCode target count).length = 4 * count := by
  induction count with
  | zero =>
      rfl
  | succ count inductionHypothesis =>
      rw [copyCode_succ, List.length_append, inductionHypothesis]
      rfl

theorem Holds.block
    {memory : FlatMemory} {base target : Address} {count : Nat}
    (holds : Holds memory base (copyCode target count))
    {index : Nat} (before : index < count) :
    Holds memory (base + BitVec.ofNat 16 (4 * index))
      (copyBlock target index) := by
  induction count with
  | zero =>
      exact absurd before (Nat.not_lt_zero index)
  | succ count inductionHypothesis =>
      rw [copyCode_succ] at holds
      rcases Nat.lt_succ_iff_lt_or_eq.mp before with earlier | rfl
      · exact inductionHypothesis holds.left earlier
      · have last := holds.right
        rwa [copyCode_length] at last

/-! ## The states between the blocks -/

/-- The code of a copy is in place, and the bytes that it stores overwrite
neither the code nor a source byte that is still to be read. -/
structure CopyReady (start : State) (target : Address) (count : Nat) :
    Prop where
  code : Holds start.memory start.cells.pc (copyCode target count)
  sparesCode :
    ∀ index < count, ∀ offset < 4 * count,
      start.cells.pc + BitVec.ofNat 16 offset ≠
        target + BitVec.ofNat 16 index
  sparesSource :
    ∀ later < count, ∀ earlier < later,
      start.cells.getPair .hl + BitVec.ofNat 16 later ≠
        target + BitVec.ofNat 16 earlier

/-- The state after `index` blocks. -/
def copied (start : State) (target : Address) (index : Nat) : State :=
  let source := start.cells.getPair .hl
  { cells :=
      { start.cells.setPair .hl (source + BitVec.ofNat 16 index) with
        a :=
          if index = 0 then start.cells.a
          else start.memory (source + BitVec.ofNat 16 (index - 1))
        pc := start.cells.pc + BitVec.ofNat 16 (4 * index) }
    memory := fun addr =>
      if (addr - target).toNat < index then
        start.memory (source + (addr - target))
      else start.memory addr }

section Copied

variable {start : State} {target addr : Address} {index count : Nat}

theorem le_sub_of_spared
    (spared : ∀ earlier < index, addr ≠ target + BitVec.ofNat 16 earlier) :
    index ≤ (addr - target).toNat := by
  by_contra inside
  refine spared (addr - target).toNat (Nat.lt_of_not_le inside) ?_
  rw [BitVec.ofNat_toNat, BitVec.setWidth_eq]
  bv_omega

theorem copied_memory_spared
    (spared : ∀ earlier < index, addr ≠ target + BitVec.ofNat 16 earlier) :
    (copied start target index).memory addr = start.memory addr :=
  if_neg (Nat.not_lt_of_le (le_sub_of_spared spared))

theorem copied_memory_stored
    (stored : index < count) (small : index < 2 ^ 16) :
    (copied start target count).memory (target + BitVec.ofNat 16 index) =
      start.memory
        (start.cells.getPair .hl + BitVec.ofNat 16 index) := by
  have offset :
      target + BitVec.ofNat 16 index - target = BitVec.ofNat 16 index := by
    bv_omega
  have inside : (BitVec.ofNat 16 index).toNat < count := by
    rwa [BitVec.toNat_ofNat, Nat.mod_eq_of_lt small]
  simp only [copied, offset, if_pos inside]

theorem copied_zero : copied start target 0 = start := by
  have same :
      start.cells.setPair .hl (start.cells.getPair .hl) = start.cells := by
    simp [Cells.setPair, Cells.getPair, upper_eq, lower_eq, word_eq]
  simp only [copied, Nat.mul_zero, BitVec.add_zero, if_true, Nat.not_lt_zero,
    if_false, same]

namespace CopyReady

variable (ready : CopyReady start target count)

include ready

/-- The stored bytes do not fill the address space. -/
theorem count_lt : count < 2 ^ 16 := by
  by_contra large
  have inside := (start.cells.pc - target).isLt
  refine
    ready.sparesCode (start.cells.pc - target).toNat (by omega) 0 (by omega)
      ?_
  rw [BitVec.ofNat_toNat, BitVec.setWidth_eq, BitVec.add_zero]
  bv_omega

/-- The code of the next block is still there. -/
theorem fetch
    (before : index < count) {offset : Nat} (inside : offset < 4) :
    (copyBlock target index)[offset]? =
      some ((copied start target index).memory
        ((copied start target index).cells.pc +
          BitVec.ofNat 16 offset)) := by
  have here := ready.code.block before offset inside
  have moved :
      (copied start target index).cells.pc + BitVec.ofNat 16 offset =
        start.cells.pc + BitVec.ofNat 16 (4 * index + offset) := by
    rw [BitVec.ofNat_add, ← BitVec.add_assoc]
    rfl
  rw [here, moved, copied_memory_spared, BitVec.ofNat_add,
    ← BitVec.add_assoc]
  intro earlier order
  exact
    ready.sparesCode earlier (Nat.lt_trans order before) (4 * index + offset)
      (by omega)

/-- The next byte to be read is still the original one. -/
theorem read_next (before : index < count) :
    (copied start target index).memory
        (start.cells.getPair .hl + BitVec.ofNat 16 index) =
      start.memory (start.cells.getPair .hl + BitVec.ofNat 16 index) :=
  copied_memory_spared (ready.sparesSource index before)

/-- `LD A,(HL+)` reads the next byte. -/
theorem load_next (before : index < count) :
    (copied start target index).execute (.loadA .hlIncrement) =
      { cells :=
          { (copied start target (index + 1)).cells with
            pc := (copied start target index).cells.pc + 1 }
        memory := (copied start target index).memory } := by
  have source :
      (copied start target index).cells.getPair .hl =
        start.cells.getPair .hl + BitVec.ofNat 16 index :=
    State.word_upper_lower _
  have here := ready.read_next before
  have next :
      start.cells.getPair .hl + BitVec.ofNat 16 index + 1 =
        start.cells.getPair .hl + BitVec.ofNat 16 (index + 1) := by
    rw [BitVec.ofNat_add, BitVec.add_assoc]
    rfl
  change
    ({ cells :=
        { ((copied start target index).cells.set .a
              ((copied start target index).memory
                ((copied start target index).cells.getPair .hl))).setPair .hl
            ((copied start target index).cells.getPair .hl + 1) with
          pc := (copied start target index).cells.pc + 1 }
       memory := (copied start target index).memory } : State) = _
  rw [source, here, next]
  simp [copied, Cells.setPair, Cells.set]

/-- Storing the byte makes the memory of the next state. -/
theorem memory_next (before : index < count) :
    Function.update (copied start target index).memory
        (target + BitVec.ofNat 16 index)
        (start.memory (start.cells.getPair .hl + BitVec.ofNat 16 index)) =
      (copied start target (index + 1)).memory := by
  have small : index < 2 ^ 16 := Nat.lt_trans before ready.count_lt
  funext addr
  by_cases stored : addr = target + BitVec.ofNat 16 index
  · subst stored
    rw [Function.update_self,
      copied_memory_stored (Nat.lt_succ_self index) small]
  · have different : (addr - target).toNat ≠ index := by
      intro same
      refine stored ?_
      rw [← same, BitVec.ofNat_toNat, BitVec.setWidth_eq]
      bv_omega
    rw [Function.update_of_ne stored]
    by_cases inside : (addr - target).toNat < index
    · simp only [copied, if_pos inside, if_pos (Nat.lt_succ_of_lt inside)]
    · have beyond : ¬ (addr - target).toNat < index + 1 := by omega
      simp only [copied, if_neg inside, if_neg beyond]

/-- The operand of the store is still there after the load. -/
theorem operand_next (before : index < count) :
    ((copied start target index).execute
        (.loadA .hlIncrement)).immediate16 =
      target + BitVec.ofNat 16 index := by
  have low := ready.fetch before (show 2 < 4 by decide)
  have high := ready.fetch before (show 3 < 4 by decide)
  have second :
      (copied start target index).cells.pc + 1 + 1 =
        (copied start target index).cells.pc + BitVec.ofNat 16 2 :=
    BitVec.add_assoc _ 1 1
  have third :
      (copied start target index).cells.pc + 1 + 2 =
        (copied start target index).cells.pc + BitVec.ofNat 16 3 :=
    BitVec.add_assoc _ 1 2
  rw [ready.load_next before]
  change
    word
        ((copied start target index).memory
          ((copied start target index).cells.pc + 1 + 2))
        ((copied start target index).memory
          ((copied start target index).cells.pc + 1 + 1)) = _
  rw [second, third, ← Option.some.inj low, ← Option.some.inj high]
  exact State.word_upper_lower _

/-- `LD (nn),A` stores it. -/
theorem store_next (before : index < count) :
    ((copied start target index).execute (.loadA .hlIncrement)).execute
        .storeAAbsolute =
      copied start target (index + 1) := by
  have destination := ready.operand_next before
  have past :
      (copied start target index).cells.pc + 1 + BitVec.ofNat 16 3 =
        (copied start target (index + 1)).cells.pc := by
    simp only [copied]
    bv_omega
  rw [ready.load_next before] at destination ⊢
  let loaded : State :=
    { cells :=
        { (copied start target (index + 1)).cells with
          pc := (copied start target index).cells.pc + 1 }
      memory := (copied start target index).memory }
  change
    ({ cells :=
        { loaded.cells with pc := loaded.cells.pc + BitVec.ofNat 16 3 }
       memory :=
        Function.update loaded.memory loaded.immediate16 loaded.cells.a } :
      State) = _
  rw [destination]
  change
    ({ cells :=
        { (copied start target (index + 1)).cells with
          pc :=
            (copied start target index).cells.pc + 1 + BitVec.ofNat 16 3 }
       memory :=
        Function.update (copied start target index).memory
          (target + BitVec.ofNat 16 index)
          (start.memory
            (start.cells.getPair .hl + BitVec.ofNat 16 index)) } :
      State) = _
  rw [past, ready.memory_next before]

/-- The rule for one block. -/
theorem block_triple (before : index < count) :
    Triple CPU.runBody (CPU.Shows (copied start target index)) 2 24
      (CPU.Shows (copied start target (index + 1))) := by
  have opcode := ready.fetch before (show 0 < 4 by decide)
  have storeOpcode := ready.fetch before (show 1 < 4 by decide)
  rw [BitVec.add_zero] at opcode
  have load :=
    CPU.load_triple (copied start target index) (.loadA .hlIncrement)
      (Option.some.inj opcode).symm
  have store :=
    CPU.load_triple
      ((copied start target index).execute (.loadA .hlIncrement))
      .storeAAbsolute
      (by
        rw [ready.load_next before]
        exact (Option.some.inj storeOpcode).symm)
  rw [ready.store_next before] at store
  exact load.sequence store

theorem copy_triple :
    Triple CPU.runBody (CPU.Shows start) (2 * count) (24 * count)
      (CPU.Shows (copied start target count)) := by
  have unrolled :=
    Triple.unroll (fun index => CPU.Shows (copied start target index))
      (fun index before => ready.block_triple before)
  simp only [copied_zero] at unrolled
  exact unrolled

end CopyReady

end Copied

namespace CPU

/-- A copy of any length through `run` of a CPU that is awake and has the
master flag off: with 24 cycles for each byte it makes two passes for each,
the target holds what the source held, and besides `A`, `HL` and `PC` nothing
else has changed. -/
theorem run_copies_block
    {cpu : CPU} {memory : FlatMemory}
    (awake : cpu.running) (disabled : cpu.ime = false)
    {target : Address} {count : Nat}
    (ready : CopyReady (referenceState cpu.registers memory) target count) :
    let source := cpu.registers.hl.value
    ∃ final : CPU × FlatMemory,
      (∀ fuel,
        run fuel (BitVec.ofNat 32 (24 * count)) (cpu, memory) =
          if 2 * count ≤ fuel then some final else none) ∧
        (∀ index < count,
          final.2 (target + BitVec.ofNat 16 index) =
            memory (source + BitVec.ofNat 16 index)) ∧
        (∀ addr,
          (∀ index < count, addr ≠ target + BitVec.ofNat 16 index) →
            final.2 addr = memory addr) ∧
        final.1.registers.hl.value = source + BitVec.ofNat 16 count ∧
        final.1.registers.pc.value =
          cpu.registers.pc.value + BitVec.ofNat 16 (4 * count) ∧
        final.1.registers.bc.value = cpu.registers.bc.value ∧
        final.1.registers.de.value = cpu.registers.de.value ∧
        final.1.registers.sp.value = cpu.registers.sp.value ∧
        final.1.registers.getF = cpu.registers.getF := by
  intro source
  have small := ready.count_lt
  have budget : (BitVec.ofNat 32 (24 * count)).toNat = 24 * count := by
    rw [BitVec.toNat_ofNat]
    exact Nat.mod_eq_of_lt (by omega)
  have triple := ready.copy_triple
  rw [← budget] at triple
  have runs :=
    triple.loop_returns runBody_counts.positive
      (shows_referenceState memory awake disabled)
  obtain ⟨final, returned, _, _, state⟩ :=
    (runs (2 * count)).1 (Nat.le_refl _)
  have pair :
      ∀ pair,
        (referenceState cpu.registers memory).cells.getPair pair =
          (cpu.registers.pair pair).value :=
    cpu.registers.cells_getPair
  have hl :
      (referenceState cpu.registers memory).cells.getPair .hl = source :=
    pair .hl
  have cells : final.1.registers.cells = _ := congrArg State.cells state
  have contents : final.2 = _ := congrArg State.memory state
  have pairs :
      ∀ pair, (final.1.registers.pair pair).value = _ :=
    fun pair => by rw [← final.1.registers.cells_getPair pair, cells]
  refine ⟨final, ?_, ?_, ?_, ?_, ?_, ?_, ?_, ?_, ?_⟩
  · intro fuel
    by_cases enough : 2 * count ≤ fuel
    · rw [if_pos enough]
      exact loop_fuel_mono runBody enough returned
    · rw [if_neg enough]
      exact (runs fuel).2 (Nat.lt_of_not_le enough)
  · intro index stored
    rw [contents, copied_memory_stored stored (Nat.lt_trans stored small), hl]
    rfl
  · intro addr spared
    rw [contents]
    exact copied_memory_spared spared
  · rw [← hl]
    exact (pairs .hl).trans (State.word_upper_lower _)
  · exact congrArg Cells.pc cells
  · exact (pairs .bc).trans (pair .bc)
  · exact (pairs .de).trans (pair .de)
  · exact congrArg Cells.sp cells
  · exact congrArg Cells.f cells

/-- Two bytes that move down by one; the ranges overlap. -/
theorem run_copies_overlapping_block :
    let cpu : CPU := { registers := { hl := ⟨0xC001⟩ } }
    let memory : FlatMemory := fun addr =>
      (copyCode 0xC000 2).getD addr.toNat (lowByte addr)
    ∃ final : CPU × FlatMemory,
      run 4 48 (cpu, memory) = some final ∧
        final.2 0xC000 = 0x01 ∧ final.2 0xC001 = 0x02 := by
  intro cpu memory
  have ready : CopyReady (referenceState cpu.registers memory) 0xC000 2 := by
    refine ⟨?_, ?_, ?_⟩
    · change ∀ offset < (copyCode 0xC000 2).length, _ = _
      decide
    · decide
    · decide
  obtain ⟨final, returned, stored, _⟩ :=
    run_copies_block ⟨rfl, rfl⟩ rfl ready
  refine ⟨final, returned 4, ?_, ?_⟩
  · exact (stored 0 (by decide)).trans (by decide)
  · exact (stored 1 (by decide)).trans (by decide)

end CPU

end CyclePerfectGameboy
