import CyclePerfectGameboy.Cpu.InstructionStream
import CyclePerfectGameboy.Foundations.StackMachine
import CyclePerfectGameboy.Refinement.LoadGroup

/-!
# PUSH and POP are a stack

The CPU that executes pushes and pops represents a stack machine: its stack
pointer counts the height, modulo `2 ^ 16`, and the memory below the initial
stack pointer holds the values.
-/

namespace CyclePerfectGameboy

open Reference StackMachine

/-- A pair that `PUSH` and `POP` know. -/
inductive StackPair where
  | general (pair : Pair)
  | af
  deriving DecidableEq, Repr

namespace StackPair

def value (cells : Cells) : StackPair → Word
  | .general pair => cells.getPair pair
  | .af => word cells.a cells.f

theorem value_movePointers
    (pair : StackPair) (cells : Cells) (sp pc : Word) :
    pair.value { cells with sp := sp, pc := pc } = pair.value cells := by
  cases pair with
  | general pair =>
      cases pair <;> rfl
  | af =>
      rfl

/-- What a pair keeps of a popped value: the low nibble of `F` is zero. -/
def accept : StackPair → Word → Word
  | .general _, value => value
  | .af, value => value &&& 0xFFF0

end StackPair

/-- A pair of the register file of the source. -/
def Registers.stackPair (regs : Registers) : StackPair → Word
  | .general pair => (regs.pair pair).value
  | .af => regs.af.value

theorem stackPair_eq (regs : Registers) (pair : StackPair) :
    regs.stackPair pair = pair.value regs.cells := by
  cases pair with
  | general pair =>
      exact (regs.cells_getPair pair).symm
  | af =>
      exact regs.cells_af.symm

/-- The instruction of an operation of the stack machine. -/
def stackInstruction : Operation StackPair → LoadInstruction
  | .push (.general pair) => .push pair
  | .push .af => .pushAf
  | .pop (.general pair) => .pop pair
  | .pop .af => .popAf

namespace Reference.State

variable (state : State)

theorem execute_push (source : StackPair) :
    state.execute (stackInstruction (.push source)) =
      { cells :=
          { state.cells with
            sp := state.cells.sp - 2
            pc := state.cells.pc + 1 }
        memory :=
          Function.update
            (Function.update state.memory (state.cells.sp - 1)
              (upper (source.value state.cells)))
            (state.cells.sp - 2) (lower (source.value state.cells)) } := by
  cases source <;> rfl

theorem execute_pop (target : StackPair) :
    (state.execute (stackInstruction (.pop target))).memory = state.memory ∧
      (state.execute (stackInstruction (.pop target))).cells.sp =
        state.cells.sp + 2 := by
  cases target with
  | general pair =>
      cases pair <;> exact ⟨rfl, rfl⟩
  | af =>
      exact ⟨rfl, rfl⟩

theorem word_upper_lower (value : Word) :
    word (upper value) (lower value) = value := by
  rw [word_eq, upper_eq, lower_eq, joinBytes_highByte_lowByte]

/-- A pop changes its target and no other pair. -/
theorem execute_pop_pairs (target pair : StackPair) :
    pair.value
        (state.execute (stackInstruction (.pop target))).cells =
      Function.update (fun pair : StackPair => pair.value state.cells) target
        (target.accept state.top) pair := by
  have masked :
      word (upper state.top) (lower state.top &&& 0xF0) =
        state.top &&& 0xFFF0 := by
    rw [word_eq, upper_eq, lower_eq, and_flagMask]
  by_cases same : pair = target
  · subst same
    rw [Function.update_self]
    cases pair with
    | general pair =>
        cases pair <;> exact word_upper_lower state.top
    | af =>
        exact masked
  · rw [Function.update_of_ne same]
    cases target with
    | general target =>
        cases pair with
        | general pair =>
            cases target <;> cases pair <;>
              first
                | rfl
                | exact absurd rfl same
        | af =>
            cases target <;> rfl
    | af =>
        cases pair with
        | general pair =>
            cases pair <;> rfl
        | af =>
            exact absurd rfl same

end Reference.State

/-- The stack area: the bytes below the initial stack pointer that a stack of
some depth takes, modulo `2 ^ 16`. -/
def InStackArea (base : Word) (depth : Nat) (addr : Address) : Prop :=
  ∃ k, 0 < k ∧ k ≤ 2 * depth ∧ addr = base - BitVec.ofNat 16 k

/-- The memory holds a stack, top first, below `base`. -/
def HoldsStack (base : Word) (memory : FlatMemory) : List Word → Prop
  | [] => True
  | value :: rest =>
      memory (base - BitVec.ofNat 16 (2 * rest.length + 1)) = upper value ∧
        memory (base - BitVec.ofNat 16 (2 * rest.length + 2)) =
          lower value ∧
        HoldsStack base memory rest

theorem stackAddress_injective
    {base : Word} {j k : Nat} (jSmall : j < 2 ^ 16) (kSmall : k < 2 ^ 16)
    (same : base - BitVec.ofNat 16 j = base - BitVec.ofNat 16 k) :
    j = k := by
  bv_omega

/-- A byte outside the area leaves room for the stack. -/
theorem depth_lt_of_outside
    {base : Word} {depth : Nat} {addr : Address}
    (outside : ¬ InStackArea base depth addr) :
    2 * depth < 2 ^ 16 := by
  by_contra deep
  apply outside
  by_cases atBase : addr = base
  · refine ⟨2 ^ 16, by omega, by omega, ?_⟩
    rw [atBase]
    bv_omega
  · refine ⟨(base - addr).toNat, ?_, ?_, ?_⟩
    · bv_omega
    · have small := (base - addr).isLt
      omega
    · bv_omega

/-- A store beyond the top keeps the stack. -/
theorem HoldsStack.update
    {base : Word} {memory : FlatMemory} {stack : List Word}
    (holds : HoldsStack base memory stack) {k : Nat}
    (beyond : 2 * stack.length < k) (small : k < 2 ^ 16) (byte : Byte) :
    HoldsStack base (Function.update memory (base - BitVec.ofNat 16 k) byte)
      stack := by
  induction stack with
  | nil =>
      exact trivial
  | cons value rest inductionHypothesis =>
      rw [List.length_cons] at beyond
      rcases holds with ⟨high, low, holds⟩
      refine ⟨?_, ?_, inductionHypothesis holds (by omega)⟩
      · rw [Function.update_of_ne, high]
        intro same
        have equal :=
          stackAddress_injective (by omega) small same
        omega
      · rw [Function.update_of_ne, low]
        intro same
        have equal :=
          stackAddress_injective (by omega) small same
        omega

/-- The state represents a configuration of the stack machine, and the memory
outside the stack area is the original one. -/
structure Represents (base : Word) (depth : Nat) (original : FlatMemory)
    (config : Config StackPair Word) (state : State) : Prop where
  registers :
    ∀ pair : StackPair, pair.value state.cells = config.registers pair
  pointer :
    state.cells.sp = base - BitVec.ofNat 16 (2 * config.stack.length)
  stack : HoldsStack base state.memory config.stack
  outside :
    ∀ addr, ¬ InStackArea base depth addr →
      state.memory addr = original addr

section Steps

variable {base : Word} {depth : Nat} {original : FlatMemory}
variable {config : Config StackPair Word} {state : State}

theorem represents_push
    (represents : Represents base depth original config state)
    (small : 2 * depth < 2 ^ 16) (room : config.stack.length < depth)
    (source : StackPair) :
    Represents base depth original
      (step StackPair.accept config (.push source))
      (state.execute (stackInstruction (.push source))) := by
  have upperAddr :
      state.cells.sp - 1 =
        base - BitVec.ofNat 16 (2 * config.stack.length + 1) := by
    rw [represents.pointer]
    bv_omega
  have lowerAddr :
      state.cells.sp - 2 =
        base - BitVec.ofNat 16 (2 * config.stack.length + 2) := by
    rw [represents.pointer]
    bv_omega
  rw [State.execute_push, upperAddr, lowerAddr,
    represents.registers source]
  refine
    { registers := ?_
      pointer := rfl
      stack := ?_
      outside := ?_ }
  · intro pair
    have kept := pair.value_movePointers state.cells
    exact (kept _ _).trans (represents.registers pair)
  · refine ⟨?_, Function.update_self _ _ _, ?_⟩
    · change Function.update (Function.update _ _ _) _ _ _ = _
      rw [Function.update_of_ne, Function.update_self]
      intro same
      have equal :=
        stackAddress_injective (by omega) (by omega) same
      omega
    · exact
        (represents.stack.update (by omega) (by omega) _).update
          (by omega) (by omega) _
  · intro addr apart
    change Function.update (Function.update _ _ _) _ _ addr = _
    rw [Function.update_of_ne, Function.update_of_ne]
    · exact represents.outside addr apart
    · rintro rfl
      exact apart ⟨_, by omega, by omega, rfl⟩
    · rintro rfl
      exact apart ⟨_, by omega, by omega, rfl⟩

theorem represents_pop
    (represents : Represents base depth original config state)
    {value : Word} {rest : List Word}
    (top : config.stack = value :: rest) (target : StackPair) :
    Represents base depth original
      (step StackPair.accept config (.pop target))
      (state.execute (stackInstruction (.pop target))) := by
  have holds := represents.stack
  have pointer := represents.pointer
  rw [top] at holds pointer
  rcases holds with ⟨high, low, holds⟩
  rcases state.execute_pop target with ⟨memory, moved⟩
  have popped : state.top = value := by
    have next :
        state.cells.sp + 1 =
          base - BitVec.ofNat 16 (2 * rest.length + 1) := by
      rw [pointer, List.length_cons]
      bv_omega
    have here :
        state.cells.sp =
          base - BitVec.ofNat 16 (2 * rest.length + 2) := by
      rw [pointer, List.length_cons, Nat.mul_succ]
    rw [State.top, next, here, high, low, State.word_upper_lower]
  rw [step_pop top]
  refine
    { registers := ?_
      pointer := ?_
      stack := ?_
      outside := ?_ }
  · intro pair
    have pairs :
        (fun pair : StackPair => pair.value state.cells) =
          config.registers :=
      funext represents.registers
    rw [State.execute_pop_pairs, popped, pairs]
  · rw [moved, pointer, List.length_cons]
    bv_omega
  · rw [memory]
    exact holds
  · rw [memory]
    exact represents.outside

/-- One operation that fits is simulated by one instruction. -/
theorem represents_step
    (represents : Represents base depth original config state)
    (small : 2 * depth < 2 ^ 16) {operation : Operation StackPair}
    {rest : List (Operation StackPair)}
    (fits : Fits depth config.stack.length (operation :: rest)) :
    Represents base depth original
        (step StackPair.accept config operation)
        (state.execute (stackInstruction operation)) ∧
      Fits depth (step StackPair.accept config operation).stack.length
        rest := by
  cases operation with
  | push source =>
      rcases fits with ⟨room, fits⟩
      exact ⟨represents_push represents small room source, fits⟩
  | pop target =>
      cases top : config.stack with
      | nil =>
          rw [top] at fits
          exact False.elim fits
      | cons value below =>
          rw [top] at fits
          refine ⟨represents_pop represents top target, ?_⟩
          rw [step_pop top]
          exact fits

end Steps

/-! ## Runs of the CPU -/

/-- The operations are laid out in memory from `pc`. -/
def LaidOut (memory : FlatMemory) (pc : Address)
    (operations : List (Operation StackPair)) : Prop :=
  ∀ i operation, operations[i]? = some operation →
    memory (pc + BitVec.ofNat 16 i) = (stackInstruction operation).opcode

/-- No operation laid out from `pc` lies in the stack area. -/
def CodeApart (base : Word) (depth : Nat) (pc : Address)
    (operations : List (Operation StackPair)) : Prop :=
  ∀ i < operations.length,
    ¬ InStackArea base depth (pc + BitVec.ofNat 16 i)

section Layout

variable {base : Word} {depth : Nat} {original : FlatMemory} {pc : Address}
variable {operation : Operation StackPair}
variable {rest operations : List (Operation StackPair)}

private theorem add_ofNat_succ (pc : Address) (i : Nat) :
    pc + 1 + BitVec.ofNat 16 i = pc + BitVec.ofNat 16 (i + 1) := by
  bv_omega

theorem LaidOut.tail
    (code : LaidOut original pc (operation :: rest)) :
    LaidOut original (pc + 1) rest := by
  intro i later found
  rw [add_ofNat_succ]
  exact code (i + 1) later found

theorem CodeApart.tail
    (apart : CodeApart base depth pc (operation :: rest)) :
    CodeApart base depth (pc + 1) rest := by
  intro i inside
  rw [add_ofNat_succ]
  exact apart (i + 1) (Nat.succ_lt_succ inside)

theorem LaidOut.of_prefix
    {earlier : List (Operation StackPair)}
    (code : LaidOut original pc operations)
    (called : earlier <+: operations) :
    LaidOut original pc earlier := by
  rcases called with ⟨later, rfl⟩
  intro i operation found
  apply code i operation
  rcases List.getElem?_eq_some_iff.mp found with ⟨inside, _⟩
  rw [List.getElem?_append_left inside, found]

theorem CodeApart.of_prefix
    {earlier : List (Operation StackPair)}
    (apart : CodeApart base depth pc operations)
    (called : earlier <+: operations) :
    CodeApart base depth pc earlier := by
  intro i inside
  exact apart i (Nat.lt_of_lt_of_le inside called.length_le)

end Layout

namespace CPU

/-- The CPU that executes operations laid out in memory simulates the stack
machine. -/
theorem represents_run
    {base : Word} {depth : Nat} {original : FlatMemory}
    {operations : List (Operation StackPair)}
    {config : Config StackPair Word} {cpu : CPU} {memory : FlatMemory}
    (represents :
      Represents base depth original config
        (referenceState cpu.registers memory))
    (awake : cpu.running) (disabled : cpu.ime = false)
    (code : LaidOut original cpu.registers.pc.value operations)
    (apart : CodeApart base depth cpu.registers.pc.value operations)
    (fits : Fits depth config.stack.length operations) :
    let machine := machineAt (cpu, memory) operations.length
    Represents base depth original
      (StackMachine.run StackPair.accept config operations)
      (referenceState machine.1.registers machine.2) := by
  induction operations generalizing config cpu memory with
  | nil =>
      exact represents
  | cons operation rest inductionHypothesis =>
      have outside := apart 0 (Nat.succ_pos _)
      have small := depth_lt_of_outside outside
      have atPc :
          cpu.registers.pc.value + BitVec.ofNat 16 0 =
            cpu.registers.pc.value :=
        BitVec.add_zero _
      have fetched :
          memory cpu.registers.pc.value =
            (stackInstruction operation).opcode := by
        have kept := represents.outside _ outside
        have placed := code 0 operation rfl
        rw [atPc] at kept placed
        exact kept.trans placed
      rcases executeInstruction_of_load awake disabled fetched with
        ⟨executed, stillDisabled, stillAwake⟩
      rcases represents_step represents small fits with
        ⟨next, restFits⟩
      have moved :
          (cpu.executeInstruction memory).cpu.registers.pc.value =
            cpu.registers.pc.value + 1 := by
        have pc := congrArg (fun state : State => state.cells.pc) executed
        cases operation with
        | push source =>
            cases source <;> exact pc
        | pop target =>
            cases target <;> exact pc
      have nextCode := code.tail
      have nextApart := apart.tail
      rw [← executed] at next
      rw [← moved] at nextCode nextApart
      exact
        inductionHypothesis next stillAwake stillDisabled nextCode nextApart
          restFits

/-- What a sequence of pushes and pops should do when it is executed. -/
structure ActsAsStack (cpu : CPU) (memory : FlatMemory)
    (operations : List (Operation StackPair)) : Prop where
  /-- Every pop has a matching push. -/
  matched :
    ∀ earlier target later,
      operations = earlier ++ .pop target :: later →
        ∃ before source inner,
          earlier = before ++ .push source :: inner ∧ WellNested inner
  /-- A pop loads what its matching push stored. -/
  loads :
    ∀ before source inner target later,
      operations =
          before ++ .push source :: (inner ++ .pop target :: later) →
        WellNested inner →
          (machineAt (cpu, memory)
              (before.length + (inner.length + 2))).1.registers.stackPair
              target =
            target.accept
              ((machineAt (cpu, memory)
                before.length).1.registers.stackPair source)
  pointer :
    (machineAt (cpu, memory) operations.length).1.registers.sp.value =
      cpu.registers.sp.value
  outside :
    ∀ addr,
      ¬ InStackArea cpu.registers.sp.value (deepest 0 operations) addr →
        (machineAt (cpu, memory) operations.length).2 addr = memory addr

/-- Well-nested pushes and pops, laid out apart from the stack area, act as a
stack. -/
theorem wellNested_acts_as_stack
    (cpu : CPU) (memory : FlatMemory)
    (operations : List (Operation StackPair))
    (nested : WellNested operations)
    (awake : cpu.running) (disabled : cpu.ime = false)
    (code : LaidOut memory cpu.registers.pc.value operations)
    (apart :
      CodeApart cpu.registers.sp.value (deepest 0 operations)
        cpu.registers.pc.value operations) :
    ActsAsStack cpu memory operations := by
  let start : Config StackPair Word :=
    { registers := cpu.registers.stackPair, stack := [] }
  have represented :
      Represents cpu.registers.sp.value (deepest 0 operations) memory start
        (referenceState cpu.registers memory) :=
    { registers := fun pair => (stackPair_eq cpu.registers pair).symm
      pointer := (BitVec.sub_zero _).symm
      stack := trivial
      outside := fun _ _ => rfl }
  have simulated :
      ∀ earlier, earlier <+: operations →
        Represents cpu.registers.sp.value (deepest 0 operations) memory
          (StackMachine.run StackPair.accept start earlier)
          (referenceState
            (machineAt (cpu, memory) earlier.length).1.registers
            (machineAt (cpu, memory) earlier.length).2) := by
    intro earlier called
    exact
      represents_run represented awake disabled (code.of_prefix called)
        (apart.of_prefix called) (nested.fits.of_prefix called)
  have loaded :
      ∀ earlier, earlier <+: operations → ∀ pair : StackPair,
        (machineAt (cpu, memory) earlier.length).1.registers.stackPair
            pair =
          (StackMachine.run StackPair.accept start earlier).registers
            pair := by
    intro earlier called pair
    rw [stackPair_eq]
    exact (simulated earlier called).registers pair
  have finished := simulated operations List.prefix_rfl
  refine
    { matched := fun earlier target later shape => nested.exists_push shape
      loads := ?_
      pointer := ?_
      outside := finished.outside }
  · intro before source inner target later shape innerNested
    have opened : before <+: operations := ⟨_, shape.symm⟩
    have closed :
        before ++ .push source :: (inner ++ [.pop target]) <+:
          operations := by
      refine ⟨later, ?_⟩
      rw [shape]
      simp only [List.append_assoc, List.cons_append, List.nil_append]
    have length :
        (before ++ Operation.push source ::
            (inner ++ [Operation.pop target])).length =
          before.length + (inner.length + 2) := by
      simp only [List.length_append, List.length_cons, List.length_nil]
    have popped := loaded _ closed target
    rw [length, StackMachine.run_append, innerNested.run_pop,
      ← loaded before opened source] at popped
    exact popped
  · have empty :
        (StackMachine.run StackPair.accept start operations).stack = [] :=
      nested.run_stack StackPair.accept start
    have pointer := finished.pointer
    rw [empty] at pointer
    exact pointer.trans (BitVec.sub_zero _)

/-- `PUSH BC`, `PUSH AF`, `POP DE` and `POP AF` with a stack that wraps below
`0x0000`: the inner pair moves `AF` to `DE`, the outer one `BC` to `AF`. -/
theorem nested_pushes_move_pairs :
    let cpu : CPU :=
      { registers :=
          { af := ⟨0x12F0⟩, bc := ⟨0x34AB⟩, sp := ⟨0x0001⟩, pc := ⟨0x0100⟩ } }
    let memory : FlatMemory := fun addr =>
      match addr with
      | 0x0100 => 0xC5
      | 0x0101 => 0xF5
      | 0x0102 => 0xD1
      | 0x0103 => 0xF1
      | _ => 0
    (machineAt (cpu, memory) 3).1.registers.de.value = 0x12F0 ∧
      (machineAt (cpu, memory) 4).1.registers.af.value = 0x34A0 ∧
      (machineAt (cpu, memory) 4).1.registers.sp.value = 0x0001 := by
  intro cpu memory
  let operations : List (Operation StackPair) :=
    [.push (.general .bc), .push .af, .pop (.general .de), .pop .af]
  have inner :
      WellNested
        [Operation.push StackPair.af, .pop (StackPair.general .de)] :=
    WellNested.nest StackPair.af (StackPair.general .de) WellNested.nil
      WellNested.nil
  have nested : WellNested operations :=
    WellNested.nest (StackPair.general .bc) StackPair.af inner WellNested.nil
  have code : LaidOut memory cpu.registers.pc.value operations := by
    intro i operation found
    match i with
    | 0 | 1 | 2 | 3 =>
        cases found
        rfl
  have apart :
      CodeApart cpu.registers.sp.value (deepest 0 operations)
        cpu.registers.pc.value operations := by
    rintro i inside ⟨k, positive, bounded, same⟩
    have four : i < 4 := inside
    have depth : k ≤ 4 := bounded
    change 0x0100#16 + BitVec.ofNat 16 i =
      0x0001#16 - BitVec.ofNat 16 k at same
    bv_omega
  have acts :=
    wellNested_acts_as_stack cpu memory operations nested ⟨rfl, rfl⟩ rfl
      code apart
  have inwards :=
    acts.loads [.push (.general .bc)] .af [] (.general .de) [.pop .af] rfl
      WellNested.nil
  have outwards :=
    acts.loads [] (.general .bc) [.push .af, .pop (.general .de)] .af [] rfl
      inner
  have kept :
      (machineAt (cpu, memory) 1).1.registers.stackPair .af = 0x12F0 := by
    decide
  have masked :
      StackPair.accept .af (cpu.registers.stackPair (.general .bc)) =
        0x34A0 := by
    decide
  have shownDe (regs : Registers) :
      regs.de.value = regs.stackPair (.general .de) := rfl
  have shownAf (regs : Registers) :
      regs.af.value = regs.stackPair .af := rfl
  rw [shownDe, shownAf]
  exact ⟨inwards.trans kept, outwards.trans masked, acts.pointer⟩

end CPU

end CyclePerfectGameboy
