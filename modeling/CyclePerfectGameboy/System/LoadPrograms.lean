import CyclePerfectGameboy.Foundations.ProgramLogic
import CyclePerfectGameboy.Refinement.BusTiming
import CyclePerfectGameboy.System.SlicedRun

/-!
# Programs of load instructions

The reference machine fetches its instructions from its own memory, so a
program may overwrite itself.  As long as it fetches load instructions, `run`
executes the same ones, in the cycles that the source gives them.
-/

namespace CyclePerfectGameboy

open BudgetLoop ProgramLogic Reference

namespace Reference

/-- The opcode of `instruction` is at the program counter. -/
def State.AtOpcode (state : State) (instruction : LoadInstruction) : Prop :=
  state.memory state.cells.pc = instruction.opcode

instance (state : State) (instruction : LoadInstruction) :
    Decidable (state.AtOpcode instruction) :=
  decEq (state.memory state.cells.pc) instruction.opcode

/-- The state after a list of instructions. -/
def State.follow (state : State) (program : List LoadInstruction) : State :=
  program.foldl State.execute state

/-- The reference machine fetches exactly these instructions. -/
def State.Fetches (state : State) (program : List LoadInstruction) : Prop :=
  ReadyAlong State.execute State.AtOpcode program state

/-- The cycles of a list of instructions by the handlers of the source. -/
def programCycles (program : List LoadInstruction) : Nat :=
  (program.map (fun named => (opcodeCycles named.opcode).toNat)).sum

end Reference

namespace CPU

/-- An awake CPU with interrupts off, in a state of the reference machine. -/
def Shows (state : State) (machine : CPU × FlatMemory) : Prop :=
  machine.1.running ∧ machine.1.ime = false ∧
    referenceState machine.1.registers machine.2 = state

theorem shows_referenceState
    {cpu : CPU} (memory : FlatMemory)
    (awake : cpu.running) (disabled : cpu.ime = false) :
    Shows (referenceState cpu.registers memory) (cpu, memory) :=
  ⟨awake, disabled, rfl⟩

/-- The rule for one load instruction. -/
theorem load_triple
    (state : State) (named : LoadInstruction)
    (fetched : state.AtOpcode named) :
    Triple runBody (Shows state) 1 (opcodeCycles named.opcode).toNat
      (Shows (state.execute named)) := by
  refine Triple.command ?_
  rintro ⟨cpu, memory⟩ ⟨awake, disabled, rfl⟩
  have opcode : memory cpu.registers.pc.value = named.opcode := fetched
  rcases executeInstruction_of_load awake disabled opcode with
    ⟨executed, stillDisabled, stillAwake⟩
  have cycles :
      (cpu.executeInstruction memory).cycles = opcodeCycles named.opcode := by
    rw [executeInstruction_of_disabled memory awake disabled,
      executeOpcode_cycles, ← opcode]
    rfl
  refine ⟨⟨stillAwake, stillDisabled, executed⟩, ?_⟩
  rw [← cycles]
  exact toNat_widen_cycles _

theorem program_triple
    {state : State} {program : List LoadInstruction}
    (fetches : state.Fetches program) :
    Triple runBody (Shows state) program.length (programCycles program)
      (Shows (state.follow program)) :=
  Triple.program load_triple fetches

/-- Given any budget up to the cycles of a program that the reference machine
fetches, and below the top of the range, `run` of a CPU that is awake and has
the master flag off executes the shortest prefix that reaches the budget, with
the result of the reference machine. -/
theorem run_follows_reference
    {cpu : CPU} {memory : FlatMemory}
    (awake : cpu.running) (disabled : cpu.ime = false)
    {program : List LoadInstruction}
    (fetches : (referenceState cpu.registers memory).Fetches program)
    {budget : BitVec 32} (room : budget.toNat ≤ 2 ^ 32 - 20)
    (within : budget.toNat ≤ programCycles program) :
    ∃ executed ≤ program.length,
      budget.toNat ≤ programCycles (program.take executed) ∧
        (∀ fewer < executed,
          programCycles (program.take fewer) < budget.toNat) ∧
        ∃ final : CPU × FlatMemory,
          (∀ fuel,
            run fuel budget (cpu, memory) =
              if executed ≤ fuel then some final else none) ∧
            final.1.running ∧ final.1.ime = false ∧
            referenceState final.1.registers final.2 =
              (referenceState cpu.registers memory).follow
                (program.take executed) := by
  have start := shows_referenceState memory awake disabled
  -- every prefix runs as the reference runs it
  have runs :
      ∀ count ≤ program.length,
        Shows
            ((referenceState cpu.registers memory).follow
              (program.take count))
            (after runBody count (cpu, memory)) ∧
          spent runBody count (cpu, memory) =
            programCycles (program.take count) := by
    intro count order
    have ran := program_triple (fetches.take count) (cpu, memory) start
    rwa [List.length_take_of_le order] at ran
  obtain ⟨executed, reaches⟩ :=
    exists_reaches runBody runBody_counts.positive budget (cpu, memory)
  have inside : executed ≤ program.length := by
    by_contra beyond
    have notYet := reaches.2 program.length (Nat.lt_of_not_le beyond)
    rw [(runs program.length (Nat.le_refl _)).2, List.take_length] at notYet
    exact Nat.not_le_of_lt notYet within
  rcases runs executed inside with ⟨⟨stillAwake, stillDisabled, state⟩, cost⟩
  refine ⟨executed, inside, ?_, ?_, after runBody executed (cpu, memory), ?_,
    stillAwake, stillDisabled, state⟩
  · rw [← cost]
    exact reaches.1
  · intro fewer before
    rw [← (runs fewer (Nat.le_of_lt (Nat.lt_of_lt_of_le before inside))).2]
    exact reaches.2 fewer before
  · intro fuel
    by_cases enough : executed ≤ fuel
    · rw [if_pos enough]
      exact
        (loop_eq_some_iff runBody reaches
          (fits_of_room_run room reaches)).mpr ⟨enough, rfl⟩
    · rw [if_neg enough]
      exact running_before runBody reaches (Nat.lt_of_not_le enough)

/-- A program that stores `LD B,A` over the `NOP` that follows it. -/
theorem run_follows_overwritten_opcode :
    let memory : FlatMemory := fun addr =>
      [0x3E, 0x47, 0xEA, 0x05, 0x00, 0x00].getD addr.toNat 0
    ∃ final : CPU × FlatMemory,
      run 3 28 (({} : CPU), memory) = some final ∧
        final.1.registers.getB = 0x47 := by
  intro memory
  let program : List LoadInstruction :=
    [.ldImmediate .a, .storeAAbsolute, .ldReg .b .a]
  have awake : ({} : CPU).running := ⟨rfl, rfl⟩
  have fetches :
      (referenceState ({} : CPU).registers memory).Fetches program :=
    ⟨by decide, by decide, by decide, trivial⟩
  obtain ⟨executed, inside, enough, _, final, returned, _, _, state⟩ :=
    run_follows_reference awake rfl fetches
      (show (28 : BitVec 32).toNat ≤ 2 ^ 32 - 20 by decide) (by decide)
  have all : executed = 3 := by
    rcases executed with _ | _ | _ | more
    · exact absurd enough (by decide)
    · exact absurd enough (by decide)
    · exact absurd enough (by decide)
    · have last : more + 3 ≤ 3 := inside
      omega
  subst all
  refine ⟨final, returned 3, ?_⟩
  exact congrArg (fun after => after.cells.b) state

end CPU

end CyclePerfectGameboy
