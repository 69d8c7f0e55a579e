import CyclePerfectGameboy.Cpu.Halt
import CyclePerfectGameboy.Cpu.Simulation
import CyclePerfectGameboy.Foundations.CallSequence
import CyclePerfectGameboy.Foundations.Lockstep
import CyclePerfectGameboy.Memory.ProtectedMemory

/-!
# The public methods of the CPU

Between the calls on the CPU the rest of the machine may read and write the
shared memory.  What such a sequence of calls answers depends on the bytes of
the memory and on where it can be written, and on nothing else.
-/

namespace CyclePerfectGameboy

open CallSequence Lockstep

universe u v

/-- A call on the CPU, or an access of another component to the memory that
they share. -/
inductive CpuCall where
  | initialized
  | enableInterrupts
  | disableInterrupts
  | halt
  | stop
  | executeInstruction
  | run (fuel : Nat) (cycles : BitVec 32)
  | handleInterrupts
  /-- All the getters at once. -/
  | getState
  | readMemory (addr : Address)
  | writeMemory (addr : Address) (value : Byte)

inductive CpuAnswer where
  | done
  | cycles (count : Cycles)
  | state (cpu : CPU)
  | byte (value : Byte)

namespace CPU

def disableInterrupts (cpu : CPU) : CPU :=
  { cpu with ime := false }

/-- `stop`, one of the control methods. -/
def stop (cpu : CPU) : CPU :=
  { cpu with stopped := true }

section Calls

variable {M : Type u} [MemoryInterface M]

/-- One call; `none` if the fuel of `run` gives out. -/
def invoke (machine : CPU × M) :
    CpuCall → Option (CpuAnswer × (CPU × M))
  | .initialized => some (.done, (machine.1.initialized, machine.2))
  | .enableInterrupts => some (.done, (machine.1.enableInterrupts, machine.2))
  | .disableInterrupts =>
      some (.done, (machine.1.disableInterrupts, machine.2))
  | .halt => some (.done, (machine.1.halt, machine.2))
  | .stop => some (.done, (machine.1.stop, machine.2))
  | .executeInstruction =>
      let result := machine.1.executeInstruction machine.2
      some (.cycles result.cycles, (result.cpu, result.memory))
  | .run fuel cycles =>
      (run fuel cycles machine).map (fun next => (.done, next))
  | .handleInterrupts =>
      let result := machine.1.handleInterrupts machine.2
      some (.cycles result.cycles, (result.cpu, result.memory))
  | .getState => some (.state machine.1, machine)
  | .readMemory addr => some (.byte (read machine.2 addr), machine)
  | .writeMemory addr value =>
      some (.done, (machine.1, write machine.2 addr value))

end Calls

section Simulation

variable {M : Type u} {N : Type v} [MemoryInterface M] [MemoryInterface N]
variable {Related : M → N → Prop} (simulation : MemorySimulation Related)

/-- The same CPU over related memories. -/
def Alike (Related : M → N → Prop) (left : CPU × M) (right : CPU × N) :
    Prop :=
  left.1 = right.1 ∧ Related left.2 right.2

include simulation

theorem runBody_alike :
    Lockstep.Related (Alike Related) runBody runBody := by
  rintro ⟨cpu, left⟩ ⟨_, right⟩ ⟨rfl, related⟩
  have executed := executeInstruction_matches simulation related cpu
  refine ⟨?_, executed.cpu, executed.memory⟩
  exact congrArg (BitVec.setWidth 32) executed.cycles

/-- No call tells the two memories apart. -/
theorem invoke_simulates :
    Simulates invoke invoke (Alike Related) := by
  rintro ⟨cpu, left⟩ ⟨_, right⟩ ⟨rfl, related⟩ call -
  cases call with
  | initialized | enableInterrupts | disableInterrupts | halt | stop
  | getState =>
      exact Option.Rel.some ⟨rfl, rfl, related⟩
  | executeInstruction =>
      have executed := executeInstruction_matches simulation related cpu
      exact
        Option.Rel.some
          ⟨congrArg CpuAnswer.cycles executed.cycles, executed.cpu,
            executed.memory⟩
  | run fuel cycles =>
      exact
        returned_related
          (loop_related (runBody_alike simulation) cycles 0 fuel
            ⟨rfl, related⟩) CpuAnswer.done
  | handleInterrupts =>
      have handled := handleInterrupts_matches simulation related cpu
      exact
        Option.Rel.some
          ⟨congrArg CpuAnswer.cycles handled.cycles, handled.cpu,
            handled.memory⟩
  | readMemory addr =>
      have same := simulation.read_eq related addr
      exact Option.Rel.some ⟨congrArg CpuAnswer.byte same, rfl, related⟩
  | writeMemory addr value =>
      exact
        Option.Rel.some
          ⟨rfl, rfl, simulation.write_related related addr value⟩

end Simulation

section Abstraction

variable {M : Type u} [MemoryInterface M]
variable {N : Type v} [MemoryInterface N]

/-- Reading tells different bytes apart. -/
theorem contents_eq_of_answers_eq
    {cpu : CPU} {left : M} {right : N}
    (alike :
      ∀ calls,
        answers invoke (cpu, left) calls =
          answers invoke (cpu, right) calls) :
    read left = read right := by
  funext addr
  have answered := alike [.readMemory addr]
  simpa [answers, invoke] using answered

variable [WriteProtected M] [WriteProtected N]

omit [WriteProtected N] in
/-- A memory answers as the flat memory that it looks like. -/
theorem answers_protectedView
    (cpu : CPU) (memory : M) (calls : List CpuCall) :
    answers invoke (cpu, memory) calls =
      answers invoke (cpu, protectedView memory) calls := by
  have simulates := invoke_simulates (protectedView_simulation (M := M))
  have start :
      Alike (fun memory view => protectedView memory = view) (cpu, memory)
        (cpu, protectedView memory) :=
    ⟨rfl, rfl⟩
  exact simulates.answers_eq start calls

/-- Writing another byte and reading it back tells different protections
apart. -/
theorem writable_eq_of_answers_eq
    {cpu : CPU} {left : M} {right : N}
    (alike :
      ∀ calls,
        answers invoke (cpu, left) calls =
          answers invoke (cpu, right) calls) :
    writable left = writable right := by
  funext addr
  have same : read left addr = read right addr :=
    congrFun (contents_eq_of_answers_eq alike) addr
  have answered :=
    alike [.writeMemory addr (read left addr + 1), .readMemory addr]
  have back :
      read (write left addr (read left addr + 1)) addr =
        read (write right addr (read left addr + 1)) addr := by
    simpa [answers, invoke] using answered
  have changes : read left addr + 1 ≠ read left addr := by
    bv_omega
  by_cases leftHere : writable left addr = true
  · by_cases rightHere : writable right addr = true
    · rw [leftHere, rightHere]
    · rw [WriteProtected.read_write_writable left leftHere,
        WriteProtected.read_write_protected right
          (Bool.eq_false_iff.mpr rightHere), ← same] at back
      exact absurd back changes
  · have leftKept := Bool.eq_false_iff.mpr leftHere
    by_cases rightHere : writable right addr = true
    · rw [WriteProtected.read_write_protected left leftKept,
        WriteProtected.read_write_writable right rightHere] at back
      exact absurd back.symm changes
    · rw [leftKept, Bool.eq_false_iff.mpr rightHere]

/-- Two memories drive a CPU alike through every sequence of calls exactly if
they hold the same bytes and can be written at the same addresses. -/
theorem answers_eq_iff_view
    (cpu : CPU) (left : M) (right : N) :
    (∀ calls,
        answers invoke (cpu, left) calls =
          answers invoke (cpu, right) calls) ↔
      protectedView left = protectedView right := by
  constructor
  · intro alike
    have contents := contents_eq_of_answers_eq alike
    have protection := writable_eq_of_answers_eq alike
    rw [protectedView, protectedView, contents, protection]
  · intro same calls
    rw [answers_protectedView cpu left, same,
      ← answers_protectedView cpu right]

end Abstraction

/-- Whatever regions two memory maps have and whichever objects they share,
no program and no caller tells the maps apart exactly if they hold the same
bytes and can be written at the same addresses. -/
theorem maps_alike_iff_bytes_and_protection
    {LeftPtr : Type u} {RightPtr : Type v}
    [DecidableEq LeftPtr] [DecidableEq RightPtr]
    (cpu : CPU)
    (left : MemoryMap (fun _ : LeftPtr => Device))
    (right : MemoryMap (fun _ : RightPtr => Device)) :
    (∀ calls,
        answers invoke (cpu, left) calls =
          answers invoke (cpu, right) calls) ↔
      (∀ addr, read left addr = read right addr) ∧
        ∀ addr, left.accepts addr = right.accepts addr := by
  rw [answers_eq_iff_view cpu left right, ProtectedMemory.ext_iff]
  exact and_congr funext_iff funext_iff

end CPU

end CyclePerfectGameboy
