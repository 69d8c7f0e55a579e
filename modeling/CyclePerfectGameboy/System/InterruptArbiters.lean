import CyclePerfectGameboy.Cpu.InterruptDispatch
import CyclePerfectGameboy.Foundations.PriorityDrain
import CyclePerfectGameboy.System.InterruptController
import Mathlib.Tactic.IntervalCases

/-!
# The two interrupt arbiters

`get_interrupt_vector` and `handle_interrupts` decide the priority of the
pending interrupts in two different ways.  Each drains the same queue, the
set bits of `IF & IE & 0x1F`.
-/

namespace CyclePerfectGameboy

open BitMask PriorityDrain

universe u

/-- The address that the interrupt of bit `bit` jumps to. -/
def vectorAddress (bit : Nat) : Word :=
  0x0040 + 8 * BitVec.ofNat 16 bit

/-- The flat memory after the acknowledge of one interrupt. -/
def acknowledged (memory : FlatMemory) (bit : Nat) : FlatMemory :=
  Function.update memory ifAddr (memory ifAddr &&& ~~~(1#8 <<< bit))

theorem pendingMask_lt
    {M : Type u} [MemoryInterface M] {memory : M} {bit : Nat}
    (set : (CPU.pendingMask memory).getLsbD bit = true) :
    bit < 5 := by
  rw [CPU.pendingMask, BitVec.getLsbD_and, Bool.and_eq_true] at set
  have low : ∀ bit < 8, (0x1F : Byte).getLsbD bit = true → bit < 5 := by
    decide
  exact low bit (BitVec.lt_of_getLsbD set.2) set.2

/-- An acknowledged bit leaves the mask, whatever else changes outside `IF`
and `IE`. -/
theorem pendingMask_acknowledged
    {memory later : FlatMemory} {bit : Nat}
    (flags : later ifAddr = memory ifAddr &&& ~~~(1#8 <<< bit))
    (enables : later ieAddr = memory ieAddr) :
    CPU.pendingMask later =
      CPU.pendingMask memory &&& ~~~(1#8 <<< bit) := by
  have flags' :
      later 0xFF0F = memory 0xFF0F &&& ~~~(1#8 <<< bit) := flags
  have enables' : later 0xFFFF = memory 0xFFFF := enables
  simp only [CPU.pendingMask, FlatMemory.read_eq, flags', enables']
  ac_rfl

namespace InterruptController

/-- The chain of tests stops at the lowest pending bit. -/
theorem getInterruptVector_of_lowest
    {M : Type u} [MemoryInterface M]
    (controller : InterruptController) {memory : M} {bit : Nat}
    (set : (CPU.pendingMask memory).getLsbD bit = true)
    (lowest :
      ∀ below < bit, (CPU.pendingMask memory).getLsbD below = false) :
    controller.getInterruptVector memory =
      (vectorAddress bit, controller.clearInterrupt memory bit) := by
  have inside := pendingMask_lt set
  have notQuiet : CPU.pendingMask memory ≠ 0 := by
    intro quiet
    rw [quiet] at set
    simp at set
  have passed :
      ∀ below < bit,
        ¬ CPU.pendingMask memory &&& (1#8 <<< below) ≠ 0 := by
    intro below before tested
    have belowSet :=
      (and_bit_ne_zero_iff (CPU.pendingMask memory) (by omega)).mp tested
    rw [lowest below before] at belowSet
    exact Bool.false_ne_true belowSet
  have taken : CPU.pendingMask memory &&& (1#8 <<< bit) ≠ 0 :=
    (and_bit_ne_zero_iff _ (by omega)).mpr set
  change
    (if CPU.pendingMask memory = 0 then _
      else if CPU.pendingMask memory &&& (1#8 <<< 0) ≠ 0 then _
      else if CPU.pendingMask memory &&& (1#8 <<< 1) ≠ 0 then _
      else if CPU.pendingMask memory &&& (1#8 <<< 2) ≠ 0 then _
      else if CPU.pendingMask memory &&& (1#8 <<< 3) ≠ 0 then _
      else if CPU.pendingMask memory &&& (1#8 <<< 4) ≠ 0 then _
      else _) = _
  rw [if_neg notQuiet]
  interval_cases bit
  · rw [if_pos taken]
    rfl
  · rw [if_neg (passed 0 (by decide)), if_pos taken]
    rfl
  · rw [if_neg (passed 0 (by decide)), if_neg (passed 1 (by decide)),
      if_pos taken]
    rfl
  · rw [if_neg (passed 0 (by decide)), if_neg (passed 1 (by decide)),
      if_neg (passed 2 (by decide)), if_pos taken]
    rfl
  · rw [if_neg (passed 0 (by decide)), if_neg (passed 1 (by decide)),
      if_neg (passed 2 (by decide)), if_neg (passed 3 (by decide)),
      if_pos taken]
    rfl

theorem getInterruptVector_of_quiet
    {M : Type u} [MemoryInterface M]
    (controller : InterruptController) {memory : M}
    (quiet : CPU.pendingMask memory = 0) :
    controller.getInterruptVector memory =
      (0, controller.readRegisters memory, memory) :=
  if_pos quiet

theorem clearInterrupt_flat
    (controller : InterruptController) (memory : FlatMemory) (bit : Nat) :
    controller.clearInterrupt memory bit =
      (controller.readRegisters (acknowledged memory bit),
        acknowledged memory bit) := by
  have distinct : ieAddr ≠ ifAddr := by decide
  refine Prod.ext ?_ ?_
  · simp only [readRegisters, acknowledged, FlatMemory.read_eq,
      Function.update_self, Function.update_of_ne distinct]
    rfl
  · exact controller.changeRegisters_of_enableKept memory rfl

/-- The state after `count` calls of `get_interrupt_vector`. -/
def afterVectors (count : Nat) (state : InterruptController × FlatMemory) :
    InterruptController × FlatMemory :=
  (fun state => (getInterruptVector state.1 state.2).2)^[count] state

/-- A call on a non-empty queue returns the vector of its head and
acknowledges that interrupt. -/
theorem getInterruptVector_of_head
    (controller : InterruptController) {memory : FlatMemory}
    {bit : Nat} {rest : List Nat}
    (queue : setBits (CPU.pendingMask memory) = bit :: rest) :
    controller.getInterruptVector memory =
      (vectorAddress bit,
        controller.readRegisters (acknowledged memory bit),
        acknowledged memory bit) := by
  obtain ⟨set, lowest⟩ := setBits_lowest queue
  rw [getInterruptVector_of_lowest controller set lowest,
    clearInterrupt_flat]

/-- After a call the cached copies are those of the memory. -/
theorem getInterruptVector_cached
    (controller : InterruptController) (memory : FlatMemory) :
    (controller.getInterruptVector memory).2.1 =
      controller.readRegisters (controller.getInterruptVector memory).2.2 := by
  cases queue : setBits (CPU.pendingMask memory) with
  | nil =>
      rw [getInterruptVector_of_quiet controller (setBits_eq_nil.mp queue)]
  | cons bit rest =>
      rw [getInterruptVector_of_head controller queue]

theorem vectors_drain :
    Drains
      (fun state : InterruptController × FlatMemory =>
        (getInterruptVector state.1 state.2).2)
      (fun state => setBits (CPU.pendingMask state.2))
      (fun _ => True) where
  valid := fun _ _ => trivial
  tail := by
    rintro ⟨controller, memory⟩ _
    cases queue : setBits (CPU.pendingMask memory) with
    | nil =>
        rw [getInterruptVector_of_quiet controller (setBits_eq_nil.mp queue)]
        exact queue
    | cons bit rest =>
        rw [getInterruptVector_of_head controller queue]
        have flags :
            acknowledged memory bit ifAddr =
              memory ifAddr &&& ~~~(1#8 <<< bit) :=
          Function.update_self ..
        have enables : acknowledged memory bit ieAddr = memory ieAddr :=
          Function.update_of_ne (by decide) ..
        rw [pendingMask_acknowledged flags enables, setBits_clear queue,
          List.tail_cons]

theorem afterVectors_succ
    (count : Nat) (state : InterruptController × FlatMemory) :
    afterVectors (count + 1) state =
      (getInterruptVector (afterVectors count state).1
        (afterVectors count state).2).2 :=
  Function.iterate_succ_apply' _ count state

section Calls

variable (controller : InterruptController) (memory : FlatMemory)
variable {count : Nat}

/-- The call after `count` others serves the bit at that position. -/
theorem getInterruptVector_at {bit : Nat}
    (position : (setBits (CPU.pendingMask memory))[count]? = some bit) :
    let state := afterVectors count (controller, memory)
    state.1.getInterruptVector state.2 =
      (vectorAddress bit,
        state.1.readRegisters (acknowledged state.2 bit),
        acknowledged state.2 bit) := by
  intro state
  rcases vectors_drain.head_iterate (controller, memory) trivial position
    with ⟨rest, queue⟩
  exact getInterruptVector_of_head state.1 queue

theorem getInterruptVector_drained
    (enough : (setBits (CPU.pendingMask memory)).length ≤ count) :
    let state := afterVectors count (controller, memory)
    state.1.getInterruptVector state.2 =
      (0, state.1.readRegisters state.2, state.2) := by
  intro state
  have empty : setBits (CPU.pendingMask state.2) = [] :=
    vectors_drain.empty_iterate (controller, memory) trivial enough
  exact getInterruptVector_of_quiet state.1 (setBits_eq_nil.mp empty)

/-- After the first call a further read of the registers finds the cached
copies. -/
theorem afterVectors_cached (positive : 0 < count) :
    let state := afterVectors count (controller, memory)
    state.1.readRegisters state.2 = state.1 := by
  intro state
  cases count with
  | zero =>
      exact absurd positive (Nat.lt_irrefl 0)
  | succ earlier =>
      have cached :=
        getInterruptVector_cached
          (afterVectors earlier (controller, memory)).1
          (afterVectors earlier (controller, memory)).2
      rw [← afterVectors_succ] at cached
      exact cached.symm

end Calls

end InterruptController

/-! ## The CPU -/

namespace CPU

/-- `enable_interrupts` followed by `handle_interrupts`. -/
def serveNext {M : Type u} [MemoryInterface M] (machine : CPU × M) :
    CpuResult M :=
  machine.1.enableInterrupts.handleInterrupts machine.2

/-- The machine after `count` such pairs of calls. -/
def afterServing (count : Nat) (machine : CPU × FlatMemory) :
    CPU × FlatMemory :=
  (fun machine =>
    ((serveNext machine).cpu, (serveNext machine).memory))^[count] machine

/-- The pushes of the next `count` dispatches miss `IF` and `IE`. -/
def stackAvoids (sp : Word) (count : Nat) : Prop :=
  ∀ depth, 1 ≤ depth → depth ≤ 2 * count →
    sp - BitVec.ofNat 16 depth ≠ ifAddr ∧
      sp - BitVec.ofNat 16 depth ≠ ieAddr

theorem stackAvoids_succ
    {sp : Word} {count : Nat} (avoids : stackAvoids sp (count + 1)) :
    (sp - 1 ≠ ifAddr ∧ sp - 1 ≠ ieAddr) ∧
      (sp - 2 ≠ ifAddr ∧ sp - 2 ≠ ieAddr) ∧
        stackAvoids (sp - 2) count := by
  refine ⟨avoids 1 (by omega) (by omega), avoids 2 (by omega) (by omega), ?_⟩
  intro depth positive bounded
  have deeper := avoids (depth + 2) (by omega) (by omega)
  have shifted :
      sp - BitVec.ofNat 16 (depth + 2) = sp - 2 - BitVec.ofNat 16 depth := by
    rw [BitVec.ofNat_add]
    bv_omega
  rwa [shifted] at deeper

/-- With interrupts enabled a call on a non-empty queue dispatches its head;
where the pushes miss `IF` and `IE`, it is acknowledged and nothing else. -/
theorem serveNext_of_head
    {cpu : CPU} {memory : FlatMemory} {bit : Nat} {rest : List Nat}
    (queue : setBits (pendingMask memory) = bit :: rest)
    (avoids : stackAvoids cpu.registers.sp.value (bit :: rest).length) :
    (serveNext (cpu, memory)).cycles = 20 ∧
      (serveNext (cpu, memory)).cpu.registers.pc.value =
        vectorAddress bit ∧
      (serveNext (cpu, memory)).cpu.registers.sp.value =
        cpu.registers.sp.value - 2 ∧
      (serveNext (cpu, memory)).memory ifAddr =
        memory ifAddr &&& ~~~(1#8 <<< bit) ∧
      (serveNext (cpu, memory)).memory ieAddr = memory ieAddr := by
  obtain ⟨set, lowest⟩ := setBits_lowest queue
  have pending : pendingMask memory ≠ 0 := by
    intro quiet
    rw [setBits_eq_nil.mpr quiet] at queue
    exact List.cons_ne_nil _ _ queue.symm
  have enabled : cpu.enableInterrupts.ime = true := rfl
  obtain ⟨served, inside, servedSet, servedLowest, serviced⟩ :=
    handleInterrupts_of_pending pending enabled
  obtain ⟨servedRest, servedQueue⟩ :=
    setBits_of_lowest servedSet servedLowest
  have same : served = bit := by
    rw [queue] at servedQueue
    exact (List.cons.inj servedQueue).1.symm
  subst same
  obtain ⟨⟨highIf, highIe⟩, ⟨lowIf, lowIe⟩, _⟩ := stackAvoids_succ avoids
  rw [FlatMemory.read_eq, serviceInterrupt_flat _ memory inside] at serviced
  rw [serveNext, serviced]
  refine ⟨rfl, rfl, rfl, ?_, ?_⟩
  · change dispatchMemory memory cpu.registers.sp.value
      cpu.registers.pc.value served ifAddr = _
    rw [dispatchMemory, Function.update_of_ne highIf.symm,
      Function.update_of_ne lowIf.symm]
    exact Function.update_self ..
  · change dispatchMemory memory cpu.registers.sp.value
      cpu.registers.pc.value served ieAddr = _
    rw [dispatchMemory, Function.update_of_ne highIe.symm,
      Function.update_of_ne lowIe.symm, Function.update_of_ne (by decide)]

theorem serveNext_of_quiet
    (cpu : CPU) {memory : FlatMemory} (quiet : pendingMask memory = 0) :
    serveNext (cpu, memory) =
      { cycles := 0, cpu := cpu.enableInterrupts, memory := memory } :=
  handleInterrupts_of_quiet cpu.enableInterrupts quiet

theorem serving_drains :
    Drains
      (fun machine : CPU × FlatMemory =>
        ((serveNext machine).cpu, (serveNext machine).memory))
      (fun machine => setBits (pendingMask machine.2))
      (fun machine =>
        stackAvoids machine.1.registers.sp.value
          (setBits (pendingMask machine.2)).length) := by
  have served :
      ∀ machine : CPU × FlatMemory,
        stackAvoids machine.1.registers.sp.value
          (setBits (pendingMask machine.2)).length →
        setBits (pendingMask (serveNext machine).memory) =
            (setBits (pendingMask machine.2)).tail ∧
          stackAvoids (serveNext machine).cpu.registers.sp.value
            (setBits (pendingMask machine.2)).tail.length := by
    rintro ⟨cpu, memory⟩ avoids
    cases queue : setBits (pendingMask memory) with
    | nil =>
        rw [serveNext_of_quiet cpu (setBits_eq_nil.mp queue)]
        refine ⟨queue, ?_⟩
        intro depth positive bounded
        rw [List.tail_nil, List.length_nil] at bounded
        omega
    | cons bit rest =>
        simp only [queue] at avoids
        obtain ⟨_, _, sp, flags, enables⟩ := serveNext_of_head queue avoids
        rw [pendingMask_acknowledged flags enables, setBits_clear queue, sp]
        exact ⟨rfl, (stackAvoids_succ avoids).2.2⟩
  constructor
  · intro machine avoids
    obtain ⟨queue, next⟩ := served machine avoids
    change stackAvoids _ (setBits (pendingMask (serveNext machine).memory)).length
    rw [queue]
    exact next
  · intro machine avoids
    exact (served machine avoids).1

section Calls

variable {cpu : CPU} {memory : FlatMemory} {count : Nat}

theorem serveNext_at
    (avoids :
      stackAvoids cpu.registers.sp.value
        (setBits (pendingMask memory)).length)
    {bit : Nat}
    (position : (setBits (pendingMask memory))[count]? = some bit) :
    let machine := afterServing count (cpu, memory)
    (serveNext machine).cycles = 20 ∧
      (serveNext machine).cpu.registers.pc.value = vectorAddress bit := by
  intro machine
  rcases serving_drains.head_iterate (cpu, memory) avoids position
    with ⟨rest, queue⟩
  have valid := serving_drains.valid_iterate (cpu, memory) avoids count
  simp only [queue] at valid
  rcases serveNext_of_head queue valid with ⟨cycles, target, _⟩
  exact ⟨cycles, target⟩

theorem serveNext_drained
    (avoids :
      stackAvoids cpu.registers.sp.value
        (setBits (pendingMask memory)).length)
    (enough : (setBits (pendingMask memory)).length ≤ count) :
    (serveNext (afterServing count (cpu, memory))).cycles = 0 := by
  have empty :
      setBits (pendingMask (afterServing count (cpu, memory)).2) = [] :=
    serving_drains.empty_iterate (cpu, memory) avoids enough
  exact congrArg CpuResult.cycles
    (serveNext_of_quiet _ (setBits_eq_nil.mp empty))

end Calls

end CPU

/-- Two memories with the same `IF` and the same `IE`. -/
def sameInterrupts (left right : FlatMemory) : Prop :=
  left ifAddr = right ifAddr ∧ left ieAddr = right ieAddr

theorem sameInterrupts_pendingMask
    {left right : FlatMemory} (same : sameInterrupts left right) :
    CPU.pendingMask left = CPU.pendingMask right := by
  have flags : left 0xFF0F = right 0xFF0F := same.1
  have enables : left 0xFFFF = right 0xFFFF := same.2
  simp only [CPU.pendingMask, FlatMemory.read_eq, flags, enables]

/-- One call of each arbiter keeps the two registers equal. -/
theorem sameInterrupts_call
    {machine : CPU × FlatMemory}
    {state : InterruptController × FlatMemory}
    (same : sameInterrupts machine.2 state.2)
    (avoids :
      CPU.stackAvoids machine.1.registers.sp.value
        (setBits (CPU.pendingMask machine.2)).length) :
    sameInterrupts (CPU.serveNext machine).memory
      (state.1.getInterruptVector state.2).2.2 := by
  obtain ⟨cpu, memory⟩ := machine
  obtain ⟨controller, other⟩ := state
  have masks := sameInterrupts_pendingMask same
  cases queue : setBits (CPU.pendingMask memory) with
  | nil =>
      have quiet := setBits_eq_nil.mp queue
      rw [CPU.serveNext_of_quiet cpu quiet,
        controller.getInterruptVector_of_quiet (masks ▸ quiet)]
      exact same
  | cons bit rest =>
      simp only [queue] at avoids
      obtain ⟨_, _, _, flags, enables⟩ :=
        CPU.serveNext_of_head queue avoids
      simp only [masks] at queue
      rw [controller.getInterruptVector_of_head queue]
      have distinct : ieAddr ≠ ifAddr := by decide
      refine ⟨?_, ?_⟩
      · change _ = acknowledged other bit ifAddr
        rw [flags, acknowledged, Function.update_self]
        exact congrArg (· &&& ~~~(1#8 <<< bit)) same.1
      · change _ = acknowledged other bit ieAddr
        rw [enables, acknowledged, Function.update_of_ne distinct]
        exact same.2

theorem sameInterrupts_drain
    (controller : InterruptController) {cpu : CPU} {memory : FlatMemory}
    (avoids :
      CPU.stackAvoids cpu.registers.sp.value
        (setBits (CPU.pendingMask memory)).length)
    (count : Nat) :
    sameInterrupts (CPU.afterServing count (cpu, memory)).2
      (InterruptController.afterVectors count (controller, memory)).2 := by
  induction count with
  | zero =>
      exact ⟨rfl, rfl⟩
  | succ count inductionHypothesis =>
      have valid :=
        CPU.serving_drains.valid_iterate (cpu, memory) avoids count
      rw [CPU.afterServing, InterruptController.afterVectors,
        Function.iterate_succ_apply', Function.iterate_succ_apply']
      exact sameInterrupts_call inductionHypothesis valid

/-- Both arbiters serve the pending interrupts in strictly increasing bit
order, each exactly once, and then report that nothing is pending. -/
theorem arbiters_drain
    (controller : InterruptController) (memory : FlatMemory) :
    let bits := setBits (memory 0xFF0F &&& memory 0xFFFF &&& 0x1F)
    let states := fun count =>
      InterruptController.afterVectors count (controller, memory)
    let vectors := fun count =>
      InterruptController.getInterruptVector (states count).1
        (states count).2
    bits.Pairwise (· < ·) ∧
      (∀ bit,
        bit ∈ bits ↔
          (memory 0xFF0F &&& memory 0xFFFF &&& 0x1F).getLsbD bit = true) ∧
      (∀ count bit, bits[count]? = some bit →
        (vectors count).1 = 0x0040 + 8 * BitVec.ofNat 16 bit ∧
          (states (count + 1)).2 =
            Function.update (states count).2 0xFF0F
              ((states count).2 0xFF0F &&& ~~~(1#8 <<< bit))) ∧
      (∀ count ≥ bits.length,
        (vectors count).1 = 0 ∧
          (states (count + 1)).2 = (states count).2 ∧
          (0 < count → states (count + 1) = states count)) ∧
      ∀ cpu : CPU,
        (∀ depth, 1 ≤ depth → depth ≤ 2 * bits.length →
          cpu.registers.sp.value - BitVec.ofNat 16 depth ≠ 0xFF0F ∧
            cpu.registers.sp.value - BitVec.ofNat 16 depth ≠ 0xFFFF) →
        let machines := fun count => CPU.afterServing count (cpu, memory)
        (∀ count bit, bits[count]? = some bit →
          (CPU.serveNext (machines count)).cycles = 20 ∧
            (CPU.serveNext (machines count)).cpu.registers.pc.value =
              (vectors count).1) ∧
          (∀ count ≥ bits.length,
            (CPU.serveNext (machines count)).cycles = 0) ∧
          ∀ count, (machines count).2 0xFF0F = (states count).2 0xFF0F := by
  intro bits states vectors
  have next : ∀ count, states (count + 1) = (vectors count).2 := by
    intro count
    exact InterruptController.afterVectors_succ count (controller, memory)
  have served :
      ∀ count bit, bits[count]? = some bit →
        vectors count =
          (vectorAddress bit,
            (states count).1.readRegisters
              (acknowledged (states count).2 bit),
            acknowledged (states count).2 bit) := by
    intro count bit position
    exact controller.getInterruptVector_at memory position
  refine ⟨setBits_sorted _, fun bit => mem_setBits, ?_, ?_, ?_⟩
  · intro count bit position
    rw [next, served count bit position]
    exact ⟨rfl, rfl⟩
  · intro count enough
    have quiet :
        vectors count =
          (0, (states count).1.readRegisters (states count).2,
            (states count).2) :=
      controller.getInterruptVector_drained memory enough
    rw [next, quiet]
    refine ⟨rfl, rfl, ?_⟩
    intro positive
    have cached := controller.afterVectors_cached memory positive
    exact Prod.ext cached rfl
  · intro cpu avoids machines
    have avoids' :
        CPU.stackAvoids cpu.registers.sp.value
          (setBits (CPU.pendingMask memory)).length := avoids
    refine ⟨?_, ?_, ?_⟩
    · intro count bit position
      rw [served count bit position]
      exact CPU.serveNext_at avoids' position
    · intro count enough
      exact CPU.serveNext_drained avoids' enough
    · intro count
      exact (sameInterrupts_drain controller avoids' count).1

/-- All five interrupts pending: the fifth call returns the joypad vector,
and the CPU jumps to it. -/
theorem arbiters_drain_all :
    let memory : FlatMemory := fun _ => 0xFF
    let state := InterruptController.afterVectors 4 ({}, memory)
    let machine :=
      CPU.afterServing 4 ({ registers := { sp := ⟨0xDFFE⟩ } }, memory)
    (state.1.getInterruptVector state.2).1 = 0x0060 ∧
      (CPU.serveNext machine).cpu.registers.pc.value = 0x0060 := by
  intro memory state machine
  obtain ⟨_, _, served, _, agree⟩ := arbiters_drain {} memory
  have fifth := (served 4 4 (by decide)).1
  have avoids :
      ∀ depth ≤ 10,
        (0xDFFE : Word) - BitVec.ofNat 16 depth ≠ 0xFF0F ∧
          (0xDFFE : Word) - BitVec.ofNat 16 depth ≠ 0xFFFF := by
    decide
  have count :
      (setBits (memory 0xFF0F &&& memory 0xFFFF &&& 0x1F)).length = 5 := by
    decide
  obtain ⟨jumps, _⟩ :=
    agree { registers := { sp := ⟨0xDFFE⟩ } }
      (fun depth _ bounded => avoids depth (by rwa [count] at bounded))
  exact ⟨fifth, (jumps 4 4 (by decide)).2.trans fifth⟩

end CyclePerfectGameboy
