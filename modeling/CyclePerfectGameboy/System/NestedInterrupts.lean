import CyclePerfectGameboy.System.InterruptArbiters

/-!
# Nested interrupts

Handlers that enable interrupts at once are interrupted in their turn.  The
stack then holds the program counters of all of them, innermost on top.
-/

namespace CyclePerfectGameboy.CPU

open BitMask PriorityDrain

/-- The program counters that a number of dispatches push: that of the
program, and the entry of every handler but the last. -/
def returnChain (pc : Word) (bits : List Nat) : List Word :=
  pc :: bits.map vectorAddress

/-- What a dispatch of the head of the queue does to the whole machine. -/
theorem serveNext_eq
    {cpu : CPU} {memory : FlatMemory} {bit : Nat} {rest : List Nat}
    (queue : setBits (pendingMask memory) = bit :: rest) :
    serveNext (cpu, memory) =
      { cycles := 20
        cpu :=
          { cpu with
            registers := dispatchRegisters cpu.registers bit
            ime := false
            halted := false }
        memory :=
          dispatchMemory memory cpu.registers.sp.value
            cpu.registers.pc.value bit } := by
  rcases setBits_lowest queue with ⟨set, lowest⟩
  have pending : pendingMask memory ≠ 0 := by
    intro quiet
    rw [setBits_eq_nil.mpr quiet] at queue
    exact List.cons_ne_nil _ _ queue.symm
  obtain ⟨served, inside, servedSet, servedLowest, serviced⟩ :=
    handleInterrupts_of_pending pending
      (show cpu.enableInterrupts.ime = true from rfl)
  obtain ⟨servedRest, servedQueue⟩ :=
    setBits_of_lowest servedSet servedLowest
  have same : served = bit := by
    rw [queue] at servedQueue
    exact (List.cons.inj servedQueue).1.symm
  subst same
  rw [FlatMemory.read_eq, serviceInterrupt_flat _ memory inside] at serviced
  exact serviced

/-- An address that the dispatches have pushed to. -/
def Pushed (sp : Word) (count : Nat) (addr : Address) : Prop :=
  ∃ depth, 1 ≤ depth ∧ depth ≤ 2 * count ∧
    addr = sp - BitVec.ofNat 16 depth

/-- The state after some nested dispatches. -/
structure Nested (cpu : CPU) (memory : FlatMemory) (chain : List Word)
    (count : Nat) (machine : CPU × FlatMemory) : Prop where
  /-- Only `SP` and `PC` have changed among the registers. -/
  registers :
    machine.1.registers =
      { cpu.registers with
        sp := ⟨cpu.registers.sp.value - BitVec.ofNat 16 (2 * count)⟩
        pc := ⟨chain.getD count 0⟩ }
  /-- The stack holds the return addresses. -/
  stored :
    ∀ depth < count,
      machine.2
            (cpu.registers.sp.value - BitVec.ofNat 16 (2 * depth + 1)) =
          highByte (chain.getD depth 0) ∧
        machine.2
            (cpu.registers.sp.value - BitVec.ofNat 16 (2 * depth + 2)) =
          lowByte (chain.getD depth 0)
  /-- Nothing else has changed but `IF`. -/
  frame :
    ∀ addr, addr ≠ ifAddr → ¬ Pushed cpu.registers.sp.value count addr →
      machine.2 addr = memory addr

theorem sub_ofNat_ne
    (base : Word) {first second : Nat} (different : first ≠ second)
    (firstSmall : first < 2 ^ 16) (secondSmall : second < 2 ^ 16) :
    base - BitVec.ofNat 16 first ≠ base - BitVec.ofNat 16 second := by
  intro same
  bv_omega

section Serving

variable {cpu : CPU} {memory : FlatMemory}

variable {count bit : Nat} {rest : List Nat} {chain : List Word}
variable {machine : CPU × FlatMemory}

/-- One more dispatch clears the flag and pushes the current link. -/
theorem Nested.serveNext_memory
    (nested : Nested cpu memory chain count machine)
    (queue : setBits (pendingMask machine.2) = bit :: rest) :
    (serveNext machine).memory =
      Function.update
        (Function.update
          (Function.update machine.2 ifAddr
            (machine.2 ifAddr &&& ~~~(1#8 <<< bit)))
          (cpu.registers.sp.value - BitVec.ofNat 16 (2 * count + 2))
          (lowByte (chain.getD count 0)))
        (cpu.registers.sp.value - BitVec.ofNat 16 (2 * count + 1))
        (highByte (chain.getD count 0)) := by
  obtain ⟨served, later⟩ := machine
  have sp := congrArg (fun regs => regs.sp.value) nested.registers
  have pc := congrArg (fun regs => regs.pc.value) nested.registers
  simp only at sp pc
  have high :
      served.registers.sp.value - 1 =
        cpu.registers.sp.value - BitVec.ofNat 16 (2 * count + 1) := by
    rw [sp]
    bv_omega
  have low :
      served.registers.sp.value - 2 =
        cpu.registers.sp.value - BitVec.ofNat 16 (2 * count + 2) := by
    rw [sp]
    bv_omega
  rw [serveNext_eq queue]
  change dispatchMemory later served.registers.sp.value
    served.registers.pc.value bit = _
  rw [dispatchMemory, high, low, pc]
  rfl

theorem Nested.serveNext_registers
    (nested : Nested cpu memory chain count machine)
    (queue : setBits (pendingMask machine.2) = bit :: rest)
    (next : chain.getD (count + 1) 0 = vectorAddress bit) :
    (serveNext machine).cpu.registers =
      { cpu.registers with
        sp := ⟨cpu.registers.sp.value - BitVec.ofNat 16 (2 * (count + 1))⟩
        pc := ⟨chain.getD (count + 1) 0⟩ } := by
  have deeper :
      cpu.registers.sp.value - BitVec.ofNat 16 (2 * count) - 2 =
        cpu.registers.sp.value - BitVec.ofNat 16 (2 * (count + 1)) := by
    bv_omega
  obtain ⟨served, later⟩ := machine
  rw [serveNext_eq queue]
  change dispatchRegisters served.registers bit = _
  rw [dispatchRegisters, next, nested.registers, ← deeper]
  rfl

/-- The new link is on the stack, and the older ones are still there. -/
theorem Nested.serveNext_stored
    (nested : Nested cpu memory chain count machine)
    (small : 2 * count + 2 < 2 ^ 16)
    (avoids :
      ∀ depth, 1 ≤ depth → depth ≤ 2 * (count + 1) →
        cpu.registers.sp.value - BitVec.ofNat 16 depth ≠ ifAddr)
    (queue : setBits (pendingMask machine.2) = bit :: rest)
    {depth : Nat} (before : depth < count + 1) :
    (serveNext machine).memory
          (cpu.registers.sp.value - BitVec.ofNat 16 (2 * depth + 1)) =
        highByte (chain.getD depth 0) ∧
      (serveNext machine).memory
          (cpu.registers.sp.value - BitVec.ofNat 16 (2 * depth + 2)) =
        lowByte (chain.getD depth 0) := by
  have highFlag := avoids (2 * depth + 1) (by omega) (by omega)
  have lowFlag := avoids (2 * depth + 2) (by omega) (by omega)
  rw [nested.serveNext_memory queue]
  by_cases last : depth = count
  · subst last
    have apart :=
      sub_ofNat_ne cpu.registers.sp.value
        (show 2 * depth + 2 ≠ 2 * depth + 1 by omega) (by omega) (by omega)
    rw [Function.update_self, Function.update_of_ne apart,
      Function.update_self]
    exact ⟨rfl, rfl⟩
  · have apart :
        ∀ first ≤ 2 * count, ∀ second, 2 * count < second →
          second ≤ 2 * count + 2 →
            cpu.registers.sp.value - BitVec.ofNat 16 first ≠
              cpu.registers.sp.value - BitVec.ofNat 16 second := by
      intro first old second new top
      exact sub_ofNat_ne _ (by omega) (by omega) (by omega)
    have high := apart (2 * depth + 1) (by omega)
    have low := apart (2 * depth + 2) (by omega)
    have earlier := nested.stored depth (by omega)
    rw [Function.update_of_ne (high (2 * count + 1) (by omega) (by omega)),
      Function.update_of_ne (high (2 * count + 2) (by omega) (by omega)),
      Function.update_of_ne highFlag,
      Function.update_of_ne (low (2 * count + 1) (by omega) (by omega)),
      Function.update_of_ne (low (2 * count + 2) (by omega) (by omega)),
      Function.update_of_ne lowFlag]
    exact earlier

theorem Nested.serveNext_frame
    (nested : Nested cpu memory chain count machine)
    (queue : setBits (pendingMask machine.2) = bit :: rest)
    {addr : Address} (notFlag : addr ≠ ifAddr)
    (notPushed : ¬ Pushed cpu.registers.sp.value (count + 1) addr) :
    (serveNext machine).memory addr = memory addr := by
  have notHigh :
      addr ≠ cpu.registers.sp.value - BitVec.ofNat 16 (2 * count + 1) :=
    fun same => notPushed ⟨_, by omega, by omega, same⟩
  have notLow :
      addr ≠ cpu.registers.sp.value - BitVec.ofNat 16 (2 * count + 2) :=
    fun same => notPushed ⟨_, by omega, by omega, same⟩
  rw [nested.serveNext_memory queue, Function.update_of_ne notHigh,
    Function.update_of_ne notLow, Function.update_of_ne notFlag]
  refine nested.frame addr notFlag ?_
  rintro ⟨depth, positive, bounded, same⟩
  exact notPushed ⟨depth, positive, by omega, same⟩

/-- One more dispatch goes on with the chain. -/
theorem Nested.serve
    (nested : Nested cpu memory chain count machine)
    (small : 2 * count + 2 < 2 ^ 16)
    (avoids :
      ∀ depth, 1 ≤ depth → depth ≤ 2 * (count + 1) →
        cpu.registers.sp.value - BitVec.ofNat 16 depth ≠ ifAddr)
    (queue : setBits (pendingMask machine.2) = bit :: rest)
    (next : chain.getD (count + 1) 0 = vectorAddress bit) :
    Nested cpu memory chain (count + 1)
      ((serveNext machine).cpu, (serveNext machine).memory) where
  registers := nested.serveNext_registers queue next
  stored := fun _ before => nested.serveNext_stored small avoids queue before
  frame := fun _ notFlag notPushed =>
    nested.serveNext_frame queue notFlag notPushed

/-- As long as no push falls on `IF` or `IE`, serving the pending interrupts
one inside the other loses no return address and changes nothing but `SP`,
`PC`, `IF` and the stack. -/
theorem nested_interrupts_keep_return_addresses
    (avoids :
      stackAvoids cpu.registers.sp.value
        (setBits (pendingMask memory)).length)
    {count : Nat}
    (served : count ≤ (setBits (pendingMask memory)).length) :
    Nested cpu memory
      (returnChain cpu.registers.pc.value (setBits (pendingMask memory)))
      count (afterServing count (cpu, memory)) := by
  induction count with
  | zero =>
      refine ⟨?_, ?_, ?_⟩
      · have unmoved :
            cpu.registers.sp.value - BitVec.ofNat 16 (2 * 0) =
              cpu.registers.sp.value := BitVec.sub_zero _
        rw [unmoved]
        rfl
      · intro depth before
        exact absurd before (Nat.not_lt_zero depth)
      · intro addr _ _
        rfl
  | succ count inductionHypothesis =>
      have few : (setBits (pendingMask memory)).length ≤ 8 := by
        exact (List.length_filter_le _ _).trans
          (Nat.le_of_eq List.length_range)
      have position :
          (setBits (pendingMask memory))[count]? =
            some ((setBits (pendingMask memory)).get ⟨count, served⟩) :=
        List.getElem?_eq_getElem served
      rcases serving_drains.head_iterate (cpu, memory) avoids position with
        ⟨rest, queue⟩
      rw [afterServing, Function.iterate_succ_apply']
      refine
        (inductionHypothesis (Nat.le_of_succ_le served)).serve (by omega) ?_
          queue ?_
      · intro depth positive bounded
        exact (avoids depth positive (by omega)).1
      · rw [returnChain, List.getD_cons_succ, List.getD_eq_getElem?_getD,
          List.getElem?_map, position]
        rfl

/-- All five interrupts are served at once: the interrupted program counter
lies at the bottom of the stack. -/
theorem five_interrupts_keep_program_counter :
    let cpu : CPU := { registers := { sp := ⟨0xDFFE⟩, pc := ⟨0x1234⟩ } }
    let memory : FlatMemory := fun _ => 0xFF
    (afterServing 5 (cpu, memory)).2 0xDFFD = 0x12 ∧
      (afterServing 5 (cpu, memory)).2 0xDFFC = 0x34 := by
  intro cpu memory
  have five : (setBits (pendingMask memory)).length = 5 :=
    show (setBits ((0xFF : Byte) &&& 0xFF &&& 0x1F)).length = 5 by decide
  have avoids :
      ∀ depth ≤ 10,
        (0xDFFE : Word) - BitVec.ofNat 16 depth ≠ ifAddr ∧
          (0xDFFE : Word) - BitVec.ofNat 16 depth ≠ ieAddr := by
    decide
  have avoids' :
      stackAvoids cpu.registers.sp.value
        (setBits (pendingMask memory)).length := by
    rw [five]
    exact fun depth _ bounded => avoids depth bounded
  have bottom :=
    (nested_interrupts_keep_return_addresses avoids'
      (Nat.le_of_eq five.symm)).stored 0 (by decide)
  have high :
      cpu.registers.sp.value - BitVec.ofNat 16 (2 * 0 + 1) = 0xDFFD := by
    decide
  have low :
      cpu.registers.sp.value - BitVec.ofNat 16 (2 * 0 + 2) = 0xDFFC := by
    decide
  rw [high, low, returnChain, List.getD_cons_zero] at bottom
  exact
    ⟨bottom.1.trans (show highByte 0x1234 = 0x12 by decide),
      bottom.2.trans (show lowByte 0x1234 = 0x34 by decide)⟩

end Serving

end CyclePerfectGameboy.CPU
