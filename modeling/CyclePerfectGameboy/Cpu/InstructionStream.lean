import CyclePerfectGameboy.Cpu.Cpu

/-!
# The instruction stream

`PC` is advanced in three places: by each handler, by the branch for the `CB`
prefix and by the branch for unimplemented opcodes.  The table gives the
length that all of them should follow.
-/

namespace CyclePerfectGameboy

universe u

/-- The opcodes that set `PC` to something else: `JR`, `JP`, `CALL`, `RET`,
`RETI` and `RST`. -/
def controlTransfers : List Byte :=
  [0x18, 0x20, 0x28, 0x30, 0x38,
    0xC2, 0xC3, 0xCA, 0xD2, 0xDA, 0xE9,
    0xC4, 0xCC, 0xCD, 0xD4, 0xDC,
    0xC0, 0xC8, 0xC9, 0xD0, 0xD8,
    0xD9,
    0xC7, 0xCF, 0xD7, 0xDF, 0xE7, 0xEF, 0xF7, 0xFF]

/-- The first word of a mnemonic. -/
def operationName (mnemonic : String) : List Char :=
  mnemonic.toList.takeWhile (fun letter => letter != ' ')

/-- They are the entries whose mnemonic names such an operation. -/
theorem controlTransfers_mnemonics :
    ∀ entry ∈ instructionTable,
      entry.opcode ∈ controlTransfers ↔
        operationName entry.mnemonic ∈
          [['J', 'R'], ['J', 'P'], ['C', 'A', 'L', 'L'], ['R', 'E', 'T'],
            ['R', 'E', 'T', 'I'], ['R', 'S', 'T']] := by
  decide +kernel

/-- The length of an instruction of the LR35902: the prefix `CB` has an
opcode byte after it, everything else is as the table says. -/
def instructionLength (opcode : Byte) : Nat :=
  if opcode = 0xCB then 2 else (instructionAt opcode).length.toNat

theorem instructionLength_le (opcode : Byte) :
    instructionLength opcode ≤ 3 := by
  have lengths : ∀ entry ∈ instructionTable, entry.length.toNat ≤ 3 := by
    decide +kernel
  unfold instructionLength
  split
  · decide
  · exact instructionAt_property lengths opcode

/-- How far a handler moves `PC`; only `ld_io_a` looks at the opcode. -/
def Handler.advance (handler : Handler) (opcode : Byte) : Word :=
  match handler with
  | .nop | .halt | .ldRR | .ldAMem | .ldMemA | .ldSpHl | .pushRp
  | .popRp => 1
  | .ldRN | .ldHlSpN => 2
  | .ldAAbs | .ldRpNn | .ldNnSp => 3
  | .ldIoA => if opcode = 0xE0 ∨ opcode = 0xF0 then 2 else 1

/-- Each handler moves `PC` by the length in its own table entry. -/
theorem instructionTable_advance :
    ∀ entry ∈ instructionTable,
      entry.handler.all
        (fun handler =>
          handler.advance entry.opcode == entry.length.setWidth 16) =
        true := by
  decide +kernel

section Memory

variable {M : Type u} [MemoryInterface M]

theorem Handler.call_pc
    (handler : Handler) (regs : Registers) (memory : M) (pc : Address) :
    (handler.call regs memory pc).pc =
      pc + handler.advance (read memory pc) := by
  cases handler with
  | ldIoA =>
      simp only [call, CyclePerfectGameboy.ldIoA, advance]
      split <;> rfl
  | ldAAbs =>
      rfl
  | nop | halt | ldRN | ldRR | ldAMem | ldMemA | ldRpNn | ldNnSp | ldSpHl
  | pushRp | popRp | ldHlSpN =>
      rfl

namespace CPU

/-- The call executes the opcode at `PC`: no interrupt takes its place. -/
def undispatched (cpu : CPU) (memory : M) : Prop :=
  cpu.ime = false ∨ pendingMask memory = 0

theorem executeInstruction_of_undispatched
    {cpu : CPU} {memory : M} (awake : cpu.running)
    (undispatched : cpu.undispatched memory) :
    cpu.executeInstruction memory = cpu.executeOpcode memory := by
  rcases undispatched with disabled | quiet
  · exact executeInstruction_of_disabled memory awake disabled
  · exact executeInstruction_of_quiet awake quiet

/-- The opcode at `PC`. -/
def fetch (cpu : CPU) (memory : M) : Byte :=
  read memory cpu.registers.pc.toAddress

/-- An opcode changes `PC` by its table length, except for the prefix, which
changes it by one. -/
theorem executeOpcode_pc (cpu : CPU) (memory : M) :
    (cpu.executeOpcode memory).cpu.registers.pc.value =
      cpu.registers.pc.value +
        (if cpu.fetch memory = 0xCB then 1
          else
            BitVec.ofNat 16 (instructionLength (cpu.fetch memory))) := by
  have tableLength :
      cpu.fetch memory ≠ 0xCB →
        BitVec.ofNat 16 (instructionLength (cpu.fetch memory)) =
          (instructionAt (cpu.fetch memory)).length.setWidth 16 := by
    intro notPrefix
    rw [instructionLength, if_neg notPrefix]
    exact BitVec.ofNat_toNat _ _
  rcases executeOpcode_cases cpu memory with
    ⟨isPrefix, executed⟩ | ⟨handler, entry, executed⟩ |
      ⟨notPrefix, executed⟩
  · have isPrefix' : cpu.fetch memory = 0xCB := isPrefix
    rw [executed, if_pos isPrefix']
    rfl
  · have advanced :=
      instructionAt_property instructionTable_advance (cpu.fetch memory)
    have handled :
        (instructionAt (cpu.fetch memory)).handler = some handler := entry
    have notPrefix := opcode_ne_prefix_of_handler handled
    rw [handled, Option.all_some, instructionAt_opcode,
      beq_iff_eq] at advanced
    rw [executed, if_neg notPrefix, tableLength notPrefix, ← advanced]
    exact handler.call_pc _ _ _
  · have notPrefix' : cpu.fetch memory ≠ 0xCB := notPrefix
    rw [executed, if_neg notPrefix', tableLength notPrefix']
    rfl

/-- No opcode changes the flags of the CPU. -/
theorem executeOpcode_running
    {cpu : CPU} (awake : cpu.running) (memory : M) :
    (cpu.executeOpcode memory).cpu.running := by
  rcases executeOpcode_cases cpu memory with
    ⟨_, executed⟩ | ⟨handler, _, executed⟩ | ⟨_, executed⟩
  · rw [executed]
    exact awake
  · rw [executed]
    exact awake
  · rw [executed]
    exact awake

/-- An opcode moves `PC` to the next instruction unless it is the prefix. -/
theorem executeOpcode_pc_iff (cpu : CPU) (memory : M) :
    (cpu.executeOpcode memory).cpu.registers.pc.value =
        cpu.registers.pc.value +
          BitVec.ofNat 16 (instructionLength (cpu.fetch memory)) ↔
      cpu.fetch memory ≠ 0xCB := by
  rw [executeOpcode_pc, BitVec.add_right_inj]
  by_cases isPrefix : cpu.fetch memory = 0xCB
  · rw [if_pos isPrefix, isPrefix]
    decide
  · rw [if_neg isPrefix]
    exact ⟨fun _ => isPrefix, fun _ => rfl⟩

/-- The machine after some calls. -/
def machineAt (machine : CPU × M) (calls : Nat) : CPU × M :=
  BudgetLoop.after runBody calls machine

/-- The opcode that the next call finds at `PC`. -/
def opcodeAt (machine : CPU × M) (calls : Nat) : Byte :=
  (machineAt machine calls).1.fetch (machineAt machine calls).2

/-- `PC` before the next call. -/
def pcAt (machine : CPU × M) (calls : Nat) : Address :=
  (machineAt machine calls).1.registers.pc.value

/-- No call so far was an interrupt dispatch. -/
def UndispatchedRun (machine : CPU × M) (calls : Nat) : Prop :=
  ∀ k < calls,
    (machineAt machine k).1.undispatched (machineAt machine k).2

/-- Where the next instruction starts when each one before it took its
length. -/
def streamAddress (machine : CPU × M) : Nat → Address
  | 0 => machine.1.registers.pc.value
  | calls + 1 =>
      streamAddress machine calls +
        BitVec.ofNat 16 (instructionLength (opcodeAt machine calls))

/-- An operand byte of the instruction that the next call executes. -/
def IsOperand (machine : CPU × M) (calls : Nat) (addr : Address) : Prop :=
  ∃ offset, 0 < offset ∧
    offset < instructionLength (opcodeAt machine calls) ∧
    addr = pcAt machine calls + BitVec.ofNat 16 offset

variable {machine : CPU × M}

theorem machineAt_succ (machine : CPU × M) (calls : Nat) :
    machineAt machine (calls + 1) =
      (runBody (machineAt machine calls)).2 :=
  BudgetLoop.after_succ' runBody calls machine

theorem machineAt_running
    (awake : machine.1.running) {calls : Nat}
    (undispatched : UndispatchedRun machine calls) :
    (machineAt machine calls).1.running := by
  induction calls with
  | zero =>
      exact awake
  | succ calls inductionHypothesis =>
      have here :=
        inductionHypothesis
          (fun k before => undispatched k (Nat.lt_succ_of_lt before))
      rw [machineAt_succ]
      change CPU.running (CPU.executeInstruction _ _).cpu
      rw [executeInstruction_of_undispatched here
        (undispatched calls (Nat.lt_succ_self calls))]
      exact executeOpcode_running here _

/-- One call of a run. -/
theorem pcAt_succ
    (awake : machine.1.running) {calls : Nat}
    (undispatched : UndispatchedRun machine (calls + 1)) :
    pcAt machine (calls + 1) =
      pcAt machine calls +
        (if opcodeAt machine calls = 0xCB then 1
          else
            BitVec.ofNat 16
              (instructionLength (opcodeAt machine calls))) := by
  have here :=
    machineAt_running awake
      (fun k before => undispatched k (Nat.lt_succ_of_lt before))
  have executed :=
    executeInstruction_of_undispatched here
      (undispatched calls (Nat.lt_succ_self calls))
  rw [pcAt, machineAt_succ]
  change (CPU.executeInstruction _ _).cpu.registers.pc.value = _
  rw [executed, executeOpcode_pc]
  rfl

/-- The next fetch hits an operand byte exactly after the prefix. -/
theorem isOperand_succ_iff
    (awake : machine.1.running) {calls : Nat}
    (undispatched : UndispatchedRun machine (calls + 1)) :
    IsOperand machine calls (pcAt machine (calls + 1)) ↔
      opcodeAt machine calls = 0xCB := by
  have short := instructionLength_le (opcodeAt machine calls)
  rw [pcAt_succ awake undispatched]
  constructor
  · rintro ⟨offset, positive, inside, same⟩
    by_contra notPrefix
    rw [if_neg notPrefix, BitVec.add_right_inj] at same
    have lengths := congrArg BitVec.toNat same
    rw [BitVec.toNat_ofNat, BitVec.toNat_ofNat,
      Nat.mod_eq_of_lt (by omega), Nat.mod_eq_of_lt (by omega)] at lengths
    omega
  · intro isPrefix
    refine ⟨1, Nat.one_pos, ?_, ?_⟩
    · rw [isPrefix]
      decide
    · rw [if_pos isPrefix]
      rfl

/-- A run keeps to the stream as long as it meets no prefix. -/
theorem pcAt_eq_streamAddress_iff
    (awake : machine.1.running) {calls : Nat}
    (undispatched : UndispatchedRun machine calls) :
    (∀ k ≤ calls, pcAt machine k = streamAddress machine k) ↔
      ∀ k < calls, opcodeAt machine k ≠ 0xCB := by
  have upTo :
      ∀ k < calls, UndispatchedRun machine (k + 1) := by
    intro k before earlier order
    exact undispatched earlier (by omega)
  constructor
  · intro inSync k before isPrefix
    have here := inSync k (Nat.le_of_lt before)
    have next := inSync (k + 1) before
    rw [pcAt_succ awake (upTo k before), streamAddress, here, isPrefix,
      BitVec.add_right_inj] at next
    exact absurd next (by decide)
  · intro noPrefix k order
    induction k with
    | zero =>
        rfl
    | succ k inductionHypothesis =>
        rw [pcAt_succ awake (upTo k order), streamAddress,
          inductionHypothesis (Nat.le_of_succ_le order),
          if_neg (noPrefix k order)]

end CPU

end Memory

namespace CPU

/-- `PC` follows the instruction lengths, in one call and along every run,
exactly as long as no `CB` prefix is executed. -/
theorem instruction_stream_in_sync_iff
    (cpu : CPU) (memory : FlatMemory) (awake : cpu.running) :
    (cpu.undispatched memory →
      ((cpu.executeInstruction memory).cpu.registers.pc.value =
          cpu.registers.pc.value +
            BitVec.ofNat 16
              (instructionLength (memory cpu.registers.pc.value)) ↔
        memory cpu.registers.pc.value ≠ 0xCB)) ∧
      ∀ calls, UndispatchedRun (cpu, memory) calls →
        ((∀ k ≤ calls,
            pcAt (cpu, memory) k = streamAddress (cpu, memory) k) ↔
          ∀ k < calls, opcodeAt (cpu, memory) k ≠ 0xCB) ∧
        ((∀ k < calls,
            ¬ IsOperand (cpu, memory) k (pcAt (cpu, memory) (k + 1))) ↔
          ∀ k < calls, opcodeAt (cpu, memory) k ≠ 0xCB) := by
  refine ⟨?_, ?_⟩
  · intro undispatched
    rw [executeInstruction_of_undispatched awake undispatched]
    exact executeOpcode_pc_iff cpu memory
  · intro calls undispatched
    refine ⟨pcAt_eq_streamAddress_iff awake undispatched, ?_⟩
    have here :
        ∀ k < calls,
          (IsOperand (cpu, memory) k (pcAt (cpu, memory) (k + 1)) ↔
            opcodeAt (cpu, memory) k = 0xCB) := by
      intro k before
      exact
        isOperand_succ_iff awake
          (fun earlier order => undispatched earlier (by omega))
    constructor
    · intro aligned k before isPrefix
      exact aligned k before ((here k before).mpr isPrefix)
    · intro noPrefix k before operand
      exact noPrefix k before ((here k before).mp operand)

/-- At `0xFFFF` a three-byte load wraps to `0x0002`. -/
theorem instruction_stream_wraps :
    let cpu : CPU := { registers := { pc := ⟨0xFFFF⟩ } }
    let memory : FlatMemory := Function.update (fun _ => 0) 0xFFFF 0x01
    (cpu.executeInstruction memory).cpu.registers.pc.value = 0x0002 := by
  intro cpu memory
  have advanced :=
    ((instruction_stream_in_sync_iff cpu memory ⟨rfl, rfl⟩).1
      (Or.inl rfl)).mpr (by decide)
  exact advanced.trans (by decide)

/-- After the prefix the byte that it belongs to is fetched as an opcode. -/
theorem prefix_loses_sync :
    ¬ ∀ (cpu : CPU) (memory : FlatMemory),
      cpu.running → cpu.undispatched memory →
        memory cpu.registers.pc.value ∉ controlTransfers →
          (cpu.executeInstruction memory).cpu.registers.pc.value =
            cpu.registers.pc.value +
              BitVec.ofNat 16
                (instructionLength (memory cpu.registers.pc.value)) := by
  intro always
  have advanced :=
    always {} (fun _ => 0xCB) ⟨rfl, rfl⟩ (Or.inl rfl) (by decide)
  exact absurd advanced (by decide)

end CPU

end CyclePerfectGameboy
