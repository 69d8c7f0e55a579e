import CyclePerfectGameboy.Cpu.Registers
import CyclePerfectGameboy.Memory.MemoryInterface

/-!
# The load handlers

Every handler takes the registers, the memory and the program counter by
reference and returns a cycle count; `HandlerResult` holds the three
references after the call together with that count.  Each handler fetches its
opcode again and decodes it on its own.
-/

namespace CyclePerfectGameboy

universe u

structure HandlerResult (M : Type u) where
  regs : Registers
  memory : M
  pc : Address
  cycles : Cycles

variable {M : Type u} [MemoryInterface M]

/-- `LD r, n`: opcodes `06 0E 16 1E 26 2E 3E`. -/
def ldRN (regs : Registers) (memory : M) (pc : Address) :
    HandlerResult M :=
  let value := read memory (pc + 1)
  let opcode := read memory pc
  let regIdx := (opcode >>> 3) &&& 0x07
  { regs :=
      match regIdx.toNat with
      | 0 => regs.setB value
      | 1 => regs.setC value
      | 2 => regs.setD value
      | 3 => regs.setE value
      | 4 => regs.setH value
      | 5 => regs.setL value
      | 7 => regs.setA value
      | _ => regs
    memory := memory
    pc := pc + 2
    cycles := 8 }

/-- The first switch of `ld_r_r`. -/
def ldRRSource (regs : Registers) (memory : M) (srcReg : Byte) : Byte :=
  match srcReg.toNat with
  | 0 => regs.getB
  | 1 => regs.getC
  | 2 => regs.getD
  | 3 => regs.getE
  | 4 => regs.getH
  | 5 => regs.getL
  | 6 => read memory regs.hl.toAddress
  | 7 => regs.getA
  | _ => 0

/-- The second switch of `ld_r_r`. -/
def ldRRDestination (regs : Registers) (memory : M)
    (dstReg : Byte) (value : Byte) : Registers × M :=
  match dstReg.toNat with
  | 0 => (regs.setB value, memory)
  | 1 => (regs.setC value, memory)
  | 2 => (regs.setD value, memory)
  | 3 => (regs.setE value, memory)
  | 4 => (regs.setH value, memory)
  | 5 => (regs.setL value, memory)
  | 6 => (regs, write memory regs.hl.toAddress value)
  | 7 => (regs.setA value, memory)
  | _ => (regs, memory)

/-- `LD r, r'`: opcodes `40` to `7F` except `76`. -/
def ldRR (regs : Registers) (memory : M) (pc : Address) :
    HandlerResult M :=
  let opcode := read memory pc
  let srcReg := opcode &&& 0x07
  let dstReg := (opcode >>> 3) &&& 0x07
  let value := ldRRSource regs memory srcReg
  let stored := ldRRDestination regs memory dstReg value
  { regs := stored.1
    memory := stored.2
    pc := pc + 1
    cycles := if srcReg = 6 ∨ dstReg = 6 then 8 else 4 }

/-- The `increment_hl` and `decrement_hl` flags of two handlers. -/
inductive HlUpdate where
  | none
  | increment
  | decrement
  deriving DecidableEq, Repr

/-- The step that both handlers apply to `HL` after the transfer. -/
def HlUpdate.apply (update : HlUpdate) (regs : Registers) : Registers :=
  match update with
  | .none => regs
  | .increment => regs.setHlPair ⟨regs.hl.value + 1⟩
  | .decrement => regs.setHlPair ⟨regs.hl.value - 1⟩

/-- `LD A, (BC)`, `(DE)`, `(HL+)`, `(HL-)`: opcodes `0A 1A 2A 3A`. -/
def ldAMem (regs : Registers) (memory : M) (pc : Address) :
    HandlerResult M :=
  let opcode := read memory pc
  let (srcAddr, update) : Address × HlUpdate :=
    match opcode with
    | 0x0A => (regs.bc.toAddress, .none)
    | 0x1A => (regs.de.toAddress, .none)
    | 0x2A => (regs.hl.toAddress, .increment)
    | 0x3A => (regs.hl.toAddress, .decrement)
    | _ => (0, .none)
  let value := read memory srcAddr
  { regs := update.apply (regs.setA value)
    memory := memory
    pc := pc + 1
    cycles := 8 }

/-- `LD (BC), A`, `(DE)`, `(HL+)`, `(HL-)`: opcodes `02 12 22 32`. -/
def ldMemA (regs : Registers) (memory : M) (pc : Address) :
    HandlerResult M :=
  let opcode := read memory pc
  let (dstAddr, update) : Address × HlUpdate :=
    match opcode with
    | 0x02 => (regs.bc.toAddress, .none)
    | 0x12 => (regs.de.toAddress, .none)
    | 0x22 => (regs.hl.toAddress, .increment)
    | 0x32 => (regs.hl.toAddress, .decrement)
    | _ => (0, .none)
  { regs := update.apply regs
    memory := write memory dstAddr regs.getA
    pc := pc + 1
    cycles := 8 }

/-- `LD (nn), A` and `LD A, (nn)`: opcodes `EA FA`. -/
def ldAAbs (regs : Registers) (memory : M) (pc : Address) :
    HandlerResult M :=
  let opcode := read memory pc
  let lowByte := read memory (pc + 1)
  let highByte := read memory (pc + 2)
  let addr := joinBytes highByte lowByte
  let (regs', memory') : Registers × M :=
    if opcode = 0xEA then
      (regs, write memory addr regs.getA)
    else if opcode = 0xFA then
      (regs.setA (read memory addr), memory)
    else
      (regs, memory)
  { regs := regs'
    memory := memory'
    pc := pc + 3
    cycles := 16 }

/-- `LD rp, nn`: opcodes `01 11 21 31`. -/
def ldRpNn (regs : Registers) (memory : M) (pc : Address) :
    HandlerResult M :=
  let opcode := read memory pc
  let lowByte := read memory (pc + 1)
  let highByte := read memory (pc + 2)
  let value := joinBytes highByte lowByte
  { regs :=
      match opcode with
      | 0x01 => regs.setBcPair ⟨value⟩
      | 0x11 => regs.setDePair ⟨value⟩
      | 0x21 => regs.setHlPair ⟨value⟩
      | 0x31 => regs.setSpPair ⟨value⟩
      | _ => regs
    memory := memory
    pc := pc + 3
    cycles := 12 }

/-- `LD (nn), SP`: opcode `08`. -/
def ldNnSp (regs : Registers) (memory : M) (pc : Address) :
    HandlerResult M :=
  let addressLow := read memory (pc + 1)
  let addressHigh := read memory (pc + 2)
  let address := joinBytes addressHigh addressLow
  let spValue := regs.sp.value
  let memory := write memory address (lowByte spValue)
  let memory := write memory (address + 1) (highByte spValue)
  { regs := regs
    memory := memory
    pc := pc + 3
    cycles := 20 }

/-- `LD SP, HL`: opcode `F9`. -/
def ldSpHl (regs : Registers) (memory : M) (pc : Address) :
    HandlerResult M :=
  { regs := regs.setSpPair regs.hl
    memory := memory
    pc := pc + 1
    cycles := 8 }

/-- `PUSH rp`: opcodes `C5 D5 E5 F5`; the high byte goes first. -/
def pushRp (regs : Registers) (memory : M) (pc : Address) :
    HandlerResult M :=
  let opcode := read memory pc
  let value : Word :=
    match opcode with
    | 0xC5 => regs.bc.value
    | 0xD5 => regs.de.value
    | 0xE5 => regs.hl.value
    | 0xF5 => regs.af.value
    | _ => 0
  let regs := regs.setSpPair ⟨regs.sp.value - 1⟩
  let memory := write memory regs.sp.toAddress (highByte value)
  let regs := regs.setSpPair ⟨regs.sp.value - 1⟩
  let memory := write memory regs.sp.toAddress (lowByte value)
  { regs := regs
    memory := memory
    pc := pc + 1
    cycles := 16 }

/-- `POP rp`: opcodes `C1 D1 E1 F1`. -/
def popRp (regs : Registers) (memory : M) (pc : Address) :
    HandlerResult M :=
  let opcode := read memory pc
  let lowByte := read memory regs.sp.toAddress
  let regs := regs.setSpPair ⟨regs.sp.value + 1⟩
  let highByte := read memory regs.sp.toAddress
  let regs := regs.setSpPair ⟨regs.sp.value + 1⟩
  let value := joinBytes highByte lowByte
  { regs :=
      match opcode with
      | 0xC1 => regs.setBcPair ⟨value⟩
      | 0xD1 => regs.setDePair ⟨value⟩
      | 0xE1 => regs.setHlPair ⟨value⟩
      | 0xF1 => regs.setAfPair ⟨value &&& 0xFFF0⟩
      | _ => regs
    memory := memory
    pc := pc + 1
    cycles := 12 }

/-- The port address `0xFF00 + offset`. -/
def ioAddress (offset : Byte) : Address :=
  0xFF00 + offset.setWidth 16

/-- `LDH (n), A`, `LDH A, (n)`, `LD (C), A`, `LD A, (C)`: opcodes
`E0 F0 E2 F2`. -/
def ldIoA (regs : Registers) (memory : M) (pc : Address) :
    HandlerResult M :=
  let opcode := read memory pc
  let (addr, isWrite) : Address × Bool :=
    match opcode with
    | 0xE0 => (ioAddress (read memory (pc + 1)), true)
    | 0xF0 => (ioAddress (read memory (pc + 1)), false)
    | 0xE2 => (ioAddress regs.getC, true)
    | 0xF2 => (ioAddress regs.getC, false)
    | _ => (0, false)
  let (regs', memory') : Registers × M :=
    if isWrite then
      (regs, write memory addr regs.getA)
    else
      (regs.setA (read memory addr), memory)
  { regs := regs'
    memory := memory'
    pc := if opcode = 0xE0 ∨ opcode = 0xF0 then pc + 2 else pc + 1
    cycles := 12 }

/-- `LD HL, SP+n`: opcode `F8`.  The signed offset and `SP` are promoted to
`int` before they are added and masked. -/
def ldHlSpN (regs : Registers) (memory : M) (pc : Address) :
    HandlerResult M :=
  let offset : BitVec 32 := (read memory (pc + 1)).signExtend 32
  let sp : BitVec 32 := regs.sp.value.setWidth 32
  let result : Word := (sp + offset).setWidth 16
  let regs := regs.setHlPair ⟨result⟩
  let regs := regs.setZeroFlag false
  let regs := regs.setSubtractFlag false
  let regs :=
    regs.setHalfCarryFlag
      (decide (((sp &&& 0x0F) + (offset &&& 0x0F)).toInt > 0x0F))
  let regs :=
    regs.setCarryFlag
      (decide (((sp &&& 0xFF) + (offset &&& 0xFF)).toInt > 0xFF))
  { regs := regs
    memory := memory
    pc := pc + 2
    cycles := 12 }

end CyclePerfectGameboy
