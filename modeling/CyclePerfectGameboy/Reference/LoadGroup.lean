import CyclePerfectGameboy.Core.Types

/-!
# Reference semantics of the load group

The LR35902 as its programmers know it: eight byte registers, two words and
64 KiB of memory.  An instruction is what its mnemonic says, not an opcode.
-/

namespace CyclePerfectGameboy.Reference

inductive Reg8 where
  | a
  | b
  | c
  | d
  | e
  | h
  | l
  deriving DecidableEq, Repr

/-- A register pair that both `LD rp,nn` and the stack instructions know. -/
inductive Pair where
  | bc
  | de
  | hl
  deriving DecidableEq, Repr

/-- The operands of `LD A,(rp)` and `LD (rp),A`. -/
inductive Pointer where
  | bc
  | de
  | hlIncrement
  | hlDecrement
  deriving DecidableEq, Repr

def Pointer.pair : Pointer → Pair
  | .bc => .bc
  | .de => .de
  | .hlIncrement => .hl
  | .hlDecrement => .hl

inductive LoadInstruction where
  | ldImmediate (target : Reg8)
  | ldReg (target source : Reg8)
  | ldFromHl (target : Reg8)
  | ldToHl (source : Reg8)
  | loadA (pointer : Pointer)
  | storeA (pointer : Pointer)
  | loadAAbsolute
  | storeAAbsolute
  | ldPair (target : Pair)
  | ldSp
  | storeSp
  | ldSpHl
  | push (source : Pair)
  | pushAf
  | pop (target : Pair)
  | popAf
  | loadAHigh
  | storeAHigh
  | loadAHighC
  | storeAHighC
  | ldHlSpOffset
  deriving DecidableEq, Repr

def Reg8.name : Reg8 → String
  | .a => "A"
  | .b => "B"
  | .c => "C"
  | .d => "D"
  | .e => "E"
  | .h => "H"
  | .l => "L"

def Pair.name : Pair → String
  | .bc => "BC"
  | .de => "DE"
  | .hl => "HL"

def Pointer.name : Pointer → String
  | .bc => "(BC)"
  | .de => "(DE)"
  | .hlIncrement => "(HL+)"
  | .hlDecrement => "(HL-)"

def Reg8.all : List Reg8 := [.b, .c, .d, .e, .h, .l, .a]

def Pair.all : List Pair := [.bc, .de, .hl]

def Pointer.all : List Pointer := [.bc, .de, .hlIncrement, .hlDecrement]

namespace LoadInstruction

def mnemonic : LoadInstruction → String
  | .ldImmediate target => "LD " ++ target.name ++ ",n"
  | .ldReg target source => "LD " ++ target.name ++ "," ++ source.name
  | .ldFromHl target => "LD " ++ target.name ++ ",(HL)"
  | .ldToHl source => "LD (HL)," ++ source.name
  | .loadA pointer => "LD A," ++ pointer.name
  | .storeA pointer => "LD " ++ pointer.name ++ ",A"
  | .loadAAbsolute => "LD A,(nn)"
  | .storeAAbsolute => "LD (nn),A"
  | .ldPair target => "LD " ++ target.name ++ ",nn"
  | .ldSp => "LD SP,nn"
  | .storeSp => "LD (nn),SP"
  | .ldSpHl => "LD SP,HL"
  | .push source => "PUSH " ++ source.name
  | .pushAf => "PUSH AF"
  | .pop target => "POP " ++ target.name
  | .popAf => "POP AF"
  | .loadAHigh => "LDH A,(n)"
  | .storeAHigh => "LDH (n),A"
  | .loadAHighC => "LD A,(C)"
  | .storeAHighC => "LD (C),A"
  | .ldHlSpOffset => "LD HL,SP+n"

/-- Every load instruction. -/
def all : List LoadInstruction :=
  Reg8.all.map ldImmediate ++
    Reg8.all.flatMap (fun target => Reg8.all.map (ldReg target)) ++
    Reg8.all.map ldFromHl ++ Reg8.all.map ldToHl ++
    Pointer.all.map loadA ++ Pointer.all.map storeA ++
    Pair.all.map ldPair ++ Pair.all.map push ++ Pair.all.map pop ++
    [loadAAbsolute, storeAAbsolute, ldSp, storeSp, ldSpHl, pushAf,
      popAf, loadAHigh, storeAHigh, loadAHighC, storeAHighC,
      ldHlSpOffset]

/-- The instruction that a mnemonic names. -/
def ofMnemonic (mnemonic : String) : Option LoadInstruction :=
  all.find? (fun instruction => instruction.mnemonic == mnemonic)

/-- Opcode byte and operand bytes. -/
def length : LoadInstruction → Nat
  | .ldImmediate _ => 2
  | .loadAAbsolute => 3
  | .storeAAbsolute => 3
  | .ldPair _ => 3
  | .ldSp => 3
  | .storeSp => 3
  | .loadAHigh => 2
  | .storeAHigh => 2
  | .ldHlSpOffset => 2
  | _ => 1

end LoadInstruction

/-- The registers, each on its own. -/
structure Cells where
  a : Byte
  f : Byte
  b : Byte
  c : Byte
  d : Byte
  e : Byte
  h : Byte
  l : Byte
  sp : Word
  pc : Word
  deriving DecidableEq, Repr

structure State where
  cells : Cells
  memory : Address → Byte

/-- The word of two bytes. -/
def word (high low : Byte) : Word :=
  high ++ low

def upper (value : Word) : Byte :=
  value.extractLsb' 8 8

def lower (value : Word) : Byte :=
  value.extractLsb' 0 8

namespace Cells

def get (cells : Cells) : Reg8 → Byte
  | .a => cells.a
  | .b => cells.b
  | .c => cells.c
  | .d => cells.d
  | .e => cells.e
  | .h => cells.h
  | .l => cells.l

def set (cells : Cells) (target : Reg8) (value : Byte) : Cells :=
  match target with
  | .a => { cells with a := value }
  | .b => { cells with b := value }
  | .c => { cells with c := value }
  | .d => { cells with d := value }
  | .e => { cells with e := value }
  | .h => { cells with h := value }
  | .l => { cells with l := value }

def getPair (cells : Cells) : Pair → Word
  | .bc => word cells.b cells.c
  | .de => word cells.d cells.e
  | .hl => word cells.h cells.l

def setPair (cells : Cells) (target : Pair) (value : Word) : Cells :=
  match target with
  | .bc => { cells with b := upper value, c := lower value }
  | .de => { cells with d := upper value, e := lower value }
  | .hl => { cells with h := upper value, l := lower value }

def address (cells : Cells) (pointer : Pointer) : Address :=
  cells.getPair pointer.pair

/-- The step that `HL+` and `HL-` apply to `HL`. -/
def bump (cells : Cells) : Pointer → Cells
  | .bc => cells
  | .de => cells
  | .hlIncrement => cells.setPair .hl (cells.getPair .hl + 1)
  | .hlDecrement => cells.setPair .hl (cells.getPair .hl - 1)

end Cells

/-! ## Execution -/

namespace State

variable (state : State)

def immediate8 : Byte :=
  state.memory (state.cells.pc + 1)

def immediate16 : Word :=
  word (state.memory (state.cells.pc + 2)) (state.memory (state.cells.pc + 1))

/-- `0xFF00 + offset`. -/
def highPage (offset : Byte) : Address :=
  word 0xFF offset

def withCells (cells : Cells) : State :=
  { state with cells := cells }

def store (addr : Address) (value : Byte) : State :=
  { state with memory := Function.update state.memory addr value }

def push (value : Word) : State :=
  let sp := state.cells.sp
  let stored := (state.store (sp - 1) (upper value)).store (sp - 2) (lower value)
  stored.withCells { state.cells with sp := sp - 2 }

/-- The word on top of the stack. -/
def top : Word :=
  word (state.memory (state.cells.sp + 1)) (state.memory state.cells.sp)

/-- `F` with `Z` and `N` clear. -/
def carryFlags (halfCarry carry : Bool) : Byte :=
  (if halfCarry then 0x20 else 0) + (if carry then 0x10 else 0)

/-- Everything but the program counter. -/
def transfer : LoadInstruction → State
  | .ldImmediate target =>
      state.withCells (state.cells.set target state.immediate8)
  | .ldReg target source =>
      state.withCells (state.cells.set target (state.cells.get source))
  | .ldFromHl target =>
      state.withCells
        (state.cells.set target (state.memory (state.cells.getPair .hl)))
  | .ldToHl source =>
      state.store (state.cells.getPair .hl) (state.cells.get source)
  | .loadA pointer =>
      state.withCells
        ((state.cells.set .a (state.memory (state.cells.address pointer))).bump
          pointer)
  | .storeA pointer =>
      (state.store (state.cells.address pointer) state.cells.a).withCells
        (state.cells.bump pointer)
  | .loadAAbsolute =>
      state.withCells (state.cells.set .a (state.memory state.immediate16))
  | .storeAAbsolute => state.store state.immediate16 state.cells.a
  | .ldPair target =>
      state.withCells (state.cells.setPair target state.immediate16)
  | .ldSp => state.withCells { state.cells with sp := state.immediate16 }
  | .storeSp =>
      (state.store state.immediate16 (lower state.cells.sp)).store
        (state.immediate16 + 1) (upper state.cells.sp)
  | .ldSpHl =>
      state.withCells { state.cells with sp := state.cells.getPair .hl }
  | .push source => state.push (state.cells.getPair source)
  | .pushAf => state.push (word state.cells.a state.cells.f)
  | .pop target =>
      state.withCells
        { state.cells.setPair target state.top with sp := state.cells.sp + 2 }
  | .popAf =>
      state.withCells
        { state.cells with
          a := upper state.top
          f := lower state.top &&& 0xF0
          sp := state.cells.sp + 2 }
  | .loadAHigh =>
      state.withCells
        (state.cells.set .a (state.memory (highPage state.immediate8)))
  | .storeAHigh => state.store (highPage state.immediate8) state.cells.a
  | .loadAHighC =>
      state.withCells
        (state.cells.set .a (state.memory (highPage state.cells.c)))
  | .storeAHighC => state.store (highPage state.cells.c) state.cells.a
  | .ldHlSpOffset =>
      let offset := state.immediate8
      let sp := state.cells.sp
      state.withCells
        { state.cells.setPair .hl (sp + offset.signExtend 16) with
          f :=
            carryFlags
              (decide (16 ≤ sp.toNat % 16 + offset.toNat % 16))
              (decide (256 ≤ sp.toNat % 256 + offset.toNat)) }

/-- The state after one instruction; the program counter wraps. -/
def execute (instruction : LoadInstruction) : State :=
  let moved := state.transfer instruction
  moved.withCells
    { moved.cells with
      pc := state.cells.pc + BitVec.ofNat 16 instruction.length }

end State

end CyclePerfectGameboy.Reference
