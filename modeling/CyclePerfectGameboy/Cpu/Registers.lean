import CyclePerfectGameboy.Cpu.Flags

namespace CyclePerfectGameboy

/-- `cpu::Registers`: the register pairs, packed two bytes to a word. -/
structure Registers where
  af : RegisterPair := {}
  bc : RegisterPair := {}
  de : RegisterPair := {}
  hl : RegisterPair := {}
  sp : RegisterPair := {}
  pc : RegisterPair := {}
  deriving DecidableEq, Repr

namespace Registers

def a (regs : Registers) : Register := regs.af.high
def f (regs : Registers) : FlagRegister := ⟨regs.af.low.value⟩
def b (regs : Registers) : Register := regs.bc.high
def c (regs : Registers) : Register := regs.bc.low
def d (regs : Registers) : Register := regs.de.high
def e (regs : Registers) : Register := regs.de.low
def h (regs : Registers) : Register := regs.hl.high
def l (regs : Registers) : Register := regs.hl.low

def getAf (regs : Registers) : RegisterPair := regs.af
def getBc (regs : Registers) : RegisterPair := regs.bc
def getDe (regs : Registers) : RegisterPair := regs.de
def getHl (regs : Registers) : RegisterPair := regs.hl
def getSp (regs : Registers) : RegisterPair := regs.sp
def getPc (regs : Registers) : RegisterPair := regs.pc

def setAf (regs : Registers) (value : Word) : Registers :=
  { regs with af := ⟨value &&& 0xFFF0⟩ }

def setBc (regs : Registers) (value : Word) : Registers :=
  { regs with bc := ⟨value⟩ }

def setDe (regs : Registers) (value : Word) : Registers :=
  { regs with de := ⟨value⟩ }

def setHl (regs : Registers) (value : Word) : Registers :=
  { regs with hl := ⟨value⟩ }

def setSp (regs : Registers) (value : Word) : Registers :=
  { regs with sp := ⟨value⟩ }

def setPc (regs : Registers) (value : Word) : Registers :=
  { regs with pc := ⟨value⟩ }

def setAfPair (regs : Registers) (value : RegisterPair) : Registers :=
  { regs with af := ⟨value.value &&& 0xFFF0⟩ }

def setBcPair (regs : Registers) (value : RegisterPair) : Registers :=
  { regs with bc := ⟨value.value⟩ }

def setDePair (regs : Registers) (value : RegisterPair) : Registers :=
  { regs with de := ⟨value.value⟩ }

def setHlPair (regs : Registers) (value : RegisterPair) : Registers :=
  { regs with hl := ⟨value.value⟩ }

def setSpPair (regs : Registers) (value : RegisterPair) : Registers :=
  { regs with sp := ⟨value.value⟩ }

def setPcPair (regs : Registers) (value : RegisterPair) : Registers :=
  { regs with pc := ⟨value.value⟩ }

def getA (regs : Registers) : Byte := regs.af.high.value
def getF (regs : Registers) : Byte := regs.af.low.value
def getB (regs : Registers) : Byte := regs.bc.high.value
def getC (regs : Registers) : Byte := regs.bc.low.value
def getD (regs : Registers) : Byte := regs.de.high.value
def getE (regs : Registers) : Byte := regs.de.low.value
def getH (regs : Registers) : Byte := regs.hl.high.value
def getL (regs : Registers) : Byte := regs.hl.low.value

def setA (regs : Registers) (value : Byte) : Registers :=
  { regs with af := regs.af.setHigh value }

/-- The low nibble of `F` always reads zero. -/
def setF (regs : Registers) (value : Byte) : Registers :=
  { regs with af := regs.af.setLow (value &&& 0xF0) }

def setB (regs : Registers) (value : Byte) : Registers :=
  { regs with bc := regs.bc.setHigh value }

def setC (regs : Registers) (value : Byte) : Registers :=
  { regs with bc := regs.bc.setLow value }

def setD (regs : Registers) (value : Byte) : Registers :=
  { regs with de := regs.de.setHigh value }

def setE (regs : Registers) (value : Byte) : Registers :=
  { regs with de := regs.de.setLow value }

def setH (regs : Registers) (value : Byte) : Registers :=
  { regs with hl := regs.hl.setHigh value }

def setL (regs : Registers) (value : Byte) : Registers :=
  { regs with hl := regs.hl.setLow value }

def flagZero (regs : Registers) : Bool := regs.f.zero
def flagSubtract (regs : Registers) : Bool := regs.f.subtract
def flagHalfCarry (regs : Registers) : Bool := regs.f.halfCarry
def flagCarry (regs : Registers) : Bool := regs.f.carry

def getZeroFlag (regs : Registers) : Bool := regs.flagZero
def getSubtractFlag (regs : Registers) : Bool := regs.flagSubtract
def getHalfCarryFlag (regs : Registers) : Bool := regs.flagHalfCarry
def getCarryFlag (regs : Registers) : Bool := regs.flagCarry

def setFlagZero (regs : Registers) (value : Bool) : Registers :=
  regs.setF (regs.f.setZero value).value

def setFlagSubtract (regs : Registers) (value : Bool) : Registers :=
  regs.setF (regs.f.setSubtract value).value

def setFlagHalfCarry (regs : Registers) (value : Bool) : Registers :=
  regs.setF (regs.f.setHalfCarry value).value

def setFlagCarry (regs : Registers) (value : Bool) : Registers :=
  regs.setF (regs.f.setCarry value).value

def setZeroFlag (regs : Registers) (value : Bool) : Registers :=
  regs.setFlagZero value

def setSubtractFlag (regs : Registers) (value : Bool) : Registers :=
  regs.setFlagSubtract value

def setHalfCarryFlag (regs : Registers) (value : Bool) : Registers :=
  regs.setFlagHalfCarry value

def setCarryFlag (regs : Registers) (value : Bool) : Registers :=
  regs.setFlagCarry value

end Registers

end CyclePerfectGameboy
