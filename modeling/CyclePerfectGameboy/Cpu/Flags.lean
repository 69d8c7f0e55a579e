import CyclePerfectGameboy.Core.Types

namespace CyclePerfectGameboy

/-- `cpu::Flag`. -/
inductive Flag where
  | zero
  | subtract
  | halfCarry
  | carry
  deriving DecidableEq, Repr

/-- The enumerator's value: the bit position of the flag. -/
def Flag.bit : Flag → Nat
  | .zero => 7
  | .subtract => 6
  | .halfCarry => 5
  | .carry => 4

/-- `static_cast<std::uint8_t>(1U << static_cast<std::uint8_t>(flag))`. -/
def Flag.mask (flag : Flag) : Byte :=
  1#8 <<< flag.bit

/-- `cpu::FlagRegister`. -/
structure FlagRegister where
  value : Byte := 0
  deriving DecidableEq, Repr

namespace FlagRegister

/-- The four getters test one bit each. -/
def test (flags : FlagRegister) (flag : Flag) : Bool :=
  flags.value &&& flag.mask != 0

/-- The four setters set or clear one bit each; unlike `set`, they leave the
low nibble alone. -/
def assign (flags : FlagRegister) (flag : Flag) (value : Bool) : FlagRegister :=
  if value then
    ⟨flags.value ||| flag.mask⟩
  else
    ⟨flags.value &&& ~~~flag.mask⟩

def zero (flags : FlagRegister) : Bool := flags.test .zero
def subtract (flags : FlagRegister) : Bool := flags.test .subtract
def halfCarry (flags : FlagRegister) : Bool := flags.test .halfCarry
def carry (flags : FlagRegister) : Bool := flags.test .carry

def setZero (flags : FlagRegister) (value : Bool) : FlagRegister :=
  flags.assign .zero value

def setSubtract (flags : FlagRegister) (value : Bool) : FlagRegister :=
  flags.assign .subtract value

def setHalfCarry (flags : FlagRegister) (value : Bool) : FlagRegister :=
  flags.assign .halfCarry value

def setCarry (flags : FlagRegister) (value : Bool) : FlagRegister :=
  flags.assign .carry value

end FlagRegister

end CyclePerfectGameboy
