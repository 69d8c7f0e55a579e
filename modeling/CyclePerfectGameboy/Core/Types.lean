import Mathlib.Algebra.Ring.Nat
import Mathlib.Logic.Function.Basic

/-!
# Machine words of the emulator

`std::uint8_t` and `std::uint16_t` are bit vectors, so every narrowing cast
of the source is a truncation here.  `Address` and `Cycles` only wrap an
unsigned integer in the source and stay transparent; `Register` and
`RegisterPair` keep their accessors.
-/

namespace CyclePerfectGameboy

/-- `std::uint8_t`. -/
abbrev Byte := BitVec 8

/-- `std::uint16_t`. -/
abbrev Word := BitVec 16

/-- `core::Address`: a wrapped 16-bit value; its operators wrap modulo `2^16`. -/
abbrev Address := Word

/-- `core::Cycles`: a wrapped 8-bit cycle count. -/
abbrev Cycles := Byte

/-- `static_cast<std::uint8_t>(value >> 8)`. -/
def highByte (value : Word) : Byte :=
  (value >>> 8).setWidth 8

/-- `static_cast<std::uint8_t>(value & 0xFF)`. -/
def lowByte (value : Word) : Byte :=
  (value &&& 0xFF).setWidth 8

/-- `static_cast<std::uint16_t>((high << 8) | low)`. -/
def joinBytes (high low : Byte) : Word :=
  (high.setWidth 16 <<< 8) ||| low.setWidth 16

section Halves

private theorem lowMask_bit (i : Nat) :
    (0x00FF#16).getLsbD i = decide (i < 8) := by
  by_cases inside : i < 16
  · revert i
    decide
  · rw [BitVec.getLsbD_of_ge _ _ (by omega)]
    simp
    omega

private theorem highMask_bit (i : Nat) :
    (0xFF00#16).getLsbD i = (decide (8 ≤ i) && decide (i < 16)) := by
  by_cases inside : i < 16
  · revert i
    decide
  · rw [BitVec.getLsbD_of_ge _ _ (by omega)]
    simp
    omega

theorem highByte_bit (value : Word) (i : Nat) :
    (highByte value).getLsbD i =
      (decide (i < 8) && value.getLsbD (8 + i)) := by
  simp only [highByte, BitVec.getLsbD_setWidth,
    BitVec.getLsbD_ushiftRight]

theorem lowByte_bit (value : Word) (i : Nat) :
    (lowByte value).getLsbD i = (decide (i < 8) && value.getLsbD i) := by
  simp only [lowByte, BitVec.getLsbD_setWidth, BitVec.getLsbD_and,
    BitVec.ofNat_eq_ofNat, lowMask_bit]
  grind

theorem joinBytes_bit (high low : Byte) (i : Nat) :
    (joinBytes high low).getLsbD i =
      if i < 8 then low.getLsbD i else high.getLsbD (i - 8) := by
  simp only [joinBytes, BitVec.getLsbD_or, BitVec.getLsbD_setWidth,
    BitVec.getLsbD_shiftLeft]
  by_cases inLow : i < 8
  · simp [inLow]
    omega
  · simp [inLow]
    grind

@[simp]
theorem highByte_joinBytes (high low : Byte) :
    highByte (joinBytes high low) = high := by
  apply BitVec.eq_of_getLsbD_eq
  intro i inside
  rw [highByte_bit, joinBytes_bit]
  simp [inside]

@[simp]
theorem lowByte_joinBytes (high low : Byte) :
    lowByte (joinBytes high low) = low := by
  apply BitVec.eq_of_getLsbD_eq
  intro i inside
  rw [lowByte_bit, joinBytes_bit]
  simp [inside]

@[simp]
theorem joinBytes_highByte_lowByte (value : Word) :
    joinBytes (highByte value) (lowByte value) = value := by
  apply BitVec.eq_of_getLsbD_eq
  intro i inside
  rw [joinBytes_bit, highByte_bit, lowByte_bit]
  grind

/-- The expression of `RegisterPair::set_high`. -/
theorem keepLow_or_high (value : Word) (high : Byte) :
    (value &&& 0x00FF) ||| (high.setWidth 16 <<< 8) =
      joinBytes high (lowByte value) := by
  apply BitVec.eq_of_getLsbD_eq
  intro i inside
  simp [joinBytes_bit, lowByte_bit, lowMask_bit]
  grind

/-- The expression of `RegisterPair::set_low`. -/
theorem keepHigh_or_low (value : Word) (low : Byte) :
    (value &&& 0xFF00) ||| low.setWidth 16 =
      joinBytes (highByte value) low := by
  apply BitVec.eq_of_getLsbD_eq
  intro i inside
  simp [joinBytes_bit, highByte_bit, highMask_bit]
  grind

theorem highByte_and (left right : Word) :
    highByte (left &&& right) = highByte left &&& highByte right := by
  apply BitVec.eq_of_getLsbD_eq
  intro i inside
  simp only [highByte_bit, BitVec.getLsbD_and]
  grind

theorem lowByte_and (left right : Word) :
    lowByte (left &&& right) = lowByte left &&& lowByte right := by
  apply BitVec.eq_of_getLsbD_eq
  intro i inside
  simp only [lowByte_bit, BitVec.getLsbD_and]
  grind

/-- Masking a word with `0xFFF0`, as the setters of `AF` do, clears the low
nibble and nothing else. -/
theorem and_flagMask (value : Word) :
    value &&& 0xFFF0 =
      joinBytes (highByte value) (lowByte value &&& 0xF0) := by
  rw [← joinBytes_highByte_lowByte (value &&& 0xFFF0),
    highByte_and, lowByte_and]
  have highMask : highByte 0xFFF0 = BitVec.allOnes 8 := by decide
  have lowMask : lowByte 0xFFF0 = 0xF0 := by decide
  rw [highMask, lowMask, BitVec.and_allOnes]

end Halves

/-- `core::Register`. -/
structure Register where
  value : Byte := 0
  deriving DecidableEq, Repr

/-- `core::RegisterPair`. -/
structure RegisterPair where
  value : Word := 0
  deriving DecidableEq, Repr

namespace RegisterPair

/-- The constructor from two registers. -/
def ofRegisters (high low : Register) : RegisterPair :=
  ⟨joinBytes high.value low.value⟩

def high (pair : RegisterPair) : Register :=
  ⟨highByte pair.value⟩

def low (pair : RegisterPair) : Register :=
  ⟨lowByte pair.value⟩

def setHigh (pair : RegisterPair) (value : Byte) : RegisterPair :=
  ⟨(pair.value &&& 0x00FF) ||| (value.setWidth 16 <<< 8)⟩

def setLow (pair : RegisterPair) (value : Byte) : RegisterPair :=
  ⟨(pair.value &&& 0xFF00) ||| value.setWidth 16⟩

def toAddress (pair : RegisterPair) : Address :=
  pair.value

@[simp]
theorem ofRegisters_high_low (pair : RegisterPair) :
    ofRegisters pair.high pair.low = pair := by
  simp [ofRegisters, high, low]

@[simp]
theorem high_setHigh (pair : RegisterPair) (value : Byte) :
    (pair.setHigh value).high = ⟨value⟩ := by
  simp only [setHigh, high, keepLow_or_high, highByte_joinBytes]

@[simp]
theorem low_setHigh (pair : RegisterPair) (value : Byte) :
    (pair.setHigh value).low = pair.low := by
  simp only [setHigh, low, keepLow_or_high, lowByte_joinBytes]

@[simp]
theorem high_setLow (pair : RegisterPair) (value : Byte) :
    (pair.setLow value).high = pair.high := by
  simp only [setLow, high, keepHigh_or_low, highByte_joinBytes]

@[simp]
theorem low_setLow (pair : RegisterPair) (value : Byte) :
    (pair.setLow value).low = ⟨value⟩ := by
  simp only [setLow, low, keepHigh_or_low, lowByte_joinBytes]

end RegisterPair

end CyclePerfectGameboy
