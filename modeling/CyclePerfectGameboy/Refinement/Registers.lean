import CyclePerfectGameboy.Cpu.Registers
import CyclePerfectGameboy.Reference.LoadGroup

/-!
# Packed registers and cells

The register file packs two bytes to a pair.  `cells` takes the pairs apart,
and every setter of the source changes the cells that its name says.
-/

namespace CyclePerfectGameboy

namespace Reference

theorem word_eq (high low : Byte) : word high low = joinBytes high low := by
  apply BitVec.eq_of_getLsbD_eq
  intro i inside
  rw [joinBytes_bit, word, BitVec.getLsbD_append]

theorem upper_eq (value : Word) : upper value = highByte value := by
  apply BitVec.eq_of_getLsbD_eq
  intro i inside
  rw [highByte_bit, upper, BitVec.getLsbD_extractLsb']

theorem lower_eq (value : Word) : lower value = lowByte value := by
  apply BitVec.eq_of_getLsbD_eq
  intro i inside
  rw [lowByte_bit, lower, BitVec.getLsbD_extractLsb', Nat.zero_add]

end Reference

namespace Registers

open Reference

def cells (regs : Registers) : Cells :=
  { a := regs.getA
    f := regs.getF
    b := regs.getB
    c := regs.getC
    d := regs.getD
    e := regs.getE
    h := regs.getH
    l := regs.getL
    sp := regs.sp.value
    pc := regs.pc.value }

variable (regs : Registers)

/-- The pair of the source behind a pair of cells. -/
def pair : Pair → RegisterPair
  | .bc => regs.bc
  | .de => regs.de
  | .hl => regs.hl

theorem cells_getPair (source : Pair) :
    regs.cells.getPair source = (regs.pair source).value := by
  cases source <;>
    (rw [Cells.getPair, word_eq]
     exact joinBytes_highByte_lowByte _)

theorem cells_af : word regs.cells.a regs.cells.f = regs.af.value := by
  rw [word_eq]
  exact joinBytes_highByte_lowByte regs.af.value

/-- The setter of the source for each byte register. -/
def setReg (target : Reg8) (value : Byte) : Registers :=
  match target with
  | .a => regs.setA value
  | .b => regs.setB value
  | .c => regs.setC value
  | .d => regs.setD value
  | .e => regs.setE value
  | .h => regs.setH value
  | .l => regs.setL value

@[simp]
theorem cells_setReg (target : Reg8) (value : Byte) :
    (regs.setReg target value).cells = regs.cells.set target value := by
  cases target <;>
    simp [cells, setReg, Cells.set, getA, getF, getB, getC, getD, getE, getH,
      getL, setA, setB, setC, setD, setE, setH, setL]

@[simp]
theorem cells_setF (value : Byte) :
    (regs.setF value).cells = { regs.cells with f := value &&& 0xF0 } := by
  simp [cells, setF, getA, getF, getB, getC, getD, getE, getH, getL]

/-- The setter of the source for each register pair. -/
def setRegPair (target : Pair) (value : Word) : Registers :=
  match target with
  | .bc => regs.setBcPair ⟨value⟩
  | .de => regs.setDePair ⟨value⟩
  | .hl => regs.setHlPair ⟨value⟩

@[simp]
theorem cells_setRegPair (target : Pair) (value : Word) :
    (regs.setRegPair target value).cells =
      regs.cells.setPair target value := by
  cases target <;>
    (simp only [Cells.setPair, upper_eq, lower_eq]
     rfl)

@[simp]
theorem cells_setSpPair (value : RegisterPair) :
    (regs.setSpPair value).cells = { regs.cells with sp := value.value } :=
  rfl

/-- The masks of `set_af` clear the low nibble of `F`. -/
theorem cells_setAfPair (value : Word) :
    (regs.setAfPair ⟨value⟩).cells =
      { regs.cells with
        a := upper value
        f := lower value &&& 0xF0 } := by
  simp only [upper_eq, lower_eq, cells, setAfPair, getA, getF,
    RegisterPair.high, RegisterPair.low, and_flagMask, highByte_joinBytes,
    lowByte_joinBytes]
  rfl

end Registers

end CyclePerfectGameboy
