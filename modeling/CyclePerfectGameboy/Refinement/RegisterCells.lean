import CyclePerfectGameboy.Refinement.Registers

/-!
# The register file as independent cells

Seven bytes, four flags and two words, none of which knows of the others.
The packed registers of the source show the same under every getter after any
sequence of setter calls.
-/

namespace CyclePerfectGameboy

open Reference

/-- The six register pairs of the source. -/
inductive PairName where
  | af
  | bc
  | de
  | hl
  | sp
  | pc
  deriving DecidableEq, Repr

/-- The byte that four flags make, the low nibble being zero. -/
def packFlags (flag : Flag → Bool) : Byte :=
  BitVec.ofBool (flag .zero) ++ BitVec.ofBool (flag .subtract) ++
    BitVec.ofBool (flag .halfCarry) ++ BitVec.ofBool (flag .carry) ++ 0#4

/-- The four flags of a byte. -/
def unpackFlags (value : Byte) (flag : Flag) : Bool :=
  value.getLsbD flag.bit

/-- A call of a setter: of a byte register, of `F`, of a pair in either
overload, or of a flag under either name. -/
inductive SetterCall where
  | byte (target : Reg8) (value : Byte)
  | f (value : Byte)
  | word (target : PairName) (value : Word)
  | pair (target : PairName) (value : RegisterPair)
  | flag (flag : Flag) (value : Bool)
  | namedFlag (flag : Flag) (value : Bool)
  deriving DecidableEq, Repr

namespace Registers

variable (regs : Registers)

/-- `set_af` to `set_pc` for a word. -/
def setWord (target : PairName) (value : Word) : Registers :=
  match target with
  | .af => regs.setAf value
  | .bc => regs.setBc value
  | .de => regs.setDe value
  | .hl => regs.setHl value
  | .sp => regs.setSp value
  | .pc => regs.setPc value

/-- `set_af` to `set_pc` for a register pair. -/
def setPair (target : PairName) (value : RegisterPair) : Registers :=
  match target with
  | .af => regs.setAfPair value
  | .bc => regs.setBcPair value
  | .de => regs.setDePair value
  | .hl => regs.setHlPair value
  | .sp => regs.setSpPair value
  | .pc => regs.setPcPair value

/-- `set_flag_zero` to `set_flag_carry`. -/
def setFlag (flag : Flag) (value : Bool) : Registers :=
  match flag with
  | .zero => regs.setFlagZero value
  | .subtract => regs.setFlagSubtract value
  | .halfCarry => regs.setFlagHalfCarry value
  | .carry => regs.setFlagCarry value

/-- `set_zero_flag` to `set_carry_flag`. -/
def setNamedFlag (flag : Flag) (value : Bool) : Registers :=
  match flag with
  | .zero => regs.setZeroFlag value
  | .subtract => regs.setSubtractFlag value
  | .halfCarry => regs.setHalfCarryFlag value
  | .carry => regs.setCarryFlag value

def callSetter : SetterCall → Registers
  | .byte target value => regs.setReg target value
  | .f value => regs.setF value
  | .word target value => regs.setWord target value
  | .pair target value => regs.setPair target value
  | .flag flag value => regs.setFlag flag value
  | .namedFlag flag value => regs.setNamedFlag flag value

def callSetters (calls : List SetterCall) : Registers :=
  calls.foldl callSetter regs

/-- `get_a` to `get_l`. -/
def getReg : Reg8 → Byte
  | .a => regs.getA
  | .b => regs.getB
  | .c => regs.getC
  | .d => regs.getD
  | .e => regs.getE
  | .h => regs.getH
  | .l => regs.getL

/-- `a` to `l`. -/
def register : Reg8 → Register
  | .a => regs.a
  | .b => regs.b
  | .c => regs.c
  | .d => regs.d
  | .e => regs.e
  | .h => regs.h
  | .l => regs.l

/-- `get_af` to `get_pc`. -/
def getPair : PairName → RegisterPair
  | .af => regs.getAf
  | .bc => regs.getBc
  | .de => regs.getDe
  | .hl => regs.getHl
  | .sp => regs.getSp
  | .pc => regs.getPc

/-- `flag_zero` to `flag_carry`. -/
def getFlag : Flag → Bool
  | .zero => regs.flagZero
  | .subtract => regs.flagSubtract
  | .halfCarry => regs.flagHalfCarry
  | .carry => regs.flagCarry

/-- `get_zero_flag` to `get_carry_flag`. -/
def getNamedFlag : Flag → Bool
  | .zero => regs.getZeroFlag
  | .subtract => regs.getSubtractFlag
  | .halfCarry => regs.getHalfCarryFlag
  | .carry => regs.getCarryFlag

end Registers

/-! ## The cells -/

structure RegisterCells where
  byte : Reg8 → Byte := fun _ => 0
  flag : Flag → Bool := fun _ => false
  sp : Word := 0
  pc : Word := 0

namespace RegisterCells

variable (cells : RegisterCells)

def setByte (target : Reg8) (value : Byte) : RegisterCells :=
  { cells with byte := Function.update cells.byte target value }

def setPair (target : PairName) (value : Word) : RegisterCells :=
  match target with
  | .af =>
      { cells.setByte .a (upper value) with
        flag := unpackFlags (lower value) }
  | .bc => (cells.setByte .b (upper value)).setByte .c (lower value)
  | .de => (cells.setByte .d (upper value)).setByte .e (lower value)
  | .hl => (cells.setByte .h (upper value)).setByte .l (lower value)
  | .sp => { cells with sp := value }
  | .pc => { cells with pc := value }

def callSetter : SetterCall → RegisterCells
  | .byte target value => cells.setByte target value
  | .f value => { cells with flag := unpackFlags value }
  | .word target value => cells.setPair target value
  | .pair target value => cells.setPair target value.value
  | .flag flag value | .namedFlag flag value =>
      { cells with flag := Function.update cells.flag flag value }

def callSetters (calls : List SetterCall) : RegisterCells :=
  calls.foldl callSetter cells

/-- The word in a pair. -/
def getPair : PairName → Word
  | .af => word (cells.byte .a) (packFlags cells.flag)
  | .bc => word (cells.byte .b) (cells.byte .c)
  | .de => word (cells.byte .d) (cells.byte .e)
  | .hl => word (cells.byte .h) (cells.byte .l)
  | .sp => cells.sp
  | .pc => cells.pc

/-- The cells with the flags packed into `F`. -/
def packed : Cells :=
  { a := cells.byte .a
    f := packFlags cells.flag
    b := cells.byte .b
    c := cells.byte .c
    d := cells.byte .d
    e := cells.byte .e
    h := cells.byte .h
    l := cells.byte .l
    sp := cells.sp
    pc := cells.pc }

end RegisterCells

theorem packFlags_unpackFlags :
    ∀ value : Byte, packFlags (unpackFlags value) = value &&& 0xF0 := by
  decide

theorem packFlags_lowNibble (flag : Flag → Bool) :
    packFlags flag &&& 0x0F = 0 := by
  unfold packFlags
  generalize flag .zero = zero
  generalize flag .subtract = subtract
  generalize flag .halfCarry = halfCarry
  generalize flag .carry = carry
  revert zero subtract halfCarry carry
  decide

theorem test_packFlags (flags : Flag → Bool) (flag : Flag) :
    FlagRegister.test ⟨packFlags flags⟩ flag = flags flag := by
  unfold packFlags
  cases flag <;>
    (generalize flags .zero = zero
     generalize flags .subtract = subtract
     generalize flags .halfCarry = halfCarry
     generalize flags .carry = carry
     revert zero subtract halfCarry carry
     decide)

theorem assign_packFlags
    (flags : Flag → Bool) (flag : Flag) (value : Bool) :
    (FlagRegister.assign ⟨packFlags flags⟩ flag value).value &&& 0xF0 =
      packFlags (Function.update flags flag value) := by
  unfold packFlags
  cases flag <;>
    (simp only [Function.update_self, ne_eq, reduceCtorEq,
      not_false_eq_true, Function.update_of_ne]
     generalize flags .zero = zero
     generalize flags .subtract = subtract
     generalize flags .halfCarry = halfCarry
     generalize flags .carry = carry
     revert zero subtract halfCarry carry value
     decide)

namespace Registers

/-- The register file shows the cells. -/
def Shows (regs : Registers) (cells : RegisterCells) : Prop :=
  regs.cells = cells.packed

variable {regs : Registers} {cells : RegisterCells}

theorem Shows.byte
    (shown : regs.Shows cells) (target : Reg8) (value : Byte) :
    (regs.setReg target value).Shows (cells.setByte target value) := by
  rw [Shows, cells_setReg, shown]
  cases target <;>
    simp [RegisterCells.setByte, RegisterCells.packed, Cells.set]

theorem Shows.f (shown : regs.Shows cells) (value : Byte) :
    (regs.setF value).Shows { cells with flag := unpackFlags value } := by
  rw [Shows, cells_setF, shown, ← packFlags_unpackFlags]
  rfl

theorem Shows.pair
    (shown : regs.Shows cells) (target : PairName) (value : Word) :
    (regs.setPair target ⟨value⟩).Shows (cells.setPair target value) := by
  cases target with
  | af =>
      change (regs.setAfPair ⟨value⟩).cells = _
      rw [cells_setAfPair, shown, ← packFlags_unpackFlags]
      simp [RegisterCells.setPair, RegisterCells.setByte,
        RegisterCells.packed]
  | bc =>
      change (regs.setRegPair .bc value).cells = _
      rw [cells_setRegPair, shown]
      simp [RegisterCells.setPair, RegisterCells.setByte,
        RegisterCells.packed, Cells.setPair]
  | de =>
      change (regs.setRegPair .de value).cells = _
      rw [cells_setRegPair, shown]
      simp [RegisterCells.setPair, RegisterCells.setByte,
        RegisterCells.packed, Cells.setPair]
  | hl =>
      change (regs.setRegPair .hl value).cells = _
      rw [cells_setRegPair, shown]
      simp [RegisterCells.setPair, RegisterCells.setByte,
        RegisterCells.packed, Cells.setPair]
  | sp =>
      change (regs.setSpPair ⟨value⟩).cells = _
      rw [cells_setSpPair, shown]
      rfl
  | pc =>
      change { regs.cells with pc := value } = _
      rw [shown]
      rfl

/-- Each flag setter stores the four flags back through `set_f`. -/
theorem setFlag_eq (regs : Registers) (flag : Flag) (value : Bool) :
    regs.setFlag flag value = regs.setF (regs.f.assign flag value).value := by
  cases flag <;> rfl

theorem Shows.flag
    (shown : regs.Shows cells) (flag : Flag) (value : Bool) :
    (regs.setFlag flag value).Shows
      { cells with flag := Function.update cells.flag flag value } := by
  have register : regs.f = ⟨packFlags cells.flag⟩ :=
    congrArg (fun shown => FlagRegister.mk shown.f) shown
  rw [Shows, setFlag_eq, cells_setF, register, assign_packFlags, shown]
  rfl

/-- A setter changes the cells that its name says. -/
theorem Shows.callSetter
    (shown : regs.Shows cells) (call : SetterCall) :
    (regs.callSetter call).Shows (cells.callSetter call) := by
  cases call with
  | byte target value =>
      exact shown.byte target value
  | f value =>
      exact shown.f value
  | word target value =>
      -- both overloads store the same word
      have same : regs.setWord target value = regs.setPair target ⟨value⟩ := by
        cases target <;> rfl
      change (regs.setWord target value).Shows _
      rw [same]
      exact shown.pair target value
  | pair target value =>
      exact shown.pair target value.value
  | flag flag value =>
      exact shown.flag flag value
  | namedFlag flag value =>
      have same : regs.setNamedFlag flag value = regs.setFlag flag value := by
        cases flag <;> rfl
      change (regs.setNamedFlag flag value).Shows _
      rw [same]
      exact shown.flag flag value

theorem Shows.callSetters
    (shown : regs.Shows cells) (calls : List SetterCall) :
    (regs.callSetters calls).Shows (cells.callSetters calls) := by
  induction calls generalizing regs cells with
  | nil =>
      exact shown
  | cons call rest inductionHypothesis =>
      exact inductionHypothesis (shown.callSetter call)

theorem initial_shows : Shows {} {} := by
  have noFlags : packFlags (fun _ => false) = 0 := by decide
  rw [Shows, RegisterCells.packed, noFlags]
  rfl

/-- Every getter returns what the cells say. -/
structure Agrees (regs : Registers) (cells : RegisterCells) : Prop where
  getReg : ∀ target, regs.getReg target = cells.byte target
  register : ∀ target, (regs.register target).value = cells.byte target
  getF : regs.getF = packFlags cells.flag
  f : regs.f.value = packFlags cells.flag
  getPair : ∀ target, (regs.getPair target).value = cells.getPair target
  getFlag : ∀ flag, regs.getFlag flag = cells.flag flag
  getNamedFlag : ∀ flag, regs.getNamedFlag flag = cells.flag flag

theorem Shows.agrees (shown : regs.Shows cells) : regs.Agrees cells := by
  have bytes : ∀ target, regs.getReg target = cells.byte target := by
    intro target
    cases target with
    | a => exact congrArg Cells.a shown
    | b => exact congrArg Cells.b shown
    | c => exact congrArg Cells.c shown
    | d => exact congrArg Cells.d shown
    | e => exact congrArg Cells.e shown
    | h => exact congrArg Cells.h shown
    | l => exact congrArg Cells.l shown
  have flagByte : regs.getF = packFlags cells.flag :=
    congrArg Cells.f shown
  have flags : ∀ flag, regs.f.test flag = cells.flag flag := by
    intro flag
    rw [← test_packFlags cells.flag flag, ← flagByte]
    rfl
  exact
    { getReg := bytes
      register := by
        intro target
        rw [← bytes target]
        cases target <;> rfl
      getF := flagByte
      f := flagByte
      getPair := by
        intro target
        cases target with
        | af =>
            have value := regs.cells_af
            rw [shown] at value
            exact value.symm
        | bc =>
            have value := regs.cells_getPair .bc
            rw [shown] at value
            exact value.symm
        | de =>
            have value := regs.cells_getPair .de
            rw [shown] at value
            exact value.symm
        | hl =>
            have value := regs.cells_getPair .hl
            rw [shown] at value
            exact value.symm
        | sp => exact congrArg Cells.sp shown
        | pc => exact congrArg Cells.pc shown
      getFlag := by
        intro flag
        rw [← flags flag]
        cases flag <;> rfl
      getNamedFlag := by
        intro flag
        rw [← flags flag]
        cases flag <;> rfl }

end Registers

end CyclePerfectGameboy
