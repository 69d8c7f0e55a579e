import CyclePerfectGameboy.Memory.MemoryInterface

namespace CyclePerfectGameboy

universe u

def interruptVblank : Nat := 0
def interruptLcdStat : Nat := 1
def interruptTimer : Nat := 2
def interruptSerial : Nat := 3
def interruptJoypad : Nat := 4

def vblankVector : Word := 0x0040
def lcdStatVector : Word := 0x0048
def timerVector : Word := 0x0050
def serialVector : Word := 0x0058
def joypadVector : Word := 0x0060

/-- `IF_ADDR`. -/
def ifAddr : Address := 0xFF0F

/-- `IE_ADDR`. -/
def ieAddr : Address := 0xFFFF

/-- `system::InterruptController` without its reference to the memory: the
cached copies of the two registers. -/
structure InterruptController where
  if_ : Byte := 0
  ie_ : Byte := 0
  deriving DecidableEq, Repr

namespace InterruptController

variable {M : Type u} [MemoryInterface M]

def readRegisters (_controller : InterruptController) (memory : M) :
    InterruptController :=
  { if_ := read memory ifAddr, ie_ := read memory ieAddr }

def writeRegisters (controller : InterruptController) (memory : M) : M :=
  let memory := write memory ifAddr controller.if_
  write memory ieAddr controller.ie_

/-- `initialize`. -/
def initialized (_controller : InterruptController) (memory : M) :
    InterruptController × M :=
  let controller : InterruptController := { if_ := 0xE1, ie_ := 0x00 }
  (controller, controller.writeRegisters memory)

/-- What the four operations on single bits share: read both registers,
change one of them, write both back. -/
def changeRegisters (controller : InterruptController) (memory : M)
    (change : InterruptController → InterruptController) :
    InterruptController × M :=
  let controller := change (controller.readRegisters memory)
  (controller, controller.writeRegisters memory)

def requestInterrupt (controller : InterruptController) (memory : M)
    (interrupt : Nat) : InterruptController × M :=
  controller.changeRegisters memory fun cached =>
    { cached with if_ := cached.if_ ||| (1#8 <<< interrupt) }

def clearInterrupt (controller : InterruptController) (memory : M)
    (interrupt : Nat) : InterruptController × M :=
  controller.changeRegisters memory fun cached =>
    { cached with if_ := cached.if_ &&& ~~~(1#8 <<< interrupt) }

def enableInterrupt (controller : InterruptController) (memory : M)
    (interrupt : Nat) : InterruptController × M :=
  controller.changeRegisters memory fun cached =>
    { cached with ie_ := cached.ie_ ||| (1#8 <<< interrupt) }

def disableInterrupt (controller : InterruptController) (memory : M)
    (interrupt : Nat) : InterruptController × M :=
  controller.changeRegisters memory fun cached =>
    { cached with ie_ := cached.ie_ &&& ~~~(1#8 <<< interrupt) }

def interruptsPending (controller : InterruptController) (memory : M) :
    Bool × InterruptController :=
  let controller := controller.readRegisters memory
  (controller.if_ &&& controller.ie_ &&& 0x1F != 0, controller)

/-- `get_interrupt_vector`: the chain of five tests in priority order. -/
def getInterruptVector (controller : InterruptController) (memory : M) :
    Word × InterruptController × M :=
  let controller := controller.readRegisters memory
  let pending := controller.if_ &&& controller.ie_ &&& 0x1F
  if pending = 0 then
    (0, controller, memory)
  else if pending &&& (1#8 <<< interruptVblank) ≠ 0 then
    (vblankVector, controller.clearInterrupt memory interruptVblank)
  else if pending &&& (1#8 <<< interruptLcdStat) ≠ 0 then
    (lcdStatVector, controller.clearInterrupt memory interruptLcdStat)
  else if pending &&& (1#8 <<< interruptTimer) ≠ 0 then
    (timerVector, controller.clearInterrupt memory interruptTimer)
  else if pending &&& (1#8 <<< interruptSerial) ≠ 0 then
    (serialVector, controller.clearInterrupt memory interruptSerial)
  else if pending &&& (1#8 <<< interruptJoypad) ≠ 0 then
    (joypadVector, controller.clearInterrupt memory interruptJoypad)
  else
    (0, controller, memory)

section Flat

variable (controller : InterruptController) (memory : FlatMemory)
variable {change : InterruptController → InterruptController}

/-- `write_registers` stores the cached `IE` back, so a change of `IF` is the
only change. -/
theorem changeRegisters_of_enableKept
    (kept : (change (controller.readRegisters memory)).ie_ = memory ieAddr) :
    (controller.changeRegisters memory change).2 =
      Function.update memory ifAddr
        (change (controller.readRegisters memory)).if_ := by
  have distinct : ieAddr ≠ ifAddr := by decide
  simp only [changeRegisters, writeRegisters, FlatMemory.write_eq]
  rw [kept, Function.update_eq_self_iff, Function.update_of_ne distinct]

theorem changeRegisters_of_flagKept
    (kept : (change (controller.readRegisters memory)).if_ = memory ifAddr) :
    (controller.changeRegisters memory change).2 =
      Function.update memory ieAddr
        (change (controller.readRegisters memory)).ie_ := by
  simp only [changeRegisters, writeRegisters, FlatMemory.write_eq]
  rw [kept, Function.update_eq_self]

end Flat

end InterruptController

end CyclePerfectGameboy
