import CyclePerfectGameboy.Memory.MemoryInterface

namespace CyclePerfectGameboy

universe u

def divAddr : Address := 0xFF04
def timaAddr : Address := 0xFF05
def tmaAddr : Address := 0xFF06
def tacAddr : Address := 0xFF07

/-- `TAC_ENABLE`: the position of the enable bit. -/
def tacEnable : Nat := 2

/-- `system::Timer` without its reference to the memory. -/
structure Timer where
  divInternal : Word := 0
  prevDivValue : Word := 0
  tima : Byte := 0
  tma : Byte := 0
  tac : Byte := 0
  timaOverflow : Bool := false
  overflowCycles : Word := 0
  deriving DecidableEq, Repr

/-- `(tac & (1U << TAC_ENABLE)) != 0`. -/
def tacEnabled (tac : Byte) : Bool :=
  tac &&& (1#8 <<< tacEnable) != 0

/-- `tac & 0x03U`. -/
def tacClockSelect (tac : Byte) : Byte :=
  tac &&& 0x03

/-- `bit_positions`: the divider bit behind 4096, 262144, 65536 and
16384 Hz. -/
def bitPositions : List Word :=
  [1#16 <<< 9, 1#16 <<< 3, 1#16 <<< 5, 1#16 <<< 7]

namespace Timer

def isTimerEnabled (timer : Timer) : Bool :=
  tacEnabled timer.tac

def getClockSelect (timer : Timer) : Byte :=
  tacClockSelect timer.tac

def getInputBit (timer : Timer) : Word :=
  bitPositions.getD timer.getClockSelect.toNat 0

/-- The branch that `update`, `reset_div` and `tac_updated` repeat after a
falling edge. -/
def incrementTima (timer : Timer) : Timer :=
  if timer.tima = 0xFF then
    { timer with tima := 0, timaOverflow := true, overflowCycles := 0 }
  else
    { timer with tima := timer.tima + 1 }

section Memory

variable {M : Type u} [MemoryInterface M]

def readRegisters (timer : Timer) (memory : M) : Timer :=
  { timer with
    tima := read memory timaAddr
    tma := read memory tmaAddr
    tac := read memory tacAddr }

/-- Only `DIV` and `TIMA` are written back. -/
def writeRegisters (timer : Timer) (memory : M) : M :=
  let memory := write memory divAddr (highByte timer.divInternal)
  write memory timaAddr timer.tima

def requestInterrupt (memory : M) : M :=
  let interruptFlag := read memory 0xFF0F
  write memory 0xFF0F (interruptFlag ||| (1#8 <<< 2))

/-- `initialize`. -/
def initialized (_timer : Timer) (memory : M) : Timer × M :=
  let timer : Timer := {}
  (timer, timer.writeRegisters memory)

/-- The first part of `update`: a pending overflow waits for four cycles. -/
def serviceOverflow (timer : Timer) (memory : M) (cycleCount : Cycles) :
    Timer × M :=
  if timer.timaOverflow then
    let timer :=
      { timer with
        overflowCycles := timer.overflowCycles + cycleCount.setWidth 16 }
    if 4 ≤ timer.overflowCycles then
      ({ timer with
          tima := timer.tma, timaOverflow := false, overflowCycles := 0 },
        requestInterrupt memory)
    else
      (timer, memory)
  else
    (timer, memory)

/-- The second part of `update`: the divider advances and `TIMA` counts if
the selected bit was set before the step and is clear after it. -/
def advanceDivider (timer : Timer) (cycleCount : Cycles) : Timer :=
  let oldDiv := timer.divInternal
  let timer :=
    { timer with
      divInternal := timer.divInternal + cycleCount.setWidth 16 * 4 }
  if timer.isTimerEnabled then
    let inputBit := timer.getInputBit
    let oldInput := oldDiv &&& inputBit
    let newInput := timer.divInternal &&& inputBit
    if oldInput ≠ 0 ∧ newInput = 0 then
      timer.incrementTima
    else
      timer
  else
    timer

def update (timer : Timer) (memory : M) (cycles : Cycles) : Timer × M :=
  let timer := timer.readRegisters memory
  let (timer, memory) := timer.serviceOverflow memory cycles
  let timer := timer.advanceDivider cycles
  (timer, timer.writeRegisters memory)

/-- `reset_div`; the edge test looks at `prev_div_value_`. -/
def resetDiv (timer : Timer) (memory : M) : Timer × M :=
  let timer := timer.readRegisters memory
  let timer := { timer with divInternal := 0 }
  let timer :=
    if timer.isTimerEnabled then
      if timer.prevDivValue &&& timer.getInputBit ≠ 0 then
        timer.incrementTima
      else
        timer
    else
      timer
  let memory := timer.writeRegisters memory
  ({ timer with prevDivValue := 0 }, memory)

def tacUpdated (timer : Timer) (memory : M) (oldTac newTac : Byte) :
    Timer × M :=
  let oldEnabled := tacEnabled oldTac
  let oldClockSelect := tacClockSelect oldTac
  let newEnabled := tacEnabled newTac
  let newClockSelect := tacClockSelect newTac
  if !oldEnabled && !newEnabled then
    (timer, memory)
  else
    let timer := timer.readRegisters memory
    let timer :=
      if oldEnabled && !newEnabled then
        { timer with tac := newTac }
      else if oldClockSelect ≠ newClockSelect ∨ (!oldEnabled && newEnabled) then
        let timer := { timer with tac := newTac }
        let oldInputBit := bitPositions.getD oldClockSelect.toNat 0
        let newInputBit := bitPositions.getD newClockSelect.toNat 0
        if newEnabled ∧ timer.divInternal &&& oldInputBit ≠ 0 ∧
            timer.divInternal &&& newInputBit = 0 then
          timer.incrementTima
        else
          timer
      else
        timer
    (timer, timer.writeRegisters memory)

theorem serviceOverflow_of_idle
    {timer : Timer} (idle : timer.timaOverflow = false)
    (memory : M) (cycleCount : Cycles) :
    timer.serviceOverflow memory cycleCount = (timer, memory) := by
  rw [serviceOverflow, if_neg (by simp [idle])]

/-- The interrupt is requested when a pending overflow has waited for four
cycles. -/
theorem serviceOverflow_memory
    (timer : Timer) (memory : M) (cycleCount : Cycles) :
    (timer.serviceOverflow memory cycleCount).2 =
      if timer.timaOverflow ∧
          4 ≤ timer.overflowCycles + cycleCount.setWidth 16 then
        requestInterrupt memory
      else
        memory := by
  by_cases overflowed : timer.timaOverflow = true
  · by_cases waited : 4 ≤ timer.overflowCycles + cycleCount.setWidth 16
    · simp only [serviceOverflow, overflowed, waited, and_self, if_true]
    · simp only [serviceOverflow, overflowed, waited, and_false, if_true,
        if_false]
  · rw [serviceOverflow_of_idle (Bool.eq_false_iff.mpr overflowed),
      if_neg (fun both => overflowed both.1)]

end Memory

end Timer

end CyclePerfectGameboy
