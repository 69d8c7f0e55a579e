import CyclePerfectGameboy.Foundations.CallSequence
import CyclePerfectGameboy.System.StoreHook

/-!
# What a reset forgets

Two machines with one cartridge image are reset and then called alike.  The
reset restores everything that the calls can see but for the bytes that are
still waiting in the serial buffer.
-/

namespace CyclePerfectGameboy

open BudgetLoop CallSequence Lockstep

/-- The calls after a reset; `run_for_cycles` comes with fuel. -/
inductive GameBoyCall where
  | step
  | runForCycles (fuel : Nat) (totalCycles : BitVec 32)
  | readMemory (addr : Address)
  | serialDataAvailable
  | readSerialData
  deriving DecidableEq, Repr

inductive GameBoyAnswer where
  | cycles (count : Cycles)
  | returned
  | byte (value : Byte)
  | available (some : Bool)
  deriving DecidableEq, Repr

namespace GameBoy

/-- One call; `none` if the fuel of `run_for_cycles` runs out. -/
def perform (gb : GameBoy) :
    GameBoyCall → Option (GameBoyAnswer × GameBoy)
  | .step => some (.cycles gb.step.1, gb.step.2)
  | .runForCycles fuel totalCycles =>
      (gb.runForCycles fuel totalCycles).map (fun gb => (.returned, gb))
  | .readMemory addr => some (.byte (read gb.memoryMap addr), gb)
  | .serialDataAvailable => some (.available gb.serialDataAvailable, gb)
  | .readSerialData =>
      some (.byte gb.readSerialData.1, gb.readSerialData.2)

theorem ROM.read_of_sameData
    {left right : ROM} (same : left.data = right.data) (addr : Address) :
    left.read addr = right.read addr := by
  rw [ROM.read_eq_getD, ROM.read_eq_getD, same]

/-- Maps that show the same cartridge image. -/
def SameImage (left right : GameBoyMap) : Prop :=
  left.hasLayout ∧ right.hasLayout ∧
    (left.objects .cartridge : ROM).data =
      (right.objects .cartridge : ROM).data

theorem sameImage_simulation : MemorySimulation SameImage where
  read_eq := by
    rintro left right ⟨leftLayout, rightLayout, image⟩ addr
    rw [GameBoyMap.read_of_layout leftLayout,
      GameBoyMap.read_of_layout rightLayout]
    split
    · exact ROM.read_of_sameData image addr
    · rfl
  write_related := by
    rintro left right ⟨leftLayout, rightLayout, image⟩ addr value
    rw [GameBoyMap.write_of_layout leftLayout,
      GameBoyMap.write_of_layout rightLayout]
    exact ⟨leftLayout, rightLayout, image⟩

/-- Everything that a call can see is the same in both machines. -/
structure Alike (left right : GameBoy) : Prop where
  image : SameImage left.memoryMap right.memoryMap
  settled : right.timer.Settled
  cpu : left.cpu = right.cpu
  timer : left.timer = right.timer
  poweredOn : left.poweredOn = right.poweredOn
  serialBuffer : left.serialBuffer = right.serialBuffer

section Calls

variable {left right : GameBoy}

theorem executeAndTime_alike (alike : Alike left right) :
    left.executeAndTime.1 = right.executeAndTime.1 ∧
      Alike left.executeAndTime.2 right.executeAndTime.2 := by
  have executed :=
    CPU.executeInstruction_matches sameImage_simulation alike.image
      right.cpu
  have enough := right.cpu.executeInstruction_cycles_pos right.memoryMap
  rcases alike.image with ⟨leftLayout, rightLayout, image⟩
  rw [executeAndTime_of_layout leftLayout,
    executeAndTime_of_layout rightLayout, alike.cpu, executed.cycles]
  refine ⟨rfl, ?_⟩
  exact
    { image := alike.image
      settled := Timer.update_settled alike.settled _ enough
      cpu := executed.cpu
      timer := by
        rw [alike.timer,
          Timer.update_of_layout leftLayout alike.settled enough,
          Timer.update_of_layout rightLayout alike.settled enough]
      poweredOn := alike.poweredOn
      serialBuffer := alike.serialBuffer }

theorem handleSerialTransfer_alike (alike : Alike left right) :
    Alike left.handleSerialTransfer right.handleSerialTransfer := by
  rw [handleSerialTransfer_of_layout alike.image.1,
    handleSerialTransfer_of_layout alike.image.2.1]
  exact
    { image := alike.image
      settled := alike.settled
      cpu := alike.cpu
      timer := alike.timer
      poweredOn := alike.poweredOn
      serialBuffer := congrArg (· ++ [0xFF]) alike.serialBuffer }

theorem step_alike (alike : Alike left right) :
    left.step.1 = right.step.1 ∧ Alike left.step.2 right.step.2 := by
  unfold step
  rw [alike.poweredOn]
  split
  · rcases executeAndTime_alike alike with ⟨cycles, next⟩
    exact ⟨cycles, handleSerialTransfer_alike next⟩
  · exact ⟨rfl, alike⟩

theorem runBody_alike : Related Alike runBody runBody := by
  intro left right alike
  rcases executeAndTime_alike alike with ⟨cycles, next⟩
  exact ⟨congrArg (BitVec.setWidth 32) cycles, next⟩

theorem runForCycles_alike
    (alike : Alike left right) (fuel : Nat) (totalCycles : BitVec 32) :
    Option.Rel Alike (left.runForCycles fuel totalCycles)
      (right.runForCycles fuel totalCycles) := by
  unfold runForCycles
  rw [alike.poweredOn]
  split
  · exact loop_related runBody_alike totalCycles 0 fuel alike
  · exact Option.Rel.some alike

theorem readSerialData_alike (alike : Alike left right) :
    left.readSerialData.1 = right.readSerialData.1 ∧
      Alike left.readSerialData.2 right.readSerialData.2 := by
  unfold readSerialData
  rw [alike.serialBuffer]
  split
  · exact ⟨rfl, alike⟩
  · exact
      ⟨rfl, alike.image, alike.settled, alike.cpu, alike.timer,
        alike.poweredOn, rfl⟩

/-- Every call gives the same answer on both machines and leaves them
alike. -/
theorem alike_bisimulation : Bisimulation perform Alike := by
  intro left right alike call
  cases call with
  | step =>
      exact Option.Rel.some (by
        rcases step_alike alike with ⟨cycles, next⟩
        exact ⟨congrArg GameBoyAnswer.cycles cycles, next⟩)
  | runForCycles fuel totalCycles =>
      have ran := runForCycles_alike alike fuel totalCycles
      rw [perform, perform]
      revert ran
      generalize left.runForCycles fuel totalCycles = leftFinal
      generalize right.runForCycles fuel totalCycles = rightFinal
      intro ran
      cases ran with
      | none =>
          exact Option.Rel.none
      | some next =>
          exact Option.Rel.some ⟨rfl, next⟩
  | readMemory addr =>
      have shown := sameImage_simulation.read_eq alike.image addr
      exact Option.Rel.some ⟨congrArg GameBoyAnswer.byte shown, alike⟩
  | serialDataAvailable =>
      have waiting : left.serialDataAvailable = right.serialDataAvailable :=
        congrArg (fun buffer : List Byte => !buffer.isEmpty)
          alike.serialBuffer
      exact Option.Rel.some ⟨congrArg GameBoyAnswer.available waiting, alike⟩
  | readSerialData =>
      rcases readSerialData_alike alike with ⟨value, next⟩
      exact Option.Rel.some ⟨congrArg GameBoyAnswer.byte value, next⟩

theorem serialDataAvailable_eq
    (same : Indistinguishable perform left right) :
    left.serialDataAvailable = right.serialDataAvailable := by
  have leftPoll :
      perform left .serialDataAvailable =
        some (.available left.serialDataAvailable, left) := rfl
  have rightPoll :
      perform right .serialDataAvailable =
        some (.available right.serialDataAvailable, right) := rfl
  exact GameBoyAnswer.available.inj (same.after_call leftPoll rightPoll).1

theorem readSerialData_eq
    (same : Indistinguishable perform left right) :
    left.readSerialData.1 = right.readSerialData.1 ∧
      Indistinguishable perform left.readSerialData.2
        right.readSerialData.2 := by
  have leftRead :
      perform left .readSerialData =
        some (.byte left.readSerialData.1, left.readSerialData.2) := rfl
  have rightRead :
      perform right .readSerialData =
        some (.byte right.readSerialData.1, right.readSerialData.2) := rfl
  rcases same.after_call leftRead rightRead with ⟨value, next⟩
  exact ⟨GameBoyAnswer.byte.inj value, next⟩

/-- Emptying the buffers shows everything that is in them. -/
theorem serialBuffer_eq_of_indistinguishable
    {buffer : List Byte} {left right : GameBoy}
    (holds : left.serialBuffer = buffer)
    (same : Indistinguishable perform left right) :
    right.serialBuffer = buffer := by
  -- each pass of the induction polls both machines and reads one byte
  induction buffer generalizing left right with
  | nil =>
      have polled := serialDataAvailable_eq same
      simp only [serialDataAvailable, holds, List.isEmpty_nil, Bool.not_true]
        at polled
      exact List.isEmpty_iff.mp (by simpa using polled.symm)
  | cons value rest inductionHypothesis =>
      have polled := serialDataAvailable_eq same
      rcases readSerialData_eq same with ⟨heads, next⟩
      cases rightHolds : right.serialBuffer with
      | nil =>
          simp [serialDataAvailable, holds, rightHolds] at polled
      | cons rightValue rightRest =>
          have leftTail : left.readSerialData.2.serialBuffer = rest := by
            simp only [readSerialData, holds]
          have rightTail :
              right.readSerialData.2.serialBuffer = rightRest := by
            simp only [readSerialData, rightHolds]
          have tails := inductionHypothesis leftTail next
          simp only [readSerialData, holds, rightHolds] at heads
          rw [rightTail] at tails
          rw [heads, tails]

end Calls

theorem reset_alike
    {left right : GameBoy}
    (image : SameImage left.memoryMap right.memoryMap)
    (waiting : left.serialBuffer = right.serialBuffer) :
    Alike left.reset right.reset := by
  rcases image with ⟨leftLayout, rightLayout, data⟩
  exact
    { image := by
        rw [reset_memoryMap_of_layout leftLayout,
          reset_memoryMap_of_layout rightLayout]
        exact ⟨leftLayout, rightLayout, data⟩
      settled := Timer.initial_settled
      cpu := rfl
      timer := rfl
      poweredOn := rfl
      serialBuffer := waiting }

/-- After a reset, two machines with one cartridge image cannot be told apart
exactly if they had the same bytes waiting in their serial buffers. -/
theorem reset_forgets_history_iff
    {left right : GameBoy}
    (leftReachable : Reachable left) (rightReachable : Reachable right)
    (sameImage : left.cartridge.data = right.cartridge.data) :
    Indistinguishable perform left.reset right.reset ↔
      left.serialBuffer = right.serialBuffer := by
  have image : SameImage left.memoryMap right.memoryMap :=
    ⟨leftReachable.wellFormed.layout, rightReachable.wellFormed.layout,
      sameImage⟩
  constructor
  · intro same
    have kept : left.reset.serialBuffer = left.serialBuffer := rfl
    exact (serialBuffer_eq_of_indistinguishable kept same).symm
  · intro waiting
    exact alike_bisimulation.indistinguishable (reset_alike image waiting)

/-- A machine that has stepped and whose byte has been read is after a reset as
good as new. -/
theorem reset_after_step_forgets :
    Indistinguishable perform (ofRom {}).reset
      (ofRom {}).reset.step.2.readSerialData.2.reset :=
  (reset_forgets_history_iff (Reachable.ofRom {})
    (Reachable.readSerialData
      (Reachable.step (Reachable.reset (Reachable.ofRom {})))) rfl).mpr
    (by decide)

/-- A byte sent before the reset is still there after it. -/
theorem reset_keeps_serial_bytes :
    ¬ ∀ left right : GameBoy, Reachable left → Reachable right →
      left.cartridge.data = right.cartridge.data →
        Indistinguishable perform left.reset right.reset := by
  intro always
  have fresh : Reachable (ofRom {}) := Reachable.ofRom {}
  have sent : Reachable (ofRom {}).reset.step.2 :=
    Reachable.step (Reachable.reset fresh)
  have same := always _ _ fresh sent rfl
  have polled := serialDataAvailable_eq same
  exact absurd polled (by decide)

end GameBoy

end CyclePerfectGameboy
