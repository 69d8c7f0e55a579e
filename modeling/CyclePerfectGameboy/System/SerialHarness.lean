import CyclePerfectGameboy.Foundations.TextCodec
import CyclePerfectGameboy.System.Console
import Mathlib.Data.List.Infix

/-!
# Reading the serial output of a test program

The integration tests step the machine, collect what arrives on the serial
port and stop at the word `Passed` or `Failed`.
-/

namespace CyclePerfectGameboy

/-- `output.find(message) != std::string::npos`. -/
def outputContains (output : List Byte) (message : String) : Bool :=
  output.tails.any (fun rest => (messageBytes message).isPrefixOf rest)

namespace GameBoy

/-- `read_serial_output`, with the text collected so far; the progress
messages of the logger are left out. -/
def readSerialOutput :
    Nat → List Byte → GameBoy → List Byte × GameBoy
  | 0, output, gb => (output, gb)
  | maxCycles + 1, output, gb =>
      let gb := gb.step.2
      if gb.serialDataAvailable then
        let (data, gb) := gb.readSerialData
        let output := output ++ [data]
        if outputContains output "Passed" || outputContains output "Failed" then
          (output, gb)
        else
          readSerialOutput maxCycles output gb
      else
        readSerialOutput maxCycles output gb

/-- A test case: load the file, reset the machine, collect the output and
require `Passed` without `Failed` in it. -/
def blarggTest (maxCycles : Nat) (file : FileOutcome) : Bool :=
  match ROM.fromFile file with
  | none => false
  | some rom =>
      let output := (readSerialOutput maxCycles [] (ofRom rom).reset).1
      !outputContains output "Failed" && outputContains output "Passed"

theorem passed_foreign : ∃ value ∈ messageBytes "Passed", value ≠ 0xFF :=
  ⟨0x50, by decide, by decide⟩

theorem failed_foreign : ∃ value ∈ messageBytes "Failed", value ≠ 0xFF :=
  ⟨0x46, by decide, by decide⟩

/-- Bytes `0xFF` spell no message that has another byte. -/
theorem outputContains_replicate
    {message : String} (foreign : ∃ value ∈ messageBytes message, value ≠ 0xFF)
    (count : Nat) :
    outputContains (List.replicate count 0xFF) message = false := by
  rw [outputContains, List.any_eq_false]
  intro rest suffix
  rw [List.isPrefixOf_iff_prefix]
  intro starts
  rcases foreign with ⟨value, member, different⟩
  have inside := ((List.mem_tails _ _).mp suffix).subset (starts.subset member)
  exact different (List.eq_of_mem_replicate inside)

end GameBoy

/-- The bytes that the loop gets: one for each pass of a machine that is on,
otherwise those that were waiting. -/
def Console.polledBytes (console : Console) (maxCycles : Nat) : Nat :=
  if console.poweredOn then maxCycles else min console.waiting maxCycles

theorem Console.polledBytes_succ (console : Console) (maxCycles : Nat) :
    console.polledBytes (maxCycles + 1) =
      match console.step.2.waiting with
      | 0 => console.step.2.polledBytes maxCycles
      | waiting + 1 =>
          ({ console.step.2 with waiting := waiting } :
            Console).polledBytes maxCycles + 1 := by
  by_cases powered : console.poweredOn = true
  · have stepped :
        console.step.2 = console.execute.2.handleSerialTransfer := by
      rw [Console.step, if_pos powered]
    have stillPowered : console.execute.2.poweredOn = true := powered
    rw [stepped]
    simp only [handleSerialTransfer, polledBytes, powered, stillPowered,
      if_true]
  · have stepped : console.step.2 = console := by
      rw [Console.step, if_neg powered]
    rw [stepped]
    cases waiting : console.waiting with
    | zero =>
        simp only [polledBytes, powered, waiting, Nat.zero_min,
          if_false, Bool.false_eq_true]
    | succ rest =>
        simp only [polledBytes, powered, waiting, Nat.add_min_add_right,
          if_false, Bool.false_eq_true]

namespace GameBoy

/-- The loop reads `0xFF` as often as the console has a byte for it, and
never stops early. -/
theorem Shows.readSerialOutput
    (maxCycles count : Nat) {gb : GameBoy} {console : Console}
    (shows_ : gb.Shows console) :
    (gb.readSerialOutput maxCycles (List.replicate count 0xFF)).1 =
      List.replicate (count + console.polledBytes maxCycles) 0xFF := by
  have noPassed := outputContains_replicate passed_foreign
  have noFailed := outputContains_replicate failed_foreign
  induction maxCycles generalizing count gb console with
  | zero =>
      simp [GameBoy.readSerialOutput, Console.polledBytes]
  | succ maxCycles inductionHypothesis =>
      have next := shows_.step.2
      have polled := next.serialDataAvailable
      rw [Console.polledBytes_succ, GameBoy.readSerialOutput]
      cases waiting : console.step.2.waiting with
      | zero =>
          have empty : gb.step.2.serialDataAvailable = false := by
            rw [polled, waiting]
            rfl
          simp only [empty]
          exact inductionHypothesis count next
      | succ rest =>
          have available : gb.step.2.serialDataAvailable = true := by
            rw [polled, waiting]
            rfl
          have emptied :
              console.step.2.readSerialData =
                (0xFF, { console.step.2 with waiting := rest }) := by
            rw [Console.readSerialData, waiting]
          rcases next.readSerialData with ⟨data, after⟩
          rw [emptied] at data after
          have longer :
              List.replicate count (0xFF : Byte) ++ [0xFF] =
                List.replicate (count + 1) 0xFF :=
            List.replicate_succ'.symm
          have later := inductionHypothesis (count + 1) after
          simp only [available, if_true, data, longer, noPassed, noFailed,
            Bool.or_false, Bool.false_eq_true, if_false]
          rw [later, Nat.add_right_comm, Nat.add_assoc]

/-- A reachable machine that is on gives the loop one `0xFF` for every pass,
so the text never says that a test has ended, and every test fails, whatever
its file. -/
theorem serial_output_says_nothing :
    (∀ (gb : GameBoy) (maxCycles : Nat),
      Reachable gb → gb.poweredOn = true →
        (gb.readSerialOutput maxCycles []).1 =
          List.replicate maxCycles 0xFF) ∧
      ∀ (file : FileOutcome) (maxCycles : Nat),
        blarggTest maxCycles file = false := by
  have output :
      ∀ (gb : GameBoy) (maxCycles : Nat),
        Reachable gb → gb.poweredOn = true →
          (gb.readSerialOutput maxCycles []).1 =
            List.replicate maxCycles 0xFF := by
    intro gb maxCycles reachable powered
    rcases reachable.shows_console with ⟨console, shows_⟩
    have polled := shows_.readSerialOutput maxCycles 0
    rw [shows_.poweredOn] at powered
    rw [Console.polledBytes, if_pos powered, Nat.zero_add] at polled
    exact polled
  refine ⟨output, ?_⟩
  intro file maxCycles
  rw [blarggTest]
  cases ROM.fromFile file with
  | none =>
      rfl
  | some rom =>
      simp only
      rw [output _ maxCycles (Reachable.reset (Reachable.ofRom rom)) rfl,
        outputContains_replicate passed_foreign, Bool.and_false]

end GameBoy

end CyclePerfectGameboy
