import CyclePerfectGameboy.System.DriverAgreement
import CyclePerfectGameboy.System.StoreHook

/-!
# The serial port

A program sends a byte by storing it to `SB` and then setting bit 7 of `SC`.
On the machine `SC` always reads as `0xFF`, so every step sends a byte.
-/

namespace CyclePerfectGameboy.GameBoy

open BudgetLoop Lockstep

/-- The next instruction stores a byte with bit 7 set to `SC`. -/
def transmits (gb : GameBoy) : Bool :=
  gb.executedStores.any
    (fun store => decide (store.1 = scAddr) && store.2.getLsbD 7)

/-- The bytes that a program asks for in a number of steps: `SB` at the end
of each step that transmits. -/
def serialBytes (gb : GameBoy) : Nat → List Byte
  | 0 => []
  | steps + 1 =>
      serialBytes gb steps ++
        if (after stepBody steps gb).transmits = true then
          [read (after stepBody (steps + 1) gb).memoryMap sbAddr]
        else
          []

/-- The serial port sends what the program asks for, and nothing else. -/
structure SerialExact (gb : GameBoy) (steps : Nat) : Prop where
  sent :
    (after stepBody steps gb).serialBuffer =
      gb.serialBuffer ++ serialBytes gb steps
  silent :
    ∀ k < steps, (after stepBody k gb).transmits = false →
      (after stepBody (k + 1) gb).serialBuffer =
        (after stepBody k gb).serialBuffer
  completed :
    ∀ k < steps,
      (read (after stepBody (k + 1) gb).memoryMap scAddr).getLsbD 7 = false

section Steps

variable {gb : GameBoy}

theorem stepBody_wellFormed (wellFormed : gb.WellFormed) :
    (stepBody gb).2.WellFormed :=
  step_wellFormed wellFormed

theorem after_stepBody_wellFormed
    (wellFormed : gb.WellFormed) (steps : Nat) :
    (after stepBody steps gb).WellFormed :=
  after_invariant (fun _ => stepBody_wellFormed) wellFormed steps

/-- Both registers of the port read as `0xFF` after every step. -/
theorem serial_registers_read
    (wellFormed : gb.WellFormed) (steps : Nat) :
    read (after stepBody steps gb).memoryMap sbAddr = 0xFF ∧
      read (after stepBody steps gb).memoryMap scAddr = 0xFF := by
  have layout := (after_stepBody_wellFormed wellFormed steps).layout
  constructor
  · exact GameBoyMap.read_of_high layout (by decide)
  · exact GameBoyMap.read_of_high layout (by decide)

/-- What the program asks for: one `0xFF` for each step that transmits. -/
theorem serialBytes_succ
    (wellFormed : gb.WellFormed) (steps : Nat) :
    serialBytes gb (steps + 1) =
      serialBytes gb steps ++
        if (after stepBody steps gb).transmits = true then [0xFF]
        else [] := by
  rw [serialBytes, (serial_registers_read wellFormed (steps + 1)).1]

theorem serialBytes_length_le (gb : GameBoy) (steps : Nat) :
    (serialBytes gb steps).length ≤ steps := by
  induction steps with
  | zero =>
      exact Nat.le_refl 0
  | succ steps inductionHypothesis =>
      rw [serialBytes, List.length_append]
      apply Nat.add_le_add inductionHypothesis
      split
      · exact Nat.le_refl 1
      · exact Nat.zero_le 1

/-- The program asks for a byte in every step exactly if every step
transmits. -/
theorem serialBytes_eq_replicate_iff
    (wellFormed : gb.WellFormed) (steps : Nat) :
    serialBytes gb steps = List.replicate steps 0xFF ↔
      ∀ k < steps, (after stepBody k gb).transmits = true := by
  induction steps with
  | zero =>
      exact ⟨fun _ k before => absurd before (Nat.not_lt_zero k), fun _ => rfl⟩
  | succ steps inductionHypothesis =>
      rw [serialBytes_succ wellFormed, List.replicate_succ',
        Nat.forall_lt_succ_right, ← inductionHypothesis]
      by_cases transmitted : (after stepBody steps gb).transmits = true
      · rw [if_pos transmitted, List.append_cancel_right_eq]
        exact ⟨fun same => ⟨same, transmitted⟩, fun both => both.1⟩
      · rw [if_neg transmitted, List.append_nil]
        constructor
        · intro same
          have lengths := congrArg List.length same
          have bound := serialBytes_length_le gb steps
          rw [List.length_append, List.length_replicate,
            List.length_singleton] at lengths
          omega
        · rintro ⟨_, transmitted'⟩
          exact absurd transmitted' transmitted

/-- The bytes sent are those asked for exactly if every step transmits. -/
theorem sent_iff_transmits
    (wellFormed : gb.WellFormed) (powered : gb.poweredOn = true)
    (steps : Nat) :
    (after stepBody steps gb).serialBuffer =
        gb.serialBuffer ++ serialBytes gb steps ↔
      ∀ k < steps, (after stepBody k gb).transmits = true := by
  rw [after_stepBody_serialBuffer steps wellFormed powered,
    List.append_cancel_left_eq, eq_comm]
  exact serialBytes_eq_replicate_iff wellFormed steps

end Steps

/-- After a reset the serial port is right for no number of steps but zero;
its bytes alone are right as long as every instruction transmits. -/
theorem serial_exact_iff
    {gb : GameBoy} (reachable : Reachable gb) (steps : Nat) :
    (SerialExact gb.reset steps ↔ steps = 0) ∧
      ((after stepBody steps gb.reset).serialBuffer =
          gb.reset.serialBuffer ++ serialBytes gb.reset steps ↔
        ∀ k < steps, (after stepBody k gb.reset).transmits = true) := by
  have wellFormed := (Reachable.reset reachable).wellFormed
  have powered : gb.reset.poweredOn = true := rfl
  refine ⟨?_, sent_iff_transmits wellFormed powered steps⟩
  constructor
  · intro correct
    by_contra some
    have cleared := correct.completed 0 (Nat.pos_of_ne_zero some)
    rw [(serial_registers_read wellFormed 1).2] at cleared
    exact absurd cleared (by decide)
  · rintro rfl
    exact
      { sent := (List.append_nil _).symm
        silent := fun k before => absurd before (Nat.not_lt_zero k)
        completed := fun k before => absurd before (Nat.not_lt_zero k) }

/-- Twice `LD (0xFF02),SP`, which stores the byte `0xFE` to `SC`. -/
def sendingImage : List Byte :=
  List.replicate 0x100 0 ++ [0x08, 0x02, 0xFF, 0x08, 0x02, 0xFF]

/-- Both stores ask for a byte and get it, but no transfer is completed. -/
theorem serial_bytes_of_two_stores :
    let gb := ofRom { data := sendingImage }
    (after stepBody 2 gb.reset).serialBuffer =
        gb.reset.serialBuffer ++ serialBytes gb.reset 2 ∧
      ¬ SerialExact gb.reset 2 := by
  intro gb
  have port := serial_exact_iff (Reachable.ofRom { data := sendingImage }) 2
  refine ⟨port.2.mpr ?_, ?_⟩
  · decide
  · rw [port.1]
    decide

/-- The first step of a machine without a cartridge sends a byte that nobody
asked for. -/
theorem serial_invents_byte :
    ¬ ∀ (rom : ROM) (steps : Nat), SerialExact (ofRom rom).reset steps := by
  intro always
  have wellFormed :=
    (Reachable.reset (Reachable.ofRom {})).wellFormed
  have sent := (always {} 1).sent
  have transmitted :=
    (sent_iff_transmits wellFormed rfl 1).mp sent 0 Nat.one_pos
  exact absurd transmitted (by decide)

end CyclePerfectGameboy.GameBoy
