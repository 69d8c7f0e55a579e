import CyclePerfectGameboy.Foundations.Lockstep
import CyclePerfectGameboy.System.CycleBudget

/-!
# Running frame after frame

`run_frame` forgets by how much the last instruction overshot the frame, so
the cycles of many frames drift from the exact multiple, but never by more
than 16 cycles for each of them.
-/

namespace CyclePerfectGameboy.GameBoy

open BudgetLoop

/-- A number of calls of `run_frame`. -/
def runFrames (fuel : Nat) : Nat → GameBoy → Option GameBoy
  | 0, gb => some gb
  | count + 1, gb => (gb.runFrame fuel).bind (runFrames fuel count)

theorem runBody_poweredOn (gb : GameBoy) :
    (runBody gb).2.poweredOn = gb.poweredOn :=
  rfl

theorem runFrames_eq_loops
    (fuel count : Nat) {gb : GameBoy} (powered : gb.poweredOn = true) :
    runFrames fuel count gb = loops runBody cyclesPerFrame fuel count gb := by
  induction count generalizing gb with
  | zero =>
      rfl
  | succ count inductionHypothesis =>
      have framed :
          gb.runFrame fuel = loop runBody cyclesPerFrame fuel 0 gb := by
        rw [runFrame, if_pos powered, runForCycles_eq_loop powered]
      rw [runFrames, loops, framed]
      cases returned : loop runBody cyclesPerFrame fuel 0 gb with
      | none =>
          rfl
      | some next =>
          rcases after_of_loop runBody returned with ⟨passes, same, _⟩
          have stillPowered : next.poweredOn = true := by
            rw [same]
            exact Lockstep.after_invariant
              (fun state on => (runBody_poweredOn state).trans on) powered
              passes
          exact inductionHypothesis stillPowered

/-- One frame takes at most 17556 instructions and 70240 cycles. -/
theorem frame_reaches (gb : GameBoy) :
    ∃ passes ≤ 17556,
      Reaches runBody cyclesPerFrame gb passes ∧
        spent runBody passes gb ≤ 70240 := by
  obtain ⟨passes, reaches⟩ :=
    exists_reaches runBody runBody_counts.positive cyclesPerFrame gb
  have budget : cyclesPerFrame.toNat = 70224 := rfl
  have overshoot :=
    reaches.spent_lt runBody (by decide) runBody_counts.bounded
  have divides := dvd_spent runBody runBody_counts.multiple passes gb
  refine ⟨passes, ?_, reaches, ?_⟩
  · exact reaches.passes_le runBody runBody_counts.least (by rw [budget])
  · omega

/-- Any number of frames are one run of instructions.  It takes the cycles of
the frames and at most 16 more for each, and 17556 passes of the loop are
enough for a frame. -/
theorem frames_pace
    {gb : GameBoy} (powered : gb.poweredOn = true) (count : Nat) :
    ∃ passes,
      (∀ fuel ≥ 17556,
        runFrames fuel count gb = some (after runBody passes gb)) ∧
        70224 * count ≤ spent runBody passes gb ∧
        spent runBody passes gb ≤ 70224 * count + 16 * count := by
  obtain ⟨passes, ran, atLeast, atMost⟩ :=
    loops_exact runBody (show 70240 < 2 ^ 32 by decide) frame_reaches count
      gb
  have budget : cyclesPerFrame.toNat = 70224 := rfl
  rw [budget] at atLeast
  refine ⟨passes, ?_, atLeast, by omega⟩
  intro fuel enough
  rw [runFrames_eq_loops fuel count powered, ran fuel enough]

/-- A second of frames on a machine that has just been reset. -/
theorem sixty_frames_pace :
    ∃ passes,
      runFrames 17556 60 (ofRom {}).reset =
          some (after runBody passes (ofRom {}).reset) ∧
        4213440 ≤ spent runBody passes (ofRom {}).reset ∧
        spent runBody passes (ofRom {}).reset ≤ 4214400 := by
  obtain ⟨passes, ran, atLeast, atMost⟩ :=
    frames_pace (show (ofRom {}).reset.poweredOn = true from rfl) 60
  exact ⟨passes, ran 17556 (Nat.le_refl _), atLeast, atMost⟩

end CyclePerfectGameboy.GameBoy
