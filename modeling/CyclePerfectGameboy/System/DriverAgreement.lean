import CyclePerfectGameboy.System.CycleBudget
import CyclePerfectGameboy.System.Reachability

/-!
# The two drivers

`run_for_cycles` repeats what `step` does but for the serial port, which only
`step` services.  On a machine of this repository every service sends a byte,
so the two drivers part at the first instruction.
-/

namespace CyclePerfectGameboy

open BudgetLoop Lockstep

namespace GameBoy

/-- Two machines that differ at most in what they have sent. -/
structure SameButSerial (left right : GameBoy) : Prop where
  wellFormed : right.WellFormed
  powered : right.poweredOn = true
  same : left = { right with serialBuffer := left.serialBuffer }

theorem SameButSerial.refl
    {gb : GameBoy} (wellFormed : gb.WellFormed)
    (powered : gb.poweredOn = true) :
    SameButSerial gb gb :=
  ⟨wellFormed, powered, rfl⟩

/-- `step` is one pass of `run_for_cycles` and a byte on the serial port. -/
theorem stepBody_eq
    {gb : GameBoy} (wellFormed : gb.WellFormed)
    (powered : gb.poweredOn = true) :
    stepBody gb =
      ((runBody gb).1,
        { (runBody gb).2 with
          serialBuffer := gb.serialBuffer ++ [0xFF] }) := by
  have layout := (runBody_wellFormed wellFormed).layout
  have serviced := handleSerialTransfer_of_layout layout
  rw [stepBody, step_of_powered powered]
  exact congrArg (Prod.mk _) serviced

theorem stepBody_related :
    Related SameButSerial stepBody runBody := by
  intro left right related
  obtain ⟨wellFormed, powered, same⟩ := related
  have leftWellFormed : left.WellFormed := by
    rw [same]
    exact ⟨wellFormed.layout, wellFormed.timer⟩
  have leftPowered : left.poweredOn = true := by
    rw [same]
    exact powered
  rw [stepBody_eq leftWellFormed leftPowered, same]
  exact ⟨rfl, runBody_wellFormed wellFormed, powered, rfl⟩

/-- Stepping sends one byte for each instruction. -/
theorem after_stepBody_serialBuffer
    (passes : Nat) {gb : GameBoy} (wellFormed : gb.WellFormed)
    (powered : gb.poweredOn = true) :
    (after stepBody passes gb).serialBuffer =
      gb.serialBuffer ++ List.replicate passes 0xFF := by
  induction passes generalizing gb with
  | zero =>
      exact (List.append_nil _).symm
  | succ passes inductionHypothesis =>
      have stepped := stepBody_eq wellFormed powered
      have next : (stepBody gb).2.WellFormed := by
        rw [stepped]
        exact ⟨(runBody_wellFormed wellFormed).layout,
          (runBody_wellFormed wellFormed).timer⟩
      have nextPowered : (stepBody gb).2.poweredOn = true := by
        rw [stepped]
        exact powered
      rw [after_succ, inductionHypothesis next nextPowered, stepped,
        List.replicate_succ, List.append_assoc, List.singleton_append]

theorem after_runBody_serialBuffer (passes : Nat) (gb : GameBoy) :
    (after runBody passes gb).serialBuffer = gb.serialBuffer := by
  have kept :
      ∀ later : GameBoy, later.serialBuffer = gb.serialBuffer →
        (runBody later).2.serialBuffer = gb.serialBuffer := by
    intro later same
    exact same
  exact after_invariant kept rfl passes

/-- After the same number of instructions the stepped machine is the batch
machine with a byte sent for each of them. -/
theorem after_stepBody_eq
    (passes : Nat) {gb : GameBoy} (wellFormed : gb.WellFormed)
    (powered : gb.poweredOn = true) :
    after stepBody passes gb =
      { after runBody passes gb with
        serialBuffer :=
          (after runBody passes gb).serialBuffer ++
            List.replicate passes 0xFF } := by
  have related :=
    after_related stepBody_related passes
      (SameButSerial.refl wellFormed powered)
  rw [related.same, after_stepBody_serialBuffer passes wellFormed powered,
    after_runBody_serialBuffer]

/-- A budget with room is met by the same number of instructions in both
drivers. -/
theorem runForCycles_of_reaches
    {gb : GameBoy} (wellFormed : gb.WellFormed)
    (powered : gb.poweredOn = true) {totalCycles : BitVec 32}
    (room : totalCycles.toNat < 2 ^ 32 - 20) {passes : Nat}
    (reaches : Reaches stepBody totalCycles gb passes)
    {fuel : Nat} (order : passes ≤ fuel) :
    gb.runForCycles fuel totalCycles = some (after runBody passes gb) := by
  have batch :=
    reaches_related stepBody_related
      (SameButSerial.refl wellFormed powered) reaches
  have fits :=
    fits_of_room runBody_counts (Nat.le_of_lt room) gb passes batch
  rw [runForCycles_eq_loop powered]
  exact (loop_eq_some_iff runBody batch fits).mpr ⟨order, rfl⟩

/-- `run_for_cycles(n)` and stepping until the cycles reach `n` lead to the
same machine only if `n` is zero; otherwise the stepped machine has sent one
more byte for every instruction. -/
theorem runForCycles_agrees_iff
    {gb : GameBoy} (reachable : Reachable gb)
    (powered : gb.poweredOn = true) (totalCycles : BitVec 32)
    (room : totalCycles.toNat < 2 ^ 32 - 20) :
    ∃ passes final,
      Reaches stepBody totalCycles gb passes ∧
        (∀ fuel ≥ passes, gb.runForCycles fuel totalCycles = some final) ∧
        (final = after stepBody passes gb ↔ totalCycles = 0) ∧
        after stepBody passes gb =
          { final with
            serialBuffer :=
              final.serialBuffer ++ List.replicate passes 0xFF } := by
  have wellFormed := reachable.wellFormed
  obtain ⟨passes, reaches⟩ :=
    exists_reaches stepBody stepBody_counts.positive totalCycles gb
  have stepped := after_stepBody_eq passes wellFormed powered
  refine ⟨passes, after runBody passes gb, reaches, ?_, ?_, stepped⟩
  · intro fuel order
    exact runForCycles_of_reaches wellFormed powered room reaches order
  · have noPasses : passes = 0 ↔ totalCycles = 0 := by
      constructor
      · rintro rfl
        have reached := reaches.1
        rw [spent] at reached
        exact BitVec.eq_of_toNat_eq (Nat.le_zero.mp reached)
      · rintro rfl
        by_contra some
        exact absurd (reaches.2 0 (Nat.pos_of_ne_zero some)) (by simp)
    rw [← noPasses]
    constructor
    · intro same
      have lengths := congrArg (fun gb => gb.serialBuffer.length) same
      simp only [stepped, List.length_append, List.length_replicate]
        at lengths
      omega
    · rintro rfl
      rfl

/-- A run of no cycles is no step. -/
theorem runForCycles_zero_agrees :
    (ofRom {}).reset.runForCycles 0 0 =
      some (after stepBody 0 (ofRom {}).reset) := by
  have reachable : Reachable (ofRom {}).reset :=
    Reachable.reset (Reachable.ofRom {})
  obtain ⟨passes, final, reaches, returned, agrees, _⟩ :=
    runForCycles_agrees_iff reachable rfl 0 (by decide)
  have none : Reaches stepBody 0 (ofRom {}).reset 0 :=
    ⟨Nat.le_refl 0, fun earlier before => absurd before (by omega)⟩
  have same := reaches.unique stepBody none
  subst same
  rw [returned 0 (Nat.le_refl 0), agrees.mpr rfl]

/-- After a reset, `run_for_cycles(4)` sends nothing and one `step` sends a
byte. -/
theorem runForCycles_skips_serial :
    ¬ ∀ (gb : GameBoy) (totalCycles : BitVec 32) (passes fuel : Nat)
        (final : GameBoy),
      Reachable gb → gb.poweredOn = true →
      totalCycles.toNat < 2 ^ 32 - 20 →
      Reaches stepBody totalCycles gb passes →
      gb.runForCycles fuel totalCycles = some final →
      final = after stepBody passes gb := by
  intro always
  have reachable : Reachable (ofRom {}).reset :=
    Reachable.reset (Reachable.ofRom {})
  have wellFormed := reachable.wellFormed
  obtain ⟨passes, reaches⟩ :=
    exists_reaches stepBody stepBody_counts.positive 4 (ofRom {}).reset
  have same :=
    always _ 4 passes passes _ reachable rfl (by decide) reaches
      (runForCycles_of_reaches wellFormed rfl (by decide) reaches
        (Nat.le_refl passes))
  have lengths := congrArg (fun gb => gb.serialBuffer.length) same
  rw [after_stepBody_eq passes wellFormed rfl] at lengths
  simp only [List.length_append, List.length_replicate] at lengths
  have noPasses : passes = 0 := by omega
  subst noPasses
  exact absurd reaches.1 (by decide)

end GameBoy

end CyclePerfectGameboy
