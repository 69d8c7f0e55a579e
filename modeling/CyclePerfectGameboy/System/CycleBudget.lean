import CyclePerfectGameboy.Cpu.CycleCounts
import CyclePerfectGameboy.System.GameBoy

/-!
# Running for a budget of cycles

`CPU::run` and `GameBoy::run_for_cycles` share one loop shape: add the cycles
of an instruction to a 32-bit accumulator until it reaches the budget.  A
caller that repeats `step` spends its cycles in the same way.
-/

namespace CyclePerfectGameboy

open BudgetLoop

universe u

/-- Every pass of the body costs what one instruction can cost. -/
def CountsInstructions {State : Type u}
    (body : State → BitVec 32 × State) : Prop :=
  ∀ state, ∃ cycles ∈ instructionCycles,
    (body state).1.toNat = cycles.toNat

namespace CountsInstructions

variable {State : Type u} {body : State → BitVec 32 × State}
variable (counts : CountsInstructions body)

include counts

theorem positive (state : State) : 0 < (body state).1.toNat := by
  rcases counts state with ⟨cycles, member, cost⟩
  have bounds : ∀ cycles ∈ instructionCycles, 0 < cycles.toNat := by decide
  rw [cost]
  exact bounds cycles member

theorem bounded (state : State) : (body state).1.toNat ≤ 20 := by
  rcases counts state with ⟨cycles, member, cost⟩
  have bounds : ∀ cycles ∈ instructionCycles, cycles.toNat ≤ 20 := by decide
  rw [cost]
  exact bounds cycles member

theorem multiple (state : State) : 4 ∣ (body state).1.toNat := by
  rcases counts state with ⟨cycles, member, cost⟩
  have divides : ∀ cycles ∈ instructionCycles, 4 ∣ cycles.toNat := by decide
  rw [cost]
  exact divides cycles member

theorem least (state : State) : 4 ≤ (body state).1.toNat :=
  Nat.le_of_dvd (counts.positive state) (counts.multiple state)

end CountsInstructions

theorem CPU.runBody_counts {M : Type u} [MemoryInterface M] :
    CountsInstructions (CPU.runBody (M := M)) := by
  intro machine
  exact ⟨_, machine.1.executeInstruction_cycles_mem machine.2,
    toNat_widen_cycles _⟩

namespace GameBoy

theorem runBody_cost (gb : GameBoy) :
    (runBody gb).1.toNat =
      (gb.cpu.executeInstruction gb.memoryMap).cycles.toNat :=
  toNat_widen_cycles _

theorem runBody_counts : CountsInstructions runBody := by
  intro gb
  exact ⟨_, gb.cpu.executeInstruction_cycles_mem gb.memoryMap,
    runBody_cost gb⟩

/-- `step` as the body of a loop, its cycles widened like those of
`run_for_cycles`. -/
def stepBody (gb : GameBoy) : BitVec 32 × GameBoy :=
  (gb.step.1.setWidth 32, gb.step.2)

theorem stepBody_counts : CountsInstructions stepBody := by
  intro gb
  by_cases powered : gb.poweredOn = true
  · have stepped : (stepBody gb).1 = (runBody gb).1 := by
      rw [stepBody, step_of_powered powered]
      rfl
    rw [stepped]
    exact runBody_counts gb
  · rw [stepBody, step, if_neg powered]
    exact ⟨4, by decide, rfl⟩

theorem runForCycles_eq_loop
    {gb : GameBoy} (powered : gb.poweredOn = true)
    (fuel : Nat) (totalCycles : BitVec 32) :
    gb.runForCycles fuel totalCycles =
      loop runBody totalCycles fuel 0 gb :=
  if_pos powered

end GameBoy

/-- `run(cycles)` returns after exactly the shortest instruction sequence
whose exact cycle sum reaches the budget, which it overshoots by less than
20 cycles. -/
def CPU.RunIsExact {M : Type u} [MemoryInterface M]
    (cycles : BitVec 32) (machine : CPU × M) : Prop :=
  ∃ passes,
    Reaches CPU.runBody cycles machine passes ∧
      CPU.run passes cycles machine =
        some (after CPU.runBody passes machine) ∧
      (∀ fuel < passes, CPU.run fuel cycles machine = none) ∧
      spent CPU.runBody passes machine < cycles.toNat + 20

/-- The same property of `run_for_cycles(totalCycles)`. -/
def GameBoy.RunIsExact (totalCycles : BitVec 32) (gb : GameBoy) : Prop :=
  ∃ passes,
    Reaches GameBoy.runBody totalCycles gb passes ∧
      gb.runForCycles passes totalCycles =
        some (after GameBoy.runBody passes gb) ∧
      (∀ fuel < passes, gb.runForCycles fuel totalCycles = none) ∧
      spent GameBoy.runBody passes gb < totalCycles.toNat + 20

/-- The first exact cycle sum that reaches the budget still fits 32 bits. -/
def FitsAccumulator {State : Type u}
    (body : State → BitVec 32 × State)
    (budget : BitVec 32) (state : State) : Prop :=
  ∀ passes, Reaches body budget state passes →
    spent body passes state < 2 ^ 32

section Fits

variable {State : Type u} {body : State → BitVec 32 × State}

/-- The loop is exact if and only if the sum of the shortest prefix fits. -/
theorem exists_exact_iff_fits
    (counts : CountsInstructions body)
    (budget : BitVec 32) (state : State) :
    (∃ passes,
      Reaches body budget state passes ∧
        loop body budget passes 0 state = some (after body passes state) ∧
        (∀ fuel < passes, loop body budget fuel 0 state = none) ∧
        spent body passes state < budget.toNat + 20) ↔
      FitsAccumulator body budget state := by
  obtain ⟨passes, reaches⟩ :=
    exists_reaches body counts.positive budget state
  have exits :=
    exitsAfter_iff body reaches (by decide) (by decide) counts.bounded
  constructor
  · rintro ⟨other, otherReaches, returned, running, _⟩
    have same := otherReaches.unique body reaches
    subst same
    intro another anotherReaches
    rw [anotherReaches.unique body otherReaches]
    exact exits.mp ⟨returned, running⟩
  · intro fits
    obtain ⟨returned, running⟩ := exits.mpr (fits passes reaches)
    exact ⟨passes, reaches, returned, running,
      reaches.spent_lt body (by decide) counts.bounded⟩

/-- Any budget up to `2^32 - 20` fits, whatever is executed. -/
theorem fits_of_room
    (counts : CountsInstructions body)
    {budget : BitVec 32} (room : budget.toNat ≤ 2 ^ 32 - 20)
    (state : State) :
    FitsAccumulator body budget state := by
  intro passes reaches
  exact reaches.spent_lt_of_room body (by decide) counts.bounded
    (by omega)

/-- Cycle sums are multiples of four, so no budget above `2^32 - 4` fits. -/
theorem not_fits_of_high
    (counts : CountsInstructions body)
    {budget : BitVec 32} (high : 2 ^ 32 - 4 < budget.toNat)
    (state : State) :
    ¬ FitsAccumulator body budget state := by
  intro fits
  obtain ⟨passes, reaches⟩ :=
    exists_reaches body counts.positive budget state
  have small := fits passes reaches
  have large := reaches.1
  have divides := dvd_spent body counts.multiple passes state
  omega

end Fits

/-- Both drivers are exact precisely when the first exact cycle sum to reach
the budget fits the 32-bit accumulator.  Budgets up to `2^32 - 20` always
fit; above `2^32 - 4` none does, and the loop never returns. -/
theorem run_exact_iff_fits {M : Type u} [MemoryInterface M] :
    (∀ (cycles : BitVec 32) (machine : CPU × M),
      (CPU.RunIsExact cycles machine ↔
          FitsAccumulator CPU.runBody cycles machine) ∧
        (cycles.toNat ≤ 2 ^ 32 - 20 →
          FitsAccumulator CPU.runBody cycles machine) ∧
        (2 ^ 32 - 4 < cycles.toNat →
          ¬ FitsAccumulator CPU.runBody cycles machine ∧
            ∀ fuel, CPU.run fuel cycles machine = none)) ∧
      ∀ (totalCycles : BitVec 32) (gb : GameBoy),
        gb.poweredOn = true →
          (gb.RunIsExact totalCycles ↔
              FitsAccumulator GameBoy.runBody totalCycles gb) ∧
            (totalCycles.toNat ≤ 2 ^ 32 - 20 →
              FitsAccumulator GameBoy.runBody totalCycles gb) ∧
            (2 ^ 32 - 4 < totalCycles.toNat →
              ¬ FitsAccumulator GameBoy.runBody totalCycles gb ∧
                ∀ fuel, gb.runForCycles fuel totalCycles = none) := by
  constructor
  · intro cycles machine
    refine ⟨?_, ?_, ?_⟩
    · exact exists_exact_iff_fits CPU.runBody_counts cycles machine
    · intro room
      exact fits_of_room CPU.runBody_counts room machine
    · intro high
      refine ⟨?_, ?_⟩
      · exact not_fits_of_high CPU.runBody_counts high machine
      · intro fuel
        exact loop_never_returns CPU.runBody 4 (by decide)
          CPU.runBody_counts.multiple cycles (by omega) fuel 0 machine
          (by decide)
  · intro totalCycles gb powered
    refine ⟨?_, ?_, ?_⟩
    · have unfolded := gb.runForCycles_eq_loop powered
      simp only [GameBoy.RunIsExact, unfolded]
      exact exists_exact_iff_fits GameBoy.runBody_counts totalCycles gb
    · intro room
      exact fits_of_room GameBoy.runBody_counts room gb
    · intro high
      refine ⟨?_, ?_⟩
      · exact not_fits_of_high GameBoy.runBody_counts high gb
      · intro fuel
        rw [gb.runForCycles_eq_loop powered]
        exact loop_never_returns GameBoy.runBody 4 (by decide)
          GameBoy.runBody_counts.multiple totalCycles (by omega) fuel 0 gb
          (by decide)

/-- One frame is an exact run, of the CPU on a memory of `NOP`s and of a
machine that has just been reset. -/
theorem run_frame_exact :
    CPU.RunIsExact 70224 (({} : CPU), (fun _ => 0 : FlatMemory)) ∧
      (GameBoy.ofRom {}).reset.RunIsExact 70224 := by
  obtain ⟨cpuRuns, gameBoyRuns⟩ :=
    run_exact_iff_fits (M := FlatMemory)
  obtain ⟨cpuExact, cpuRoom, _⟩ :=
    cpuRuns 70224 (({} : CPU), (fun _ => 0 : FlatMemory))
  obtain ⟨exact, room, _⟩ :=
    gameBoyRuns 70224 (GameBoy.ofRom {}).reset rfl
  exact ⟨cpuExact.mpr (cpuRoom (by decide)), exact.mpr (room (by decide))⟩

/-- The largest budget: four-cycle steps carry the accumulator from
`2^32 - 4` back to zero, and `run` never returns. -/
theorem run_max_budget_diverges :
    ¬ CPU.RunIsExact 0xFFFFFFFF (({} : CPU), (fun _ => 0 : FlatMemory)) ∧
      ∀ fuel,
        CPU.run fuel 0xFFFFFFFF (({} : CPU), (fun _ => 0 : FlatMemory)) =
          none := by
  have diverges :
      ∀ fuel,
        CPU.run fuel 0xFFFFFFFF (({} : CPU), (fun _ => 0 : FlatMemory)) =
          none := by
    intro fuel
    exact loop_never_returns CPU.runBody 4 (by decide)
      CPU.runBody_counts.multiple 0xFFFFFFFF (by decide) fuel 0 _ (by decide)
  refine ⟨?_, diverges⟩
  rintro ⟨passes, _, returned, _⟩
  rw [diverges passes] at returned
  exact Option.some_ne_none _ returned.symm

end CyclePerfectGameboy
