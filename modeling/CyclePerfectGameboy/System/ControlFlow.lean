import CyclePerfectGameboy.Cpu.InstructionStream
import CyclePerfectGameboy.Foundations.ForwardOrbit
import CyclePerfectGameboy.System.Console
import CyclePerfectGameboy.System.DriverAgreement
import Mathlib.Algebra.Order.BigOperators.Group.Finset

/-!
# Where a program can go

No control transfer is implemented and no interrupt is dispatched, so the
bytes of the cartridge alone decide which opcodes a machine executes.  Above
the cartridge every byte reads as the one-byte opcode `0xFF`, which takes the
program counter to the end of the address space and back to zero.
-/

namespace CyclePerfectGameboy

open BudgetLoop CallSequence ForwardOrbit Function Lockstep

/-- What the address space shows under a cartridge image. -/
def shownByte (image : List Byte) (addr : Address) : Byte :=
  if addr.toNat < 0x8000 then image.getD addr.toNat 0xFF else 0xFF

/-- How far an opcode moves `PC`; after the prefix only the prefix is
skipped. -/
def opcodeAdvance (opcode : Byte) : Word :=
  if opcode = 0xCB then 1 else BitVec.ofNat 16 (instructionLength opcode)

/-- The program counter after the opcode that it points to. -/
def nextPc (image : List Byte) (pc : Word) : Word :=
  pc + opcodeAdvance (shownByte image pc)

/-- The cycles of the opcode that a program counter points to. -/
def pcCycles (image : List Byte) (pc : Word) : Nat :=
  (opcodeCycles (shownByte image pc)).toNat

/-- A loop that keeps nothing but the program counter. -/
def pcBody (image : List Byte) (pc : Word) : BitVec 32 × Word :=
  ((opcodeCycles (shownByte image pc)).setWidth 32, nextPc image pc)

theorem opcodeAdvance_bounds (opcode : Byte) :
    1 ≤ (opcodeAdvance opcode).toNat ∧ (opcodeAdvance opcode).toNat ≤ 3 := by
  have positive : ∀ entry ∈ instructionTable, 1 ≤ entry.length.toNat := by
    decide +kernel
  have short := instructionLength_le opcode
  unfold opcodeAdvance
  by_cases isPrefix : opcode = 0xCB
  · rw [if_pos isPrefix]
    decide
  · have long : 1 ≤ instructionLength opcode := by
      rw [instructionLength, if_neg isPrefix]
      exact instructionAt_property positive opcode
    rw [if_neg isPrefix, BitVec.toNat_ofNat, Nat.mod_eq_of_lt (by omega)]
    exact ⟨long, short⟩

theorem nextPc_of_high
    (image : List Byte) {pc : Word} (high : 0x8000 ≤ pc.toNat) :
    nextPc image pc = pc + 1 := by
  rw [nextPc, shownByte, if_neg (Nat.not_lt.mpr high)]
  rfl

theorem nextPc_of_low
    (image : List Byte) {pc : Word} (low : pc.toNat < 0x8000) :
    pc.toNat + 1 ≤ (nextPc image pc).toNat ∧
      (nextPc image pc).toNat ≤ pc.toNat + 3 := by
  have bounds := opcodeAdvance_bounds (shownByte image pc)
  rw [nextPc, BitVec.toNat_add, Nat.mod_eq_of_lt (by omega)]
  omega

/-- The program counter goes up, or from `0xFFFF` to zero. -/
theorem nextPc_forward (image : List Byte) : Forward (nextPc image) := by
  intro pc
  by_cases low : pc.toNat < 0x8000
  · exact Or.inl (nextPc_of_low image low).1
  · rw [nextPc_of_high image (Nat.le_of_not_lt low)]
    by_cases last : pc = 0xFFFF
    · exact Or.inr (by rw [last]; rfl)
    · exact Or.inl (by bv_omega)

/-- The least number of opcodes that take the program counter from zero to an
address: three bytes at a time in the cartridge, then byte by byte. -/
def fewestOpcodes (pc : Word) : Nat :=
  if pc.toNat < 0x8000 then (pc.toNat + 2) / 3
  else pc.toNat - 0x8000 + 10922

theorem fewestOpcodes_nextPc (image : List Byte) (pc : Word) :
    (nextPc image pc ≠ 0 →
      fewestOpcodes (nextPc image pc) ≤ fewestOpcodes pc + 1) ∧
      (nextPc image pc = 0 → 43690 ≤ fewestOpcodes pc + 1) := by
  by_cases low : pc.toNat < 0x8000
  · have bounds := nextPc_of_low image low
    constructor
    · intro _
      simp only [fewestOpcodes, if_pos low]
      split <;> omega
    · intro back
      rw [back] at bounds
      exact absurd bounds.1 (Nat.not_succ_le_zero _)
  · have high := Nat.le_of_not_lt low
    have next := nextPc_of_high image high
    have inside := pc.isLt
    constructor
    · intro notBack
      rw [next] at notBack ⊢
      have counted : (pc + 1).toNat = pc.toNat + 1 := by bv_omega
      rw [fewestOpcodes, fewestOpcodes, counted, if_neg (by omega),
        if_neg low]
      omega
    · intro back
      rw [next] at back
      have last : pc.toNat = 0xFFFF := by bv_omega
      rw [fewestOpcodes, if_neg low, last]

theorem lap_bounds (image : List Byte) :
    43690 ≤ lap (nextPc image) ∧ lap (nextPc image) ≤ 65536 :=
  ⟨(nextPc_forward image).height_le_lap rfl
      (fun pc => (fewestOpcodes_nextPc image pc).1)
      (fun pc => (fewestOpcodes_nextPc image pc).2),
    (nextPc_forward image).lap_le⟩

theorem pcCycles_bounds (image : List Byte) (pc : Word) :
    4 ≤ pcCycles image pc ∧ pcCycles image pc ≤ 20 := by
  have counts :
      ∀ cycles ∈ instructionCycles, 4 ≤ cycles.toNat ∧ cycles.toNat ≤ 20 := by
    decide
  exact counts _ (opcodeCycles_mem _)

theorem lapCycles_bounds (image : List Byte) :
    4 * lap (nextPc image) ≤
        birkhoffSum (nextPc image) (pcCycles image) (lap (nextPc image)) 0 ∧
      birkhoffSum (nextPc image) (pcCycles image) (lap (nextPc image)) 0 ≤
        20 * lap (nextPc image) := by
  have least :=
    Finset.card_nsmul_le_sum (Finset.range (lap (nextPc image)))
      (fun k => pcCycles image ((nextPc image)^[k] 0)) 4
      (fun k _ => (pcCycles_bounds image _).1)
  have most :=
    Finset.sum_le_card_nsmul (Finset.range (lap (nextPc image)))
      (fun k => pcCycles image ((nextPc image)^[k] 0)) 20
      (fun k _ => (pcCycles_bounds image _).2)
  rw [Finset.card_range, smul_eq_mul, Nat.mul_comm] at least most
  exact ⟨least, most⟩

theorem spent_pcBody (image : List Byte) (passes : Nat) (pc : Word) :
    spent (pcBody image) passes pc =
      birkhoffSum (nextPc image) (pcCycles image) passes pc := by
  have widened :
      (fun pc => (pcBody image pc).1.toNat) = pcCycles image := by
    funext pc
    exact toNat_widen_cycles _
  rw [spent_eq_birkhoffSum, widened]
  rfl

/-! ## Machines on the path -/

theorem CartridgeBus.read_eq_shownByte (bus : CartridgeBus) (addr : Address) :
    read bus addr = shownByte bus.rom.data addr := by
  change (if addr.toNat < 0x8000 then bus.rom.read addr else 0xFF) = _
  rw [shownByte, ROM.read_eq_getD]

/-- One opcode moves `PC` along the path, whatever is in the registers. -/
theorem Console.runBody_path (console : Console) :
    (Console.runBody console).1 =
        (pcBody console.rom.data console.registers.pc.value).1 ∧
      (Console.runBody console).2.registers.pc.value =
        nextPc console.rom.data console.registers.pc.value := by
  constructor
  · change ((console.cpu.executeOpcode
      ({ rom := console.rom } : CartridgeBus)).cycles.setWidth 32) = _
    rw [CPU.executeOpcode_cycles, CartridgeBus.read_eq_shownByte]
    rfl
  · change (console.cpu.executeOpcode
      ({ rom := console.rom } : CartridgeBus)).cpu.registers.pc.value = _
    rw [CPU.executeOpcode_pc, CPU.fetch, CartridgeBus.read_eq_shownByte]
    rfl

namespace GameBoy

/-- The machine shows some console with this image whose program counter is
`pc`. -/
def Follows (image : List Byte) (gb : GameBoy) (pc : Word) : Prop :=
  ∃ console, gb.Shows console ∧ console.rom.data = image ∧
    console.registers.pc.value = pc

theorem Follows.pc_eq
    {image : List Byte} {gb : GameBoy} {pc : Word}
    (follows : Follows image gb pc) :
    gb.cpu.registers.pc.value = pc := by
  rcases follows with ⟨console, shows_, _, same⟩
  rw [shows_.cpu]
  exact same

theorem Follows.awake
    {image : List Byte} {gb : GameBoy} {pc : Word}
    (follows : Follows image gb pc) :
    gb.cpu.running ∧ gb.cpu.ime = false := by
  rcases follows with ⟨console, shows_, _, _⟩
  rw [shows_.cpu]
  exact ⟨⟨rfl, rfl⟩, rfl⟩

theorem Reachable.follows {gb : GameBoy} (reachable : Reachable gb) :
    Follows gb.cartridge.data gb gb.cpu.registers.pc.value := by
  rcases reachable.shows_console with ⟨console, shows_⟩
  refine ⟨console, shows_, ?_, ?_⟩
  · rw [shows_.cartridge]
  · rw [shows_.cpu]
    rfl

theorem runBody_follows (image : List Byte) :
    Related (Follows image) runBody (pcBody image) := by
  rintro gb pc ⟨console, shows_, sameImage, samePc⟩
  rcases Shows.runBody gb console shows_ with ⟨cycles, next⟩
  rcases console.runBody_path with ⟨pathCycles, pathPc⟩
  subst sameImage samePc
  exact ⟨cycles.trans pathCycles, _, next, rfl, pathPc⟩

theorem stepBody_follows (image : List Byte) :
    Related (fun gb pc => gb.poweredOn = true ∧ Follows image gb pc)
      stepBody (pcBody image) := by
  rintro gb pc ⟨powered, follows⟩
  rcases runBody_follows image gb pc follows with
    ⟨cycles, next, nextShows, nextImage, nextPc⟩
  have stepped := step_of_powered powered
  refine ⟨?_, ?_, next.handleSerialTransfer, ?_, nextImage, nextPc⟩
  · rw [stepBody, stepped]
    exact cycles
  · rw [stepBody, stepped]
    exact (handleSerialTransfer_poweredOn _).trans powered
  · rw [stepBody, stepped]
    exact nextShows.handleSerialTransfer

variable {gb : GameBoy}

/-- Powered steps of a reachable machine stay on the path from its program
counter. -/
theorem after_follows
    (reachable : Reachable gb) (powered : gb.poweredOn = true)
    (steps : Nat) :
    Follows gb.cartridge.data (after stepBody steps gb)
      ((nextPc gb.cartridge.data)^[steps] gb.cpu.registers.pc.value) :=
  (after_related (stepBody_follows gb.cartridge.data) steps
    ⟨powered, reachable.follows⟩).2

theorem spent_follows
    (reachable : Reachable gb) (powered : gb.poweredOn = true)
    (steps : Nat) :
    spent stepBody steps gb =
      birkhoffSum (nextPc gb.cartridge.data) (pcCycles gb.cartridge.data)
        steps gb.cpu.registers.pc.value := by
  rw [spent_related (stepBody_follows gb.cartridge.data) steps
      ⟨powered, reachable.follows⟩, spent_pcBody]

/-- The cartridge image alone decides which opcodes are executed: no step of
a reachable machine idles or dispatches, and the program counter and the
cycles are those of the path through the image. -/
theorem steps_follow_image
    (reachable : Reachable gb) (powered : gb.poweredOn = true)
    (steps : Nat) :
    let last := after stepBody steps gb
    let image := gb.cartridge.data
    let pc := gb.cpu.registers.pc.value
    last.cpu.running ∧ last.cpu.ime = false ∧
      last.cpu.registers.pc.value = (nextPc image)^[steps] pc ∧
      spent stepBody steps gb =
        birkhoffSum (nextPc image) (pcCycles image) steps pc := by
  have path := after_follows reachable powered steps
  exact ⟨path.awake.1, path.awake.2, path.pc_eq,
    spent_follows reachable powered steps⟩

/-- From `0x0100` on: `LD B,0x12`, a jump to `0x1234` that is not taken, a
prefix before `0x37`, and `LD BC,0xABCD`. -/
def shortImage : List Byte :=
  List.replicate 0x100 0 ++
    [0x06, 0x12, 0xC3, 0x34, 0x12, 0xCB, 0x37, 0x01, 0xCD, 0xAB]

/-- Five steps of a machine that has just been reset. -/
theorem steps_follow_short_image :
    let gb := (ofRom { data := shortImage }).reset
    (after stepBody 5 gb).cpu.registers.pc.value = 0x010A ∧
      spent stepBody 5 gb = 32 := by
  intro gb
  have reachable : Reachable gb := Reachable.reset (Reachable.ofRom _)
  obtain ⟨_, _, path, cost⟩ := steps_follow_image reachable rfl 5
  have there : (nextPc shortImage)^[5] 0x0100 = 0x010A := by
    decide
  have total :
      birkhoffSum (nextPc shortImage) (pcCycles shortImage) 5 0x0100 = 32 := by
    decide
  exact ⟨path.trans there, cost.trans total⟩

/-- Under every image there is one lap through the address space.  Every
machine reaches address zero within `0x10000` steps and from then on repeats
the lap, at the same cost each time. -/
theorem steps_run_in_laps (image : List Byte) :
    ∃ opcodes cycles, 43690 ≤ opcodes ∧ opcodes ≤ 65536 ∧
      4 * opcodes ≤ cycles ∧ cycles ≤ 20 * opcodes ∧
      ∀ gb : GameBoy, Reachable gb → gb.poweredOn = true →
        gb.cartridge.data = image →
          ∃ first ≤ 65536,
            (after stepBody first gb).cpu.registers.pc.value = 0 ∧
              ∀ steps ≥ first,
                (after stepBody (steps + opcodes)
                      gb).cpu.registers.pc.value =
                    (after stepBody steps gb).cpu.registers.pc.value ∧
                  spent stepBody (steps + opcodes) gb =
                    spent stepBody steps gb + cycles := by
  refine ⟨lap (nextPc image),
    birkhoffSum (nextPc image) (pcCycles image) (lap (nextPc image)) 0,
    (lap_bounds image).1, (lap_bounds image).2,
    (lapCycles_bounds image).1, (lapCycles_bounds image).2, ?_⟩
  rintro gb reachable powered rfl
  obtain ⟨first, _, bounded, arrived⟩ :=
    (nextPc_forward gb.cartridge.data).reaches_zero
      gb.cpu.registers.pc.value
  have path := after_follows reachable powered
  have cost := spent_follows reachable powered
  refine ⟨first, by omega, ?_, ?_⟩
  · rw [(path first).pc_eq, arrived]
  · intro steps later
    obtain ⟨more, rfl⟩ := Nat.exists_eq_add_of_le later
    have around :=
      birkhoffSum_add_period arrived
        (lap_isPeriodic (nextPc gb.cartridge.data))
        (pcCycles gb.cartridge.data) more
    rw [(path _).pc_eq, (path _).pc_eq, cost, cost]
    exact around

/-- A machine that has just been reset comes to address zero and comes back to
it. -/
theorem steps_run_to_zero :
    let gb := (ofRom { data := shortImage }).reset
    ∃ first opcodes, first ≤ 65536 ∧ 43690 ≤ opcodes ∧
      (after stepBody first gb).cpu.registers.pc.value = 0 ∧
        (after stepBody (first + opcodes) gb).cpu.registers.pc.value = 0 := by
  intro gb
  obtain ⟨opcodes, _, least, _, _, _, laps⟩ := steps_run_in_laps shortImage
  obtain ⟨first, bounded, arrived, repeats⟩ :=
    laps gb (Reachable.reset (Reachable.ofRom _)) rfl rfl
  exact
    ⟨first, opcodes, bounded, least, arrived,
      (repeats first (Nat.le_refl _)).1.trans arrived⟩

end GameBoy

end CyclePerfectGameboy
