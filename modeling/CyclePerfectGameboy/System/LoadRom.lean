import CyclePerfectGameboy.System.GameBoy

/-!
# Loading a cartridge into a machine

`load_rom` works on the cartridge that the memory map points to, so a load
that fails half-way is seen by the machine that goes on running.
-/

namespace CyclePerfectGameboy.GameBoy

/-- Without a file nothing happens. -/
theorem loadRom_of_openFailed (gb : GameBoy) :
    gb.loadRom .openFailed = (false, gb) := by
  have sameObjects :
      Function.update gb.memoryMap.objects .cartridge gb.cartridge =
        gb.memoryMap.objects :=
    Function.update_eq_self _ _
  simp only [loadRom, ROM.loadFromFile, sameObjects]
  rfl

/-- A read that falls short empties the cartridge in place. -/
theorem loadRom_of_short (gb : GameBoy) (size : Nat) :
    gb.loadRom (.short size) =
      (false,
        { gb with
          memoryMap :=
            { gb.memoryMap with
              objects :=
                Function.update gb.memoryMap.objects .cartridge
                  { gb.cartridge with data := [] } } }) :=
  rfl

theorem cartridge_loadRom_of_short (gb : GameBoy) (size : Nat) :
    (gb.loadRom (.short size)).2.cartridge =
      { gb.cartridge with data := [] } := by
  rw [loadRom_of_short]
  exact Function.update_self SharedObject.cartridge _ gb.memoryMap.objects

/-- A complete read is a success, whatever it delivers. -/
theorem loadRom_of_complete (gb : GameBoy) (contents : List Byte) :
    (gb.loadRom (.complete contents)).1 = true := by
  simp only [loadRom, ROM.loadFromFile]
  split <;> rfl

/-- A machine whose cartridge is empty already does not notice a short
read. -/
theorem loadRom_of_short_of_empty
    {gb : GameBoy} (empty : gb.cartridge.data = []) (size : Nat) :
    gb.loadRom (.short size) = (false, gb) := by
  have sameRom : { gb.cartridge with data := [] } = gb.cartridge := by
    rw [← empty]
  have sameObjects :
      Function.update gb.memoryMap.objects .cartridge gb.cartridge =
        gb.memoryMap.objects :=
    Function.update_eq_self _ _
  rw [loadRom_of_short, sameRom, sameObjects]

/-- A failed load leaves everything as it was unless the read falls short on
a machine that has a cartridge image. -/
theorem loadRom_atomic_iff (gb : GameBoy) (file : FileOutcome) :
    ((gb.loadRom file).1 = false →
      let after := (gb.loadRom file).2
      after.cartridge.data = gb.cartridge.data ∧
        after.cartridge.header = gb.cartridge.header ∧
        after.cpu = gb.cpu ∧
        after.timer = gb.timer ∧
        after.memoryMap = gb.memoryMap ∧
        after.poweredOn = gb.poweredOn) ↔
      ((∃ size, file = .short size) → gb.cartridge.data = []) := by
  constructor
  · rintro atomic ⟨size, rfl⟩
    rcases atomic rfl with ⟨data, _⟩
    rw [cartridge_loadRom_of_short] at data
    exact data.symm
  · intro empty failed
    have unchanged : (gb.loadRom file).2 = gb := by
      cases file with
      | openFailed =>
          rw [loadRom_of_openFailed]
      | short size =>
          rw [loadRom_of_short_of_empty (empty ⟨size, rfl⟩)]
      | complete contents =>
          rw [loadRom_of_complete] at failed
          exact absurd failed (by decide)
    rw [unchanged]
    exact ⟨rfl, rfl, rfl, rfl, rfl, rfl⟩

/-- A machine that holds one byte loses it to a read that falls short. -/
theorem loadRom_loses_cartridge :
    ¬ ∀ (gb : GameBoy) (file : FileOutcome),
      (gb.loadRom file).1 = false →
        let after := (gb.loadRom file).2
        after.cartridge.data = gb.cartridge.data ∧
          after.cartridge.header = gb.cartridge.header ∧
          after.cpu = gb.cpu ∧
          after.timer = gb.timer ∧
          after.memoryMap = gb.memoryMap ∧
          after.poweredOn = gb.poweredOn := by
  intro always
  rcases always (ofRom { data := [0x00] }) (.short 1) rfl with ⟨data, _⟩
  rw [cartridge_loadRom_of_short] at data
  exact absurd data (by decide)

end CyclePerfectGameboy.GameBoy
