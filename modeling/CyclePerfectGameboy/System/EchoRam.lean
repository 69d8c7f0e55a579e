import CyclePerfectGameboy.System.Reachability

/-!
# Echo RAM

The map is meant to show one work RAM at `0xC000` and again at `0xE000`; the
constructor gives each range a copy of its own.
-/

namespace CyclePerfectGameboy

open EventLog

/-- The address at which the map shows a byte of work RAM. -/
def workAddr (offset : Nat) : Address :=
  BitVec.ofNat 16 (0xC000 + offset)

/-- The address at which the map shows the same byte again. -/
def echoAddr (offset : Nat) : Address :=
  BitVec.ofNat 16 (0xE000 + offset)

/-- The value that one write gives to a byte of work RAM, through either
address. -/
def mirroredByte (entry : Address × Byte) (offset : Nat) : Option Byte :=
  if entry.1 = workAddr offset ∨ entry.1 = echoAddr offset then
    some entry.2
  else
    none

/-- Both addresses show the last byte written to either, or zero. -/
def GameBoyMap.Mirrors (map : GameBoyMap) (writes : List (Address × Byte))
    (offset : Nat) : Prop :=
  read (writeAll map writes) (workAddr offset) =
      (latest mirroredByte writes offset).getD 0 ∧
    read (writeAll map writes) (echoAddr offset) =
      (latest mirroredByte writes offset).getD 0

namespace GameBoy

/-- Both ranges read as `0xFF` whatever is written to them. -/
theorem read_work_and_echo
    {gb : GameBoy} (reachable : Reachable gb)
    (writes : List (Address × Byte)) {offset : Nat}
    (inside : offset < 0x1E00) :
    read (writeAll gb.memoryMap writes) (workAddr offset) = 0xFF ∧
      read (writeAll gb.memoryMap writes) (echoAddr offset) = 0xFF := by
  have layout := reachable.wellFormed.layout
  have work : 0x8000 ≤ (workAddr offset).toNat := by
    rw [workAddr, BitVec.toNat_ofNat]
    omega
  have echo : 0x8000 ≤ (echoAddr offset).toNat := by
    rw [echoAddr, BitVec.toNat_ofNat]
    omega
  rw [GameBoyMap.writeAll_of_layout layout]
  constructor
  · exact GameBoyMap.read_of_high layout work
  · exact GameBoyMap.read_of_high layout echo

/-- The two ranges mirror each other at an offset exactly when the last byte
written there was `0xFF`. -/
theorem echo_mirrors_work_iff
    {gb : GameBoy} (reachable : Reachable gb)
    (writes : List (Address × Byte)) {offset : Nat}
    (inside : offset < 0x1E00) :
    GameBoyMap.Mirrors gb.memoryMap writes offset ↔
      latest mirroredByte writes offset = some 0xFF := by
  rcases read_work_and_echo reachable writes inside with ⟨work, echo⟩
  rw [GameBoyMap.Mirrors, work, echo, and_self]
  cases latest mirroredByte writes offset with
  | none =>
      simp
  | some value =>
      rw [Option.getD_some, Option.some.injEq]
      exact eq_comm

/-- A byte `0xFF` written through the echo is read back at both addresses. -/
theorem echo_mirrors_ff :
    GameBoyMap.Mirrors (ofRom {}).memoryMap [(0xE000, 0xFF)] 0 :=
  (echo_mirrors_work_iff (Reachable.ofRom {}) [(0xE000, 0xFF)]
    (by decide)).mpr (by decide)

/-- A byte written to work RAM is not read back. -/
theorem work_ram_drops_bytes :
    ¬ ∀ gb : GameBoy, Reachable gb →
      ∀ writes : List (Address × Byte),
        (∀ entry ∈ writes,
          (0xC000 ≤ entry.1.toNat ∧ entry.1.toNat ≤ 0xDDFF) ∨
            (0xE000 ≤ entry.1.toNat ∧ entry.1.toNat ≤ 0xFDFF)) →
        ∀ offset < 0x1E00,
          GameBoyMap.Mirrors gb.memoryMap writes offset := by
  intro always
  have inRange :
      ∀ entry ∈ [((0xC000 : Address), (0x42 : Byte))],
        (0xC000 ≤ entry.1.toNat ∧ entry.1.toNat ≤ 0xDDFF) ∨
          (0xE000 ≤ entry.1.toNat ∧ entry.1.toNat ≤ 0xFDFF) := by
    intro entry member
    rw [List.mem_singleton] at member
    subst member
    exact Or.inl ⟨by simp, by simp⟩
  have mirrored :=
    always (ofRom {}) (Reachable.ofRom {}) _ inRange 0 (by decide)
  have shown := mirrored.1
  rw [(read_work_and_echo (Reachable.ofRom {}) _ (by decide)).1] at shown
  exact absurd shown (by decide)

end GameBoy

end CyclePerfectGameboy
