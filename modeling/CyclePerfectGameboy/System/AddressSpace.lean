import CyclePerfectGameboy.Foundations.EventLog
import CyclePerfectGameboy.System.GameBoy

/-!
# The address space of the machine

The regions of the memory map never change.  Each `RAM` compares the absolute
address with its own size, and every region starts at or beyond that size:
such a region reads as `0xFF` and drops what is written to it.
-/

namespace CyclePerfectGameboy

open EventLog

/-- The region table that the constructors build. -/
def gameBoyRegions : List (MemoryRegion SharedObject) :=
  [{ start := 0x0000, end_ := 0x7FFF, handler := .cartridge },
    { start := 0x8000, end_ := 0x9FFF, handler := .vram },
    { start := 0xA000, end_ := 0xBFFF, handler := .externalRam },
    { start := 0xC000, end_ := 0xDFFF, handler := .wram },
    { start := 0xE000, end_ := 0xFDFF, handler := .echoRam },
    { start := 0xFE00, end_ := 0xFE9F, handler := .oam },
    { start := 0xFF00, end_ := 0xFF7F, handler := .ioRegisters },
    { start := 0xFF80, end_ := 0xFFFF, handler := .hram }]

/-- The map has the region table of the machine, whatever its objects hold. -/
def GameBoyMap.hasLayout (map : GameBoyMap) : Prop :=
  map.regions = gameBoyRegions

theorem initializeMemoryMap_hasLayout (rom : ROM) (vram : RAM 0x8000)
    (wram : RAM 0x2000) (ioRegisters : RAM 0x7F) (hram : RAM 0x80) :
    (GameBoy.initializeMemoryMap rom vram wram ioRegisters hram).hasLayout :=
  rfl

/-- The template argument of each `RAM`; the cartridge has none. -/
def SharedObject.size : SharedObject → Option Nat
  | .cartridge => none
  | .vram => some 0x8000
  | .externalRam => some 0x2000
  | .wram => some 0x2000
  | .echoRam => some 0x2000
  | .oam => some 0xA0
  | .ioRegisters => some 0x7F
  | .hram => some 0x80

theorem SharedObject.read_outside
    {object : SharedObject} {size : Nat} (sized : object.size = some size)
    (contents : object.Contents) {addr : Address}
    (outside : size ≤ addr.toNat) :
    read contents addr = 0xFF := by
  cases object <;> cases sized <;> exact RAM.read_outside _ outside

theorem SharedObject.write_outside
    {object : SharedObject} {size : Nat} (sized : object.size = some size)
    (contents : object.Contents) {addr : Address} (value : Byte)
    (outside : size ≤ addr.toNat) :
    write contents addr value = contents := by
  cases object <;> cases sized <;> exact RAM.write_outside _ value outside

/-- Every region but the first starts at or beyond the size of its object. -/
theorem gameBoyRegions_outside :
    ∀ region ∈ gameBoyRegions,
      (region.handler = .cartridge ∧ region.end_.toNat < 0x8000) ∨
        (0x8000 ≤ region.start.toNat ∧
          ∃ size ∈ region.handler.size, size ≤ region.start.toNat) := by
  decide

theorem gameBoyRegions_cartridge {addr : Address}
    (below : addr.toNat < 0x8000) :
    gameBoyRegions.find? (fun region => region.contains addr) =
      some { start := 0x0000, end_ := 0x7FFF, handler := .cartridge } := by
  refine List.find?_cons_of_pos ?_
  rw [MemoryRegion.contains, Bool.and_eq_true, decide_eq_true_eq,
    decide_eq_true_eq]
  constructor
  · exact Nat.zero_le _
  · change addr.toNat ≤ 0x7FFF
    omega

namespace GameBoyMap

variable {map : GameBoyMap}

private theorem found_outside
    (layout : map.hasLayout) {addr : Address}
    {region : MemoryRegion SharedObject}
    (found : map.findRegion addr = some region) :
    (region.handler = .cartridge ∧ addr.toNat < 0x8000) ∨
      (0x8000 ≤ addr.toNat ∧
        ∃ size ∈ region.handler.size, size ≤ addr.toNat) := by
  rw [MemoryMap.findRegion, layout] at found
  have member := List.mem_of_find?_eq_some found
  have contained := List.find?_some found
  rw [MemoryRegion.contains, Bool.and_eq_true, decide_eq_true_eq,
    decide_eq_true_eq, BitVec.le_def, BitVec.le_def] at contained
  obtain ⟨afterStart, beforeEnd⟩ := contained
  rcases gameBoyRegions_outside region member with
    ⟨handler, small⟩ | ⟨high, size, sized, small⟩
  · exact Or.inl ⟨handler, Nat.lt_of_le_of_lt beforeEnd small⟩
  · exact Or.inr ⟨Nat.le_trans high afterStart, size, sized,
      Nat.le_trans small afterStart⟩

/-- The whole map reads as the cartridge below `0x8000` and as `0xFF`
elsewhere. -/
theorem read_of_layout (layout : map.hasLayout) (addr : Address) :
    read map addr =
      if addr.toNat < 0x8000 then (map.objects .cartridge).read addr
      else 0xFF := by
  by_cases below : addr.toNat < 0x8000
  · have found : map.findRegion addr =
        some { start := 0x0000, end_ := 0x7FFF, handler := .cartridge } := by
      rw [MemoryMap.findRegion, layout, gameBoyRegions_cartridge below]
    rw [if_pos below, MemoryMap.read_of_findRegion found]
    rfl
  · rw [if_neg below]
    cases found : map.findRegion addr with
    | none =>
        exact MemoryMap.read_of_unmapped found
    | some region =>
        rw [MemoryMap.read_of_findRegion found]
        rcases found_outside layout found with
          ⟨_, inside⟩ | ⟨_, size, sized, outside⟩
        · exact absurd inside below
        · exact SharedObject.read_outside sized _ outside

theorem read_of_high
    (layout : map.hasLayout) {addr : Address}
    (high : 0x8000 ≤ addr.toNat) :
    read map addr = 0xFF := by
  rw [read_of_layout layout, if_neg (Nat.not_lt.mpr high)]

/-- No write through the map changes anything. -/
theorem write_of_layout (layout : map.hasLayout)
    (addr : Address) (value : Byte) :
    write map addr value = map := by
  cases found : map.findRegion addr with
  | none =>
      exact MemoryMap.write_of_unmapped value found
  | some region =>
      refine MemoryMap.write_of_ignored found ?_
      rcases found_outside layout found with
        ⟨handler, _⟩ | ⟨_, size, sized, outside⟩
      · obtain ⟨start, end_, object⟩ := region
        subst handler
        rfl
      · exact SharedObject.write_outside sized _ value outside

theorem writeAll_of_layout (layout : map.hasLayout)
    (writes : List (Address × Byte)) :
    writeAll map writes = map := by
  induction writes with
  | nil =>
      rfl
  | cons entry rest inductionHypothesis =>
      rw [writeAll, List.foldl_cons, write_of_layout layout]
      exact inductionHypothesis

end GameBoyMap

/-- The value that one write gives to an address. -/
def writtenByte (entry : Address × Byte) (addr : Address) : Option Byte :=
  if entry.1 = addr then some entry.2 else none

/-- What a store would show after a sequence of writes: the cartridge below
`0x8000`, nothing in the unmapped range, elsewhere the last byte written, or
zero. -/
def storedByte (rom : ROM) (writes : List (Address × Byte))
    (addr : Address) : Byte :=
  if addr.toNat < 0x8000 then
    rom.data.getD addr.toNat 0xFF
  else if 0xFEA0 ≤ addr.toNat ∧ addr.toNat ≤ 0xFEFF then
    0xFF
  else
    (latest writtenByte writes addr).getD 0

theorem ROM.read_eq_getD (rom : ROM) (addr : Address) :
    rom.read addr = rom.data.getD addr.toNat 0xFF := by
  rw [ROM.read, List.getD_eq_getElem?_getD]
  cases rom.data[addr.toNat]? with
  | none => rfl
  | some value => rfl

/-- The address space shows what a store would show exactly at the cartridge
and unmapped addresses, and where the last byte written was `0xFF`. -/
theorem GameBoy.read_after_writes_iff
    (rom : ROM) (writes : List (Address × Byte)) (addr : Address) :
    read (writeAll (GameBoy.ofRom rom).memoryMap writes) addr =
        storedByte rom writes addr ↔
      addr.toNat < 0x8000 ∨
        (0xFEA0 ≤ addr.toNat ∧ addr.toNat ≤ 0xFEFF) ∨
        latest writtenByte writes addr = some 0xFF := by
  have layout : (GameBoy.ofRom rom).memoryMap.hasLayout :=
    initializeMemoryMap_hasLayout rom {} {} {} {}
  have cartridge : (GameBoy.ofRom rom).memoryMap.objects .cartridge = rom :=
    rfl
  rw [GameBoyMap.writeAll_of_layout layout,
    GameBoyMap.read_of_layout layout, cartridge, storedByte]
  by_cases below : addr.toNat < 0x8000
  · simp only [below, if_true, true_or, iff_true]
    exact rom.read_eq_getD addr
  · by_cases unmapped : 0xFEA0 ≤ addr.toNat ∧ addr.toNat ≤ 0xFEFF
    · simp only [below, unmapped, if_false, and_self, if_true, true_or,
        or_true]
    · simp only [below, unmapped, if_false, false_or]
      cases last : latest writtenByte writes addr with
      | none =>
          simp
      | some value =>
          simp [eq_comm]

/-- A fresh machine reads `0xFF` instead of zero at the start of VRAM. -/
theorem GameBoy.fresh_vram_reads_ff :
    ¬ ∀ (rom : ROM) (writes : List (Address × Byte)) (addr : Address),
      (∀ entry ∈ writes,
        ¬ (0xE000 ≤ entry.1.toNat ∧ entry.1.toNat ≤ 0xFDFF)) →
      ¬ (0xE000 ≤ addr.toNat ∧ addr.toNat ≤ 0xFDFF) →
      read (writeAll (GameBoy.ofRom rom).memoryMap writes) addr =
        storedByte rom writes addr := by
  intro always
  have zero := always {} [] 0x8000 (by simp) (by decide)
  exact absurd zero (by decide)

end CyclePerfectGameboy
