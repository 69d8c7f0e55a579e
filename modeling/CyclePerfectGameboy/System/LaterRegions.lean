import CyclePerfectGameboy.Cpu.PublicCalls
import CyclePerfectGameboy.System.Reachability

/-!
# Regions that are added later

`add_region` can be called on a map that is in use, with objects that did not
exist before.  The first region that contains an address wins, so a region
that comes later shows only at the addresses that no earlier one contains.
-/

namespace CyclePerfectGameboy

open CallSequence

universe u v w

section Grown

variable {Ptr : Type u} {New : Type w}

/-- The objects of a map, and those that are allocated later. -/
def Grown (Object : Ptr → Type v) (Fresh : New → Type v) :
    Ptr ⊕ New → Type v
  | .inl p => Object p
  | .inr p => Fresh p

variable {Object : Ptr → Type v} {Fresh : New → Type v}

instance [∀ p, MemoryInterface (Object p)]
    [∀ p, MemoryInterface (Fresh p)] :
    (p : Ptr ⊕ New) → MemoryInterface (Grown Object Fresh p)
  | .inl p => inferInstanceAs (MemoryInterface (Object p))
  | .inr p => inferInstanceAs (MemoryInterface (Fresh p))

instance [∀ p, MemoryInterface (Object p)]
    [∀ p, MemoryInterface (Fresh p)] [∀ p, WriteProtected (Object p)]
    [∀ p, WriteProtected (Fresh p)] :
    (p : Ptr ⊕ New) → WriteProtected (Grown Object Fresh p)
  | .inl p => inferInstanceAs (WriteProtected (Object p))
  | .inr p => inferInstanceAs (WriteProtected (Fresh p))

/-- The region with a pointer of the larger heap. -/
def MemoryRegion.grown (region : MemoryRegion Ptr) :
    MemoryRegion (Ptr ⊕ New) :=
  { start := region.start, end_ := region.end_, handler := .inl region.handler }

namespace MemoryMap

/-- The map on the larger heap, with regions added behind its own. -/
def grow (map : MemoryMap Object) (fresh : (p : New) → Fresh p)
    (later : List (MemoryRegion (Ptr ⊕ New))) :
    MemoryMap (Grown Object Fresh) :=
  { regions := map.regions.map MemoryRegion.grown ++ later
    objects := fun
      | .inl p => map.objects p
      | .inr p => fresh p }

variable (map : MemoryMap Object) (fresh : (p : New) → Fresh p)
variable (later : List (MemoryRegion (Ptr ⊕ New))) {addr : Address}

theorem findRegion_grow (addr : Address) :
    (map.grow fresh later).findRegion addr =
      ((map.findRegion addr).map MemoryRegion.grown).or
        (later.find? (fun region => region.contains addr)) := by
  rw [findRegion, grow, List.find?_append, List.find?_map]
  rfl

section Looks

variable [DecidableEq Ptr] [DecidableEq New]
variable [∀ p, MemoryInterface (Object p)] [∀ p, MemoryInterface (Fresh p)]
variable [∀ p, WriteProtected (Object p)] [∀ p, WriteProtected (Fresh p)]

/-- At a covered address nothing changes. -/
theorem grow_of_covered (covered : MemoryRegion.Covered map.regions addr) :
    MemoryInterface.read (map.grow fresh later) addr =
        MemoryInterface.read map addr ∧
      writable (map.grow fresh later) addr = writable map addr := by
  obtain ⟨region, owns⟩ := MemoryRegion.exists_owner covered
  have found : map.findRegion addr = some region :=
    MemoryRegion.owns_iff.mp owns
  have grown :
      (map.grow fresh later).findRegion addr = some region.grown := by
    rw [findRegion_grow, found]
    rfl
  constructor
  · rw [read_of_findRegion found, read_of_findRegion grown]
    rfl
  · change accepts _ addr = accepts _ addr
    rw [accepts, accepts, found, grown]
    rfl

/-- Elsewhere a map reads as `0xFF` and takes no writes. -/
theorem looks_of_uncovered
    (uncovered : ¬ MemoryRegion.Covered map.regions addr) :
    MemoryInterface.read map addr = 0xFF ∧ writable map addr = false := by
  have unmapped : map.findRegion addr = none :=
    MemoryRegion.not_covered_iff.mp uncovered
  refine ⟨read_of_unmapped unmapped, ?_⟩
  change accepts map addr = false
  rw [accepts, unmapped]

/-- There the grown map shows the first of the later regions. -/
theorem grow_of_owns
    (uncovered : ¬ MemoryRegion.Covered map.regions addr)
    {region : MemoryRegion (Ptr ⊕ New)}
    (owns : MemoryRegion.Owns later addr region) :
    MemoryInterface.read (map.grow fresh later) addr =
        MemoryInterface.read
          ((map.grow fresh later).objects region.handler) addr ∧
      writable (map.grow fresh later) addr =
        writable ((map.grow fresh later).objects region.handler) addr := by
  have unmapped : map.findRegion addr = none :=
    MemoryRegion.not_covered_iff.mp uncovered
  have grown : (map.grow fresh later).findRegion addr = some region := by
    rw [findRegion_grow, unmapped]
    exact MemoryRegion.owns_iff.mp owns
  refine ⟨read_of_findRegion grown, ?_⟩
  change accepts _ addr = _
  rw [accepts, grown]

/-- The objects of the later regions show nothing where the map is
unmapped. -/
def Hidden : Prop :=
  ∀ addr, ¬ MemoryRegion.Covered map.regions addr →
    ∀ region, MemoryRegion.Owns later addr region →
      MemoryInterface.read
            ((map.grow fresh later).objects region.handler) addr =
          0xFF ∧
        writable ((map.grow fresh later).objects region.handler) addr = false

theorem protectedView_grow_iff :
    protectedView map = protectedView (map.grow fresh later) ↔
      map.Hidden fresh later := by
  rw [ProtectedMemory.ext_iff]
  constructor
  · rintro ⟨contents, protection⟩ addr uncovered region owns
    rcases grow_of_owns map fresh later uncovered owns with
      ⟨shown, protected_⟩
    rcases map.looks_of_uncovered uncovered with ⟨empty, closed⟩
    rw [← shown, ← protected_]
    exact
      ⟨(congrFun contents addr).symm.trans empty,
        (congrFun protection addr).symm.trans closed⟩
  · intro hidden
    have same :
        ∀ addr,
          MemoryInterface.read map addr =
              MemoryInterface.read (map.grow fresh later) addr ∧
            writable map addr = writable (map.grow fresh later) addr := by
      intro addr
      by_cases covered : MemoryRegion.Covered map.regions addr
      · rcases grow_of_covered map fresh later covered with ⟨shown, kept⟩
        exact ⟨shown.symm, kept.symm⟩
      · rcases map.looks_of_uncovered covered with ⟨empty, closed⟩
        rw [empty, closed]
        by_cases added : MemoryRegion.Covered later addr
        · obtain ⟨region, owns⟩ := MemoryRegion.exists_owner added
          rcases grow_of_owns map fresh later covered owns with
            ⟨shown, protected_⟩
          rw [shown, protected_]
          rcases hidden addr covered region owns with ⟨same, off⟩
          exact ⟨same.symm, off.symm⟩
        · have nowhere :
              ¬ MemoryRegion.Covered (map.grow fresh later).regions addr := by
            rw [MemoryRegion.not_covered_iff] at covered added ⊢
            have grown := map.findRegion_grow fresh later addr
            rw [findRegion, findRegion, covered, added] at grown
            exact grown
          rcases (map.grow fresh later).looks_of_uncovered nowhere with
            ⟨stillEmpty, stillClosed⟩
          exact ⟨stillEmpty.symm, stillClosed.symm⟩
    exact
      ⟨funext (fun addr => (same addr).1), funext (fun addr => (same addr).2)⟩

/-- Whatever is added to a map of any objects, no program and no caller
notices exactly if every address that was not mapped still reads as `0xFF`
from the first region that contains it now, and is protected there. -/
theorem later_regions_hidden_iff (cpu : CPU) :
    (∀ calls,
        answers CPU.invoke (cpu, map) calls =
          answers CPU.invoke (cpu, map.grow fresh later) calls) ↔
      map.Hidden fresh later := by
  rw [CPU.answers_eq_iff_view]
  exact map.protectedView_grow_iff fresh later

end Looks

end MemoryMap

end Grown

/-! ## The memory map of the machine, twice -/

instance : (object : SharedObject) → WriteProtected object.Contents
  | .cartridge => inferInstanceAs (WriteProtected ROM)
  | .vram => inferInstanceAs (WriteProtected (RAM 0x8000))
  | .externalRam => inferInstanceAs (WriteProtected (RAM 0x2000))
  | .wram => inferInstanceAs (WriteProtected (RAM 0x2000))
  | .echoRam => inferInstanceAs (WriteProtected (RAM 0x2000))
  | .oam => inferInstanceAs (WriteProtected (RAM 0xA0))
  | .ioRegisters => inferInstanceAs (WriteProtected (RAM 0x7F))
  | .hram => inferInstanceAs (WriteProtected (RAM 0x80))

/-- The map after another call of `initialize_memory_map`: the cartridge is
shared again and the other regions get objects of their own. -/
def GameBoy.initializeMemoryMapAgain (gb : GameBoy) :
    MemoryMap (Grown SharedObject.Contents SharedObject.Contents) :=
  let map :=
    gb.memoryMap.grow
      (SharedObject.allocate gb.cartridge gb.vram gb.wram gb.ioRegisters
        gb.hram) []
  let map := map.addRegion 0x0000 0x7FFF (.inl .cartridge)
  let map := map.addRegion 0x8000 0x9FFF (.inr .vram)
  let map := map.addRegion 0xA000 0xBFFF (.inr .externalRam)
  let map := map.addRegion 0xC000 0xDFFF (.inr .wram)
  let map := map.addRegion 0xE000 0xFDFF (.inr .echoRam)
  let map := map.addRegion 0xFE00 0xFE9F (.inr .oam)
  let map := map.addRegion 0xFF00 0xFF7F (.inr .ioRegisters)
  map.addRegion 0xFF80 0xFFFF (.inr .hram)

/-- The handlers of the second call. -/
def SharedObject.again : SharedObject → SharedObject ⊕ SharedObject
  | .cartridge => .inl .cartridge
  | object => .inr object

theorem GameBoy.initializeMemoryMapAgain_eq (gb : GameBoy) :
    gb.initializeMemoryMapAgain =
      gb.memoryMap.grow
        (SharedObject.allocate gb.cartridge gb.vram gb.wram gb.ioRegisters
          gb.hram)
        (gameBoyRegions.map (fun region =>
          { start := region.start
            end_ := region.end_
            handler := region.handler.again })) := by
  simp [initializeMemoryMapAgain, MemoryMap.addRegion, MemoryMap.grow,
    gameBoyRegions, SharedObject.again]

/-- On a machine a second call has no effect: every region that it adds lies
behind one with the same ends. -/
theorem GameBoy.second_initializeMemoryMap_hidden
    {gb : GameBoy} (reachable : Reachable gb) (calls : List CpuCall) :
    answers CPU.invoke (gb.cpu, gb.memoryMap) calls =
      answers CPU.invoke (gb.cpu, gb.initializeMemoryMapAgain) calls := by
  have layout := reachable.wellFormed.layout
  rw [gb.initializeMemoryMapAgain_eq]
  refine (CPU.answers_eq_iff_view _ _ _).mpr ?_ calls
  rw [MemoryMap.protectedView_grow_iff]
  rintro addr uncovered region ⟨earlier, behind, split, _, inside⟩
  refine absurd ?_ uncovered
  have member :
      region ∈ gameBoyRegions.map (fun region =>
        { start := region.start
          end_ := region.end_
          handler := region.handler.again }) := by
    rw [split]
    exact List.mem_append_right earlier List.mem_cons_self
  obtain ⟨first, listed, rfl⟩ := List.mem_map.mp member
  exact ⟨first, layout.symm ▸ listed, inside⟩

/-- After a reset, a byte of the new work RAM cannot be written. -/
theorem GameBoy.second_initializeMemoryMap_hidden_after_reset :
    let gb := (ofRom {}).reset
    let calls : List CpuCall := [.writeMemory 0xC000 0x12, .readMemory 0xC000]
    answers CPU.invoke (gb.cpu, gb.memoryMap) calls =
      answers CPU.invoke (gb.cpu, gb.initializeMemoryMapAgain) calls :=
  second_initializeMemoryMap_hidden
    (Reachable.reset (Reachable.ofRom {})) _

end CyclePerfectGameboy
