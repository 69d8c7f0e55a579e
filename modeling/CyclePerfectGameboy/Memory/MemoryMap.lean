import CyclePerfectGameboy.Memory.MemoryInterface

/-!
# The memory map

A `std::shared_ptr<MemoryInterface>` is an element of a pointer type `Ptr`,
and `Object p` is the type of the object that `p` points to.  The map carries
the heap of those objects, so two regions with one pointer share one object,
and no pointer dangles.
-/

namespace CyclePerfectGameboy

universe u v

/-- `MemoryMap::MemoryRegion`. -/
structure MemoryRegion (Ptr : Type u) where
  start : Address
  end_ : Address
  handler : Ptr
  deriving DecidableEq

/-- `MemoryRegion::contains`; both ends belong to the region. -/
def MemoryRegion.contains {Ptr : Type u}
    (region : MemoryRegion Ptr) (addr : Address) : Bool :=
  decide (region.start ≤ addr) && decide (addr ≤ region.end_)

/-- `memory::MemoryMap` with the objects its regions point to. -/
structure MemoryMap {Ptr : Type u} (Object : Ptr → Type v) where
  regions : List (MemoryRegion Ptr) := []
  objects : (p : Ptr) → Object p

namespace MemoryMap

variable {Ptr : Type u} {Object : Ptr → Type v}

/-- `regions_.push_back`: later regions come last and lose to earlier ones. -/
def addRegion (map : MemoryMap Object)
    (start end_ : Address) (handler : Ptr) : MemoryMap Object :=
  { map with
    regions := map.regions ++ [{ start := start, end_ := end_, handler := handler }] }

/-- The `std::ranges::find_if` that `read` and `write` both perform. -/
def findRegion (map : MemoryMap Object) (addr : Address) :
    Option (MemoryRegion Ptr) :=
  map.regions.find? (fun region => region.contains addr)

section Dispatch

variable [DecidableEq Ptr] [∀ p, MemoryInterface (Object p)]

def read (map : MemoryMap Object) (addr : Address) : Byte :=
  match map.findRegion addr with
  | some region => MemoryInterface.read (map.objects region.handler) addr
  | none => 0xFF

def write (map : MemoryMap Object) (addr : Address) (value : Byte) :
    MemoryMap Object :=
  match map.findRegion addr with
  | some region =>
      { map with
        objects :=
          Function.update map.objects region.handler
            (MemoryInterface.write (map.objects region.handler) addr value) }
  | none => map

instance : MemoryInterface (MemoryMap Object) where
  read := MemoryMap.read
  write := MemoryMap.write

theorem read_of_findRegion
    {map : MemoryMap Object} {addr : Address} {region : MemoryRegion Ptr}
    (found : map.findRegion addr = some region) :
    MemoryInterface.read map addr =
      MemoryInterface.read (map.objects region.handler) addr := by
  change map.read addr = _
  rw [read, found]

theorem read_of_unmapped
    {map : MemoryMap Object} {addr : Address}
    (unmapped : map.findRegion addr = none) :
    MemoryInterface.read map addr = 0xFF := by
  change map.read addr = _
  rw [read, unmapped]

theorem write_of_unmapped
    {map : MemoryMap Object} {addr : Address} (value : Byte)
    (unmapped : map.findRegion addr = none) :
    MemoryInterface.write map addr value = map := by
  change map.write addr value = _
  rw [write, unmapped]

/-- A write that its handler ignores leaves the whole map as it was. -/
theorem write_of_ignored
    {map : MemoryMap Object} {addr : Address} {value : Byte}
    {region : MemoryRegion Ptr}
    (found : map.findRegion addr = some region)
    (ignored :
      MemoryInterface.write (map.objects region.handler) addr value =
        map.objects region.handler) :
    MemoryInterface.write map addr value = map := by
  change map.write addr value = _
  rw [write, found]
  simp only [ignored, Function.update_eq_self]

end Dispatch

end MemoryMap

end CyclePerfectGameboy
