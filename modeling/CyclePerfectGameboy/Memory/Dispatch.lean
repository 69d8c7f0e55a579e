import CyclePerfectGameboy.Cartridge.Rom
import CyclePerfectGameboy.Memory.MemoryMap
import CyclePerfectGameboy.Memory.Ram

/-!
# Dispatch on the memory map

Each address belongs to the earliest region that contains it.  Reads and
writes there go to one object, and what is written at one address is seen at
no other.
-/

namespace CyclePerfectGameboy

universe u v

/-- A write is seen at its own address only. -/
class AddressLocal (M : Type v) [MemoryInterface M] : Prop where
  read_write_of_ne :
    ∀ (memory : M) {addr other : Address}, other ≠ addr →
      ∀ value, read (write memory addr value) other = read memory other

instance {size : Nat} : AddressLocal (RAM size) where
  read_write_of_ne := by
    intro ram addr other apart value
    by_cases inside : addr.toNat < size
    · by_cases otherInside : other.toNat < size
      · have elsewhere :
            (⟨other.toNat, otherInside⟩ : Fin size) ≠
              ⟨addr.toNat, inside⟩ := by
          intro same
          exact apart (BitVec.eq_of_toNat_eq (Fin.mk.inj same))
        rw [RAM.write_inside ram value inside, RAM.read_inside _ otherInside,
          RAM.read_inside _ otherInside]
        exact Function.update_of_ne elsewhere _ _
      · rw [RAM.read_outside _ (Nat.not_lt.mp otherInside),
          RAM.read_outside _ (Nat.not_lt.mp otherInside)]
    · rw [RAM.write_outside _ _ (Nat.not_lt.mp inside)]

instance : AddressLocal ROM where
  read_write_of_ne := by
    intro rom addr other _ value
    rfl

/-- An object behind the memory map. -/
inductive Device where
  | ram (size : Nat) (contents : RAM size)
  | rom (contents : ROM)

namespace Device

def read : Device → Address → Byte
  | .ram _ contents, addr => MemoryInterface.read contents addr
  | .rom contents, addr => MemoryInterface.read contents addr

def write : Device → Address → Byte → Device
  | .ram size contents, addr, value =>
      .ram size (MemoryInterface.write contents addr value)
  | .rom contents, addr, value =>
      .rom (MemoryInterface.write contents addr value)

instance : MemoryInterface Device where
  read := Device.read
  write := Device.write

instance : AddressLocal Device where
  read_write_of_ne := by
    intro device addr other apart value
    cases device with
    | ram size contents =>
        exact AddressLocal.read_write_of_ne contents apart value
    | rom contents =>
        exact AddressLocal.read_write_of_ne contents apart value

end Device

namespace MemoryRegion

variable {Ptr : Type u}

/-- The region is the earliest of a list that contains an address. -/
def Owns (regions : List (MemoryRegion Ptr)) (addr : Address)
    (region : MemoryRegion Ptr) : Prop :=
  ∃ earlier later,
    regions = earlier ++ region :: later ∧
      (∀ before ∈ earlier, before.contains addr = false) ∧
      region.contains addr = true

def Covered (regions : List (MemoryRegion Ptr)) (addr : Address) : Prop :=
  ∃ region ∈ regions, region.contains addr = true

variable {regions : List (MemoryRegion Ptr)} {addr : Address}

theorem owns_iff {region : MemoryRegion Ptr} :
    Owns regions addr region ↔
      regions.find? (fun region => region.contains addr) = some region := by
  rw [List.find?_eq_some_iff_append]
  constructor
  · rintro ⟨earlier, later, split, before, here⟩
    refine ⟨here, earlier, later, split, ?_⟩
    intro other member
    rw [before other member]
    rfl
  · rintro ⟨here, earlier, later, split, before⟩
    refine ⟨earlier, later, split, ?_, here⟩
    intro other member
    simpa using before other member

theorem not_covered_iff :
    ¬ Covered regions addr ↔
      regions.find? (fun region => region.contains addr) = none := by
  rw [List.find?_eq_none]
  constructor
  · intro uncovered region member here
    exact uncovered ⟨region, member, here⟩
  · rintro none ⟨region, member, here⟩
    exact none region member here

/-- A covered address has an owner. -/
theorem exists_owner (covered : Covered regions addr) :
    ∃ region, Owns regions addr region := by
  cases found : regions.find? (fun region => region.contains addr) with
  | none =>
      exact absurd covered (not_covered_iff.mpr found)
  | some region =>
      exact ⟨region, owns_iff.mpr found⟩

/-- Regions that are added later do not change the owner. -/
theorem Owns.append
    {region : MemoryRegion Ptr} (owns : Owns regions addr region)
    (added : List (MemoryRegion Ptr)) :
    Owns (regions ++ added) addr region := by
  rcases owns with ⟨earlier, later, rfl, before, here⟩
  refine ⟨earlier, later ++ added, ?_, before, here⟩
  rw [List.append_assoc, List.cons_append]

end MemoryRegion

/-- What is done to a memory map between its construction and its use. -/
inductive MapOperation (Ptr : Type u) where
  | addRegion (start end_ : Address) (handler : Ptr)
  | write (addr : Address) (value : Byte)
  deriving DecidableEq

namespace MapOperation

/-- The region that an operation adds. -/
def added {Ptr : Type u} :
    MapOperation Ptr → Option (MemoryRegion Ptr)
  | .addRegion start end_ handler =>
      some { start := start, end_ := end_, handler := handler }
  | .write _ _ => none

end MapOperation

namespace MemoryMap

variable {Ptr : Type u} [DecidableEq Ptr]
variable {Object : Ptr → Type v} [∀ p, MemoryInterface (Object p)]

def apply (map : MemoryMap Object) : MapOperation Ptr → MemoryMap Object
  | .addRegion start end_ handler => map.addRegion start end_ handler
  | .write addr value => map.write addr value

def run (map : MemoryMap Object) (operations : List (MapOperation Ptr)) :
    MemoryMap Object :=
  operations.foldl apply map

/-- A write changes objects, never regions. -/
theorem write_regions
    (map : MemoryMap Object) (addr : Address) (value : Byte) :
    (map.write addr value).regions = map.regions := by
  rw [write]
  split <;> rfl

/-- The regions after a run are those that were added, in order. -/
theorem run_regions
    (map : MemoryMap Object) (operations : List (MapOperation Ptr)) :
    (map.run operations).regions =
      map.regions ++ operations.filterMap MapOperation.added := by
  induction operations generalizing map with
  | nil =>
      exact (List.append_nil _).symm
  | cons operation rest inductionHypothesis =>
      change ((map.apply operation).run rest).regions = _
      rw [inductionHypothesis]
      cases operation with
      | addRegion start end_ handler =>
          exact List.append_assoc _ _ _
      | write addr value =>
          rw [apply, write_regions]
          rfl

/-- First match, stability and isolation of a map with given regions. -/
structure DispatchesOn (map : MemoryMap Object)
    (regions : List (MemoryRegion Ptr)) : Prop where
  /-- A covered address has an owner, whose object serves reads and writes. -/
  owned :
    ∀ addr, MemoryRegion.Covered regions addr →
      ∃ region, MemoryRegion.Owns regions addr region
  firstRead :
    ∀ addr region, MemoryRegion.Owns regions addr region →
      MemoryInterface.read map addr =
        MemoryInterface.read (map.objects region.handler) addr
  firstWrite :
    ∀ addr region value, MemoryRegion.Owns regions addr region →
      MemoryInterface.write map addr value =
        { map with
          objects :=
            Function.update map.objects region.handler
              (MemoryInterface.write (map.objects region.handler) addr
                value) }
  /-- A further region changes nothing at a covered address. -/
  stable :
    ∀ start end_ handler addr, MemoryRegion.Covered regions addr →
      MemoryInterface.read (map.addRegion start end_ handler) addr =
        MemoryInterface.read map addr
  /-- A write is seen at its own covered address only. -/
  isolated :
    ∀ addr value other,
      MemoryInterface.read (MemoryInterface.write map addr value) other ≠
          MemoryInterface.read map other →
        other = addr ∧ MemoryRegion.Covered regions addr
  uncovered :
    ∀ addr, ¬ MemoryRegion.Covered regions addr →
      MemoryInterface.read map addr = 0xFF ∧
        ∀ value, MemoryInterface.write map addr value = map

section Laws

variable {map : MemoryMap Object} {addr : Address}

theorem read_of_owns
    {region : MemoryRegion Ptr}
    (owns : MemoryRegion.Owns map.regions addr region) :
    MemoryInterface.read map addr =
      MemoryInterface.read (map.objects region.handler) addr :=
  read_of_findRegion (MemoryRegion.owns_iff.mp owns)

theorem write_of_owns
    {region : MemoryRegion Ptr}
    (owns : MemoryRegion.Owns map.regions addr region) (value : Byte) :
    MemoryInterface.write map addr value =
      { map with
        objects :=
          Function.update map.objects region.handler
            (MemoryInterface.write (map.objects region.handler) addr
              value) } := by
  have found : map.findRegion addr = some region :=
    MemoryRegion.owns_iff.mp owns
  change map.write addr value = _
  rw [write, found]

/-- A read sees the objects only through their own reads. -/
theorem read_congr
    {objects : (p : Ptr) → Object p}
    (alike :
      ∀ p, MemoryInterface.read (objects p) addr =
        MemoryInterface.read (map.objects p) addr) :
    MemoryInterface.read { map with objects := objects } addr =
      MemoryInterface.read map addr := by
  have sameRegions :
      MemoryMap.findRegion { map with objects := objects } addr =
        map.findRegion addr := rfl
  cases found : map.findRegion addr with
  | none =>
      rw [read_of_unmapped found, read_of_unmapped (sameRegions.trans found)]
  | some region =>
      rw [read_of_findRegion found,
        read_of_findRegion (sameRegions.trans found)]
      exact alike region.handler

variable [∀ p, AddressLocal (Object p)]

/-- Objects that keep addresses apart make a map that does. -/
instance : AddressLocal (MemoryMap Object) where
  read_write_of_ne := by
    intro map addr other apart value
    cases found : map.findRegion addr with
    | none =>
        rw [write_of_unmapped value found]
    | some region =>
        rw [write_of_owns (MemoryRegion.owns_iff.mpr found)]
        apply read_congr
        intro p
        by_cases written : p = region.handler
        · subst written
          rw [Function.update_self]
          exact AddressLocal.read_write_of_ne _ apart value
        · rw [Function.update_of_ne written]

/-- A map dispatches on its own regions. -/
theorem dispatchesOn_regions (map : MemoryMap Object) :
    map.DispatchesOn map.regions where
  owned := by
    intro addr covered
    exact MemoryRegion.exists_owner covered
  firstRead := by
    intro addr region owns
    exact read_of_owns owns
  firstWrite := by
    intro addr region value owns
    exact write_of_owns owns value
  stable := by
    intro start end_ handler addr covered
    obtain ⟨region, owns⟩ := MemoryRegion.exists_owner covered
    have ownsThen :
        MemoryRegion.Owns (map.addRegion start end_ handler).regions addr
          region := owns.append _
    rw [read_of_owns owns, read_of_owns ownsThen]
    rfl
  isolated := by
    intro addr value other changed
    have same : other = addr := by
      by_contra apart
      exact changed (AddressLocal.read_write_of_ne map apart value)
    refine ⟨same, ?_⟩
    by_contra uncovered
    rw [write_of_unmapped value
      (MemoryRegion.not_covered_iff.mp uncovered)] at changed
    exact changed rfl
  uncovered := by
    intro addr uncovered
    have unmapped : map.findRegion addr = none :=
      MemoryRegion.not_covered_iff.mp uncovered
    exact
      ⟨read_of_unmapped unmapped,
        fun value => write_of_unmapped value unmapped⟩

end Laws

/-- Whatever regions are added to a map of RAM and ROM objects, and whatever
is written in between, it dispatches on the regions added so far. -/
theorem devices_dispatch_on_regions
    (objects : Ptr → Device) (operations : List (MapOperation Ptr)) :
    let empty : MemoryMap (fun _ : Ptr => Device) := { objects := objects }
    (empty.run operations).DispatchesOn
      (operations.filterMap MapOperation.added) := by
  intro empty
  have regions :
      (empty.run operations).regions =
        operations.filterMap MapOperation.added := by
    rw [run_regions]
    rfl
  rw [← regions]
  exact dispatchesOn_regions _

end MemoryMap

end CyclePerfectGameboy
