import CyclePerfectGameboy.Memory.Dispatch

/-!
# Write protection

An address of a memory either behaves as a byte of an array or ignores
writes.  RAM, ROM and the memory map all do, since no object translates the
address that it is given; a map is therefore one flat memory with a write
protection, whatever regions it has.
-/

namespace CyclePerfectGameboy

universe u v

/-- Each address is writable or keeps its byte, once and for all. -/
class WriteProtected (M : Type v) [MemoryInterface M] extends
    AddressLocal M where
  writable : M → Address → Bool
  read_write_writable :
    ∀ (memory : M) {addr : Address}, writable memory addr = true →
      ∀ value, read (write memory addr value) addr = value
  read_write_protected :
    ∀ (memory : M) {addr : Address}, writable memory addr = false →
      ∀ value, read (write memory addr value) addr = read memory addr
  writable_write :
    ∀ (memory : M) (addr : Address) (value : Byte),
      writable (write memory addr value) = writable memory

export WriteProtected (writable)

/-- A flat memory with a write protection. -/
@[ext]
structure ProtectedMemory where
  contents : Address → Byte
  writable : Address → Bool

instance : MemoryInterface ProtectedMemory where
  read memory addr := memory.contents addr
  write memory addr value :=
    if memory.writable addr then
      { memory with contents := Function.update memory.contents addr value }
    else
      memory

section View

variable {M : Type v} [MemoryInterface M] [WriteProtected M]

/-- What a memory looks like from outside. -/
def protectedView (memory : M) : ProtectedMemory :=
  { contents := read memory
    writable := writable memory }

@[simp]
theorem read_protectedView (memory : M) (addr : Address) :
    read (protectedView memory) addr = read memory addr := rfl

/-- Writing and looking from outside commute. -/
theorem protectedView_write (memory : M) (addr : Address) (value : Byte) :
    protectedView (write memory addr value) =
      write (protectedView memory) addr value := by
  have elsewhere :
      ∀ other, other ≠ addr →
        read (write memory addr value) other = read memory other :=
    fun other apart => AddressLocal.read_write_of_ne memory apart value
  change
    _ =
      if writable memory addr = true then
        { protectedView memory with
          contents := Function.update (read memory) addr value }
      else
        protectedView memory
  by_cases here : writable memory addr = true
  · rw [if_pos here]
    ext other : 2
    · by_cases same : other = addr
      · subst same
        simp [protectedView, WriteProtected.read_write_writable memory here]
      · simp [protectedView, elsewhere other same, same]
    · simp [protectedView, WriteProtected.writable_write]
  · rw [if_neg here]
    have kept : writable memory addr = false := Bool.eq_false_iff.mpr here
    ext other : 2
    · by_cases same : other = addr
      · subst same
        exact WriteProtected.read_write_protected memory kept value
      · exact elsewhere other same
    · simp [protectedView, WriteProtected.writable_write]

/-- A memory is simulated by its view. -/
theorem protectedView_simulation :
    MemorySimulation
      (fun (memory : M) (view : ProtectedMemory) =>
        protectedView memory = view) where
  read_eq := by
    rintro memory view rfl addr
    exact (read_protectedView memory addr).symm
  write_related := by
    rintro memory view rfl addr value
    exact protectedView_write memory addr value

end View

/-! ## The memories of the source -/

instance {size : Nat} : WriteProtected (RAM size) where
  writable _ addr := decide (addr.toNat < size)
  read_write_writable := by
    intro ram addr inside value
    have inRange : addr.toNat < size := of_decide_eq_true inside
    rw [RAM.write_inside ram value inRange, RAM.read_inside _ inRange]
    exact Function.update_self _ _ _
  read_write_protected := by
    intro ram addr outside value
    have beyond : size ≤ addr.toNat :=
      Nat.not_lt.mp (of_decide_eq_false outside)
    rw [RAM.write_outside ram value beyond]
  writable_write := by
    intro ram addr value
    rfl

instance : WriteProtected ROM where
  writable _ _ := false
  read_write_writable := by
    intro rom addr never value
    exact absurd never Bool.false_ne_true
  read_write_protected := by
    intro rom addr _ value
    rfl
  writable_write := by
    intro rom addr value
    rfl

namespace Device

/-- The addresses at which a device takes writes. -/
def accepts : Device → Address → Bool
  | .ram _ contents, addr => writable contents addr
  | .rom contents, addr => writable contents addr

end Device

instance : WriteProtected Device where
  writable := Device.accepts
  read_write_writable := by
    intro device addr here value
    cases device with
    | ram size contents =>
        exact WriteProtected.read_write_writable contents here value
    | rom contents =>
        exact WriteProtected.read_write_writable contents here value
  read_write_protected := by
    intro device addr here value
    cases device with
    | ram size contents =>
        exact WriteProtected.read_write_protected contents here value
    | rom contents =>
        exact WriteProtected.read_write_protected contents here value
  writable_write := by
    intro device addr value
    cases device with
    | ram size contents => rfl
    | rom contents => rfl

namespace MemoryMap

variable {Ptr : Type u} [DecidableEq Ptr]
variable {Object : Ptr → Type v} [∀ p, MemoryInterface (Object p)]
variable [∀ p, WriteProtected (Object p)]

/-- An address is as writable as the object of its region makes it. -/
def accepts (map : MemoryMap Object) (addr : Address) : Bool :=
  match map.findRegion addr with
  | some region => writable (map.objects region.handler) addr
  | none => false

instance : WriteProtected (MemoryMap Object) where
  writable := accepts
  read_write_writable := by
    intro map addr here value
    cases found : map.findRegion addr with
    | none =>
        rw [accepts, found] at here
        exact absurd here Bool.false_ne_true
    | some region =>
        rw [accepts, found] at here
        rw [write_of_owns (MemoryRegion.owns_iff.mpr found)]
        have sameRegion :
            MemoryMap.findRegion
                { map with
                  objects :=
                    Function.update map.objects region.handler
                      (MemoryInterface.write (map.objects region.handler)
                        addr value) } addr =
              some region := found
        rw [read_of_findRegion sameRegion]
        simp only [Function.update_self]
        exact WriteProtected.read_write_writable _ here value
  read_write_protected := by
    intro map addr here value
    cases found : map.findRegion addr with
    | none =>
        rw [write_of_unmapped value found]
    | some region =>
        rw [accepts, found] at here
        rw [write_of_owns (MemoryRegion.owns_iff.mpr found)]
        apply read_congr
        intro p
        by_cases written : p = region.handler
        · subst written
          rw [Function.update_self]
          exact WriteProtected.read_write_protected _ here value
        · rw [Function.update_of_ne written]
  writable_write := by
    intro map addr value
    cases found : map.findRegion addr with
    | none =>
        rw [write_of_unmapped value found]
    | some region =>
        rw [write_of_owns (MemoryRegion.owns_iff.mpr found)]
        funext other
        have kept :
            ∀ p,
              writable
                  (Function.update map.objects region.handler
                    (MemoryInterface.write (map.objects region.handler) addr
                      value) p) other =
                writable (map.objects p) other := by
          intro p
          by_cases written : p = region.handler
          · subst written
            rw [Function.update_self, WriteProtected.writable_write]
          · rw [Function.update_of_ne written]
        have sameRegion :
            MemoryMap.findRegion
                { map with
                  objects :=
                    Function.update map.objects region.handler
                      (MemoryInterface.write (map.objects region.handler)
                        addr value) } other =
              map.findRegion other := rfl
        rw [accepts, accepts, sameRegion]
        cases map.findRegion other with
        | none => rfl
        | some owner => exact kept owner.handler

end MemoryMap

end CyclePerfectGameboy
