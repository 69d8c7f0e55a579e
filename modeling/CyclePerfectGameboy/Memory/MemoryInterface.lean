import CyclePerfectGameboy.Core.Types

namespace CyclePerfectGameboy

universe u v

/-- The abstract class `memory::MemoryInterface`.  Dynamic dispatch on an
object becomes instance resolution on its type; a write returns the object
after the call. -/
class MemoryInterface (M : Type u) where
  read : M → Address → Byte
  write : M → Address → Byte → M

export MemoryInterface (read write)

/-- A sequence of writes, first to last. -/
def writeAll {M : Type u} [MemoryInterface M]
    (memory : M) (writes : List (Address × Byte)) : M :=
  writes.foldl (fun memory entry => write memory entry.1 entry.2) memory

/-- A 64 KiB memory that behaves as an array: the mock of the unit tests. -/
abbrev FlatMemory := Address → Byte

instance : MemoryInterface FlatMemory where
  read memory addr := memory addr
  write memory addr value := Function.update memory addr value

namespace FlatMemory

@[simp]
theorem read_eq (memory : FlatMemory) (addr : Address) :
    read memory addr = memory addr := rfl

@[simp]
theorem write_eq (memory : FlatMemory) (addr : Address) (value : Byte) :
    write memory addr value = Function.update memory addr value := rfl

end FlatMemory

/-- `Related` is a simulation: related memories read alike at every address
and stay related under the same write. -/
structure MemorySimulation
    {M : Type u} {N : Type v} [MemoryInterface M] [MemoryInterface N]
    (Related : M → N → Prop) : Prop where
  read_eq :
    ∀ {left : M} {right : N}, Related left right →
      ∀ addr, read left addr = read right addr
  write_related :
    ∀ {left : M} {right : N}, Related left right →
      ∀ addr value, Related (write left addr value) (write right addr value)

/-- A memory together with the log of the writes made to it. -/
structure StoreLog (M : Type u) where
  memory : M
  stores : List (Address × Byte)

instance {M : Type u} [MemoryInterface M] :
    MemoryInterface (StoreLog M) where
  read log addr := read log.memory addr
  write log addr value :=
    { memory := write log.memory addr value
      stores := log.stores ++ [(addr, value)] }

namespace StoreLog

variable {M : Type u} [MemoryInterface M]

/-- A memory whose log is still empty. -/
def start (memory : M) : StoreLog M :=
  { memory := memory, stores := [] }

@[simp]
theorem read_eq (log : StoreLog M) (addr : Address) :
    read log addr = read log.memory addr := rfl

@[simp]
theorem memory_write (log : StoreLog M) (addr : Address) (value : Byte) :
    (write log addr value).memory = write log.memory addr value := rfl

@[simp]
theorem stores_write (log : StoreLog M) (addr : Address) (value : Byte) :
    (write log addr value).stores = log.stores ++ [(addr, value)] := rfl

/-- Forgetting the log is a simulation: recording changes nothing that a
component can observe. -/
theorem forgetSimulation :
    MemorySimulation
      (fun (log : StoreLog M) (memory : M) => log.memory = memory) where
  read_eq := by
    rintro log memory rfl addr
    rfl
  write_related := by
    rintro log memory rfl addr value
    rfl

end StoreLog

end CyclePerfectGameboy
