import CyclePerfectGameboy.Memory.MemoryInterface

namespace CyclePerfectGameboy

/-- `memory::RAM<Size>`: `std::array<std::uint8_t, Size>`, filled with zeros by
the default constructor. -/
structure RAM (size : Nat) where
  data : Fin size → Byte := fun _ => 0

namespace RAM

variable {size : Nat}

/-- The address is used as the offset, whatever region the object backs. -/
def read (ram : RAM size) (addr : Address) : Byte :=
  if inside : addr.toNat < size then
    ram.data ⟨addr.toNat, inside⟩
  else
    0xFF

def write (ram : RAM size) (addr : Address) (value : Byte) : RAM size :=
  if inside : addr.toNat < size then
    { data := Function.update ram.data ⟨addr.toNat, inside⟩ value }
  else
    ram

instance : MemoryInterface (RAM size) where
  read := RAM.read
  write := RAM.write

theorem read_inside
    (ram : RAM size) {addr : Address} (inside : addr.toNat < size) :
    MemoryInterface.read ram addr = ram.data ⟨addr.toNat, inside⟩ :=
  dif_pos inside

theorem write_inside
    (ram : RAM size) {addr : Address} (value : Byte)
    (inside : addr.toNat < size) :
    MemoryInterface.write ram addr value =
      { data := Function.update ram.data ⟨addr.toNat, inside⟩ value } :=
  dif_pos inside

theorem read_outside
    (ram : RAM size) {addr : Address} (outside : size ≤ addr.toNat) :
    MemoryInterface.read ram addr = 0xFF :=
  dif_neg (Nat.not_lt.mpr outside)

theorem write_outside
    (ram : RAM size) {addr : Address} (value : Byte)
    (outside : size ≤ addr.toNat) :
    MemoryInterface.write ram addr value = ram :=
  dif_neg (Nat.not_lt.mpr outside)

end RAM

end CyclePerfectGameboy
