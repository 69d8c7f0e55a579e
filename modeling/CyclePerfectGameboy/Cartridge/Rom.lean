import CyclePerfectGameboy.Memory.MemoryInterface
import CyclePerfectGameboy.Cartridge.CartridgeHeader

namespace CyclePerfectGameboy

/-- `cartridge::ROM`. -/
structure ROM where
  data : List Byte := []
  header : CartridgeHeader := {}

/-- What the operating system does with one `std::ifstream`, for files whose
load does not throw: `resize` takes any size that `tellg` reports here. -/
inductive FileOutcome where
  /-- The constructor leaves the stream in the fail state. -/
  | openFailed
  /-- The file opens; `tellg` at the end reports the length of `contents`,
  and reading delivers everything. -/
  | complete (contents : List Byte)
  /-- The file opens with size `size`, but the read falls short. -/
  | short (size : Nat)

namespace ROM

/-- `load_from_file`.  The buffer is resized and overwritten before the stream
is tested, so a short read leaves the image empty and the old header in
place. -/
def loadFromFile (rom : ROM) : FileOutcome → Bool × ROM
  | .openFailed => (false, rom)
  | .short _ => (false, { rom with data := [] })
  | .complete contents =>
      if enough : 0x150 ≤ contents.length then
        (true,
          { data := contents
            header := CartridgeHeader.parseData contents enough })
      else
        (true, { rom with data := contents })

/-- `from_file`. -/
def fromFile (file : FileOutcome) : Option ROM :=
  let (success, rom) := ({} : ROM).loadFromFile file
  if success then some rom else none

def read (rom : ROM) (addr : Address) : Byte :=
  match rom.data[addr.toNat]? with
  | some value => value
  | none => 0xFF

/-- ROM ignores writes. -/
def write (rom : ROM) (_addr : Address) (_value : Byte) : ROM :=
  rom

instance : MemoryInterface ROM where
  read := ROM.read
  write := ROM.write

@[simp]
theorem write_eq (rom : ROM) (addr : Address) (value : Byte) :
    MemoryInterface.write rom addr value = rom := rfl

end ROM

end CyclePerfectGameboy
