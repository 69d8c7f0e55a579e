import CyclePerfectGameboy.Core.Types

namespace CyclePerfectGameboy

/-- `cartridge::CartridgeHeader`: a copy of bytes `0x100` to `0x14F` of the
image, all zero before the first parse. -/
structure CartridgeHeader where
  headerData : Fin 0x50 → Byte := fun _ => 0

/-- `parse_data`.  The caller guarantees at least `0x150` bytes, which the
source leaves as a precondition on the pointer. -/
def CartridgeHeader.parseData
    (data : List Byte) (enough : 0x150 ≤ data.length) : CartridgeHeader :=
  { headerData := fun i => data.get ⟨i.val + 0x100, by omega⟩ }

/-- `validate_header_checksum`: the loop over the header bytes `0x34` to
`0x4C`, against the byte at `0x4D`. -/
def CartridgeHeader.validateHeaderChecksum (header : CartridgeHeader) :
    Bool :=
  let checksum : Byte :=
    Fin.foldl 25
      (fun checksum i =>
        checksum - header.headerData ⟨0x34 + i.val, by omega⟩ - 1)
      0
  checksum == header.headerData 0x4D

end CyclePerfectGameboy
