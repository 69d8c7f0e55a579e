import CyclePerfectGameboy.Cartridge.HeaderChecksum
import CyclePerfectGameboy.Cartridge.Rom
import Mathlib.Data.List.TakeWhile

/-!
# The fields of the header

The getters of the header and a writer for what they read.  The writer makes
the check byte, so that what it writes can be loaded, is valid and reads back.
-/

namespace CyclePerfectGameboy

open Checksum

namespace CartridgeHeader

theorem ext_bytes
    {left right : CartridgeHeader}
    (same : left.headerData = right.headerData) : left = right := by
  cases left
  cases right
  cases same
  rfl

variable (header : CartridgeHeader)

/-- The bytes `0x34` to `0x43`. -/
def titleBytes : List Byte :=
  List.ofFn (fun i : Fin 16 => header.headerData ⟨0x34 + i.val, by omega⟩)

/-- `get_title`: the loop stops at the first zero byte. -/
def getTitle : List Byte :=
  header.titleBytes.takeWhile (fun c => c != 0)

/-- `get_cartridge_type`; the cast takes every byte to an enumerator or to a
value without a name. -/
def getCartridgeType : Byte :=
  header.headerData ⟨0x47, by decide⟩

def getRomSize : Byte :=
  header.headerData ⟨0x48, by decide⟩

def getRamSize : Byte :=
  header.headerData ⟨0x49, by decide⟩

/-- `get_rom_banks`: the enumerators `KB_32` to `MB_8`. -/
def getRomBanks : BitVec 32 :=
  match header.getRomSize with
  | 0x00 => 2
  | 0x01 => 4
  | 0x02 => 8
  | 0x03 => 16
  | 0x04 => 32
  | 0x05 => 64
  | 0x06 => 128
  | 0x07 => 256
  | 0x08 => 512
  | _ => 2

/-- `get_ram_banks`: the enumerators `NONE` to `KB_64`. -/
def getRamBanks : BitVec 32 :=
  match header.getRamSize with
  | 0x00 => 0
  | 0x01 => 1
  | 0x02 => 1
  | 0x03 => 4
  | 0x04 => 16
  | 0x05 => 8
  | _ => 0

def isJapanese : Bool :=
  header.headerData ⟨0x4A, by decide⟩ == 0x00

def getGlobalChecksum : Word :=
  joinBytes (header.headerData ⟨0x4E, by decide⟩)
    (header.headerData ⟨0x4F, by decide⟩)

end CartridgeHeader

/-- The values of the getters that depend on bytes of their own. -/
@[ext]
structure HeaderFields where
  title : List Byte
  cartridgeType : Byte
  romSize : Byte
  ramSize : Byte
  japanese : Bool
  globalChecksum : Word
  titleShort : title.length ≤ 16
  titlePlain : ∀ c ∈ title, c ≠ 0

namespace CartridgeHeader

/-- The fields of a header. -/
def fields (header : CartridgeHeader) : HeaderFields where
  title := header.getTitle
  cartridgeType := header.getCartridgeType
  romSize := header.getRomSize
  ramSize := header.getRamSize
  japanese := header.isJapanese
  globalChecksum := header.getGlobalChecksum
  titleShort := by
    refine (List.takeWhile_prefix _).length_le.trans ?_
    rw [titleBytes, List.length_ofFn]
  titlePlain := by
    intro c member
    simpa using List.mem_takeWhile_imp member

end CartridgeHeader

namespace HeaderFields

variable (fields : HeaderFields) (background : CartridgeHeader)

/-- Every byte but the check byte; what no getter reads stays. -/
def plainByte (i : Fin 0x50) : Byte :=
  if 0x34 ≤ i.val ∧ i.val ≤ 0x43 then
    fields.title.getD (i.val - 0x34) 0
  else
    match i.val with
    | 0x47 => fields.cartridgeType
    | 0x48 => fields.romSize
    | 0x49 => fields.ramSize
    | 0x4A =>
        if fields.japanese then 0
        else if background.headerData i = 0 then 1
        else background.headerData i
    | 0x4E => highByte fields.globalChecksum
    | 0x4F => lowByte fields.globalChecksum
    | _ => background.headerData i

theorem checked_lt (i : Fin 25) : 0x34 + i.val < 0x50 := by
  omega

/-- The check byte of 25 header bytes. -/
def checkByte (bytes : Fin 0x50 → Byte) : Byte :=
  runningDifference 25 (fun i => bytes ⟨0x34 + i.val, checked_lt i⟩)

def write : CartridgeHeader :=
  { headerData :=
      Function.update (fields.plainByte background) ⟨0x4D, by decide⟩
        (checkByte (fields.plainByte background)) }

theorem write_of_ne {i : Fin 0x50} (other : i.val ≠ 0x4D) :
    (fields.write background).headerData i = fields.plainByte background i :=
  Function.update_of_ne (fun same => other (congrArg Fin.val same)) _ _

/-- The check byte is not among the bytes that it checks. -/
theorem checkByte_write :
    checkByte (fields.write background).headerData =
      checkByte (fields.plainByte background) := by
  refine congrArg (runningDifference 25) (funext fun i => ?_)
  refine write_of_ne fields background ?_
  have inside := i.isLt
  simp only
  omega

theorem write_valid :
    (fields.write background).validateHeaderChecksum = true := by
  have check :
      (fields.write background).headerData ⟨0x4D, by decide⟩ =
        checkByte (fields.plainByte background) := by
    rw [write]
    simp only [Function.update_self]
  rw [← checkByte_write] at check
  exact beq_iff_eq.mpr check.symm

/-- A title fills its bytes with zeros behind it. -/
theorem titleBytes_write :
    (fields.write background).titleBytes =
      fields.title ++ List.replicate (16 - fields.title.length) 0 := by
  have short := fields.titleShort
  refine List.ext_getElem ?_ ?_
  · rw [CartridgeHeader.titleBytes, List.length_ofFn, List.length_append,
      List.length_replicate]
    omega
  · intro i before _
    rw [CartridgeHeader.titleBytes, List.length_ofFn] at before
    have byte :
        (fields.write background).headerData ⟨0x34 + i, by omega⟩ =
          fields.title.getD i 0 := by
      rw [write_of_ne fields background (by simp only; omega), plainByte,
        if_pos ⟨Nat.le_add_right _ _, by simp only; omega⟩]
      simp only [Nat.add_sub_cancel_left]
    simp only [CartridgeHeader.titleBytes, List.getElem_ofFn, byte]
    by_cases inside : i < fields.title.length
    · rw [List.getElem_append_left inside,
        List.getD_eq_getElem _ _ inside]
    · rw [List.getElem_append_right (Nat.le_of_not_lt inside),
        List.getElem_replicate,
        List.getD_eq_default _ _ (Nat.le_of_not_lt inside)]

/-- What has been written is read back. -/
theorem fields_write : (fields.write background).fields = fields := by
  have title : (fields.write background).getTitle = fields.title := by
    have plain : ∀ c ∈ fields.title, (c != 0) = true := by
      intro c member
      simpa using fields.titlePlain c member
    rw [CartridgeHeader.getTitle, titleBytes_write,
      List.takeWhile_append_of_pos plain]
    have tail :
        (List.replicate (16 - fields.title.length) (0 : Byte)).takeWhile
            (fun c => c != 0) = [] := by
      cases 16 - fields.title.length with
      | zero => rfl
      | succ more => rfl
    rw [tail, List.append_nil]
  have japanese : (fields.write background).isJapanese = fields.japanese := by
    change
      ((if fields.japanese then 0
        else if background.headerData 0x4A = 0 then 1
        else background.headerData 0x4A) == (0 : Byte)) = fields.japanese
    cases fields.japanese with
    | true =>
        rfl
    | false =>
        simp only [Bool.false_eq_true, if_false, beq_eq_false_iff_ne]
        by_cases zero : background.headerData 0x4A = 0
        · rw [if_pos zero]
          decide
        · rw [if_neg zero]
          exact zero
  ext1
  · exact title
  · rfl
  · rfl
  · rfl
  · exact japanese
  · exact joinBytes_highByte_lowByte _

end HeaderFields

namespace CartridgeHeader

/-- Behind the title there are only zeros. -/
def TitlePadded (header : CartridgeHeader) : Prop :=
  header.titleBytes =
    header.getTitle ++ List.replicate (16 - header.getTitle.length) 0

theorem plainByte_fields
    {header : CartridgeHeader} (padded : header.TitlePadded)
    (i : Fin 0x50) :
    header.fields.plainByte header i = header.headerData i := by
  unfold HeaderFields.plainByte
  split
  · rename_i inTitle
    have inside : i.val - 0x34 < header.titleBytes.length := by
      rw [titleBytes, List.length_ofFn]
      omega
    have padding :
        header.titleBytes.getD (i.val - 0x34) 0 =
          header.getTitle.getD (i.val - 0x34) 0 := by
      rw [padded]
      by_cases before : i.val - 0x34 < header.getTitle.length
      · rw [List.getD_append _ _ _ _ before]
      · have behind := Nat.le_of_not_lt before
        rw [List.getD_append_right _ _ _ _ behind,
          List.getD_eq_default _ _ behind, List.getD_eq_getElem?_getD,
          List.getElem?_getD_replicate_default_eq]
    change header.getTitle.getD (i.val - 0x34) 0 = _
    rw [← padding, List.getD_eq_getElem _ _ inside]
    simp only [titleBytes, List.getElem_ofFn]
    congr 1
    exact Fin.ext (by simp only; omega)
  · have byte :
        ∀ {place : Nat} (inside : place < 0x50), i.val = place →
          header.headerData ⟨place, inside⟩ = header.headerData i := by
      rintro place inside rfl
      rfl
    split
    · exact byte _ ‹_›
    · exact byte _ ‹_›
    · exact byte _ ‹_›
    · rename_i place
      have japanese :
          header.fields.japanese = (header.headerData i == 0) :=
        congrArg (fun value => value == 0) (byte _ place)
      rw [japanese]
      by_cases zero : header.headerData i = 0
      · rw [zero]
        rfl
      · rw [if_neg zero, if_neg]
        rw [beq_iff_eq]
        exact zero
    · rename_i place
      exact (highByte_joinBytes _ _).trans (byte _ place)
    · rename_i place
      exact (lowByte_joinBytes _ _).trans (byte _ place)
    · rfl

/-- Writing a header's own fields changes nothing exactly if the header is
valid and its title is padded. -/
theorem write_fields_iff (header : CartridgeHeader) :
    header.fields.write header = header ↔
      header.validateHeaderChecksum = true ∧ header.TitlePadded := by
  constructor
  · intro same
    have valid := header.fields.write_valid header
    have padded := header.fields.titleBytes_write header
    rw [same] at valid padded
    exact ⟨valid, padded⟩
  · rintro ⟨valid, padded⟩
    have bytes :
        header.fields.plainByte header = header.headerData :=
      funext (plainByte_fields padded)
    have check :
        HeaderFields.checkByte header.headerData =
          header.headerData ⟨0x4D, by decide⟩ := beq_iff_eq.mp valid
    rw [HeaderFields.write, bytes, check, Function.update_eq_self]

end CartridgeHeader

/-! ## Images -/

namespace HeaderFields

variable (fields : HeaderFields) {image : List Byte}
variable (enough : 0x150 ≤ image.length)

/-- An image with the fields in its header. -/
def patch : List Byte :=
  image.take 0x100 ++
    (List.ofFn
        (fields.write (CartridgeHeader.parseData image enough)).headerData ++
      image.drop 0x150)

theorem patch_length : (fields.patch enough).length = image.length := by
  rw [patch, List.length_append, List.length_append, List.length_take,
    List.length_ofFn, List.length_drop]
  omega

/-- The header lies between the two parts that stay. -/
theorem patch_getElem? (addr : Nat) :
    (fields.patch enough)[addr]? =
      if header : 0x100 ≤ addr ∧ addr < 0x150 then
        some
          ((fields.write (CartridgeHeader.parseData image enough)).headerData
            ⟨addr - 0x100, by omega⟩)
      else image[addr]? := by
  have front : (image.take 0x100).length = 0x100 := by
    rw [List.length_take]
    omega
  by_cases before : addr < 0x100
  · rw [patch, List.getElem?_append_left (by omega), dif_neg (by omega),
      List.getElem?_take_of_lt before]
  · rw [patch, List.getElem?_append_right (by omega), front]
    by_cases inside : addr < 0x150
    · rw [dif_pos ⟨Nat.le_of_not_lt before, inside⟩,
        List.getElem?_append_left (by rw [List.length_ofFn]; omega),
        List.getElem?_eq_getElem (by rw [List.length_ofFn]; omega),
        List.getElem_ofFn]
    · rw [dif_neg (by omega),
        List.getElem?_append_right (by rw [List.length_ofFn]; omega),
        List.length_ofFn, List.getElem?_drop]
      have position : 0x150 + (addr - 0x100 - 0x50) = addr := by omega
      rw [position]

theorem parseData_patch (patched : 0x150 ≤ (fields.patch enough).length) :
    CartridgeHeader.parseData (fields.patch enough) patched =
      fields.write (CartridgeHeader.parseData image enough) := by
  refine CartridgeHeader.ext_bytes (funext fun i => ?_)
  rw [parseData_eq_getD, List.getD_eq_getElem?_getD, patch_getElem?,
    dif_pos (by omega)]
  simp only [Nat.add_sub_cancel_left, Option.getD_some]

/-- Outside the bytes that the getters read and the check byte nothing
changes. -/
theorem patch_outside
    {addr : Nat} (outside : addr < 0x134 ∨ 0x14F < addr) :
    (fields.patch enough)[addr]? = image[addr]? := by
  rw [patch_getElem?]
  by_cases header : 0x100 ≤ addr ∧ addr < 0x150
  · have early : addr - 0x100 < 0x34 := by omega
    have notTitle : ¬ (0x34 ≤ addr - 0x100 ∧ addr - 0x100 ≤ 0x43) := by
      omega
    have kept :
        fields.plainByte (CartridgeHeader.parseData image enough)
            ⟨addr - 0x100, by omega⟩ =
          (CartridgeHeader.parseData image enough).headerData
            ⟨addr - 0x100, by omega⟩ := by
      rw [plainByte, if_neg notTitle]
      split
      case h_7 =>
        rfl
      all_goals
        rename_i place
        exact absurd place (by simp only; omega)
    have position : 0x100 + (addr - 0x100) = addr := by omega
    rw [dif_pos header, write_of_ne _ _ (by simp only; omega), kept, parseData_eq_getD,
      position, List.getD_eq_getElem _ _ (by omega),
      List.getElem?_eq_getElem (by omega)]
  · rw [dif_neg header]

theorem patch_eq_self_iff :
    fields.patch enough = image ↔
      fields.write (CartridgeHeader.parseData image enough) =
        CartridgeHeader.parseData image enough := by
  constructor
  · intro same
    have patched : 0x150 ≤ (fields.patch enough).length := by
      rw [same]
      exact enough
    rw [← parseData_patch fields enough patched]
    congr 1
  · intro same
    refine List.ext_getElem? (fun addr => ?_)
    rw [patch_getElem?]
    by_cases header : 0x100 ≤ addr ∧ addr < 0x150
    · have position : 0x100 + (addr - 0x100) = addr := by omega
      rw [dif_pos header, same, parseData_eq_getD, position,
        List.getD_eq_getElem _ _ (by omega),
        List.getElem?_eq_getElem (by omega)]
    · rw [dif_neg header]

end HeaderFields

namespace ROM

/-- A patched image loads, is valid, reads back the fields and differs from
the original in the bytes `0x134` to `0x14F` only; and an image is the patch
of its own fields exactly if it is valid and its title is padded. -/
theorem load_patched_image
    (rom : ROM) (fields : HeaderFields)
    {image : List Byte} (enough : 0x150 ≤ image.length) :
    let header := CartridgeHeader.parseData image enough
    let loaded := rom.loadFromFile (.complete (fields.patch enough))
    loaded.1 = true ∧
      loaded.2.header.fields = fields ∧
      loaded.2.header.validateHeaderChecksum = true ∧
      loaded.2.data.length = image.length ∧
      (∀ addr, addr < 0x134 ∨ 0x14F < addr →
        loaded.2.data[addr]? = image[addr]?) ∧
      (header.fields.patch enough = image ↔
        header.validateHeaderChecksum = true ∧ header.TitlePadded) := by
  intro header loaded
  have patched : 0x150 ≤ (fields.patch enough).length := by
    rw [HeaderFields.patch_length]
    exact enough
  have result :
      loaded =
        (true,
          { data := fields.patch enough
            header := fields.write header }) := by
    rw [← HeaderFields.parseData_patch fields enough patched]
    exact dif_pos patched
  rw [result]
  refine ⟨rfl, fields.fields_write header, fields.write_valid header,
    fields.patch_length enough, ?_, ?_⟩
  · intro addr outside
    exact fields.patch_outside enough outside
  · rw [HeaderFields.patch_eq_self_iff]
    exact header.write_fields_iff

set_option maxRecDepth 4000 in
/-- A title in an image of zeros. -/
theorem load_patched_title :
    let fields : HeaderFields :=
      { title := [0x54, 0x45, 0x53, 0x54], cartridgeType := 0x01
        romSize := 0x02, ramSize := 0x00, japanese := false
        globalChecksum := 0x1234
        titleShort := by decide
        titlePlain := by decide }
    let image := fields.patch (blankImage_length 0x00).ge
    let header := (({} : ROM).loadFromFile (.complete image)).2.header
    header.getTitle = [0x54, 0x45, 0x53, 0x54] ∧
      header.validateHeaderChecksum = true := by
  intro fields image header
  rcases load_patched_image {} fields (blankImage_length 0x00).ge with
    ⟨_, readBack, valid, _⟩
  have title : header.fields.title = fields.title :=
    congrArg HeaderFields.title readBack
  exact ⟨title, valid⟩

end ROM

end CyclePerfectGameboy
