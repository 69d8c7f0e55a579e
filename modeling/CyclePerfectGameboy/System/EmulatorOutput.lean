import CyclePerfectGameboy.Cartridge.HeaderFields
import CyclePerfectGameboy.Cpu.Registers
import CyclePerfectGameboy.Foundations.TextCodec

/-!
# What the command line program prints

Behind a message of the logger stand the lines about the cartridge, and those
about the CPU come last.  The latter have a fixed length, so they can be found
behind any title, and they give back all the registers.
-/

namespace CyclePerfectGameboy

/-- A number after `{:02X}` or `{:04X}`. -/
def upperHexText (width value : Nat) : String :=
  String.ofList ((TextCodec.paddedHex width value).map Char.toUpper)

/-- What `main` prints about the cartridge. -/
structure RomReport where
  title : List Byte
  cartridgeType : Byte
  romSize : Byte
  romKilobytes : BitVec 32
  romBanks : BitVec 32
  ramSize : Byte
  ramBanks : BitVec 32
  japanese : Bool

/-- `base << count` on 32 bits, which has no meaning for larger counts. -/
def shiftLeftDefined (base : BitVec 32) (count : Nat) : Option (BitVec 32) :=
  if count < 32 then some (base <<< count) else none

def CartridgeHeader.romReport (header : CartridgeHeader) :
    Option RomReport :=
  (shiftLeftDefined 32 header.getRomSize.toNat).map (fun kilobytes =>
    { title := header.getTitle
      cartridgeType := header.getCartridgeType
      romSize := header.getRomSize
      romKilobytes := kilobytes
      romBanks := header.getRomBanks
      ramSize := header.getRamSize
      ramBanks := header.getRamBanks
      japanese := header.isJapanese })

/-- The lines of `main` about the cartridge.  Path and title are bytes and are
printed as they are. -/
def RomReport.lines (path : List Byte) (rom : RomReport) : List String :=
  ["ROM Information for: " ++ byteText path,
    "Title: " ++ byteText rom.title,
    "Cartridge Type: " ++ upperHexText 2 rom.cartridgeType.toNat,
    "ROM Size: " ++ upperHexText 2 rom.romSize.toNat ++ " (" ++
      toString rom.romKilobytes.toNat ++ " KB)",
    "ROM Banks: " ++ toString rom.romBanks.toNat,
    "RAM Size: " ++ upperHexText 2 rom.ramSize.toNat,
    "RAM Banks: " ++ toString rom.ramBanks.toNat,
    "Region: " ++ (if rom.japanese then "Japanese" else "Non-Japanese")]

theorem romReport_eq_none_iff (header : CartridgeHeader) :
    header.romReport = none ↔ 32 ≤ header.getRomSize.toNat := by
  rw [CartridgeHeader.romReport, Option.map_eq_none_iff, shiftLeftDefined]
  by_cases small : header.getRomSize.toNat < 32
  · simp [small]
  · simp [small, Nat.le_of_not_lt small]

/-- The size that is printed is that of the banks for the nine codes that have
a name. -/
theorem romReport_kilobytes_iff
    {header : CartridgeHeader} {rom : RomReport}
    (reported : header.romReport = some rom) :
    rom.romKilobytes.toNat = 16 * rom.romBanks.toNat ↔
      rom.romSize.toNat ≤ 8 := by
  obtain ⟨kilobytes, shifted, same⟩ := Option.map_eq_some_iff.mp reported
  cases same
  unfold shiftLeftDefined at shifted
  split at shifted
  · rename_i small
    cases shifted
    simp only [CartridgeHeader.getRomBanks]
    generalize header.getRomSize = size at small ⊢
    obtain ⟨code, rfl⟩ : ∃ code : Fin 32, size = BitVec.ofNat 8 code.val :=
      ⟨⟨size.toNat, small⟩, by simp⟩
    clear small
    revert code
    decide
  · cases shifted

/-- One line with a register pair. -/
def pairLine (label : String) (value : RegisterPair) : String :=
  label ++ upperHexText 4 value.value.toNat

def flagText (value : Bool) : String :=
  if value then "1" else "0"

/-- The line with the flags. -/
def flagsLine (registers : Registers) : String :=
  "Flags: Z=" ++ flagText registers.flagZero ++
    " N=" ++ flagText registers.flagSubtract ++
    " H=" ++ flagText registers.flagHalfCarry ++
    " C=" ++ flagText registers.flagCarry

/-- The lines of `main` about the CPU. -/
def cpuStateLines (registers : Registers) : List String :=
  ["\nCPU State after execution:",
    pairLine "AF: " registers.af, pairLine "BC: " registers.bc,
    pairLine "DE: " registers.de, pairLine "HL: " registers.hl,
    pairLine "SP: " registers.sp, pairLine "PC: " registers.pc,
    flagsLine registers]

/-- Lines with the character that ends each. -/
def linesText : List String → String
  | [] => ""
  | line :: rest => line ++ "\n" ++ linesText rest

@[simp]
theorem linesText_nil : linesText [] = "" := rfl

@[simp]
theorem linesText_cons (line : String) (rest : List String) :
    linesText (line :: rest) = line ++ "\n" ++ linesText rest := rfl

theorem linesText_append (first second : List String) :
    linesText (first ++ second) = linesText first ++ linesText second := by
  induction first with
  | nil =>
      simp
  | cons line first inductionHypothesis =>
      simp [inductionHypothesis, String.append_assoc]

/-- All that is written to the standard output: the logger announces the reset
that ends `load_rom`, then `main` has its say. -/
def emulatorOutput (path : List Byte) (rom : RomReport)
    (registers : Registers) : List Byte :=
  messageBytes
    (linesText
      (["[INFO] System reset"] ++ rom.lines path ++
        ["\nEmulation starting..."] ++ cpuStateLines registers))

open TextCodec

theorem pairDigits_pos : 0 < 4 := by
  decide

/-- The format of a line with a register pair. -/
def pairFormat (label : String) : TextCodec RegisterPair :=
  ((labelled label (upperHexadecimal 4 pairDigits_pos)).echoed
      (fun _ => ['\n'])).relabel
    RegisterPair.mk RegisterPair.value (fun _ => rfl) (fun _ => rfl)

/-- The flags are those of `AF` and say nothing new. -/
def cpuStateFormat : TextCodec Registers :=
  ((labelled "\nCPU State after execution:" <| labelled "\n" <|
    (pairFormat "AF: ").pair <| (pairFormat "BC: ").pair <|
    (pairFormat "DE: ").pair <| (pairFormat "HL: ").pair <|
    (pairFormat "SP: ").pair <| pairFormat "PC: ").relabel
      (fun pairs =>
        { af := pairs.1
          bc := pairs.2.1
          de := pairs.2.2.1
          hl := pairs.2.2.2.1
          sp := pairs.2.2.2.2.1
          pc := pairs.2.2.2.2.2 })
      (fun registers =>
        (registers.af, registers.bc, registers.de, registers.hl,
          registers.sp, registers.pc))
      (fun _ => rfl) (fun _ => rfl)).echoed
    (fun registers => (flagsLine registers).toList ++ ['\n'])

theorem toList_pairLine (label : String) (value : RegisterPair) :
    (pairLine label value).toList ++ ['\n'] =
      (pairFormat label).write value := by
  simp [pairLine, pairFormat, upperHexText, upperHexadecimal, fixedWidth]

theorem toList_cpuStateLines (registers : Registers) :
    (linesText (cpuStateLines registers)).toList =
      cpuStateFormat.write registers := by
  have lineEnd : "\n".toList = ['\n'] := by
    simp
  delta cpuStateLines cpuStateFormat
  simp only [linesText_cons, linesText_nil, String.toList_append, lineEnd,
    toList_pairLine, echoed_write, relabel_write, labelled_write, pair_write,
    List.append_assoc]
  simp

theorem isByteText_upperHexText (width value : Nat) :
    IsByteText (upperHexText width value) := by
  have small :
      ∀ place < 16, (Nat.digitChar place).toUpper.toNat < 256 := by
    decide
  intro letter member
  rw [upperHexText, String.toList_ofList, List.mem_map] at member
  obtain ⟨digit, member, rfl⟩ := member
  rw [paddedHex, List.mem_append] at member
  rcases member with zero | written
  · rw [List.eq_of_mem_replicate zero]
    decide
  · obtain ⟨place, below, rfl⟩ := mem_toDigits_sixteen written
    exact small place below

theorem isByteText_cpuStateLines (registers : Registers) :
    IsByteText (linesText (cpuStateLines registers)) := by
  have flag : ∀ value, IsByteText (flagText value) := by
    intro value
    cases value with
    | false =>
        simp [flagText, IsByteText]
    | true =>
        simp [flagText, IsByteText]
  delta cpuStateLines pairLine flagsLine
  simp only [linesText_cons, linesText_nil, isByteText_append_iff,
    isByteText_upperHexText, flag, and_true]
  -- the labels are left
  simp [IsByteText]

theorem length_pairLine (label : String) (value : RegisterPair) :
    (pairLine label value).length = label.length + 4 := by
  have digits := paddedHex_length_word pairDigits_pos value.value
  have hex : (upperHexText 4 value.value.toNat).length = 4 := by
    rw [upperHexText, String.length_ofList, List.length_map]
    exact digits
  rw [pairLine, String.length_append, hex]

theorem length_flagsLine (registers : Registers) :
    (flagsLine registers).length = 22 := by
  have single : ∀ value, (flagText value).length = 1 := by
    decide
  delta flagsLine
  simp only [String.length_append, single]
  rfl

/-- The number of characters in the lines about the CPU. -/
theorem length_cpuStateLines (registers : Registers) :
    (linesText (cpuStateLines registers)).length = 105 := by
  delta cpuStateLines
  simp only [linesText_cons, linesText_nil, String.length_append,
    length_pairLine, length_flagsLine]
  rfl

/-- The registers that the end of an output tells. -/
def readCpuState (output : List Byte) : Option Registers :=
  cpuStateFormat.parseAll
    (byteText (output.drop (output.length - 105))).toList

/-- Whatever is in the title, the output gives back the registers. -/
theorem readCpuState_emulatorOutput
    (path : List Byte) (rom : RomReport) (registers : Registers) :
    readCpuState (emulatorOutput path rom registers) = some registers := by
  have behind :
      (emulatorOutput path rom registers).drop
          ((emulatorOutput path rom registers).length - 105) =
        messageBytes (linesText (cpuStateLines registers)) := by
    rw [emulatorOutput, linesText_append, messageBytes_append,
      List.length_append, length_messageBytes (linesText (cpuStateLines _)),
      length_cpuStateLines, Nat.add_sub_cancel, List.drop_left]
  rw [readCpuState, behind,
    byteText_messageBytes (isByteText_cpuStateLines registers),
    parseAll_eq_some_iff]
  exact toList_cpuStateLines registers

/-- The output begins with the message of the logger, the path and the title,
byte for byte. -/
theorem emulatorOutput_begins
    (path : List Byte) (rom : RomReport) (registers : Registers) :
    messageBytes "[INFO] System reset\nROM Information for: " ++ path ++
        messageBytes "\nTitle: " ++ rom.title ++ messageBytes "\n" <+:
      emulatorOutput path rom registers := by
  have opening :
      messageBytes "[INFO] System reset\nROM Information for: " =
        messageBytes "[INFO] System reset" ++ messageBytes "\n" ++
          messageBytes "ROM Information for: " := by
    decide
  have label :
      messageBytes "\nTitle: " =
        messageBytes "\n" ++ messageBytes "Title: " := by
    decide
  rw [opening, label, emulatorOutput]
  delta RomReport.lines
  simp only [List.cons_append, List.nil_append, linesText_cons,
    messageBytes_append, messageBytes_byteText, List.append_assoc,
    List.prefix_append_right_inj]
  exact List.prefix_append _ _

end CyclePerfectGameboy
