import CyclePerfectGameboy.Cartridge.Rom
import CyclePerfectGameboy.Foundations.EventLog
import Mathlib.Data.List.Induction

/-!
# The header and the image of a cartridge

`load_from_file` replaces the image at every file that opens, but the header
only when the new image is long enough to have one.
-/

namespace CyclePerfectGameboy

open EventLog

namespace FileOutcome

/-- The image that a call leaves; a file that does not open leaves the old
one. -/
def image : FileOutcome → Option (List Byte)
  | .openFailed => none
  | .complete contents => some contents
  | .short _ => some []

/-- The header that a call parses. -/
def header : FileOutcome → Option CartridgeHeader
  | .complete contents =>
      if enough : 0x150 ≤ contents.length then
        some (CartridgeHeader.parseData contents enough)
      else
        none
  | _ => none

/-- The file opens and leaves an image too short for a header. -/
def Headerless (file : FileOutcome) : Prop :=
  ∃ image ∈ file.image, image.length < 0x150

end FileOutcome

/-- The header of an image: its bytes `0x100` to `0x14F`, or the default
header if it has no such bytes. -/
def imageHeader (image : List Byte) : CartridgeHeader :=
  if enough : 0x150 ≤ image.length then
    CartridgeHeader.parseData image enough
  else
    {}

/-- The header that the last successful parse left, or the default one. -/
def lastHeader (files : List FileOutcome) : CartridgeHeader :=
  (latest (fun (file : FileOutcome) (_ : Unit) => file.header) files ()).getD
    {}

namespace ROM

/-- The header is that of the image. -/
def HeaderInSync (rom : ROM) : Prop :=
  rom.header = imageHeader rom.data

/-- A sequence of calls of `load_from_file` on one object. -/
def loadAll (rom : ROM) (files : List FileOutcome) : ROM :=
  files.foldl (fun rom file => (rom.loadFromFile file).2) rom

theorem loadAll_concat
    (rom : ROM) (files : List FileOutcome) (file : FileOutcome) :
    rom.loadAll (files ++ [file]) =
      ((rom.loadAll files).loadFromFile file).2 := by
  rw [loadAll, List.foldl_append]
  rfl

theorem loadFromFile_data (rom : ROM) (file : FileOutcome) :
    (rom.loadFromFile file).2.data = file.image.getD rom.data := by
  cases file with
  | openFailed | short => rfl
  | complete contents =>
      simp only [loadFromFile]
      split <;> rfl

theorem loadFromFile_header (rom : ROM) (file : FileOutcome) :
    (rom.loadFromFile file).2.header = file.header.getD rom.header := by
  cases file with
  | openFailed | short => rfl
  | complete contents =>
      simp only [loadFromFile, FileOutcome.header]
      split <;> rfl

/-- A call that leaves an image without a header keeps the old header. -/
theorem loadFromFile_of_headerless
    (rom : ROM) {file : FileOutcome} (headerless : file.Headerless) :
    (rom.loadFromFile file).2.HeaderInSync ↔ rom.header = {} := by
  rcases headerless with ⟨image, left, small⟩
  have data : (rom.loadFromFile file).2.data = image := by
    rw [loadFromFile_data, left, Option.getD_some]
  have noHeader : file.header = none := by
    cases file with
    | openFailed | short => rfl
    | complete contents =>
        cases left
        exact dif_neg (Nat.not_le.mpr small)
  rw [HeaderInSync, loadFromFile_header, data, noHeader, Option.getD_none,
    imageHeader, dif_neg (Nat.not_le.mpr small)]

/-- Every other call keeps the two in step. -/
theorem loadFromFile_inSync
    {rom : ROM} (inSync : rom.HeaderInSync) {file : FileOutcome}
    (headed : ¬ file.Headerless) :
    (rom.loadFromFile file).2.HeaderInSync := by
  cases file with
  | openFailed =>
      exact inSync
  | short size =>
      exact absurd ⟨[], rfl, by decide⟩ headed
  | complete contents =>
      have enough : 0x150 ≤ contents.length := by
        by_contra tooShort
        exact headed ⟨contents, rfl, Nat.not_le.mp tooShort⟩
      have parsed :
          (FileOutcome.complete contents).header =
            some (CartridgeHeader.parseData contents enough) :=
        dif_pos enough
      rw [HeaderInSync, loadFromFile_header, loadFromFile_data, parsed,
        FileOutcome.image, Option.getD_some, Option.getD_some, imageHeader,
        dif_pos enough]

theorem loadAll_header (files : List FileOutcome) :
    (loadAll {} files).header = lastHeader files := by
  have tracked :
      ∀ (rom : ROM) (file : FileOutcome) (key : Unit),
        (rom.loadFromFile file).2.header =
          (latest (fun (file : FileOutcome) (_ : Unit) => file.header)
            [file] key).getD rom.header := by
    intro rom file key
    rw [latest_singleton, loadFromFile_header]
  have observed :=
    observe_run (fun (rom : ROM) (_ : Unit) => rom.header) tracked files
      {} ()
  rw [trace_self] at observed
  exact observed

/-- The header and the image stay together exactly when no file without a
header follows one whose header is not all zero. -/
theorem headerInSync_after_loads_iff (files : List FileOutcome) :
    (∀ earlier, earlier <+: files → (loadAll {} earlier).HeaderInSync) ↔
      ∀ earlier file, earlier ++ [file] <+: files → file.Headerless →
        lastHeader earlier = {} := by
  constructor
  · intro inSync earlier file called headerless
    have after := inSync _ called
    rw [loadAll_concat, loadFromFile_of_headerless _ headerless,
      loadAll_header] at after
    exact after
  · intro zero earlier called
    induction earlier using List.reverseRecOn with
    | nil =>
        rfl
    | append_singleton earlier file inductionHypothesis =>
        have before : earlier <+: files :=
          (List.prefix_append earlier [file]).trans called
        rw [loadAll_concat]
        by_cases headerless : file.Headerless
        · rw [loadFromFile_of_headerless _ headerless, loadAll_header]
          exact zero earlier file called headerless
        · exact loadFromFile_inSync (inductionHypothesis before) headerless

/-- After a good file, a read that falls short leaves an empty image under the
header of that file. -/
theorem short_read_keeps_header :
    ¬ ∀ files : List FileOutcome, ∀ earlier, earlier <+: files →
      (loadAll {} earlier).HeaderInSync := by
  intro always
  have ones :
      ∀ (length : Nat) (enough : 0x150 ≤ (List.replicate length 1).length),
        (CartridgeHeader.parseData (List.replicate length 1)
          enough).headerData 0 = 1 := by
    intro length enough
    exact List.getElem_replicate _
  have enough : 0x150 ≤ (List.replicate 0x150 (1 : Byte)).length := by
    rw [List.length_replicate]
  have inSync :=
    always [.complete (List.replicate 0x150 1), .short 0x8000] _
      List.prefix_rfl
  have kept :
      (loadAll {} [.complete (List.replicate 0x150 1)]).header = {} :=
    (loadFromFile_of_headerless _ ⟨[], rfl, by decide⟩).mp inSync
  rw [loadAll_header, lastHeader, latest_singleton, FileOutcome.header,
    dif_pos enough, Option.getD_some] at kept
  have first := congrArg (fun header => header.headerData 0) kept
  rw [ones] at first
  exact absurd first (by decide)

end ROM

end CyclePerfectGameboy
