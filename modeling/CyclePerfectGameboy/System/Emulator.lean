import CyclePerfectGameboy.System.EmulatorOutput
import CyclePerfectGameboy.System.LoadRom
import CyclePerfectGameboy.System.TraceLog

/-!
# The command line program

`main` loads one file, prints what its header says, runs a machine for a
thousand cycles and prints the registers.  The logger writes to the same
standard output.
-/

namespace CyclePerfectGameboy

open BudgetLoop CallSequence Function Lockstep

/-- What becomes of a call of `load_from_file`. -/
inductive FileAccess where
  | returns (file : FileOutcome)
  /-- `resize` throws: a directory or a pipe has no size that a vector can
  have, and a file can be too large for the memory. -/
  | throws

/-- How a run of the program ends. -/
inductive ProcessEnd where
  | exit (status : Nat) (out err : List Byte)
  /-- Nothing catches an exception. -/
  | terminated
  /-- The shift of the ROM size has no meaning, or there is no name of the
  program to print. -/
  | undefined

namespace LoggedGameBoy

/-- The static members of the logger as the program starts with them. -/
def start : LoggedGameBoy where
  logger := {}
  machine := .ofRom {}

def powerOn (logged : LoggedGameBoy) : LoggedGameBoy :=
  { logged with machine := logged.machine.powerOn }

/-- The loop logs nothing. -/
def runForCycles (fuel : Nat) (totalCycles : BitVec 32)
    (logged : LoggedGameBoy) : Option LoggedGameBoy :=
  (logged.machine.runForCycles fuel totalCycles).map (fun machine =>
    { logged with machine := machine })

/-- Lines that `main` itself writes behind the messages of the logger. -/
def print (logged : LoggedGameBoy) (lines : List String) : LoggedGameBoy :=
  { logged with
    logger.toLogger.console := logged.logger.console ++ lines }

def standardOutput (logged : LoggedGameBoy) : List Byte :=
  messageBytes (linesText logged.logger.console)

end LoggedGameBoy

def demoCycles : BitVec 32 := 1000

def usageMessage (program : List Byte) : List Byte :=
  messageBytes "Usage: " ++ program ++ messageBytes " <rom_file>\n"

def failureMessage (romPath : List Byte) : List Byte :=
  messageBytes "Failed to load ROM: " ++ romPath ++ messageBytes "\n"

/-- `main`, with the arguments from the name of the program on; `none` if the
fuel of the loop runs out. -/
def emulatorMain (loadFromFile : List Byte → FileAccess) (fuel : Nat) :
    List (List Byte) → Option ProcessEnd
  | [] => some .undefined
  | [program] => some (.exit 1 [] (usageMessage program))
  | _ :: romPath :: _ =>
      match loadFromFile romPath with
      | .throws => some .terminated
      | .returns file =>
          let (success, gameboy) := LoggedGameBoy.start.loadRom file
          if success then
            match gameboy.machine.cartridge.header.romReport with
            | none => some .undefined
            | some rom =>
                let gameboy := (gameboy.print (rom.lines romPath)).powerOn
                let gameboy := gameboy.print ["\nEmulation starting..."]
                (gameboy.runForCycles fuel demoCycles).map (fun gameboy =>
                  let registers := gameboy.machine.cpu.registers
                  .exit 0
                    (gameboy.print (cpuStateLines registers)).standardOutput
                    [])
          else
            some
              (.exit 1 gameboy.standardOutput (failureMessage romPath))

/-- The image and the header that a file leaves in a new machine. -/
def fileRom (file : FileOutcome) : ROM :=
  (({} : ROM).loadFromFile file).2

theorem fileRom_data (contents : List Byte) :
    (fileRom (.complete contents)).data = contents := by
  simp only [fileRom, ROM.loadFromFile]
  split <;> rfl

/-- A file without a header leaves the size code zero. -/
theorem romReport_undefined_iff (contents : List Byte) :
    (fileRom (.complete contents)).header.romReport = none ↔
      0x150 ≤ contents.length ∧ 32 ≤ (contents.getD 0x148 0).toNat := by
  rw [romReport_eq_none_iff]
  by_cases enough : 0x150 ≤ contents.length
  · have parsed :
        (fileRom (.complete contents)).header =
          CartridgeHeader.parseData contents enough := by
      simp only [fileRom, ROM.loadFromFile, dif_pos enough]
    rw [parsed, CartridgeHeader.getRomSize, parseData_eq_getD]
    simp [enough]
  · have default : (fileRom (.complete contents)).header = {} := by
      simp only [fileRom, ROM.loadFromFile, dif_neg enough]
    rw [default]
    simp [enough, CartridgeHeader.getRomSize]

namespace GameBoy

/-- A thousand cycles of a machine on the path from a program counter. -/
theorem demo_run
    {gb : GameBoy} {console : Console} (shows_ : gb.Shows console)
    (powered : gb.poweredOn = true) :
    ∃ opcodes, 50 ≤ opcodes ∧ opcodes ≤ 250 ∧
      Reaches (pcBody console.rom.data) demoCycles console.registers.pc.value
          opcodes ∧
        ∀ fuel ≥ opcodes, ∃ last,
          gb.runForCycles fuel demoCycles = some last ∧
            last.Shows (after Console.runBody opcodes console) := by
  obtain ⟨opcodes, reaches⟩ :=
    exists_reaches runBody runBody_counts.positive demoCycles gb
  have budget : demoCycles.toNat = 1000 := rfl
  have costly := spent_le_mul runBody runBody_counts.bounded opcodes gb
  have enough := reaches.1
  have follows :
      Follows console.rom.data gb console.registers.pc.value :=
    ⟨console, shows_, rfl, rfl⟩
  refine ⟨opcodes, by omega,
    reaches.passes_le runBody runBody_counts.least (by rw [budget]),
    reaches_related (runBody_follows _) follows reaches, ?_⟩
  intro fuel order
  refine ⟨after runBody opcodes gb, ?_,
    after_related Shows.runBody opcodes shows_⟩
  rw [runForCycles_eq_loop powered]
  exact (loop_eq_some_iff runBody reaches
    (fits_of_room runBody_counts (by decide) gb opcodes reaches)).mpr
    ⟨order, rfl⟩

end GameBoy

/-- The console with a file in it. -/
def fileConsole (contents : List Byte) : Console :=
  (({} : Console).loadRom (.complete contents)).2

theorem fileConsole_rom (contents : List Byte) :
    (fileConsole contents).rom = fileRom (.complete contents) := by
  simp only [fileConsole, Console.loadRom, fileRom]
  split <;> rfl

theorem fileConsole_started (contents : List Byte) :
    (fileConsole contents).poweredOn = true ∧
      (fileConsole contents).registers.pc.value = 0x100 := by
  simp only [fileConsole, Console.loadRom, ROM.loadFromFile]
  split <;> exact ⟨rfl, rfl⟩

theorem fileConsole_shown (contents : List Byte) :
    ((GameBoy.ofRom {}).loadRom (.complete contents)).2.Shows
      (fileConsole contents) :=
  ((GameBoy.ofRom_shows {}).loadRom (.complete contents)).2

/-- The opcodes of a console move `PC` along the path through its image. -/
theorem fileConsole_pc (contents : List Byte) (opcodes : Nat) :
    (after Console.runBody opcodes (fileConsole contents)).registers.pc.value =
      (nextPc contents)^[opcodes] 0x100 := by
  have follows :
      Related
        (fun console pc =>
          console.rom.data = contents ∧ console.registers.pc.value = pc)
        Console.runBody (pcBody contents) := by
    rintro console pc ⟨rfl, rfl⟩
    rcases console.runBody_path with ⟨cycles, next⟩
    exact ⟨cycles, rfl, next⟩
  have image : (fileConsole contents).rom.data = contents := by
    rw [fileConsole_rom, fileRom_data]
  exact (after_related follows opcodes
    ⟨image, (fileConsole_started contents).2⟩).2

/-- A success is announced on the console. -/
theorem LoggedGameBoy.start_loadRom (contents : List Byte) :
    (start.loadRom (.complete contents)).1 = true ∧
      (start.loadRom (.complete contents)).2 =
        { logger := { console := ["[INFO] System reset"] }
          machine := ((GameBoy.ofRom {}).loadRom (.complete contents)).2 } := by
  have success := GameBoy.loadRom_of_complete (.ofRom {}) contents
  refine ⟨success, ?_⟩
  simp only [loadRom, start, success, if_true]
  rfl

section Program

variable {loadFromFile : List Byte → FileAccess} {path : List Byte}
variable {contents : List Byte} {fuel : Nat}
variable (program : List Byte) (others : List (List Byte))

theorem emulatorMain_of_throws (thrown : loadFromFile path = .throws) :
    emulatorMain loadFromFile fuel (program :: path :: others) =
      some .terminated := by
  simp only [emulatorMain, thrown]

theorem emulatorMain_of_unreadable
    {file : FileOutcome} (returned : loadFromFile path = .returns file)
    (unreadable : ∀ contents, file ≠ .complete contents) :
    emulatorMain loadFromFile fuel (program :: path :: others) =
      some (.exit 1 [] (failureMessage path)) := by
  rw [emulatorMain, returned]
  cases file with
  | openFailed =>
      rfl
  | complete contents =>
      exact absurd rfl (unreadable contents)
  | short size =>
      rfl

theorem emulatorMain_of_undefined
    (readable : loadFromFile path = .returns (.complete contents))
    (unreported : (fileRom (.complete contents)).header.romReport = none) :
    emulatorMain loadFromFile fuel (program :: path :: others) =
      some .undefined := by
  have loaded :=
    (fileConsole_shown contents).cartridge.trans (fileConsole_rom contents)
  rcases LoggedGameBoy.start_loadRom contents with ⟨success, started⟩
  simp only [emulatorMain, readable, success, if_true, started, loaded,
    unreported]

/-- A report that is printed, with the number of opcodes behind it. -/
theorem emulatorMain_of_report
    (readable : loadFromFile path = .returns (.complete contents))
    {rom : RomReport}
    (reported : (fileRom (.complete contents)).header.romReport = some rom)
    (enough : 250 ≤ fuel) :
    ∃ opcodes, 50 ≤ opcodes ∧ opcodes ≤ 250 ∧
      Reaches (pcBody contents) demoCycles 0x100 opcodes ∧
        emulatorMain loadFromFile fuel (program :: path :: others) =
          some
            (.exit 0
              (emulatorOutput path rom
                (after Console.runBody opcodes
                  (fileConsole contents)).registers)
              []) := by
  have shows_ := fileConsole_shown contents
  have inserted := fileConsole_rom contents
  rcases LoggedGameBoy.start_loadRom contents with ⟨success, started⟩
  rcases fileConsole_started contents with ⟨consoleOn, consolePc⟩
  have powered := shows_.poweredOn.trans consoleOn
  have loaded := shows_.cartridge.trans inserted
  obtain ⟨opcodes, least, most, reaches, ran⟩ :=
    GameBoy.demo_run shows_ powered
  obtain ⟨last, returned, lastShows⟩ := ran fuel (Nat.le_trans most enough)
  rw [inserted, fileRom_data, consolePc] at reaches
  refine ⟨opcodes, least, most, reaches, ?_⟩
  simp only [emulatorMain, readable, success, if_true, started, loaded,
    reported, LoggedGameBoy.print, LoggedGameBoy.powerOn,
    LoggedGameBoy.runForCycles, GameBoy.powerOn, powered, returned,
    Option.map_some]
  rw [lastShows.cpu]
  rfl

/-- A file that can be read ends in the shift or in a report. -/
theorem emulatorMain_of_readable
    (readable : loadFromFile path = .returns (.complete contents))
    (enough : 250 ≤ fuel) :
    (emulatorMain loadFromFile fuel (program :: path :: others) =
          some .undefined ∧
        (fileRom (.complete contents)).header.romReport = none) ∨
      ∃ rom opcodes,
        emulatorMain loadFromFile fuel (program :: path :: others) =
            some
              (.exit 0
                (emulatorOutput path rom
                  (after Console.runBody opcodes
                    (fileConsole contents)).registers)
                []) ∧
          (fileRom (.complete contents)).header.romReport = some rom ∧
          50 ≤ opcodes ∧ opcodes ≤ 250 ∧
          Reaches (pcBody contents) demoCycles 0x100 opcodes := by
  cases reported : (fileRom (.complete contents)).header.romReport with
  | none =>
      exact Or.inl
        ⟨emulatorMain_of_undefined program others readable reported, rfl⟩
  | some rom =>
      obtain ⟨opcodes, least, most, reaches, ended⟩ :=
        emulatorMain_of_report program others readable reported enough
      exact Or.inr ⟨rom, opcodes, ended, rfl, least, most, reaches⟩

theorem emulatorMain_eq_undefined_iff
    (readable : loadFromFile path = .returns (.complete contents))
    (enough : 250 ≤ fuel) :
    emulatorMain loadFromFile fuel (program :: path :: others) =
        some .undefined ↔
      0x150 ≤ contents.length ∧ 32 ≤ (contents.getD 0x148 0).toNat := by
  rw [← romReport_undefined_iff]
  rcases emulatorMain_of_readable program others readable enough with
    undefined | ran
  · exact ⟨fun _ => undefined.2, fun _ => undefined.1⟩
  · obtain ⟨rom, opcodes, same, reported, _⟩ := ran
    rw [same, reported]
    simp

/-- A file that can be read ends in neither of the two failures. -/
theorem emulatorMain_readable_ends
    (readable : loadFromFile path = .returns (.complete contents))
    (enough : 250 ≤ fuel) :
    emulatorMain loadFromFile fuel (program :: path :: others) ≠
        some .terminated ∧
      ∀ out err,
        emulatorMain loadFromFile fuel (program :: path :: others) ≠
          some (.exit 1 out err) := by
  rcases emulatorMain_of_readable program others readable enough with
    undefined | ran
  · rw [undefined.1]
    simp
  · obtain ⟨rom, opcodes, same, _⟩ := ran
    rw [same]
    simp

/-- The file alone decides how the program ends: in an exception if loading
throws, with an error if the file cannot be read, in a shift without meaning
if the size code is 32 or more, and with a report otherwise.  The registers
that the output tells are those of a console after the fewest opcodes that
take a thousand cycles, and the size in it fits the banks exactly if the code
is at most 8. -/
theorem emulatorMain_by_file
    (loadFromFile : List Byte → FileAccess) (path : List Byte)
    (enough : 250 ≤ fuel) :
    (emulatorMain loadFromFile fuel (program :: path :: others) =
          some .terminated ↔
        loadFromFile path = .throws) ∧
      (emulatorMain loadFromFile fuel (program :: path :: others) =
            some (.exit 1 [] (failureMessage path)) ↔
          ∃ file, loadFromFile path = .returns file ∧
            ∀ contents, file ≠ .complete contents) ∧
      ∀ contents, loadFromFile path = .returns (.complete contents) →
        (emulatorMain loadFromFile fuel (program :: path :: others) =
              some .undefined ↔
            0x150 ≤ contents.length ∧
              32 ≤ (contents.getD 0x148 0).toNat) ∧
          (emulatorMain loadFromFile fuel (program :: path :: others) ≠
              some .undefined →
            ∃ rom registers opcodes,
              emulatorMain loadFromFile fuel (program :: path :: others) =
                  some (.exit 0 (emulatorOutput path rom registers) []) ∧
                (fileRom (.complete contents)).header.romReport =
                  some rom ∧
                messageBytes
                      "[INFO] System reset\nROM Information for: " ++
                    path ++ messageBytes "\nTitle: " ++ rom.title ++
                    messageBytes "\n" <+:
                  emulatorOutput path rom registers ∧
                (rom.romKilobytes.toNat = 16 * rom.romBanks.toNat ↔
                  rom.romSize.toNat ≤ 8) ∧
                readCpuState (emulatorOutput path rom registers) =
                  some registers ∧
                50 ≤ opcodes ∧ opcodes ≤ 250 ∧
                Reaches (pcBody contents) demoCycles 0x100 opcodes ∧
                registers =
                  (after Console.runBody opcodes
                    (fileConsole contents)).registers ∧
                registers.pc.value = (nextPc contents)^[opcodes] 0x100) := by
  refine ⟨⟨?_, emulatorMain_of_throws program others⟩, ⟨?_, ?_⟩, ?_⟩
  · intro ended
    cases accessed : loadFromFile path with
    | throws =>
        rfl
    | returns file =>
        cases file with
        | complete contents =>
            exact absurd ended
              (emulatorMain_readable_ends program others accessed enough).1
        | openFailed | short size =>
            rw [emulatorMain_of_unreadable program others accessed
              (by simp)] at ended
            cases ended
  · intro ended
    cases accessed : loadFromFile path with
    | throws =>
        rw [emulatorMain_of_throws program others accessed] at ended
        cases ended
    | returns file =>
        refine ⟨file, rfl, ?_⟩
        rintro contents rfl
        exact (emulatorMain_readable_ends program others accessed
          enough).2 _ _ ended
  · rintro ⟨file, accessed, unreadable⟩
    exact emulatorMain_of_unreadable program others accessed unreadable
  · intro contents readable
    refine ⟨emulatorMain_eq_undefined_iff program others readable enough, ?_⟩
    intro defined
    rcases emulatorMain_of_readable program others readable enough with
      undefined | ran
    · exact absurd undefined.1 defined
    · obtain ⟨rom, opcodes, same, reported, least, most, reaches⟩ := ran
      exact
        ⟨rom, _, opcodes, same, reported, emulatorOutput_begins path rom _,
          romReport_kilobytes_iff reported,
          readCpuState_emulatorOutput path rom _, least, most, reaches, rfl,
          fileConsole_pc contents opcodes⟩

/-- A file full of blanks has the size code `0x20`. -/
theorem emulatorMain_by_blank_file :
    emulatorMain (fun _ => .returns (.complete (List.replicate 0x150 0x20)))
        250 [messageBytes "emulator", messageBytes "blank.gb"] =
      some .undefined := by
  have ends :=
    emulatorMain_by_file (messageBytes "emulator") []
      (fun _ => .returns (.complete (List.replicate 0x150 0x20)))
      (messageBytes "blank.gb") (Nat.le_refl 250)
  refine (ends.2.2 _ rfl).1.mpr ⟨?_, ?_⟩
  · rw [List.length_replicate]
  · rw [List.getD_replicate _ (show 0x148 < _ by decide)]
    decide

end Program

/-! ## What the printed program counter depends on -/

/-- Two images that agree below an address. -/
def AgreeBelow (bound : Nat) (left right : List Byte) : Prop :=
  ∀ addr < bound, left[addr]? = right[addr]?

section Locality

variable {left right : List Byte} {bound : Nat}

theorem AgreeBelow.length_le
    (agree : AgreeBelow bound left right) {length : Nat}
    (positive : 0 < length) (below : length ≤ bound)
    (enough : length ≤ left.length) : length ≤ right.length := by
  have last := agree (length - 1) (by omega)
  rw [List.getElem?_eq_getElem (by omega)] at last
  have inside := (List.getElem?_eq_some_iff.mp last.symm).1
  omega

theorem AgreeBelow.symm (agree : AgreeBelow bound left right) :
    AgreeBelow bound right left :=
  fun addr below => (agree addr below).symm

theorem AgreeBelow.header_eq
    (agree : AgreeBelow bound left right) (inside : 0x150 ≤ bound) :
    (fileRom (.complete left)).header =
      (fileRom (.complete right)).header := by
  by_cases enough : 0x150 ≤ left.length
  · have other := agree.length_le (by decide) inside enough
    simp only [fileRom, ROM.loadFromFile, dif_pos enough, dif_pos other]
    refine CartridgeHeader.ext_bytes (funext fun i => ?_)
    rw [parseData_eq_getD, parseData_eq_getD, List.getD_eq_getElem?_getD,
      List.getD_eq_getElem?_getD, agree _ (by omega)]
  · have other : ¬ 0x150 ≤ right.length := fun long =>
      enough (agree.symm.length_le (by decide) inside long)
    simp only [fileRom, ROM.loadFromFile, dif_neg enough, dif_neg other]

theorem AgreeBelow.pcBody_eq
    (agree : AgreeBelow bound left right) {pc : Word}
    (below : pc.toNat < bound) :
    pcBody left pc = pcBody right pc := by
  have shown : shownByte left pc = shownByte right pc := by
    rw [shownByte, shownByte, List.getD_eq_getElem?_getD,
      List.getD_eq_getElem?_getD, agree _ below]
  rw [pcBody, pcBody, nextPc, nextPc, shown]

/-- An opcode has three bytes at the most. -/
theorem pc_after_le
    (image : List Byte) {opcodes : Nat} (few : opcodes ≤ 250) :
    (after (pcBody image) opcodes 0x100).toNat ≤ 0x100 + 3 * opcodes := by
  induction opcodes with
  | zero =>
      exact Nat.le_refl _
  | succ opcodes inductionHypothesis =>
      have before := inductionHypothesis (by omega)
      have next :=
        nextPc_of_low image
          (show (after (pcBody image) opcodes 0x100).toNat < 0x8000 by omega)
      rw [after_succ']
      change (nextPc image _).toNat ≤ _
      omega

/-- For two files that agree below `0x3EC` the program prints the same, up to
registers other than `PC` and the name of the file. -/
theorem emulatorMain_reads_prefix
    {loadFromFile : List Byte → FileAccess} {first second : List Byte}
    (firstFile : loadFromFile first = .returns (.complete left))
    (secondFile : loadFromFile second = .returns (.complete right))
    (agree : AgreeBelow 0x3EC left right)
    (program : List Byte) (others : List (List Byte))
    {fuel : Nat} (enough : 250 ≤ fuel) :
    (emulatorMain loadFromFile fuel (program :: first :: others) =
          some .undefined ∧
        emulatorMain loadFromFile fuel (program :: second :: others) =
          some .undefined) ∨
      ∃ rom firstRegs secondRegs,
        emulatorMain loadFromFile fuel (program :: first :: others) =
            some (.exit 0 (emulatorOutput first rom firstRegs) []) ∧
          emulatorMain loadFromFile fuel (program :: second :: others) =
            some (.exit 0 (emulatorOutput second rom secondRegs) []) ∧
          firstRegs.pc = secondRegs.pc := by
  have sameHeader := agree.header_eq (by decide)
  rcases emulatorMain_of_readable program others firstFile enough with
    undefined | ran
  · have unreported := undefined.2
    rw [sameHeader] at unreported
    exact Or.inl
      ⟨undefined.1,
        emulatorMain_of_undefined program others secondFile unreported⟩
  · obtain ⟨rom, opcodes, firstEnd, reported, _, few, reaches⟩ := ran
    rw [sameHeader] at reported
    obtain ⟨otherOpcodes, _, _, otherReaches, secondEnd⟩ :=
      emulatorMain_of_report program others secondFile reported enough
    have onPath :
        ∀ earlier < opcodes,
          pcBody left (after (pcBody left) earlier 0x100) =
            pcBody right (after (pcBody left) earlier 0x100) := by
      intro earlier before
      have low :=
        pc_after_le left (show earlier ≤ 250 by omega)
      exact agree.pcBody_eq (by omega)
    have same :=
      (reaches_of_agree onPath reaches).unique _ otherReaches
    subst same
    refine Or.inr ⟨rom, _, _, firstEnd, secondEnd, ?_⟩
    have path := (agree_along onPath).1
    rw [RegisterPair.mk.injEq, fileConsole_pc, fileConsole_pc]
    exact path

/-- Two files of zeros, one of which is a byte longer. -/
theorem emulatorMain_reads_zeros :
    let loadFromFile := fun path =>
      FileAccess.returns
        (.complete
          (List.replicate
            (if path = messageBytes "short.gb" then 0x3EC else 0x3ED) 0))
    ∃ rom firstRegs secondRegs,
      emulatorMain loadFromFile 250
            [messageBytes "emulator", messageBytes "short.gb"] =
          some
            (.exit 0
              (emulatorOutput (messageBytes "short.gb") rom firstRegs) []) ∧
        emulatorMain loadFromFile 250
            [messageBytes "emulator", messageBytes "long.gb"] =
          some
            (.exit 0
              (emulatorOutput (messageBytes "long.gb") rom secondRegs) []) ∧
        firstRegs.pc = secondRegs.pc := by
  intro loadFromFile
  have short :
      loadFromFile (messageBytes "short.gb") =
        .returns (.complete (List.replicate 0x3EC 0)) := by
    simp only [loadFromFile, if_true]
  have different : messageBytes "long.gb" ≠ messageBytes "short.gb" := by
    decide
  have long :
      loadFromFile (messageBytes "long.gb") =
        .returns (.complete (List.replicate 0x3ED 0)) := by
    simp only [loadFromFile, if_neg different]
  have agree :
      AgreeBelow 0x3EC (List.replicate 0x3EC 0) (List.replicate 0x3ED 0) := by
    intro addr below
    rw [List.getElem?_replicate_of_lt below,
      List.getElem?_replicate_of_lt (by omega)]
  rcases emulatorMain_reads_prefix short long agree
      (messageBytes "emulator") [] (Nat.le_refl 250) with undefined | ran
  · have size :=
      ((emulatorMain_eq_undefined_iff (messageBytes "emulator") [] short
        (Nat.le_refl 250)).mp undefined.1).2
    rw [List.getD_replicate _ (show 0x148 < _ by decide)] at size
    exact absurd size (by decide)
  · exact ran

end Locality

end CyclePerfectGameboy
