import CyclePerfectGameboy.Cpu.Cpu
import CyclePerfectGameboy.Debug.Logger
import CyclePerfectGameboy.Foundations.TextCodec

/-!
# The lines of the CPU trace

`log_cpu_state` writes one line for a CPU.  The line is a format with a
parser: it gives back the number and the six register pairs, and accepts
nothing else.
-/

namespace CyclePerfectGameboy

/-- `debug::Logger` with the member that only `log_cpu_state` uses. -/
structure TracingLogger extends Logger where
  instructionCount : BitVec 64 := 0

/-- What the five level functions have in common. -/
def Logger.logAt (logger : Logger) (level : LogLevel) (tag format : String) :
    Logger :=
  if level.value ≤ logger.currentLevel.value then
    logger.log (tag ++ format)
  else
    logger

namespace Logger

def error (logger : Logger) (format : String) : Logger :=
  logger.logAt .error "[ERROR] " format

def warning (logger : Logger) (format : String) : Logger :=
  logger.logAt .warning "[WARNING] " format

def info (logger : Logger) (format : String) : Logger :=
  logger.logAt .info "[INFO] " format

def debug (logger : Logger) (format : String) : Logger :=
  logger.logAt .debug "[DEBUG] " format

def trace (logger : Logger) (format : String) : Logger :=
  logger.logAt .trace "[TRACE] " format

end Logger

/-- What the string stream of `log_cpu_state` holds in the end. -/
def traceLine (number : BitVec 64) (regs : Registers) : String :=
  "Instruction #" ++ toString number.toNat ++ " | " ++
    "PC:" ++ hexText 4 regs.getPc.value.toNat ++
    " | AF:" ++ hexText 4 regs.getAf.value.toNat ++
    " | BC:" ++ hexText 4 regs.getBc.value.toNat ++
    " | DE:" ++ hexText 4 regs.getDe.value.toNat ++
    " | HL:" ++ hexText 4 regs.getHl.value.toNat ++
    " | SP:" ++ hexText 4 regs.getSp.value.toNat

/-- `log_cpu_state`. -/
def TracingLogger.logCpuState (logger : TracingLogger) (cpu : CPU) :
    TracingLogger :=
  if LogLevel.trace.value ≤ logger.currentLevel.value then
    { logger.toLogger.log (traceLine logger.instructionCount cpu.registers)
        with
      instructionCount := logger.instructionCount + 1 }
  else
    logger

/-- A number and a register file. -/
abbrev TraceRecord := Nat × Registers

open TextCodec

def wordFormat : TextCodec Word :=
  hexadecimal 4 (by decide)

theorem wordFormat_write (value : Word) :
    wordFormat.write value = paddedHex 4 value.toNat :=
  hexadecimal_write 4 (by decide) value

/-- The six pairs, in the order of the line. -/
def traceRegisters : TextCodec Registers :=
  ((labelled "| PC:" wordFormat).pair <|
    (labelled " | AF:" wordFormat).pair <|
    (labelled " | BC:" wordFormat).pair <|
    (labelled " | DE:" wordFormat).pair <|
    (labelled " | HL:" wordFormat).pair <|
    labelled " | SP:" wordFormat).relabel
    (fun words =>
      { pc := ⟨words.1⟩
        af := ⟨words.2.1⟩
        bc := ⟨words.2.2.1⟩
        de := ⟨words.2.2.2.1⟩
        hl := ⟨words.2.2.2.2.1⟩
        sp := ⟨words.2.2.2.2.2⟩ })
    (fun regs =>
      (regs.pc.value, regs.af.value, regs.bc.value, regs.de.value,
        regs.hl.value, regs.sp.value))
    (fun _ => rfl) (fun _ => rfl)

/-- The blank after the number ends it. -/
def traceFormat : TextCodec TraceRecord :=
  (labelled "Instruction #" (decimal ' ' (by decide))).pair traceRegisters

/-- The record of a line of the log. -/
def parseTraceLine (line : String) : Option TraceRecord :=
  traceFormat.parseAll line.toList

theorem toList_hexText (width value : Nat) :
    (hexText width value).toList = paddedHex width value := by
  simp [hexText, paddedHex]

theorem toList_traceLine (number : BitVec 64) (regs : Registers) :
    (traceLine number regs).toList =
      traceFormat.write (number.toNat, regs) := by
  have bar : " | ".toList ++ "PC:".toList = [' '] ++ "| PC:".toList := by
    simp
  have digits :
      (toString number.toNat).toList = Nat.toDigits 10 number.toNat := by
    simp
  simp only [traceFormat, traceRegisters, pair_write, relabel_write,
    labelled_write, decimal_write, wordFormat_write]
  delta traceLine
  simp only [String.toList_append, toList_hexText, digits, List.append_assoc]
  rw [← List.append_assoc " | ".toList, bar, List.append_assoc]
  rfl

/-- A line of the trace tells its number and the registers. -/
theorem parseTraceLine_traceLine (number : BitVec 64) (regs : Registers) :
    parseTraceLine (traceLine number regs) = some (number.toNat, regs) := by
  rw [parseTraceLine, parseAll_eq_some_iff]
  exact toList_traceLine number regs

/-- Nothing but a line of the trace is taken for one. -/
theorem eq_traceLine_of_parse
    {line : String} {number : Nat} {regs : Registers}
    (parsed : parseTraceLine line = some (number, regs))
    (inRange : number < 2 ^ 64) :
    line = traceLine (BitVec.ofNat 64 number) regs := by
  have written := (parseAll_eq_some_iff traceFormat).mp parsed
  have back : (BitVec.ofNat 64 number).toNat = number := by
    rw [BitVec.toNat_ofNat, Nat.mod_eq_of_lt inRange]
  rw [← String.toList_inj, toList_traceLine, back]
  exact written

end CyclePerfectGameboy
