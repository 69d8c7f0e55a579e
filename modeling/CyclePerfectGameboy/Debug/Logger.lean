import CyclePerfectGameboy.Foundations.CounterLoop
import CyclePerfectGameboy.Memory.MemoryInterface

/-!
# The logger

The static members of `debug::Logger` form one state; the console and the log
file are the lists of the messages that they were sent.
-/

namespace CyclePerfectGameboy

universe u

/-- `debug::LogLevel`. -/
inductive LogLevel where
  | none
  | error
  | warning
  | info
  | debug
  | trace
  deriving DecidableEq, Repr

/-- The order of the enumerators. -/
def LogLevel.value : LogLevel → Nat
  | .none => 0
  | .error => 1
  | .warning => 2
  | .info => 3
  | .debug => 4
  | .trace => 5

/-- `debug::Logger`. -/
structure Logger where
  currentLevel : LogLevel := .info
  consoleOutput : Bool := true
  console : List String := []
  logFile : Option (List String) := none
  deriving DecidableEq, Repr

/-- `log`; `format_string` returns its first argument. -/
def Logger.log (logger : Logger) (message : String) : Logger :=
  let logger :=
    if logger.consoleOutput then
      { logger with console := logger.console ++ [message] }
    else
      logger
  { logger with
    logFile := logger.logFile.map (fun lines => lines ++ [message]) }

/-- A number after `std::hex`, `std::setw` and `std::setfill('0')`. -/
def hexText (width value : Nat) : String :=
  let digits := Nat.toDigits 16 value
  String.ofList (List.replicate (width - digits.length) '0' ++ digits)

/-- `std::isprint(c) ? c : '.'` in the C locale.  The source passes a `char`,
so for a byte from `0x80` on, which is a negative `char` on most machines, the
call is undefined; here such a byte is shown as a dot. -/
def printable (value : Byte) : Char :=
  if 0x20 ≤ value ∧ value ≤ 0x7E then Char.ofNat value.toNat else '.'

/-- One row of a dump: its label, and the addresses whose bytes stand in the
hexadecimal and in the text column. -/
structure DumpRow where
  label : BitVec 32
  hex : List Address
  text : List Address
  deriving DecidableEq, Repr

/-- The two inner loops: `j < 16 && (i + j) < length`, compared as `int`. -/
def dumpAddresses (start : Address) (length i : Word) : List Address :=
  ((List.range 16).takeWhile
      (fun j => decide (i.toNat + j < length.toNat))).map
    (fun j => start + i + BitVec.ofNat 16 j)

/-- The body of the outer loop; the label is not reduced to 16 bits. -/
def dumpRow (start : Address) (length i : Word) : DumpRow :=
  { label := start.setWidth 32 + i.setWidth 32
    hex := dumpAddresses start length i
    text := dumpAddresses start length i }

/-- The outer loop, with fuel for its passes; its counter is a
`std::uint16_t`. -/
def dumpRows (start : Address) (length : Word) (fuel : Nat) :
    Option (List DumpRow) :=
  (CounterLoop.values length 16 fuel 0).map
    (fun offsets => offsets.map (dumpRow start length))

def dumpHeader (start : Address) (length : Word) : String :=
  let last : BitVec 32 := start.setWidth 32 + length.setWidth 32 - 1
  "Memory dump from " ++ hexText 4 start.toNat ++ " to " ++
    hexText 4 last.toNat ++ ":\n"

section Memory

variable {M : Type u} [MemoryInterface M]

def DumpRow.line (memory : M) (row : DumpRow) : String :=
  hexText 4 row.label.toNat ++ ": " ++
    String.join
      (row.hex.map (fun addr => hexText 2 (read memory addr).toNat ++ " ")) ++
    "  " ++
    String.ofList (row.text.map (fun addr => printable (read memory addr))) ++
    "\n"

/-- What the string stream holds in the end. -/
def dumpText (memory : M) (start : Address) (length : Word)
    (rows : List DumpRow) : String :=
  dumpHeader start length ++ String.join (rows.map (DumpRow.line memory))

/-- `log_memory_dump`, with fuel for the passes of its outer loop. -/
def Logger.logMemoryDump (logger : Logger) (memory : M)
    (start : Address) (length : Word) (fuel : Nat) : Option Logger :=
  if LogLevel.debug.value ≤ logger.currentLevel.value then
    (dumpRows start length fuel).map
      (fun rows => logger.log (dumpText memory start length rows))
  else
    some logger

end Memory

end CyclePerfectGameboy
