import CyclePerfectGameboy.Debug.TraceLine
import CyclePerfectGameboy.System.ControlFlow

/-!
# The CPU trace of a session

`step` logs the CPU before it executes, `reset` and `load_rom` log it when
they are done, and the two loops log nothing.  At trace level the log file
gives back the registers at all those points.
-/

namespace CyclePerfectGameboy

open CallSequence

/-- `system::GameBoy` with the static members of the logger. -/
structure LoggedGameBoy where
  logger : TracingLogger
  machine : GameBoy

namespace LoggedGameBoy

/-- The messages that end `reset`. -/
def logReset (logger : TracingLogger) (cpu : CPU) : TracingLogger :=
  TracingLogger.logCpuState
    { logger with toLogger := logger.toLogger.info "System reset" } cpu

def reset (logged : LoggedGameBoy) : LoggedGameBoy :=
  { logger := logReset logged.logger logged.machine.reset.cpu
    machine := logged.machine.reset }

/-- `load_rom` logs through the `reset` that a success ends with. -/
def loadRom (logged : LoggedGameBoy) (file : FileOutcome) :
    Bool × LoggedGameBoy :=
  let (success, machine) := logged.machine.loadRom file
  (success,
    { logger :=
        if success then logReset logged.logger machine.cpu
        else logged.logger
      machine := machine })

def step (logged : LoggedGameBoy) : Cycles × LoggedGameBoy :=
  if logged.machine.poweredOn then
    let logger := logged.logger.logCpuState logged.machine.cpu
    let (cycles, machine) := logged.machine.step
    (cycles, { logger := logger, machine := machine })
  else
    (4, logged)

/-- The calls that log nothing leave the logger as it is. -/
def invoke (logged : LoggedGameBoy) :
    PublicCall → Option (PublicAnswer × LoggedGameBoy)
  | .loadRom file =>
      some (.flag (logged.loadRom file).1, (logged.loadRom file).2)
  | .reset => some (.done, logged.reset)
  | .step => some (.cycles logged.step.1, logged.step.2)
  | call =>
      (logged.machine.invoke call).map (fun result =>
        (result.1, { logged with machine := result.2 }))

end LoggedGameBoy

namespace GameBoy

/-- The registers that a call logs. -/
def tracePoint (gb : GameBoy) : PublicCall → Option Registers
  | .step => if gb.poweredOn then some gb.cpu.registers else none
  | .reset => some gb.reset.cpu.registers
  | .loadRom file =>
      if (gb.loadRom file).1 then some (gb.loadRom file).2.cpu.registers
      else none
  | _ => none

/-- Those that a sequence of calls logs, in order. -/
def tracePoints : GameBoy → List PublicCall → List Registers
  | _, [] => []
  | gb, call :: rest =>
      match gb.invoke call with
      | none => []
      | some (_, next) => (gb.tracePoint call).toList ++ tracePoints next rest

end GameBoy

/-- Records with consecutive numbers, which wrap at `2^64`. -/
def numbered (first : BitVec 64) : List Registers → List TraceRecord
  | [] => []
  | regs :: rest => (first.toNat, regs) :: numbered (first + 1) rest

theorem numbered_append
    (first : BitVec 64) (points later : List Registers) :
    numbered first (points ++ later) =
      numbered first points ++
        numbered (first + BitVec.ofNat 64 points.length) later := by
  induction points generalizing first with
  | nil =>
      simp [numbered]
  | cons regs points inductionHypothesis =>
      have shifted :
          first + 1 + BitVec.ofNat 64 points.length =
            first + BitVec.ofNat 64 (points.length + 1) := by
        rw [BitVec.ofNat_add]
        bv_omega
      rw [List.cons_append, numbered, numbered, inductionHypothesis, shifted,
        List.cons_append, List.length_cons]

/-- A logger that has appended some lines, which tell `points`. -/
structure TracingLogger.Tells (before after : TracingLogger)
    (points : List Registers) : Prop where
  level : after.currentLevel = before.currentLevel
  count :
    after.instructionCount =
      before.instructionCount + BitVec.ofNat 64 points.length
  file :
    ∀ lines, before.logFile = some lines →
      ∃ later, after.logFile = some (lines ++ later) ∧
        later.filterMap parseTraceLine =
          numbered before.instructionCount points

namespace TracingLogger

theorem Tells.nothing (logger : TracingLogger) : logger.Tells logger [] where
  level := rfl
  count := by simp
  file := by
    intro lines opened
    exact ⟨[], by rw [opened, List.append_nil], rfl⟩

theorem Tells.trans
    {first second third : TracingLogger} {points later : List Registers}
    (left : first.Tells second points) (right : second.Tells third later) :
    first.Tells third (points ++ later) where
  level := right.level.trans left.level
  count := by
    rw [right.count, left.count, List.length_append, BitVec.ofNat_add,
      BitVec.add_assoc]
  file := by
    intro lines opened
    obtain ⟨written, appended, told⟩ := left.file lines opened
    obtain ⟨behind, appendedBehind, toldBehind⟩ := right.file _ appended
    refine ⟨written ++ behind, ?_, ?_⟩
    · rw [appendedBehind, List.append_assoc]
    · rw [List.filterMap_append, told, toldBehind, left.count,
        numbered_append]

/-- At trace level `log_cpu_state` tells the registers. -/
theorem logCpuState_tells
    {logger : TracingLogger} (tracing : logger.currentLevel = .trace)
    (cpu : CPU) :
    logger.Tells (logger.logCpuState cpu) [cpu.registers] := by
  have enabled : LogLevel.trace.value ≤ logger.currentLevel.value := by
    rw [tracing]
  rw [logCpuState, if_pos enabled]
  refine { level := ?_, count := ?_, file := ?_ }
  · simp only [Logger.log]
    split <;> rfl
  · simp
  · intro lines opened
    refine
      ⟨[traceLine logger.instructionCount cpu.registers], ?_, ?_⟩
    · simp only [Logger.log]
      split <;> simp [opened]
    · simp [parseTraceLine_traceLine, numbered]

/-- A message of another kind tells nothing. -/
theorem log_tells
    (logger : TracingLogger) {message : String}
    (other : parseTraceLine message = none) :
    logger.Tells { logger with toLogger := logger.toLogger.log message }
      [] := by
  refine { level := ?_, count := ?_, file := ?_ }
  · simp only [Logger.log]
    split <;> rfl
  · simp
  · intro lines opened
    refine ⟨[message], ?_, ?_⟩
    · simp only [Logger.log]
      split <;> simp [opened]
    · simp [other, numbered]

end TracingLogger

theorem parseTraceLine_reset :
    parseTraceLine ("[INFO] " ++ "System reset") = none := by
  cases parsed : parseTraceLine ("[INFO] " ++ "System reset") with
  | none =>
      rfl
  | some record =>
      have written := (TextCodec.parseAll_eq_some_iff traceFormat).mp parsed
      have heads := congrArg List.head? written
      simp [traceFormat] at heads

namespace LoggedGameBoy

open TracingLogger

theorem logReset_tells
    {logger : TracingLogger} (tracing : logger.currentLevel = .trace)
    (cpu : CPU) :
    logger.Tells (logReset logger cpu) [cpu.registers] := by
  have announced :
      logger.toLogger.info "System reset" =
        logger.toLogger.log ("[INFO] " ++ "System reset") := by
    have enabled : LogLevel.info.value ≤ logger.currentLevel.value := by
      rw [tracing]
      decide
    exact if_pos enabled
  have message := log_tells logger parseTraceLine_reset
  rw [← announced] at message
  exact message.trans (logCpuState_tells (message.level.trans tracing) cpu)

/-- A call does to the machine what it does without a logger, and the log
tells the registers that it logs. -/
theorem invoke_tells
    {logged next : LoggedGameBoy} {call : PublicCall} {answer : PublicAnswer}
    (tracing : logged.logger.currentLevel = .trace)
    (returned : logged.invoke call = some (answer, next)) :
    logged.machine.invoke call = some (answer, next.machine) ∧
      logged.logger.Tells next.logger
        (logged.machine.tracePoint call).toList := by
  cases call with
  | step =>
      cases returned
      by_cases powered : logged.machine.poweredOn = true
      · simp only [GameBoy.invoke, GameBoy.tracePoint, step, if_pos powered,
          true_and]
        exact logCpuState_tells tracing _
      · simp only [GameBoy.invoke, GameBoy.tracePoint, step, GameBoy.step,
          if_neg powered, true_and]
        exact Tells.nothing _
  | reset =>
      cases returned
      exact ⟨rfl, logReset_tells tracing _⟩
  | loadRom file =>
      cases returned
      by_cases success : (logged.machine.loadRom file).1 = true
      · simp only [GameBoy.invoke, GameBoy.tracePoint, loadRom,
          if_pos success, true_and]
        exact logReset_tells tracing _
      · simp only [GameBoy.invoke, GameBoy.tracePoint, loadRom,
          if_neg success, true_and]
        exact Tells.nothing _
  | powerOn | handleMemoryWrite addr value | handleSerialTransfer
  | serialDataAvailable | readSerialData | getCpu | getCartridge
  | isPoweredOn =>
      cases returned
      exact ⟨rfl, Tells.nothing _⟩
  | runFrame fuel | runForCycles fuel totalCycles =>
      obtain ⟨result, invoked, same⟩ := Option.map_eq_some_iff.mp returned
      cases same
      exact ⟨invoked, Tells.nothing _⟩

/-- The whole log of a session. -/
theorem runs_tell
    {logged final : LoggedGameBoy} {calls : List PublicCall}
    (runs : Runs invoke logged calls final)
    (tracing : logged.logger.currentLevel = .trace) :
    Runs GameBoy.invoke logged.machine calls final.machine ∧
      logged.logger.Tells final.logger
        (logged.machine.tracePoints calls) := by
  induction runs with
  | nil logged =>
      exact ⟨.nil _, Tells.nothing _⟩
  | cons returned runs inductionHypothesis =>
      rcases invoke_tells tracing returned with ⟨invoked, told⟩
      rcases inductionHypothesis (told.level.trans tracing) with
        ⟨machineRuns, toldBehind⟩
      refine ⟨.cons invoked machineRuns, ?_⟩
      rw [GameBoy.tracePoints, invoked]
      exact told.trans toldBehind

/-- At trace level, whatever is called in whatever order, logging changes
nothing that the machine does, and the lines that a session appends to the
log file give back, under consecutive numbers, the registers before every
step of a machine that is on and after every reset and successful load. -/
theorem session_log_tells_registers
    {logged final : LoggedGameBoy} {calls : List PublicCall}
    (runs : Runs invoke logged calls final)
    (tracing : logged.logger.currentLevel = .trace)
    {lines : List String} (opened : logged.logger.logFile = some lines) :
    Runs GameBoy.invoke logged.machine calls final.machine ∧
      ∃ later, final.logger.logFile = some (lines ++ later) ∧
        later.filterMap parseTraceLine =
          numbered logged.logger.instructionCount
            (logged.machine.tracePoints calls) := by
  rcases runs_tell runs tracing with ⟨machineRuns, told⟩
  exact ⟨machineRuns, told.file lines opened⟩

/-- A step of a machine that is off is not logged, `reset` takes number zero
and the first instruction number one. -/
theorem session_log_numbers_reset :
    let logged : LoggedGameBoy :=
      { logger := { currentLevel := .trace, logFile := some [] }
        machine := GameBoy.ofRom {} }
    ∃ final later,
      Runs invoke logged [.step, .reset, .step] final ∧
        final.logger.logFile = some later ∧
        later.filterMap parseTraceLine =
          [(0, (CPU.initialized {}).registers),
            (1, (CPU.initialized {}).registers)] := by
  intro logged
  have runs : Runs invoke logged [.step, .reset, .step] _ :=
    .cons rfl (.cons rfl (.cons rfl (.nil _)))
  obtain ⟨_, later, appended, told⟩ :=
    session_log_tells_registers runs rfl (show _ = some [] from rfl)
  exact ⟨_, later, runs, appended, told⟩

end LoggedGameBoy

end CyclePerfectGameboy
