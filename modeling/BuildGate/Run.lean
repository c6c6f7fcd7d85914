import BuildGate.Pipeline
import BuildGate.Seconds
import BuildGate.Fault

namespace BuildGate

/-- What a runner is asked to run. -/
structure Invocation where
  command : String
  args : List String
  env : Env
  cwd : Path
  live : Bool := false
  timeout : Option Seconds := none
  deriving Repr, Inhabited

/-- What came of running a command. -/
structure Outcome where
  returncode : Int := 0
  stdout : List UInt8 := []
  stderr : List UInt8 := []
  elapsed : Seconds := Seconds.zero
  launchError : Option String := none
  deriving Repr, Inhabited

/-- Why a step failed. -/
inductive FailureKind where
  | launchFailure
  | nonZeroExit
  deriving Repr, BEq, DecidableEq

def FailureKind.name : FailureKind → String
  | .launchFailure => "launch_failure"
  | .nonZeroExit => "non_zero_exit"

/-- The result of one step. -/
structure StepResult where
  name : String
  exitCode : Int
  stdout : List UInt8
  stderr : List UInt8
  duration : Seconds
  launchError : Option String := none
  deriving Repr, Inhabited

namespace StepResult

/-- A step succeeded: it was launched and exited with zero. -/
def ok (r : StepResult) : Bool := r.exitCode == 0 && r.launchError.isNone

/-- Why a step failed, if it did: a launch failure first, then a non-zero exit. -/
def failureKind (r : StepResult) : Option FailureKind :=
  if r.launchError.isSome then some .launchFailure
  else if r.exitCode != 0 then some .nonZeroExit
  else none

/-- The result of a step from the outcome of its command. -/
def ofOutcome (name : String) (o : Outcome) : StepResult :=
  ⟨name, o.returncode, o.stdout, o.stderr, o.elapsed, o.launchError⟩

end StepResult

/-- The report of a run. -/
structure Report where
  pipeline : String
  results : List StepResult
  ok : Bool
  firstFailure : Option String := none
  duration : Seconds := Seconds.zero
  deriving Repr, Inhabited

namespace Report

/-- `PASS` or `FAIL`. -/
def status (r : Report) : String := if r.ok then "PASS" else "FAIL"

/-- The first result of a step of this name. -/
def resultFor (r : Report) (name : String) : Option StepResult :=
  r.results.find? (·.name == name)

/-- The result of the first failing step. -/
def failedResult (r : Report) : Option StepResult :=
  r.firstFailure.bind r.resultFor

end Report

/-- The level of a log line. -/
inductive Level where
  | debug
  | info
  | warning
  deriving Repr, BEq, DecidableEq

def Level.name : Level → String
  | .debug => "DEBUG"
  | .info => "INFO"
  | .warning => "WARNING"

/-- A log line: its level and message. -/
abbrev LogLine := Level × String

/-- A runner: runs an invocation in a world, giving the outcome and the changed world. -/
abbrev Runner (σ : Type) := Invocation → σ → Except Fault (Outcome × σ)

/-- An event sink: records an event with its fields in a world. -/
abbrev EventSink (σ : Type) := String → List (String × Value) → σ → Except Fault σ

/-- How a run is made. -/
structure RunOptions where
  base : Env := Env.empty
  live : Bool := false
  timeout : Option Seconds := none
  deriving Repr, Inhabited

/-- What a run gives: the report, the log lines and the changed world. -/
structure RunOutput (σ : Type) where
  report : Report
  logs : List LogLine
  world : σ

/-- The invocation of a step. -/
def stepInvocation (p : Pipeline) (opts : RunOptions) (s : Step) : Invocation :=
  { command := s.command, args := s.args, env := p.effectiveEnv s opts.base,
    cwd := p.stepCwd s, live := opts.live, timeout := opts.timeout }

def emitTo (sink : Option (EventSink σ)) (event : String) (fields : List (String × Value))
    (w : σ) : Except Fault σ :=
  match sink with
  | some f => f event fields w
  | none => pure w

def textList (xs : List String) : Value := .list (xs.map .str)

/-- A log sink: writes a log line into a world as it is made. -/
abbrev LogSink (σ : Type) := LogLine → σ → σ

/-- Logs a line: keeps it and writes it into the world. -/
def logTo (note : LogSink σ) (line : LogLine) (logs : List LogLine) (w : σ) : List LogLine × σ :=
  (logs ++ [line], note line w)

/-- Runs the steps from the `idx`-th on (1-based), after `done`: the results, the first failing
step, the log lines and the world. -/
def runFrom (p : Pipeline) (opts : RunOptions) (runner : Runner σ) (sink : Option (EventSink σ))
    (note : LogSink σ) :
    Nat → List Step → List StepResult → List LogLine → σ →
      Except Fault (List StepResult × Option String × List LogLine × σ)
  | _, [], done, logs, w => pure (done, none, logs, w)
  | idx, s :: rest, done, logs, w => do
    let total := p.steps.length
    let cwd := p.stepCwd s
    let (logs, w) := logTo note (.info, "[" ++ toString idx ++ "/" ++ toString total ++ "] " ++
      s.name ++ ": " ++ " ".intercalate s.argv ++ " (cwd=" ++ cwd.toText ++ ")") logs w
    let w ← emitTo sink "step_start" [("step", .str s.name), ("index", .int idx),
      ("argv", textList s.argv), ("cwd", .str cwd.toText)] w
    let (o, w) ← runner (stepInvocation p opts s) w
    let r := StepResult.ofOutcome s.name o
    let w ← match sink with
      | none => pure w
      | some _ => do
        let d ← r.duration.round3
        emitTo sink "step_end" [("step", .str s.name), ("exit_code", .int r.exitCode),
          ("duration_s", d.toValue),
          ("failure_kind", Value.ofOption (r.failureKind.map FailureKind.name))] w
    if r.ok then
      let (logs, w) := logTo note
        (.debug, "Step " ++ s.name ++ " passed in " ++ (← r.duration.twoPlaces) ++ "s") logs w
      runFrom p opts runner sink note (idx + 1) rest (done ++ [r]) logs w
    else
      let why := match r.launchError with
        | some e => "Step " ++ s.name ++ " could not be launched: " ++ e
        | none => "Step " ++ s.name ++ " failed with exit code " ++ toString r.exitCode
      let (logs, w) := logTo note (.warning, why) logs w
      let (logs, w) := if rest.isEmpty then (logs, w)
        else logTo note
          (.info, "Not running remaining steps: " ++ ", ".intercalate (rest.map (·.name))) logs w
      pure (done ++ [r], some s.name, logs, w)

/-- Runs a pipeline: every step in order, up to the first that fails. -/
def runPipeline (p : Pipeline) (opts : RunOptions) (runner : Runner σ)
    (sink : Option (EventSink σ)) (note : LogSink σ) (w : σ) :
    Except Fault (RunOutput σ) := do
  let (results, firstFailure, logs, w) ← runFrom p opts runner sink note 1 p.steps [] [] w
  let duration := results.foldl (fun acc r => acc.add r.duration) Seconds.zero
  let report : Report :=
    { pipeline := p.name, results, ok := firstFailure.isNone, firstFailure,
      duration := .real duration.toFloat }
  let w ← emitTo sink "run_end" [("pipeline", .str p.name), ("status", .str report.status),
    ("first_failure", Value.ofOption firstFailure), ("steps_run", .int results.length),
    ("steps_total", .int p.steps.length)] w
  pure ⟨report, logs, w⟩

/-- What a replaying runner gives for a call: an outcome, or a fault of the runner itself. -/
inductive Scripted where
  | gives (o : Outcome)
  | fails (message : String)
  deriving Repr, Inhabited

/-- The world of a replaying runner: the calls made so far. -/
abbrev Calls := List Invocation

/-- A runner that answers the `i`-th call with the `i`-th script, or with `otherwise` once the
scripts run out, and remembers every call. -/
def replay (scripts : List Scripted) (otherwise : Scripted) : Runner Calls :=
  fun inv calls =>
    match scripts.getD calls.length otherwise with
    | .gives o => .ok (o, calls ++ [inv])
    | .fails m => .error (.runtime m)

end BuildGate
