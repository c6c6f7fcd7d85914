import BuildGate.Run
import BuildGate.Value

namespace BuildGate

/-- The status of a run. -/
inductive Status where
  | pass
  | fail
  deriving Repr, BEq, DecidableEq, Inhabited

def Status.text : Status → String
  | .pass => "PASS"
  | .fail => "FAIL"

/-- The stored record of one step. -/
structure StepRecord where
  schemaVersion : Int := 1
  name : String
  argv : List String := []
  cwd : String := ""
  exitCode : Int
  ok : Bool
  failureKind : Option FailureKind := none
  launchError : Option String := none
  duration : Float := 0.0
  stdoutLog : Option String := none
  stderrLog : Option String := none
  stdoutBytes : Int := 0
  stderrBytes : Int := 0
  deriving Repr, Inhabited

/-- The stored record of a run. -/
structure RunRecord where
  schemaVersion : Int := 1
  runId : String
  pipeline : String
  root : String
  status : Status
  firstFailure : Option String := none
  duration : Float := 0.0
  stepsTotal : Int := 0
  notRun : List String := []
  steps : List StepRecord := []
  deriving Repr, Inhabited

def optText (s : Option String) : Value := Value.ofOption s

def StepRecord.toValue (r : StepRecord) : Value :=
  Value.object [("schema_version", .int r.schemaVersion), ("name", .str r.name),
    ("argv", .list (r.argv.map .str)), ("cwd", .str r.cwd), ("exit_code", .int r.exitCode),
    ("ok", .bool r.ok), ("failure_kind", optText (r.failureKind.map FailureKind.name)),
    ("launch_error", optText r.launchError), ("duration_s", .float r.duration),
    ("stdout_log", optText r.stdoutLog), ("stderr_log", optText r.stderrLog),
    ("stdout_bytes", .int r.stdoutBytes), ("stderr_bytes", .int r.stderrBytes)]

def RunRecord.toValue (r : RunRecord) : Value :=
  Value.object [("schema_version", .int r.schemaVersion), ("run_id", .str r.runId),
    ("pipeline", .str r.pipeline), ("root", .str r.root), ("status", .str r.status.text),
    ("first_failure", optText r.firstFailure), ("duration_s", .float r.duration),
    ("steps_total", .int r.stepsTotal), ("not_run", .list (r.notRun.map .str)),
    ("steps", .list (r.steps.map StepRecord.toValue))]

end BuildGate
