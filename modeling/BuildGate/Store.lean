import BuildGate.Record.Check
import BuildGate.Fs.Change
import BuildGate.Name
import BuildGate.Json.Read
import BuildGate.Json.Write
import BuildGate.Text.Lines

namespace BuildGate

/-- An artifact store: its run directory. -/
structure Store where
  runDir : Path
  deriving Repr, Inhabited

def reportFile : String := "RUN_REPORT.json"

def eventsFile : String := "logs/events.jsonl"

def pathFault (p : Path) (r : Except Nat α) : Except Fault α := Fs.atPath p.toText r

/-- The canonical components of a path; a zero character or a link loop is a fault. -/
def resolveIn (t : Fs.Tree) (p : Path) : Except Fault (List String) :=
  (Fs.resolvePath t (t.absolute p)).mapError Fs.ResolveError.fault

/-- Makes a directory and those above it; an existing directory is fine. -/
def makeDirsAt (t : Fs.Tree) (p : Path) : Except Fault Fs.Tree :=
  pathFault p (t.makeDirs (t.absolute p))

def readTextAt (t : Fs.Tree) (p : Path) : Except Fault String := do
  let bytes ← pathFault p (t.readFile (t.absolute p))
  match Text.decodeUtf8 bytes with
  | .ok s => pure (String.ofList (Text.readLines s.toList))
  | .error e => throw (.badUtf8 e.message)

/-- The file name of a step's log: its number (two digits at least) and safe name. -/
def logStem (i : Nat) (name : String) : String :=
  let n := toString i
  (if n.length < 2 then "0" ++ n else n) ++ "-" ++ safeFileName name "step"

namespace Store

/-- A path inside the run directory; one that leaves it after links are resolved is refused. -/
def path (st : Store) (t : Fs.Tree) (parts : List String) : Except Fault Path := do
  let p := st.runDir.joinAll parts
  let base ← resolveIn t st.runDir
  let refuse : Except Fault Path :=
    throw (.invalid ("Refusing to access path outside run_dir: " ++ p.toText))
  match Fs.resolvePath t (t.absolute p) with
  | .error .zero => refuse
  | .error e => throw e.fault
  | .ok real => if base.isPrefixOf real then pure p else refuse

/-- Makes the run directory and its `logs` directory. -/
def ensure (st : Store) (t : Fs.Tree) : Except Fault Fs.Tree := do
  let t ← makeDirsAt t st.runDir
  let logs := st.runDir.joinText "logs"
  pathFault logs (t.mkdir (t.absolute logs) true)

/-- Writes bytes to a file of the store, making its directory. -/
def writeBytes (st : Store) (t : Fs.Tree) (rel : String) (bytes : List UInt8) :
    Except Fault (Fs.Tree × Path) := do
  let p ← st.path t [rel]
  let t ← makeDirsAt t p.parent
  let t ← pathFault p (t.writeFile (t.absolute p) bytes)
  pure (t, p)

/-- Writes a value as indented JSON to a file of the store, making its directory. An integer
too long to become text is refused before the file is opened; text that cannot be encoded is
found only once it is open. -/
def writeJson (st : Store) (t : Fs.Tree) (rel : String) (v : Value) :
    Except Fault (Fs.Tree × Path) := do
  let p ← st.path t [rel]
  let t ← makeDirsAt t p.parent
  if v.holdsLongInt then throw (.invalid Value.longIntMessage)
  match Text.encodeStrict (Json.writeIndented 2 v ++ "\n") with
  | .ok bytes =>
    let t ← pathFault p (t.writeFile (t.absolute p) bytes)
    pure (t, p)
  | .error m =>
    let _ ← pathFault p (t.writeFile (t.absolute p) [])
    throw (.unencodable m)

/-- Reads the JSON value of a file of the store. -/
def readJson (st : Store) (t : Fs.Tree) (rel : String) : Except Fault Value := do
  let p ← st.path t [rel]
  let text ← readTextAt t p
  Json.readDocument text

/-- A rounded time as the float field `field` of a record of the kind `model` takes it: a whole
number too large for a float is refused, as the record's check refuses it. -/
def recordFloat (model field : String) : Seconds → Except Fault Float
  | .whole n =>
    if n.natAbs < Seconds.floatOverflowBound then .ok (Binary64.ofInt n)
    else .error (.other "ValidationError" (issuesMessageFor model
      [⟨[.key field], "float_type", "Input should be a valid number", .int n⟩]))
  | s => .ok s.toFloat

/-- The record of one step's result, after writing its two logs. -/
def stepRecord (st : Store) (p : Pipeline) (t : Fs.Tree) (i : Nat) (r : StepResult) :
    Except Fault (Fs.Tree × StepRecord) := do
  let step ← match (p.steps.reverse.find? (·.name == r.name)) with
    | some s => pure s
    | none => throw (.missingKey r.name)
  let stem := logStem i r.name
  let (t, out) ← st.writeBytes t ("logs/" ++ stem ++ ".stdout.log") r.stdout
  let (t, err) ← st.writeBytes t ("logs/" ++ stem ++ ".stderr.log") r.stderr
  let record : StepRecord :=
    { name := r.name, argv := step.argv, cwd := (p.stepCwd step).toText
      exitCode := r.exitCode, ok := r.ok, failureKind := r.failureKind
      launchError := r.launchError
      duration := ← recordFloat "StepRecord" "duration_s" (← r.duration.round3)
      stdoutLog := some (out.relativeTo st.runDir).toText
      stderrLog := some (err.relativeTo st.runDir).toText
      stdoutBytes := r.stdout.length, stderrBytes := r.stderr.length }
  pure (t, record)

/-- The records of the results from the `i`-th on. -/
def stepRecords (st : Store) (p : Pipeline) :
    Fs.Tree → Nat → List StepResult → Except Fault (Fs.Tree × List StepRecord)
  | t, _, [] => pure (t, [])
  | t, i, r :: rest => do
    let (t, first) ← st.stepRecord p t i r
    let (t, others) ← st.stepRecords p t (i + 1) rest
    pure (t, first :: others)

/-- Writes the report of a run: the step logs, then the run record. -/
def writeReport (st : Store) (t : Fs.Tree) (runId : String) (p : Pipeline) (r : Report) :
    Except Fault (Fs.Tree × RunRecord) := do
  let (t, steps) ← st.stepRecords p t 1 r.results
  let record : RunRecord :=
    { runId, pipeline := r.pipeline, root := p.root.toText
      status := if r.ok then .pass else .fail, firstFailure := r.firstFailure
      duration := ← recordFloat "RunReportRecord" "duration_s" (← r.duration.round3)
      stepsTotal := p.steps.length
      notRun := (p.steps.drop r.results.length).map (·.name), steps }
  let (t, _) ← st.writeJson t reportFile record.toValue
  pure (t, record)

/-- Reads the run record of the store. -/
def readReport (st : Store) (t : Fs.Tree) : Except Fault RunRecord := do
  let data ← st.readJson t reportFile
  match readRunRecord data with
  | .ok r => pure r
  | .error e => throw (.invalid ("Invalid " ++ reportFile ++ ": " ++ e))

end Store

def StepRecord.same (a b : StepRecord) : Bool :=
  a.schemaVersion == b.schemaVersion && a.name == b.name && a.argv == b.argv && a.cwd == b.cwd &&
    a.exitCode == b.exitCode && a.ok == b.ok && a.failureKind == b.failureKind &&
    a.launchError == b.launchError && a.duration == b.duration && a.stdoutLog == b.stdoutLog &&
    a.stderrLog == b.stderrLog && a.stdoutBytes == b.stdoutBytes && a.stderrBytes == b.stderrBytes

def sameSteps : List StepRecord → List StepRecord → Bool
  | [], [] => true
  | a :: as, b :: bs => a.same b && sameSteps as bs
  | _, _ => false

def RunRecord.same (a b : RunRecord) : Bool :=
  a.schemaVersion == b.schemaVersion && a.runId == b.runId && a.pipeline == b.pipeline &&
    a.root == b.root && a.status == b.status && a.firstFailure == b.firstFailure &&
    a.duration == b.duration && a.stepsTotal == b.stepsTotal && a.notRun == b.notRun &&
    sameSteps a.steps b.steps

end BuildGate
