import BuildGate.Cli.Session
import BuildGate.Cli.Spec
import BuildGate.Doctor
import BuildGate.Templates
import BuildGate.Check
import BuildGate.EventLog
import BuildGate.Ids

namespace BuildGate.Cli

open Host (World)
open Console

def host : CliM World := do pure (← get).host

def setTree (t : Fs.Tree) : CliM Unit :=
  modify fun st => { st with host := { st.host with fs := t } }

def cellText (markup : String) : CliM String :=
  match renderMarkup markup with
  | .ok s => pure s
  | .error e => throw (.fault (.other "MarkupError" e.message))

def sayTable (t : Table) : CliM Unit := do
  let title ← match t.title with
    | some s => some <$> cellText s
    | none => pure none
  let rows ← t.rows.mapM fun r => r.mapM cellText
  writeOut (linesText ({ t with title, rows }.render (← width)))

def exitWith (code : Nat) : CliM α := throw (.exit code)

/-- The pipeline of a repository (its own file, or the one given), with the resolved repository
as its root; a configuration error is shown and ends the command with exit code 2. -/
def loadFor (repo : Path) (file : Option Path) : CliM Pipeline := do
  let h ← host
  let path := file.getD (defaultPipelineFile repo)
  let root : Path := ⟨"/", ← liftFault (resolveIn h.fs repo)⟩
  match loadPipelineFile h.fs path (some root) h.env with
  | .ok p => pure p
  | .error (.config e) =>
    say ("[red]Configuration error:[/red] " ++ escapeMarkup e.message)
    exitWith 2
  | .error f => throw (.fault f)

/-- Writes the starter pipeline into a repository. -/
def initCommand (repo : Path) (force : Bool) : CliM Unit := do
  let (t, written) ← liftFault (writeTemplates (← host).fs repo force)
  setTree t
  if written.isEmpty then
    say "[yellow]Templates already present (use --force to overwrite).[/yellow]"
  else
    written.forM fun p => say ("[green]Wrote[/green] " ++ p.toText)

/-- The table of a preflight report. -/
def doctorTable (r : DoctorReport) : Table :=
  { title := some "gaterun doctor"
    columns := [{ header := "Check" }, { header := "Status" }, { header := "Details" }]
    rows := r.items.map fun i => [escapeMarkup i.name, i.status, escapeMarkup i.details] }

/-- Checks a pipeline before it runs. -/
def doctorCommand (repo : Path) (file : Option Path) : CliM Unit := do
  let p ← loadFor repo file
  let r ← liftFault (doctorReport (← host) p)
  sayTable (doctorTable r)
  if r.ok then say "[green]OK[/green]" else exitWith 2

/-- How a step of the pipeline stands after a run. -/
inductive StepState where
  | passed
  | failed
  | launchFailed
  | notRun
  deriving Repr, BEq, DecidableEq

def StepState.label : StepState → String
  | .passed => "[green]PASS[/green]"
  | .failed => "[red]FAIL[/red]"
  | .launchFailed => "[red]LAUNCH FAIL[/red]"
  | .notRun => "[dim]not run[/dim]"

/-- A row of the run's table: the step, its state, its exit code and its time. -/
structure RunRow where
  step : String
  state : StepState
  exit : String
  time : String
  deriving Repr, BEq

def stateOf (r : StepResult) : StepState :=
  if r.ok then .passed
  else if r.failureKind == some .launchFailure then .launchFailed
  else .failed

/-- The rows of a run: one per result, then one per step that did not run. -/
def runRows (p : Pipeline) (r : Report) : Except Fault (List RunRow) := do
  let ran ← r.results.mapM fun x => do
    let t ← x.duration.twoPlaces
    pure { step := x.name, state := stateOf x, exit := toString x.exitCode, time := t ++ "s" }
  pure (ran ++ (p.steps.drop r.results.length).map fun s =>
    { step := s.name, state := .notRun, exit := "-", time := "-" })

/-- The table of a run. -/
def runTable (p : Pipeline) (r : Report) : Except Fault Table := do
  let rows ← runRows p r
  pure { title := some ("gaterun: " ++ escapeMarkup r.pipeline)
         columns := [{ header := "Step" }, { header := "Status" },
           { header := "Exit", align := .right }, { header := "Time", align := .right }]
         rows := rows.map fun row => [row.step, row.state.label, row.exit, row.time] }

def dropEndBreaks (s : String) : String :=
  String.ofList (s.toList.reverse.dropWhile (· == '\n')).reverse

/-- The error output of a failed step: its standard error, or its standard output when its
standard error is empty. -/
def failureOutput (f : StepResult) : List UInt8 := if f.stderr.isEmpty then f.stdout else f.stderr

/-- Shows a run: its table, the verdict, and the failing step's error output. -/
def showReport (p : Pipeline) (r : Report) : CliM Unit := do
  sayTable (← liftFault (runTable p r))
  match r.failedResult with
  | none =>
    say ("[green]PASS[/green] (" ++ toString r.results.length ++ " steps, " ++
      (← liftFault r.duration.twoPlaces) ++ "s)")
  | some f =>
    say ("[red]FAIL[/red] first failing step: [bold]" ++ f.name ++ "[/bold] (exit " ++
      toString f.exitCode ++ ")")
    let out := failureOutput f
    if !out.isEmpty then sayRaw (dropEndBreaks (Text.decodeLossy out))

/-- A new run id from the session's clock and draws. -/
def newRunId : CliM String := do
  let st ← get
  set { st with draws := st.draws.drop 4 }
  pure (runIdAt (st.started + st.host.clock / 1000000) st.draws)

/-- The artifacts root of a repository: the directory given, under the repository when it is
relative. -/
def artifactsRoot (repo dir : Path) : Path := if dir.isAbs then dir else repo.join dir

/-- The options of `run`. -/
structure RunArgs where
  repo : Path
  file : Option Path
  artifactsDir : Path
  runId : Option String
  noArtifacts : Bool
  quiet : Bool
  timeout : Option Float
  deriving Repr

def openStore (a : RunArgs) (rid : String) : CliM (Store × EventLog) := do
  let root := artifactsRoot a.repo a.artifactsDir
  setTree (← liftFault (makeDirsAt (← host).fs root))
  let store : Store := ⟨root.joinText rid⟩
  setTree (← liftFault (store.ensure (← host).fs))
  let t := (← host).fs
  let events ← liftFault (store.path t [eventsFile])
  pure (store, { path := ⟨"/", t.absolute events⟩, runId := some rid })

def runIdOf (given : Option String) : CliM String :=
  match given with
  | some id => if id.isEmpty then newRunId else pure id
  | none => newRunId

/-- The artifact store of a run, unless the run keeps no artifacts. -/
def openRunStore (a : RunArgs) (rid : String) : CliM (Option (Store × EventLog)) :=
  if a.noArtifacts then pure none else some <$> openStore a rid

/-- Stores the report of a run in its store, when it has one, and says where it is. -/
def keepReport (rid : String) (p : Pipeline) (r : Report) : Option (Store × EventLog) → CliM Unit
  | some (store, _) => do
    let (t, _) ← liftFault (store.writeReport (← host).fs rid p r)
    setTree t
    say ("Artifacts: " ++ store.runDir.toText)
  | none => pure ()

/-- Runs a loaded pipeline on the host, logging its events to the store when there is one;
shows how it went, stores the report, and exits 1 when a step failed. -/
def runLoaded (a : RunArgs) (rid : String) (p : Pipeline) (opened : Option (Store × EventLog)) :
    CliM Unit := do
  let st ← get
  let sink : Option (EventSink World) := opened.map fun (_, log) => fun e f h => do
    pure { h with fs := ← log.emit h.fs (st.started * 1000 + h.clock / 1000 : Nat) e f }
  let opts : RunOptions := { base := st.host.env, live := !a.quiet, timeout := a.timeout.map .real }
  let out ← liftFault
    (runPipeline p opts World.runner sink (logSink st.verbose st.started) st.host)
  modify fun st => { st with host := out.world }
  showReport p out.report
  keepReport rid p out.report opened
  if !out.report.ok then exitWith 1

/-- Runs a pipeline and shows how it went. -/
def runCommand (a : RunArgs) : CliM Unit := do
  let rid ← runIdOf a.runId
  if let .error f := checkRunId rid then throw (.usage (helpOf .run) (.invalid f.message))
  let p ← loadFor a.repo a.file
  let opened ← openRunStore a rid
  runLoaded a rid p opened

mutual
/-- A value with its non-finite numbers made null, as records are written for showing. -/
def nullNonFinite : Value → Value
  | .float x => if x.isFinite then .float x else .null
  | .list xs => .list (nullItems xs)
  | .dict kvs => .dict (nullEntries kvs)
  | v => v

def nullItems : List Value → List Value
  | [] => []
  | v :: vs => nullNonFinite v :: nullItems vs

def nullEntries : List (Value × Value) → List (Value × Value)
  | [] => []
  | (k, v) :: rest => (k, nullNonFinite v) :: nullEntries rest
end

def isInvalidValue : Fault → Bool
  | .config _ | .invalid _ | .badJson _ | .badUtf8 _ => true
  | _ => false

/-- Shows the stored report of a run. -/
def statusCommand (repo : Path) (runId : String) (dir : Path) : CliM Unit := do
  if let .error f := checkRunId runId then throw (.usage (helpOf .status) (.invalid f.message))
  let store : Store := ⟨(artifactsRoot repo dir).joinText runId⟩
  let t := (← host).fs
  let path ← liftFault (store.path t [reportFile])
  if !t.exists_ (t.absolute path) then
    throw (.usage (helpOf .status) (.invalid ("No report found: " ++ path.toText)))
  match store.readReport t with
  | .ok record => writeOut (Json.writeIndented 2 (nullNonFinite record.toValue) ++ "\n")
  | .error f =>
    if isInvalidValue f then
      say ("[red]Corrupt report[/red] " ++ path.toText ++ ": " ++ escapeMarkup f.message)
      exitWith 2
    else throw (Stop.fault f)

end BuildGate.Cli
