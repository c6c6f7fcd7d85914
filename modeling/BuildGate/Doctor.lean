import BuildGate.Host.Exec

namespace BuildGate

open Host (World)

/-- One check of the report: what was checked, `OK`, `WARN` or `FAIL`, and the details. -/
structure DoctorItem where
  name : String
  status : String
  details : String
  deriving Repr, BEq, Inhabited

/-- The report: whether every check passed, and the checks in order. -/
structure DoctorReport where
  ok : Bool
  items : List DoctorItem
  deriving Repr, Inhabited

def Host.World.isDirAt (h : World) (p : Path) : Except Fault Bool := do
  match ← h.probe p with
  | some .dir => pure true
  | _ => pure false

/-- The command of a step as the checks look for it: from the step's directory when it is
relative and has a `/`. -/
def doctorCommand (p : Pipeline) (s : Step) : String :=
  if s.command.toList.contains '/' && !s.command.startsWith "/" then
    ((p.stepCwd s).joinText s.command).toText
  else s.command

/-- A report being made: its items so far, and `ok`, which starts true and which each failing
check clears. -/
structure DoctorState where
  items : List DoctorItem := []
  ok : Bool := true

def DoctorState.add (st : DoctorState) (check : DoctorItem × Bool) : DoctorState :=
  { items := st.items ++ [check.1], ok := if check.2 then st.ok else false }

def DoctorState.note (st : DoctorState) (item : DoctorItem) : DoctorState :=
  { st with items := st.items ++ [item] }

/-- The checks of one step, each with whether it passed: its command, then its directory. -/
def stepChecks (h : World) (p : Pipeline) (s : Step) :
    Except Fault (List (DoctorItem × Bool)) := do
  let cwd := p.stepCwd s
  let cmd := doctorCommand p s
  let command : DoctorItem × Bool := match ← h.which cmd with
    | some found => (⟨s.name ++ ": command", "OK", found⟩, true)
    | none => (⟨s.name ++ ": command", "FAIL", cmd ++ " not found in PATH"⟩, false)
  let dir : DoctorItem × Bool := if ← h.isDirAt cwd then (⟨s.name ++ ": cwd", "OK", cwd.toText⟩, true)
    else (⟨s.name ++ ": cwd", "FAIL", "Missing directory: " ++ cwd.toText⟩, false)
  pure [command, dir]

/-- The note a pipeline without steps gets. -/
def noStepsItem : DoctorItem :=
  ⟨"steps", "WARN", "Pipeline has no steps (run will PASS trivially)"⟩

/-- The check of the pipeline's root, with whether it passed. -/
def rootCheck (h : World) (p : Pipeline) : Except Fault (DoctorItem × Bool) := do
  if ← h.isDirAt p.root then pure (⟨"pipeline root", "OK", p.root.toText⟩, true)
  else pure (⟨"pipeline root", "FAIL", "Not a directory: " ++ p.root.toText⟩, false)

/-- The preflight report of a pipeline on the host: the root, a note when there are no steps,
then the checks of each step in order, `ok` cleared by every check that fails. -/
def doctorReport (h : World) (p : Pipeline) : Except Fault DoctorReport := do
  let st := ({} : DoctorState).add (← rootCheck h p)
  let st := if p.steps.isEmpty then st.note noStepsItem else st
  let st ← p.steps.foldlM (fun st s => do return (← stepChecks h p s).foldl DoctorState.add st) st
  pure ⟨st.ok, st.items⟩

end BuildGate
