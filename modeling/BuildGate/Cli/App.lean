import BuildGate.Cli.Commands

namespace BuildGate.Cli

open Console

def readFor (h : CommandHelp) (interspersed : Bool) (args : List String) : CliM Given :=
  match Given.read h.options interspersed args with
  | .ok g => pure g
  | .error e => throw (.usage h e)

def pathArg (g : Given) (key default : String) : Path := Path.ofString ((g.text? key).getD default)

def timeoutArg (h : CommandHelp) (g : Given) : CliM (Option Float) :=
  match g.text? "timeout" with
  | none => pure none
  | some s =>
    match (Number.asciiDigits s).map Number.readFloat with
    | some (.ok x) => pure (some x)
    | _ => throw (.usage h (.badValue ["--timeout"] (Text.quote s ++ " is not a valid float.")))

/-- What a command does with the options it was given, once they are converted. -/
def action (cmd : Command) (g : Given) : CliM (CliM Unit) := do
  match cmd.kind with
  | .init => pure (initCommand (pathArg g "repo" ".") (g.has "force"))
  | .doctor => pure (doctorCommand (pathArg g "repo" ".") ((g.text? "file").map Path.ofString))
  | .run =>
    let timeout ← timeoutArg cmd.help g
    pure (runCommand
      { repo := pathArg g "repo" ".", file := (g.text? "file").map Path.ofString
        artifactsDir := pathArg g "artifacts_dir" ".gaterun/runs", runId := g.text? "run_id"
        noArtifacts := g.has "no_artifacts", quiet := g.has "quiet", timeout })
  | .status =>
    pure (statusCommand (pathArg g "repo" ".") ((g.text? "run_id").getD "")
      (pathArg g "artifacts_dir" ".gaterun/runs"))

/-- Runs a command line. -/
def runCommandLine (args : List String) : CliM Unit := do
  let g ← readFor groupHelp false args
  for k in g.eagerOrder groupOptions do
    if k == "help" then
      writeOut (groupHelp.screen (← width))
      exitWith 0
    else if k == "version" then
      say ("gaterun version: " ++ version)
      exitWith 0
  match g.rest with
  | [] => throw (.usage groupHelp .missingCommand)
  | name :: rest =>
    match commandNamed name with
    | none =>
      throw (.usage groupHelp (.noSuchCommand name (Text.closeMatches name (commands.map (·.name)))))
    | some cmd =>
      modify fun st => { st with verbose := g.has "verbose" }
      let given ← readFor cmd.help true rest
      if given.has "help" then
        writeOut (cmd.help.screen (← width))
        exitWith 0
      let act ← action cmd given
      if let some o := cmd.help.options.find? (fun o => o.required && !given.has o.key) then
        throw (.usage cmd.help (.missingOption o.names))
      if !given.rest.isEmpty then throw (.usage cmd.help (.extraArguments given.rest))
      act

/-- What a command line came to. -/
structure CliResult where
  code : Nat
  fault : Option String
  session : Session

/-- Runs a command line in a session. -/
def runCli (args : List String) (s : Session) : CliResult :=
  let (r, s) := (runCommandLine args).run.run s
  match r with
  | .ok _ => ⟨0, none, s⟩
  | .error (.exit c) => ⟨c, none, s⟩
  | .error (.usage h e) =>
    let screen := h.errorScreen (consoleWidth s.host.env) e
    ⟨2, none, { s with host := { s.host with stderr := s.host.stderr ++ Host.textBytes screen } }⟩
  | .error (.fault f) => ⟨1, some f.kind, s⟩

end BuildGate.Cli
