import BuildGate.Cli.Screen

namespace BuildGate.Cli

/-- The program's version. -/
def version : String := "0.1.0"

def programName : String := "root"

def helpOpt : Opt :=
  { key := "help", names := ["--help"], flag := true, help := "Show this message and exit.",
    eager := true }

def repoOpt : Opt :=
  { key := "repo", names := ["--repo"], metavar := "<path>",
    help := "Pipeline root (default: current dir).", shownDefault := some "." }

def fileOpt : Opt :=
  { key := "file", names := ["--file", "-f"], metavar := "<path>",
    help := "Pipeline YAML file (default: <repo>/.gaterun/pipeline.yaml)." }

def artifactsOpt : Opt :=
  { key := "artifacts_dir", names := ["--artifacts-dir"], metavar := "<path>",
    help := "Artifacts root dir.", shownDefault := some ".gaterun/runs" }

def groupOptions : List Opt :=
  [{ key := "version", names := ["--version"], flag := true, help := "Show version.", eager := true },
   { key := "verbose", names := ["--verbose", "-v"], flag := true,
     help := "Show step-level log lines." },
   helpOpt]

def initOptions : List Opt :=
  [repoOpt,
   { key := "force", names := ["--force"], flag := true, help := "Overwrite existing templates." },
   helpOpt]

def doctorOptions : List Opt := [repoOpt, fileOpt, helpOpt]

def runOptions : List Opt :=
  [repoOpt, fileOpt, artifactsOpt,
   { key := "run_id", names := ["--run-id"], metavar := "<str>", help := "Run id (default: auto)." },
   { key := "no_artifacts", names := ["--no-artifacts"], flag := true,
     help := "Do not write run artifacts." },
   { key := "quiet", names := ["--quiet", "-q"], flag := true,
     help := "Do not mirror step output live." },
   { key := "timeout", names := ["--timeout"], metavar := "<float>",
     help := "Per-step timeout in seconds (default: none)." },
   helpOpt]

def statusOptions : List Opt :=
  [repoOpt,
   { key := "run_id", names := ["--run"], metavar := "<str>", help := "Run id.", required := true },
   artifactsOpt, helpOpt]

/-- The commands of the group. -/
inductive CommandKind where
  | init
  | doctor
  | run
  | status
  deriving Repr, BEq, DecidableEq, Inhabited

def CommandKind.name : CommandKind → String
  | .init => "init"
  | .doctor => "doctor"
  | .run => "run"
  | .status => "status"

/-- A command of the group: which one, and its help. -/
structure Command where
  kind : CommandKind
  help : CommandHelp
  deriving Inhabited

def Command.name (c : Command) : String := c.kind.name

def command (kind : CommandKind) (summary : String) (options : List Opt) : Command :=
  { kind, help := { path := programName ++ " " ++ kind.name, usage := "[OPTIONS]", summary, options } }

def commands : List Command :=
  [command .init "Write a starter `.gaterun/pipeline.yaml` into a repo." initOptions,
   command .doctor "Preflight: check step commands and working directories." doctorOptions,
   command .run "Run the pipeline and exit non-zero if any step fails." runOptions,
   command .status "Print the stored report of a previous run." statusOptions]

def groupHelp : CommandHelp :=
  { path := programName, usage := "[OPTIONS] COMMAND [ARGS]...",
    summary := "Sequential build gate: run steps in order, stop at the first failure.",
    options := groupOptions, commands := commands.map fun c => (c.name, c.help.summary) }

def commandNamed (name : String) : Option Command := commands.find? (·.name == name)

def helpOf (kind : CommandKind) : CommandHelp :=
  ((commands.find? (·.kind == kind)).map (·.help)).getD groupHelp

end BuildGate.Cli
