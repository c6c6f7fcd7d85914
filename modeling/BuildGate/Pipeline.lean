import BuildGate.Env
import BuildGate.Path

namespace BuildGate

/-- A step of a pipeline. -/
structure Step where
  name : String
  command : String
  args : List String := []
  env : Env := Env.empty
  cwd : Option Path := none
  deriving Repr, BEq, Inhabited

/-- A pipeline: steps run in order from a root directory. -/
structure Pipeline where
  name : String
  root : Path
  steps : List Step
  env : Env := Env.empty
  deriving Repr, BEq, Inhabited

/-- The command line of a step: its command, then its arguments. -/
def Step.argv (s : Step) : List String := s.command :: s.args

namespace Pipeline

/-- The directory a step runs in. -/
def stepCwd (p : Pipeline) (s : Step) : Path :=
  match s.cwd with
  | none => p.root
  | some c => if c.isAbs then c else p.root.join c

/-- The environment a step sees: `base`, with the pipeline's overlay and then the step's set
over it. -/
def effectiveEnv (p : Pipeline) (s : Step) (base : Env) : Env :=
  (base.overlay p.env).overlay s.env

def stepNames (p : Pipeline) : List String := p.steps.map (·.name)

end Pipeline

end BuildGate
