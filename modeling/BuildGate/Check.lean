import BuildGate.Host.Exec
import BuildGate.Pipeline.File
import BuildGate.Store

namespace BuildGate

open Host (World)

/-- What one call of `check` gives. -/
structure CheckSummary where
  status : String
  ok : Bool
  firstFailure : Option String
  stderr : String
  steps : List (String × Int × Seconds)
  deriving Repr, Inhabited

/-- The default pipeline file under a root. -/
def defaultPipelineFile (root : Path) : Path :=
  (root.joinText configDirName).joinText "pipeline.yaml"

/-- Loads and runs a repository's pipeline: the summary and the host after the run. -/
def check (h : World) (repo : Path) (pipelineFile : Option Path) :
    Except Fault (CheckSummary × World) := do
  let root : Path := ⟨"/", ← resolveIn h.fs repo⟩
  let path := pipelineFile.getD (defaultPipelineFile root)
  let p ← loadPipelineFile h.fs path (some root) h.env
  let out ← runPipeline p { base := h.env } World.runner none (fun _ w => w) h
  let r := out.report
  let summary : CheckSummary :=
    { status := r.status, ok := r.ok, firstFailure := r.firstFailure
      stderr := match r.failedResult with
        | some f => Text.decodeLossy f.stderr
        | none => ""
      steps := r.results.map fun x => (x.name, x.exitCode, x.duration) }
  pure (summary, out.world)

end BuildGate
