import BuildGate.Store
import BuildGate.Pipeline.File

namespace BuildGate

/-- The pipeline a repository starts with. -/
def pipelineTemplate : String :=
  "# gaterun pipeline: steps run in order, the first failure stops the run.\n" ++
  "name: ci\n" ++
  "\n" ++
  "# Applied to every step. A step's own `env` wins on conflict.\n" ++
  "# Values may reference the inherited environment as $\x7bNAME\x7d; `$$` is a literal `$`.\n" ++
  "env:\n" ++
  "  RUSTFLAGS: -Coverflow-checks=y -Cdebug-assertions=y\n" ++
  "  CARGO_INCREMENTAL: \"1\"\n" ++
  "  CARGO_TERM_COLOR: always\n" ++
  "\n" ++
  "steps:\n" ++
  "  - name: test\n" ++
  "    command: cargo\n" ++
  "    args: [nextest, run, --all-features, --release]\n" ++
  "\n" ++
  "  - name: fmt-check\n" ++
  "    command: cargo\n" ++
  "    args: [fmt, --, --check]\n" ++
  "\n" ++
  "  - name: lint\n" ++
  "    command: cargo\n" ++
  "    args: [clippy, --all-features, --, -D, warnings]\n"

def pipelineFileName : String := "pipeline.yaml"

/-- Writes the templates into a repository: the tree after it and the paths written. -/
def writeTemplates (t : Fs.Tree) (repo : Path) (force : Bool) :
    Except Fault (Fs.Tree × List Path) := do
  let dir := repo.joinText configDirName
  let t ← makeDirsAt t dir
  let dest := dir.joinText pipelineFileName
  if t.exists_ (t.absolute dest) && !force then pure (t, [])
  else
    let t ← makeDirsAt t dest.parent
    let t ← pathFault dest (t.writeFile (t.absolute dest) pipelineTemplate.toUTF8.toList)
    pure (t, [dest])

end BuildGate
