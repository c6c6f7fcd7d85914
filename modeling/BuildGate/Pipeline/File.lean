import BuildGate.Pipeline.Build
import BuildGate.Yaml.Load
import BuildGate.Fs.Change
import BuildGate.Text.Utf8
import BuildGate.Text.Lines

namespace BuildGate

def configDirName : String := ".gaterun"

/-- The default root of a pipeline file: its resolved directory, or the one above when that is
the configuration directory. -/
def defaultRootFor (t : Fs.Tree) (path : Path) : Except Fault Path := do
  let resolved ← (Fs.resolvePath t (t.absolute path)).mapError Fs.ResolveError.fault
  let dir : Path := ⟨"/", resolved.dropLast⟩
  pure (if dir.name == configDirName then dir.parent else dir)

/-- A YAML failure as a fault: YAML errors become configuration errors about the file, other
failures keep their kind. -/
def yamlFault (file text : String) : Yaml.YamlError → Fault
  | .other kind message => .other kind message
  | e => .config (.badYaml file (Yaml.loadMessage text e))

/-- The document of a pipeline file: its UTF-8 text in text mode read as YAML, where an empty or
false document is an empty mapping and any other must be a mapping. -/
def readPipelineData (t : Fs.Tree) (path : Path) : Except Fault Value := do
  let file := path.toText
  if Fs.hasZero file then throw Fs.zeroFault
  let bytes ← match t.readFile (t.absolute path) with
    | .ok b => pure b
    | .error n => throw (.config (.unreadable file (Fs.errorAt n file).message))
  let text ← match Text.decodeUtf8 bytes with
    | .ok s => pure (String.ofList (Text.readLines s.toList))
    | .error e => throw (.badUtf8 e.message)
  let doc ← match Yaml.load text with
    | .ok d => pure d
    | .error e => throw (yamlFault file text e)
  let data := match doc with
    | none => Value.dict []
    | some v => if v.isFalsy then Value.dict [] else v
  match data with
  | .dict _ => pure data
  | _ => throw (.config (.notMapping file))

/-- Reads the pipeline of a file; `root` overrides the default root. -/
def loadPipelineFile (t : Fs.Tree) (path : Path) (root : Option Path) (base : Env) :
    Except Fault Pipeline := do
  let data ← readPipelineData t path
  let root ← match root with
    | some r => pure r
    | none => defaultRootFor t path
  buildPipeline data root base path.stem

end BuildGate
