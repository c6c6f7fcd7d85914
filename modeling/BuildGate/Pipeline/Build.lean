import BuildGate.Pipeline
import BuildGate.Pipeline.Shape
import BuildGate.Fault
import BuildGate.Env.Refs
import BuildGate.Text.Classes
import BuildGate.Ids

namespace BuildGate

/-- The plain text of a value, refused when it would write an integer too long to become
text. -/
def plainText (v : Value) : Except Fault String :=
  if v.holdsLongInt then .error (.invalid Value.longIntMessage) else .ok v.text

/-- The text a scalar stands for: booleans as `true` and `false`, others as their plain text. -/
def scalarText : Value → Except Fault String
  | .bool b => .ok (if b then "true" else "false")
  | v => plainText v

/-- `s`, refused when it holds NUL. -/
def checkNul (place s : String) : Except Fault String :=
  if s.toList.contains '\x00' then .error (.config (.nulByte place)) else .ok s

def stripBlank (s : String) : String :=
  String.ofList ((s.toList.dropWhile Text.isBlank).reverse.dropWhile Text.isBlank).reverse

/-- Whether a text can name an environment variable: not empty, no `=`, no NUL. -/
def isEnvName (key : String) : Bool :=
  !key.isEmpty && !key.toList.contains '=' && !key.toList.contains '\x00'

/-- Adds one declared entry to an overlay. -/
def resolveEntry (scope : Env) (place : String) (out : Env) (kv : Value × Value) :
    Except Fault Env := do
  let key ← plainText kv.1
  if !isEnvName key then throw (.config (.badEnvName place key))
  let value ← (expandRefs scope (← scalarText kv.2) (place ++ "." ++ key)).mapError .config
  let value ← checkNul (place ++ "." ++ key) value
  pure (out.set key value)

/-- The overlay of declared entries, each resolved against `scope`, in declaration order. -/
def resolveOverlay (scope : Env) (place : String) (raw : List (Value × Value)) :
    Except Fault Env :=
  raw.foldlM (resolveEntry scope place) Env.empty

def entriesOf : Option Value → List (Value × Value)
  | some (.dict kvs) => kvs
  | _ => []

def itemsOf : Option Value → List Value
  | some (.list xs) => xs
  | _ => []

def textOf : Option Value → String
  | some (.str s) => s
  | _ => ""

namespace Value

def noAttribute (v : Value) (attr : String) : Fault :=
  .other "AttributeError" ("'" ++ v.kindName ++ "' object has no attribute '" ++ attr ++ "'")

/-- `v[key]`: the value under a text key of a mapping; a mapping without the key has no such
item, and other values are not indexed by a text. -/
def item (v : Value) (key : String) : Except Fault Value :=
  match v with
  | .dict kvs =>
    match lookupEntry kvs (.str key) with
    | some x => .ok x
    | none => .error (.missingKey key)
  | .list _ => .error (.wrongType "list indices must be integers or slices, not str")
  | .tuple _ => .error (.wrongType "tuple indices must be integers or slices, not str")
  | .str _ => .error (.wrongType "string indices must be integers, not 'str'")
  | .bytes _ => .error (.wrongType "byte indices must be integers or slices, not str")
  | v => .error (.wrongType ("'" ++ v.kindName ++ "' object is not subscriptable"))

def getEntry (v : Value) (key : String) : Except Fault (Option Value) :=
  match v with
  | .dict kvs => .ok (lookupEntry kvs (.str key))
  | v => .error (v.noAttribute "get")

def orElse (o : Option Value) (d : Value) : Value :=
  match o with
  | some v => if v.isFalsy then d else v
  | none => d

def entries (v : Value) : Except Fault (List (Value × Value)) :=
  match v with
  | .dict kvs => .ok kvs
  | v => .error (v.noAttribute "items")

/-- What iterating a value gives: the elements of a list, tuple or set, the characters of a
text, the byte values of bytes, the keys of a mapping; other values cannot be iterated. -/
def elements (v : Value) : Except Fault (List Value) :=
  match v with
  | .list xs | .tuple xs => .ok xs
  | .set xs => .ok (setOrder false xs)
  | .str s => .ok (s.toList.map fun c => .str (String.singleton c))
  | .bytes b => .ok (b.map fun x => .int x.toNat)
  | .dict kvs => .ok (kvs.map (·.1))
  | v => .error (.wrongType ("'" ++ v.kindName ++ "' object is not iterable"))

def stripped (v : Value) : Except Fault String :=
  match v with
  | .str s => .ok (stripBlank s)
  | v => .error (v.noAttribute "strip")

def isNulText : Value → Bool
  | .str s => s == "\x00"
  | _ => false

/-- `"\x00" in v`: whether a text holds NUL, or a list, tuple, set or mapping holds the text of
a NUL among its elements or keys; bytes and values that cannot be iterated fail the test. -/
def holdsNul (v : Value) : Except Fault Bool :=
  match v with
  | .str s => .ok (s.toList.contains '\x00')
  | .list xs | .tuple xs | .set xs => .ok (xs.any isNulText)
  | .dict kvs => .ok (kvs.any fun kv => isNulText kv.1)
  | .bytes _ => .error (.wrongType "a bytes-like object is required, not 'str'")
  | .recur _ => .ok false
  | v => .error (.wrongType ("argument of type '" ++ v.kindName ++ "' is not iterable"))

def pathText (v : Value) : Except Fault String :=
  match v with
  | .str s => .ok s
  | .bytes _ => .error (.wrongType
      "argument should be a str object or an os.PathLike object returning str, not <class 'bytes'>")
  | v => .error (.wrongType ("expected str, bytes or os.PathLike object, not " ++ v.kindName))

end Value

/-- Builds step `i` from its declaration, given the names of the earlier steps. The name and the
command are read as `raw["name"]` and `raw["command"].strip()`, the arguments, directory and
environment with `raw.get`, and each read fails on a declaration of another shape. -/
def buildStep (scope : Env) (seen : List String) (i : Nat) (raw : Value) :
    Except Fault Step := do
  let name ← (← raw.item "name").asText
  if !isValidName name then throw (.config (.badStepName i name))
  if seen.contains name then throw (.config (.duplicateStep i name))
  let place := "steps[" ++ toString i ++ "] (" ++ name ++ ")"
  let command ← checkNul (place ++ ".command") (← (← raw.item "command").stripped)
  if command.isEmpty then throw (.config (.emptyCommand i name))
  let args ← (← (Value.orElse (← raw.getEntry "args") (.list [])).elements).zipIdx.mapM fun p => do
    checkNul (place ++ ".args[" ++ toString p.2 ++ "]") (← scalarText p.1)
  let cwd := Value.orElse (← raw.getEntry "cwd") (.str "")
  if ← cwd.holdsNul then throw (.config (.nulByte (place ++ ".cwd")))
  let env ← resolveOverlay scope (name ++ ".env")
    (← (Value.orElse (← raw.getEntry "env") (.dict [])).entries)
  let cwd ← cwd.pathText
  pure { name, command, args, env, cwd := if cwd.isEmpty then none else some (Path.ofString cwd) }

/-- Builds the steps in order, each checked against the names before it. -/
def buildSteps (scope : Env) : List Step → Nat → List Value → Except Fault (List Step)
  | acc, _, [] => .ok acc.reverse
  | acc, i, raw :: raws => do
    let s ← buildStep scope (acc.map (·.name)) i raw
    buildSteps scope (s :: acc) (i + 1) raws

/-- The pipeline a document of the right shape describes, rooted at `root`, inheriting `base`;
a description without a name (or with an empty one) takes `defaultName`. The document is read
with `data.get`, and its environment and steps with `items()` and iteration, which fail on a
document of another shape. -/
def buildShaped (data : Value) (root : Path) (base : Env) (defaultName : String) :
    Except Fault Pipeline := do
  let env ← resolveOverlay base "env" (← (Value.orElse (← data.getEntry "env") (.dict [])).entries)
  let raws ← (Value.orElse (← data.getEntry "steps") (.list [])).elements
  let steps ← buildSteps (base.overlay env) [] 0 raws
  let name ← plainText (Value.orElse (← data.getEntry "name") (.str defaultName))
  pure { name, root, steps, env }

/-- The pipeline a document describes, rooted at `root`, inheriting `base`; a description
without a name (or with an empty one) takes `defaultName`. A shape error whose position cannot
be ranked against another's is a fault of the wrong type. -/
def buildPipeline (data : Value) (root : Path) (base : Env) (defaultName : String := "pipeline") :
    Except Fault Pipeline := do
  match bestShapeError (shapeErrors data) with
  | .error (.unordered e) => throw (.wrongType e.message)
  | .error .unwritable => throw (.invalid Value.longIntMessage)
  | .ok (some e) =>
    if Value.anyHoldsLongInt e.path then throw (.invalid Value.longIntMessage)
    else throw (.config (.schema e.location e.detail))
  | .ok none => buildShaped data root base defaultName

end BuildGate
