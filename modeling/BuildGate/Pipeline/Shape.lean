import BuildGate.Value.Spot
import BuildGate.Value.SetOrder
import BuildGate.Value.Order

namespace BuildGate

/-- A value that misses the shape: the keys and indices that lead to it, what is wrong, and
whether the value is not of the kind its rule wants at all. -/
structure ShapeError where
  path : List Value
  detail : String
  wrongKind : Bool
  unwritable : Bool := false
  deriving Inhabited

def ShapeError.location (e : ShapeError) : String :=
  if e.path.isEmpty then "<root>" else "/".intercalate (e.path.map Value.text)

/-- Whether `a` is reported before `b`: it is shallower; or as deep, at another position and
the greater one there; or at the same position, of the wrong kind where `b` is not. -/
def ShapeError.outranks (a b : ShapeError) : Except OrderError Bool :=
  if a.path.length != b.path.length then pure (a.path.length < b.path.length)
  else if Value.sameKeys a.path b.path then pure (a.wrongKind && !b.wrongKind)
  else Value.greaterList a.path b.path

/-- Why no shape error can be reported: two positions that cannot be ordered, or an error
whose detail cannot be written. -/
inductive RankingFault where
  | unordered (e : OrderError)
  | unwritable
  deriving Repr, BEq

/-- The error to report, each later error replacing the one kept when it outranks it; an error
is made, and fails when it cannot be written, before it is ranked. -/
def bestShapeError (es : List ShapeError) : Except RankingFault (Option ShapeError) :=
  es.foldlM (fun best e =>
    if e.unwritable then throw .unwritable
    else match best with
      | none => pure (some e)
      | some b => do
        return some (if ← (e.outranks b).mapError .unordered then e else b)) none

/-- A value being checked: the document, the spot of the value in it, and its position. -/
structure Place where
  root : Value
  spot : List Nat
  path : List Value

namespace Place

def value (p : Place) : Value := p.root.nodeAt p.spot

/-- The `i`-th child of the value at a place, reached through `steps` (the key or index, or
nothing for a null key). -/
def child (p : Place) (i : Nat) (steps : List Value) : Place :=
  { p with spot := p.root.follow p.spot i, path := p.path ++ steps }

def kindError (p : Place) (kinds : String) : ShapeError :=
  ⟨p.path, p.root.literalOf p.spot ++ " is not of type " ++ kinds, true, p.value.holdsLongInt⟩

def entry (p : Place) (key : String) (check : Place → List ShapeError) : List ShapeError :=
  match p.value with
  | .dict kvs =>
    match kvs.findIdx? (fun e => Value.sameKey e.1 (.str key)) with
    | some i => check (p.child i [.str key])
    | none => []
  | _ => []

end Place

def scalarKinds : String := "'string', 'number', 'boolean'"

def isScalar : Value → Bool
  | .str _ | .int _ | .float _ | .bool _ => true
  | _ => false

def isNaNKey : Value → Bool
  | .float x => x.isNaN
  | _ => false

def keySteps : Value → List Value
  | .null => []
  | k => [k]

def setIndices (keys : List Value) : List Nat :=
  let found := (Value.setOrder false keys).foldl (fun (acc : List Nat × List (Nat × Value)) k =>
    match acc.2.find? (fun e => Value.sameKey e.2 k || (isNaNKey k && isNaNKey e.2)) with
    | some (i, _) => (i :: acc.1, acc.2.filter (·.1 != i))
    | none => acc) ([], keys.zipIdx.map fun (k, i) => (i, k))
  found.1.reverse

def textErrors (p : Place) : List ShapeError :=
  match p.value with
  | .str _ => []
  | _ => [p.kindError "'string'"]

def scalarErrors (p : Place) : List ShapeError :=
  if isScalar p.value then [] else [p.kindError scalarKinds]

def envErrors (p : Place) : List ShapeError :=
  match p.value with
  | .dict kvs =>
    (setIndices (kvs.map (·.1))).flatMap fun i =>
      scalarErrors (p.child i (keySteps ((kvs[i]?.map (·.1)).getD .null)))
  | _ => [p.kindError "'object'"]

def argsErrors (p : Place) : List ShapeError :=
  match p.value with
  | .list xs => (List.range xs.length).flatMap fun i => scalarErrors (p.child i [.int i])
  | _ => [p.kindError "'array'"]

def stepKeys : List String := ["name", "command", "args", "env", "cwd"]

def extrasDetail (extras : List Value) : String :=
  let sorted := (Value.setOrder false extras).mergeSort fun a b => decide (a.text ≤ b.text)
  let verb := if sorted.length == 1 then "was" else "were"
  "Additional properties are not allowed (" ++ ", ".intercalate (sorted.map Value.literal) ++
    " " ++ verb ++ " unexpected)"

def stepErrors (p : Place) : List ShapeError :=
  match p.value with
  | .dict kvs =>
    let props := p.entry "name" textErrors ++ p.entry "command" textErrors ++
      p.entry "args" argsErrors ++ p.entry "env" envErrors ++ p.entry "cwd" textErrors
    let required := ["name", "command"].filterMap fun k =>
      if (Value.lookupEntry kvs (.str k)).isSome then none
      else some ⟨p.path, Text.quote k ++ " is a required property", false, false⟩
    let extras := (kvs.map (·.1)).filter fun k => !stepKeys.any fun s => Value.sameKey k (.str s)
    props ++ required ++ (if extras.isEmpty then []
      else [⟨p.path, extrasDetail extras, false, Value.anyHoldsLongInt extras⟩])
  | _ => [p.kindError "'object'"]

def stepsErrors (p : Place) : List ShapeError :=
  match p.value with
  | .list xs => (List.range xs.length).flatMap fun i => stepErrors (p.child i [.int i])
  | _ => [p.kindError "'array'"]

/-- Every way in which a document misses the shape of a pipeline description. -/
def shapeErrors (data : Value) : List ShapeError :=
  let p : Place := ⟨data, [], []⟩
  match data with
  | .dict kvs =>
    p.entry "name" textErrors ++ p.entry "env" envErrors ++ p.entry "steps" stepsErrors ++
      (if (Value.lookupEntry kvs (.str "steps")).isSome then []
       else [⟨[], Text.quote "steps" ++ " is a required property", false, false⟩])
  | _ => [p.kindError "'object'"]

end BuildGate
