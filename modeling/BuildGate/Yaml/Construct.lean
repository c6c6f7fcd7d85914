import BuildGate.Yaml.Node
import BuildGate.Number.Text
import BuildGate.Value.SetOrder

namespace BuildGate.Yaml

def constructError (context : Option String) (contextMark : Option Mark) (problem : String)
    (at_ : Mark) : YamlError :=
  .marked ⟨context, contextMark, problem, some at_⟩

mutual

/-- The text of a scalar node; a mapping stands for the value under its `=` key. -/
def scalarText : Node → Except YamlError String
  | .scalar _ v _ _ => .ok v
  | .mapping _ entries start _ => valueEntryText start entries
  | .sequence _ _ start _ =>
    .error (constructError none none "expected a scalar node, but found sequence" start)
  | .recur _ n =>
    .error (constructError none none ("expected a scalar node, but found " ++ n.kindName) n.start)

def valueEntryText (start : Mark) : List (Node × Node) → Except YamlError String
  | [] => .error (constructError none none "expected a scalar node, but found mapping" start)
  | (k, v) :: rest => if k.tag == coreTag "value" then scalarText v else valueEntryText start rest

end

def truthWords : List (String × Bool) :=
  [("yes", true), ("no", false), ("true", true), ("false", false), ("on", true), ("off", false)]

def foreign (kind message : String) : YamlError := .other kind message

def valueError (r : Except String α) : Except YamlError α :=
  r.mapError (foreign "ValueError")

def sexagesimal (parts : List Int) : Int :=
  parts.foldl (fun acc d => 60 * acc + d) 0

def buildInt (text : String) : Except YamlError Value := do
  let value := String.ofList (text.toList.filter (· != '_'))
  let cs := value.toList
  let first ← match cs with
    | c :: _ => pure c
    | [] => throw (foreign "IndexError" "string index out of range")
  let sign : Int := if first == '-' then -1 else 1
  let body := if first == '-' || first == '+' then cs.drop 1 else cs
  let bodyText := String.ofList body
  if bodyText == "0" then return .int 0
  match body with
  | '0' :: 'b' :: rest => return .int (sign * (← valueError (Number.readInt (String.ofList rest) 2)))
  | '0' :: 'x' :: rest => return .int (sign * (← valueError (Number.readInt (String.ofList rest) 16)))
  | '0' :: _ => return .int (sign * (← valueError (Number.readInt bodyText 8)))
  | [] => throw (foreign "IndexError" "string index out of range")
  | _ =>
    if body.contains ':' then
      let parts ← (bodyText.splitOn ":").mapM fun p => valueError (Number.readInt p 10)
      return .int (sign * sexagesimal parts)
    else return .int (sign * (← valueError (Number.readInt bodyText 10)))

def floatInfinity : Float := Binary64.infinity

def buildFloat (text : String) : Except YamlError Value := do
  let value := String.ofList ((text.toList.filter (· != '_')).map Char.toLower)
  let cs := value.toList
  let first ← match cs with
    | c :: _ => pure c
    | [] => throw (foreign "IndexError" "string index out of range")
  let neg := first == '-'
  let body := if first == '-' || first == '+' then cs.drop 1 else cs
  let bodyText := String.ofList body
  let signed (x : Float) : Float := if neg then -x else x
  if bodyText == ".inf" then return .float (signed floatInfinity)
  if bodyText == ".nan" then return .float Binary64.nan
  if body.contains ':' then
    let parts ← (bodyText.splitOn ":").mapM fun p => valueError (Number.readFloat p)
    -- each place value is an integer made a float before it scales its digit
    let (total, _) ← parts.reverse.foldlM (fun (acc : Float × Nat) d => do
      let place := Binary64.ofDecimal false acc.2 0
      if !Binary64.isFinite place then
        throw (foreign "OverflowError" "int too large to convert to float")
      pure (acc.1 + d * place, acc.2 * 60)) (0.0, 1)
    return .float (signed total)
  return .float (signed (← valueError (Number.readFloat bodyText)))

def base64Value (c : Char) : Option Nat :=
  if 'A' ≤ c && c ≤ 'Z' then some (c.toNat - 65)
  else if 'a' ≤ c && c ≤ 'z' then some (c.toNat - 71)
  else if '0' ≤ c && c ≤ '9' then some (c.toNat + 4)
  else if c == '+' then some 62
  else if c == '/' then some 63
  else none

def decodeBase64 (cs : List Char) : Except String (List UInt8) :=
  go cs 0 0 0 []
where
  go : List Char → Nat → Nat → Nat → List UInt8 → Except String (List UInt8)
    | [], quad, _, _, out =>
      if quad == 0 then .ok out.reverse
      else if quad == 1 then
        .error ("Invalid base64-encoded string: number of data characters (" ++
          toString (out.length / 3 * 4 + 1) ++ ") cannot be 1 more than a multiple of 4")
      else .error "Incorrect padding"
    | c :: rest, quad, left, pads, out =>
      if c == '=' then
        if quad ≥ 2 && quad + (pads + 1) ≥ 4 then .ok out.reverse
        else go rest quad left (if quad ≥ 2 then pads + 1 else pads) out
      else match base64Value c with
        | none => go rest quad left pads out
        | some v =>
          -- a data character ends the run of padding before it
          match quad with
          | 0 => go rest 1 v 0 out
          | 1 => go rest 2 (v % 16) 0 ((left * 4 + v / 16).toUInt8 :: out)
          | 2 => go rest 3 (v % 4) 0 ((left * 16 + v / 4).toUInt8 :: out)
          | _ => go rest 0 0 0 ((left * 64 + v).toUInt8 :: out)

def codeEscape (c : Char) : String :=
  if c.toNat ≤ 0xFF then "\\x" ++ Text.hexPad 2 c.toNat
  else if c.toNat ≤ 0xFFFF then "\\u" ++ Text.hexPad 4 c.toNat
  else "\\U" ++ Text.hexPad 8 c.toNat

def asciiProblem (cs : List Char) : Option String :=
  match cs.findIdx? (fun c => c.toNat ≥ 128) with
  | none => none
  | some i =>
    let run := ((cs.drop i).takeWhile fun c => c.toNat ≥ 128).length
    if run == 1 then
      some ("'ascii' codec can't encode character '" ++ codeEscape (cs.getD i ' ') ++
        "' in position " ++ toString i ++ ": ordinal not in range(128)")
    else
      some ("'ascii' codec can't encode characters in position " ++ toString i ++ "-" ++
        toString (i + run - 1) ++ ": ordinal not in range(128)")

def buildBinary (text : String) (start : Mark) : Except YamlError Value := do
  if let some p := asciiProblem text.toList then
    throw (constructError none none ("failed to convert base64 data into ascii: " ++ p) start)
  match decodeBase64 text.toList with
  | .ok bs => pure (.bytes bs)
  | .error e => throw (constructError none none ("failed to decode base64 data: " ++ e) start)

def digitsNat (cs : List Char) : Nat := cs.foldl (fun n c => 10 * n + (c.toNat - 48)) 0

def monthDays (year month : Nat) : Nat :=
  if month == 2 then
    if (year % 4 == 0 && year % 100 != 0) || year % 400 == 0 then 29 else 28
  else if month == 4 || month == 6 || month == 9 || month == 11 then 30
  else 31

def checkDate (year month day : Nat) : Except YamlError Date := do
  if year < 1 || year > 9999 then
    throw (foreign "ValueError" ("year " ++ toString year ++ " is out of range"))
  if month < 1 || month > 12 then throw (foreign "ValueError" "month must be in 1..12")
  if day < 1 || day > monthDays year month then
    throw (foreign "ValueError" "day is out of range for month")
  pure ⟨year, month, day⟩

def spanLiteral (total : Int) : String :=
  let days := total / 86400
  let secs := total % 86400
  let fields :=
    (if days != 0 then ["days=" ++ toString days] else []) ++
    (if secs != 0 then ["seconds=" ++ toString secs] else [])
  if fields.isEmpty then "datetime.timedelta(0)"
  else "datetime.timedelta(" ++ ", ".intercalate fields ++ ")"

def buildStamp (text : String) : Except YamlError Value := do
  let some parts := readStamp (dropFinalFeed text) false
    | throw (foreign "AttributeError" "'NoneType' object has no attribute 'groupdict'")
  let year := digitsNat parts.year
  let month := digitsNat parts.month
  let day := digitsNat parts.day
  match parts.time with
  | none => return .date (← checkDate year month day)
  | some (hour, minute, second, fraction, zone) =>
    let micro := digitsNat ((fraction.take 6) ++ List.replicate (6 - (fraction.take 6).length) '0')
    let offset ← match zone with
      | some (some (sign, h, m)) =>
        let total : Int := (digitsNat h : Int) * 3600 + (digitsNat m : Int) * 60
        let total := if sign == '-' then -total else total
        if total ≤ -86400 || total ≥ 86400 then
          throw (foreign "ValueError"
            ("offset must be a timedelta strictly between -timedelta(hours=24) and " ++
              "timedelta(hours=24), not " ++ spanLiteral total ++ "."))
        pure (some total)
      | some none => pure (some 0)
      | none => pure none
    let date ← checkDate year month day
    let hour := digitsNat hour
    let minute := digitsNat minute
    let second := digitsNat second
    if hour > 23 then throw (foreign "ValueError" "hour must be in 0..23")
    if minute > 59 then throw (foreign "ValueError" "minute must be in 0..59")
    if second > 59 then throw (foreign "ValueError" "second must be in 0..59")
    return .stamp ⟨date, hour, minute, second, micro, offset⟩

def Node.later (n : Node) : Bool :=
  [coreTag "seq", coreTag "map", coreTag "set", coreTag "omap", coreTag "pairs"].contains n.tag

def buildScalar (n : Node) : Except YamlError Value := do
  let tag := n.tag
  if tag == coreTag "null" then
    let _ ← scalarText n
    return .null
  if tag == coreTag "bool" then
    let t := String.ofList ((← scalarText n).toList.map Char.toLower)
    match truthWords.lookup t with
    | some b => return .bool b
    | none => throw (foreign "KeyError" (Text.quote t))
  if tag == coreTag "int" then return ← buildInt (← scalarText n)
  if tag == coreTag "float" then return ← buildFloat (← scalarText n)
  if tag == coreTag "binary" then return ← buildBinary (← scalarText n) n.start
  if tag == coreTag "timestamp" then return ← buildStamp (← scalarText n)
  if tag == coreTag "str" then return .str (← scalarText n)
  throw (constructError none none
    ("could not determine a constructor for the tag " ++ Text.quote tag) n.start)

def isMergeKey (k : Node) : Bool := k.tag == coreTag "merge"

def plainKey (k : Node) : Node :=
  match k with
  | .scalar t v a b => if t == coreTag "value" then .scalar (coreTag "str") v a b else k
  | .sequence t xs a b => if t == coreTag "value" then .sequence (coreTag "str") xs a b else k
  | .mapping t xs a b => if t == coreTag "value" then .mapping (coreTag "str") xs a b else k
  | .recur .. => k

mutual

def flattenEntries (start : Mark) :
    List (Node × Node) → Except YamlError (List (Node × Node) × List (Node × Node))
  | [] => .ok ([], [])
  | (k, v) :: rest => do
    if isMergeKey k then
      let brought ← mergedBy start v
      let (m, own) ← flattenEntries start rest
      pure (brought ++ m, own)
    else
      let (m, own) ← flattenEntries start rest
      pure (m, (plainKey k, v) :: own)
termination_by structural es => es

def mergedBy (start : Mark) : Node → Except YamlError (List (Node × Node))
  | .mapping _ entries vstart _ => do
    let (m, own) ← flattenEntries vstart entries
    pure (m ++ own)
  | .sequence _ items _ _ => mergeList start items
  | .scalar _ _ vstart _ =>
    throw (constructError (some "while constructing a mapping") (some start)
      "expected a mapping or list of mappings for merging, but found scalar" vstart)
  | .recur .. => pure []
termination_by structural v => v

def mergeList (start : Mark) : List Node → Except YamlError (List (Node × Node))
  | [] => .ok []
  | n :: rest => do
    match n with
    | .mapping _ entries nstart _ =>
      let (m, own) ← flattenEntries nstart entries
      let later ← mergeList start rest
      pure (later ++ (m ++ own))
    | _ =>
      throw (constructError (some "while constructing a mapping") (some start)
        ("expected a mapping for merging, but found " ++ n.kindName) n.start)
termination_by structural ns => ns

end

def flatten (n : Node) : Except YamlError (List (Node × Node)) :=
  match n with
  | .mapping _ entries start _ => do
    let (m, own) ← flattenEntries start entries
    pure (m ++ own)
  | _ => .ok []

def touch (n : Node) : Except YamlError (List Node) :=
  if n.later then .ok [n] else (buildScalar n).map fun _ => []

def touchAll : List Node → Except YamlError (List Node)
  | [] => .ok []
  | n :: rest => do
    let a ← touch n
    let b ← touchAll rest
    pure (a ++ b)

def touchEntries (start : Mark) : List (Node × Node) → Except YamlError (List Node)
  | [] => .ok []
  | (k, v) :: rest => do
    let a ← touch k
    if k.later then
      throw (constructError (some "while constructing a mapping") (some start)
        "found unhashable key" k.start)
    let b ← touch v
    let c ← touchEntries start rest
    pure (a ++ b ++ c)

def touchPairs (what : String) (start : Mark) : List Node → Except YamlError (List Node)
  | [] => .ok []
  | n :: rest => do
    match n with
    | .mapping _ [(k, v)] _ _ =>
      let a ← touch k
      let b ← touch v
      let c ← touchPairs what start rest
      pure (a ++ b ++ c)
    | .mapping _ entries _ _ =>
      throw (constructError (some what) (some start)
        ("expected a single mapping item, but found " ++ toString entries.length ++ " items") n.start)
    | _ =>
      throw (constructError (some what) (some start)
        ("expected a mapping of length 1, but found " ++ n.kindName) n.start)

def fillIn (n : Node) : Except YamlError (List Node) :=
  let tag := n.tag
  if let .recur .. := n then .ok []
  else if tag == coreTag "seq" then
    match n with
    | .sequence _ items _ _ => touchAll items
    | _ => .error (constructError none none ("expected a sequence node, but found " ++ n.kindName) n.start)
  else if tag == coreTag "omap" || tag == coreTag "pairs" then
    let what := if tag == coreTag "omap" then "while constructing an ordered map" else "while constructing pairs"
    match n with
    | .sequence _ items start _ => touchPairs what start items
    | _ => .error (constructError (some what) (some n.start)
        ("expected a sequence, but found " ++ n.kindName) n.start)
  else
    match n with
    | .mapping _ _ start _ => do touchEntries start (← flatten n)
    | _ => .error (constructError none none ("expected a mapping node, but found " ++ n.kindName) n.start)

def firstFault (root : Node) (fuel : Nat) : Option YamlError :=
  match touch root with
  | .error e => some e
  | .ok queue => go queue fuel
where
  go : List Node → Nat → Option YamlError
    | [], _ => none
    | _, 0 => none
    | n :: rest, fuel + 1 =>
      match fillIn n with
      | .error e => some e
      | .ok more => go (rest ++ more) fuel

def tooDeep : YamlError := foreign "RecursionError" "maximum recursion depth exceeded"

def buildItems (b : Node → Except YamlError Value) : List Node → Except YamlError (List Value)
  | [] => .ok []
  | n :: rest => do
    let v ← b n
    let vs ← buildItems b rest
    pure (v :: vs)

def buildPairs (b : Node → Except YamlError Value) : List Node → Except YamlError (List Value)
  | [] => .ok []
  | .mapping _ [(k, v)] _ _ :: rest => do
    let kv ← b k
    let vv ← b v
    let vs ← buildPairs b rest
    pure (.tuple [kv, vv] :: vs)
  | _ :: rest => buildPairs b rest

def buildEntries (b : Node → Except YamlError Value) :
    List (Node × Node) → Except YamlError (List (Value × Value))
  | [] => .ok []
  | (k, v) :: rest => do
    let kv ← b k
    let vv ← b v
    let tail ← buildEntries b rest
    pure (Value.ofEntries ((kv, vv) :: tail))

def build : Nat → Node → Except YamlError Value
  | 0, _ => .error tooDeep
  | _ + 1, n@(.scalar ..) => buildScalar n
  | _ + 1, .recur d _ => .ok (.recur d)
  | fuel + 1, n@(.sequence tag items _ _) =>
    if tag == coreTag "omap" || tag == coreTag "pairs" then .list <$> buildPairs (build fuel) items
    else if tag == coreTag "seq" then .list <$> buildItems (build fuel) items
    else buildScalar n
  | fuel + 1, n@(.mapping tag entries start _) =>
    if tag == coreTag "map" || tag == coreTag "set" then do
      let (m, own) ← flattenEntries start entries
      let kvs ← buildEntries (build fuel) (m ++ own)
      if tag == coreTag "set" then pure (.set (Value.setOrder true (kvs.map (·.1))))
      else pure (.dict kvs)
    else buildScalar n

def construct (root : Node) (fuel : Nat) : Except YamlError Value :=
  match firstFault root fuel with
  | some e => .error e
  | none => build fuel root

end BuildGate.Yaml
