import BuildGate.Yaml.Event

namespace BuildGate.Yaml

/-- A node of a YAML document. -/
inductive Node where
  | scalar (tag : String) (value : String) (start stop : Mark)
  | sequence (tag : String) (items : List Node) (start stop : Mark)
  | mapping (tag : String) (entries : List (Node × Node)) (start stop : Mark)
  | recur (depth : Nat) (target : Node)
  deriving Repr, Inhabited

def Node.tag : Node → String
  | .scalar t .. => t
  | .sequence t .. => t
  | .mapping t .. => t
  | .recur _ n => n.tag

def Node.start : Node → Mark
  | .scalar _ _ m _ => m
  | .sequence _ _ m _ => m
  | .mapping _ _ m _ => m
  | .recur _ n => n.start

def Node.kindName : Node → String
  | .scalar .. => "scalar"
  | .sequence .. => "sequence"
  | .mapping .. => "mapping"
  | .recur _ n => n.kindName

def coreTag (name : String) : String := "tag:yaml.org,2002:" ++ name

def allOf (p : Char → Bool) (s : List Char) : Bool := !s.isEmpty && s.all p

def digitsThenUnderscores : List Char → Bool
  | c :: rest => isDigitChar c && rest.all fun d => isDigitChar d || d == '_'
  | [] => false

def dropSign : List Char → List Char
  | '-' :: rest => rest
  | '+' :: rest => rest
  | cs => cs

def isExponent : List Char → Bool
  | [] => true
  | e :: sign :: ds => (e == 'e' || e == 'E') && (sign == '+' || sign == '-') && allOf isDigitChar ds
  | _ => false

def isSexagesimalTail (groups : List (List Char)) : Bool :=
  !groups.isEmpty && groups.all fun g =>
    match g with
    | [d] => isDigitChar d
    | [a, b] => '0' ≤ a && a ≤ '5' && isDigitChar b
    | _ => false

def looksFloat (s : List Char) : Bool :=
  let body := dropSign s
  let signed := body.length != s.length
  let decimal :=
    match body.splitOn '.' with
    | [whole, frac] =>
      let (fracDigits, expo) := frac.span fun c => isDigitChar c || c == '_'
      (digitsThenUnderscores whole && isExponent expo) ||
      (!signed && whole.isEmpty && (match fracDigits with
        | d :: _ => isDigitChar d
        | [] => false) && isExponent expo)
    | _ => false
  let sexagesimal :=
    match body.splitOn '.' with
    | [whole, frac] =>
      frac.all (fun c => isDigitChar c || c == '_') &&
      (match whole.splitOn ':' with
        | first :: groups => digitsThenUnderscores first && isSexagesimalTail groups
        | [] => false)
    | _ => false
  let special :=
    body == ['.', 'i', 'n', 'f'] || body == ['.', 'I', 'n', 'f'] || body == ['.', 'I', 'N', 'F'] ||
    (!signed && (s == ['.', 'n', 'a', 'n'] || s == ['.', 'N', 'a', 'N'] || s == ['.', 'N', 'A', 'N']))
  decimal || sexagesimal || special

def looksInt (s : List Char) : Bool :=
  let body := dropSign s
  match body with
  | '0' :: 'b' :: rest => allOf (fun c => c == '0' || c == '1' || c == '_') rest
  | '0' :: 'x' :: rest => allOf (fun c => isHexChar c || c == '_') rest
  | ['0'] => true
  | '0' :: rest => allOf (fun c => ('0' ≤ c && c ≤ '7') || c == '_') rest
  | c :: _ =>
    '1' ≤ c && c ≤ '9' &&
      (match body.splitOn ':' with
        | [whole] => digitsThenUnderscores whole
        | first :: groups => digitsThenUnderscores first && isSexagesimalTail groups
        | [] => false)
  | [] => false

def looksBool (s : String) : Bool :=
  ["yes", "Yes", "YES", "no", "No", "NO", "true", "True", "TRUE", "false", "False", "FALSE",
    "on", "On", "ON", "off", "Off", "OFF"].contains s

def looksNull (s : String) : Bool :=
  ["~", "null", "Null", "NULL", ""].contains s

def nDigits (n : Nat) (s : List Char) : Bool := s.length == n && s.all isDigitChar

def fewDigits (s : List Char) : Bool := (s.length == 1 || s.length == 2) && s.all isDigitChar

/-- The parts of a timestamp: year, month, day, and then, when there is a time, hour, minute,
second, fraction digits and zone (`Z`, or a sign with hours and optional minutes). -/
structure StampParts where
  year : List Char
  month : List Char
  day : List Char
  time : Option (List Char × List Char × List Char × List Char × Option (Option (Char × List Char × List Char)))

def digitRun (s : List Char) : List Char × List Char := s.span isDigitChar

def readZone (s : List Char) : Option (Option (Option (Char × List Char × List Char))) :=
  if s.isEmpty then some none else
  let s := s.dropWhile fun c => c == ' ' || c == '\t'
  match s with
  | [] => none
  | ['Z'] => some (some none)
  | sign :: rest =>
    if sign == '+' || sign == '-' then
      let (h, rest) := digitRun rest
      if !fewDigits h then none
      else match rest with
        | [] => some (some (some (sign, h, [])))
        | ':' :: m => if nDigits 2 m then some (some (some (sign, h, m))) else none
        | _ => none
    else none

def readStamp (s : List Char) (strict : Bool) : Option StampParts := do
  let (year, rest) := digitRun s
  if !nDigits 4 year then none
  let rest ← match rest with | '-' :: r => some r | _ => none
  let (month, rest) := digitRun rest
  if !fewDigits month then none
  let rest ← match rest with | '-' :: r => some r | _ => none
  let (day, rest) := digitRun rest
  if !fewDigits day then none
  if rest.isEmpty then
    if strict && !(month.length == 2 && day.length == 2) then none
    return ⟨year, month, day, none⟩
  let rest ← match rest with
    | 'T' :: r => some r
    | 't' :: r => some r
    | c :: r => if c == ' ' || c == '\t' then some (r.dropWhile fun c => c == ' ' || c == '\t') else none
    | [] => none
  let (hour, rest) := digitRun rest
  if !fewDigits hour then none
  let rest ← match rest with | ':' :: r => some r | _ => none
  let (minute, rest) := digitRun rest
  if !nDigits 2 minute then none
  let rest ← match rest with | ':' :: r => some r | _ => none
  let (second, rest) := digitRun rest
  if !nDigits 2 second then none
  let (fraction, rest) := match rest with
    | '.' :: r => digitRun r
    | r => ([], r)
  let zone ← readZone rest
  return ⟨year, month, day, some (hour, minute, second, fraction, zone)⟩

def looksStamp (s : List Char) : Bool := (readStamp s true).isSome

def dropFinalFeed (s : String) : List Char :=
  match s.toList.reverse with
  | '\n' :: rest => rest.reverse
  | _ => s.toList

def resolveScalar (value : String) : String :=
  let cs := dropFinalFeed value
  let first := value.toList.headD '\x00'
  let t := String.ofList cs
  if value.isEmpty then coreTag "null"
  else if "yYnNtTfFoO".toList.contains first && looksBool t then coreTag "bool"
  else if "-+0123456789.".toList.contains first && looksFloat cs then coreTag "float"
  else if "-+0123456789".toList.contains first && looksInt cs then coreTag "int"
  else if first == '<' && t == "<<" then coreTag "merge"
  else if "~nN".toList.contains first && looksNull t then coreTag "null"
  else if "0123456789".toList.contains first && looksStamp cs then coreTag "timestamp"
  else if first == '=' && t == "=" then coreTag "value"
  else coreTag "str"

/-- What an anchor names: a finished node, or a collection still being read, opened when
`level` collections were open around it. -/
inductive Anchored where
  | done (n : Node)
  | open (n : Node) (level : Nat)

/-- The composer's state: the parser, the anchors of the document, and the number of
collections open. -/
structure Composer where
  parser : Parser
  anchors : List (String × Anchored) := []
  level : Nat := 0

/-- Composing steps. -/
abbrev ComposeM := StateT Composer (Except YamlError)

def onParser (m : ParseM α) : ComposeM α := do
  let c ← get
  match m.run c.parser with
  | .ok (a, p) =>
    set { c with parser := p }
    pure a
  | .error e => throw e

def composeError (context : Option String) (contextMark : Option Mark) (problem : String)
    (problemMark : Mark) : ComposeM α :=
  throw (.marked ⟨context, contextMark, problem, some problemMark⟩)

def setAnchor (name : Option String) (a : Anchored) : ComposeM Unit :=
  match name with
  | none => pure ()
  | some n => modify fun c => { c with anchors := (c.anchors.filter (·.1 != n)) ++ [(n, a)] }

mutual

def composeNode : Nat → ComposeM Node
  | 0 => throw (.other "RecursionError" "maximum recursion depth exceeded")
  | fuel + 1 => do
    let e ← onParser peekEvent
    if let .alias name := e.kind then
      let _ ← onParser takeEvent
      match (← get).anchors.lookup name with
      | some (.done n) => return n
      | some (.open n level) => return .recur ((← get).level - level - 1) n
      | none => composeError none none ("found undefined alias " ++ Text.quote name) e.start
    if let some name := e.anchor then
      if let some a := (← get).anchors.lookup name then
        let first := match a with | .done n => n.start | .open n _ => n.start
        composeError (some ("found duplicate anchor " ++ Text.quote name ++ "; first occurrence"))
          (some first) "second occurrence" e.start
    match e.kind with
    | .scalar anchor tag implicit value =>
      let _ ← onParser takeEvent
      let tag := match tag with
        | some t => if t == "!" then (if implicit.1 then resolveScalar value else coreTag "str") else t
        | none => if implicit.1 then resolveScalar value else coreTag "str"
      let n := Node.scalar tag value e.start e.stop
      setAnchor anchor (.done n)
      pure n
    | .sequenceStart anchor tag _ =>
      let _ ← onParser takeEvent
      let tag := match tag with
        | some t => if t == "!" then coreTag "seq" else t
        | none => coreTag "seq"
      let level := (← get).level
      setAnchor anchor (.open (.sequence tag [] e.start e.start) level)
      modify fun c => { c with level := level + 1 }
      let (items, stop) ← composeItems fuel
      modify fun c => { c with level := level }
      let n := Node.sequence tag items e.start stop
      setAnchor anchor (.done n)
      pure n
    | .mappingStart anchor tag _ =>
      let _ ← onParser takeEvent
      let tag := match tag with
        | some t => if t == "!" then coreTag "map" else t
        | none => coreTag "map"
      let level := (← get).level
      setAnchor anchor (.open (.mapping tag [] e.start e.start) level)
      modify fun c => { c with level := level + 1 }
      let (entries, stop) ← composeEntries fuel
      modify fun c => { c with level := level }
      let n := Node.mapping tag entries e.start stop
      setAnchor anchor (.done n)
      pure n
    | _ => composeError none none "expected a node" e.start

def composeItems : Nat → ComposeM (List Node × Mark)
  | 0 => throw (.other "RecursionError" "maximum recursion depth exceeded")
  | fuel + 1 => do
    let e ← onParser peekEvent
    if let .sequenceEnd := e.kind then
      let _ ← onParser takeEvent
      return ([], e.stop)
    let n ← composeNode fuel
    let (rest, stop) ← composeItems fuel
    pure (n :: rest, stop)

def composeEntries : Nat → ComposeM (List (Node × Node) × Mark)
  | 0 => throw (.other "RecursionError" "maximum recursion depth exceeded")
  | fuel + 1 => do
    let e ← onParser peekEvent
    if let .mappingEnd := e.kind then
      let _ ← onParser takeEvent
      return ([], e.stop)
    let k ← composeNode fuel
    let v ← composeNode fuel
    let (rest, stop) ← composeEntries fuel
    pure ((k, v) :: rest, stop)

end

/-- The single document of a text, or nothing for an empty stream; a second document is an
error. -/
def composeSingle : ComposeM (Option Node) := do
  let _ ← onParser takeEvent
  let fuel := 4 * (← get).parser.scanner.buf.size + 16
  let e ← onParser peekEvent
  let doc ← match e.kind with
    | .streamEnd => pure none
    | _ => do
      let _ ← onParser takeEvent
      let n ← composeNode fuel
      let _ ← onParser takeEvent
      modify fun c => { c with anchors := [] }
      pure (some n)
  let e ← onParser peekEvent
  match e.kind with
  | .streamEnd => pure doc
  | _ =>
    let e ← onParser takeEvent
    composeError (some "expected a single document in the stream")
      (doc.map Node.start) "but found another document" e.start

end BuildGate.Yaml
