import BuildGate.Yaml.Token

namespace BuildGate.Yaml

/-- Where a scalar that may turn out to be a simple key began. -/
structure SimpleKey where
  tokenNumber : Nat
  required : Bool
  index : Nat
  line : Nat
  column : Nat
  mark : Mark
  deriving Repr, Inhabited

/-- The state of the scanner. -/
structure Scanner where
  buf : Array Char
  index : Nat := 0
  line : Nat := 0
  column : Nat := 0
  done : Bool := false
  flowLevel : Int := 0
  tokens : List Token := []
  tokensTaken : Nat := 0
  indent : Int := -1
  indents : List Int := []
  allowSimpleKey : Bool := true
  simpleKeys : List (Int × SimpleKey) := []
  deriving Inhabited

/-- Scanning steps: they change the scanner or fail. -/
abbrev ScanM := StateT Scanner (Except YamlError)

def isBreakOrEnd (c : Char) : Bool :=
  c == '\x00' || c == '\r' || c == '\n' || c == '\x85' || c == '\u2028' || c == '\u2029'

def isBreak (c : Char) : Bool :=
  c == '\r' || c == '\n' || c == '\x85' || c == '\u2028' || c == '\u2029'

def isBlankOrEnd (c : Char) : Bool :=
  c == ' ' || c == '\t' || isBreakOrEnd c

def isSpaceOrEnd (c : Char) : Bool :=
  c == ' ' || isBreakOrEnd c

def isWordChar (c : Char) : Bool :=
  ('0' ≤ c && c ≤ '9') || ('A' ≤ c && c ≤ 'Z') || ('a' ≤ c && c ≤ 'z') || c == '-' || c == '_'

def isHexChar (c : Char) : Bool :=
  ('0' ≤ c && c ≤ '9') || ('A' ≤ c && c ≤ 'F') || ('a' ≤ c && c ≤ 'f')

def hexText (s : String) : Nat :=
  s.toList.foldl (fun n c =>
    16 * n + (if c ≤ '9' then c.toNat - 48 else if c ≤ 'F' then c.toNat - 55 else c.toNat - 87)) 0

namespace Scanner

def ofText (text : String) : Scanner :=
  { buf := (text.toList ++ ['\x00']).toArray,
    tokens := [⟨.streamStart, ⟨0, 0, 0⟩, ⟨0, 0, 0⟩⟩] }

def peek (s : Scanner) (k : Nat := 0) : Char := s.buf.getD (s.index + k) '\x00'

def ahead (s : Scanner) (n : Nat) : String :=
  String.ofList (s.buf.extract s.index (s.index + n)).toList

def mark (s : Scanner) : Mark := ⟨s.index, s.line, s.column⟩

def forward1 (s : Scanner) : Scanner :=
  let ch := s.peek
  let s := { s with index := s.index + 1 }
  if ch == '\n' || ch == '\x85' || ch == '\u2028' || ch == '\u2029' ||
      (ch == '\r' && s.peek != '\n') then
    { s with line := s.line + 1, column := 0 }
  else if ch != '\ufeff' then { s with column := s.column + 1 }
  else s

def forward (s : Scanner) : Nat → Scanner
  | 0 => s
  | n + 1 => (s.forward1).forward n

def spanAt (s : Scanner) (p : Char → Bool) (k : Nat) : Nat :=
  go (s.index + k) 0 (s.buf.size + 1)
where
  go (i acc : Nat) : Nat → Nat
    | 0 => acc
    | fuel + 1 => if i < s.buf.size && p (s.buf.getD i '\x00') then go (i + 1) (acc + 1) fuel else acc

def span (s : Scanner) (p : Char → Bool) : Nat := s.spanAt p 0

def atSeparator (s : Scanner) : Bool :=
  (s.ahead 3 == "---" || s.ahead 3 == "...") && isBlankOrEnd (s.peek 3)

end Scanner

def scanError (context : Option String) (contextMark : Option Mark) (problem : String) :
    ScanM α := do
  let s ← get
  throw (.marked { context, contextMark, problem, problemMark := some s.mark })

def advance (n : Nat := 1) : ScanM Unit := modify (·.forward n)

/-- Reads a line break, if one is ahead: `\r\n`, `\r`, `\n` and U+0085 read as `\n`, U+2028
and U+2029 as themselves; otherwise reads nothing and gives `""`. -/
def scanLineBreak : ScanM String := do
  let s ← get
  let ch := s.peek
  if ch == '\r' || ch == '\n' || ch == '\x85' then
    if s.ahead 2 == "\r\n" then advance 2 else advance 1
    pure "\n"
  else if ch == '\u2028' || ch == '\u2029' then
    advance 1
    pure (String.singleton ch)
  else pure ""

def skipSpaces : ScanM Unit := do
  let s ← get
  advance (s.span (· == ' '))

def skipComment : ScanM Unit := do
  let s ← get
  if s.peek == '#' then advance (s.span fun c => !isBreakOrEnd c)

def lostKey (k : SimpleKey) (s : Scanner) : YamlError :=
  .marked ⟨some "while scanning a simple key", some k.mark, "could not find expected ':'",
    some s.mark⟩

def nextPossibleSimpleKey (s : Scanner) : Option Nat :=
  s.simpleKeys.foldl (fun acc p =>
    match acc with
    | none => some p.2.tokenNumber
    | some m => some (min m p.2.tokenNumber)) none

/-- Forgets possible simple keys that can no longer be keys: a key must stand on one line and
within 1024 characters. A required key that goes stale is an error. -/
def stalePossibleSimpleKeys : ScanM Unit := do
  let s ← get
  let stale (k : SimpleKey) : Bool := k.line != s.line || s.index - k.index > 1024
  match s.simpleKeys.find? (fun p => stale p.2 && p.2.required) with
  | some (_, k) => throw (lostKey k s)
  | none => set { s with simpleKeys := s.simpleKeys.filter fun p => !stale p.2 }

def removePossibleSimpleKey : ScanM Unit := do
  let s ← get
  match s.simpleKeys.lookup s.flowLevel with
  | some k =>
    if k.required then throw (lostKey k s)
    set { s with simpleKeys := s.simpleKeys.filter (·.1 != s.flowLevel) }
  | none => pure ()

def savePossibleSimpleKey : ScanM Unit := do
  let s ← get
  let required := s.flowLevel == 0 && s.indent == (s.column : Int)
  if s.allowSimpleKey then
    removePossibleSimpleKey
    let s ← get
    let k : SimpleKey := ⟨s.tokensTaken + s.tokens.length, required, s.index, s.line, s.column, s.mark⟩
    set { s with simpleKeys := s.simpleKeys ++ [(s.flowLevel, k)] }

def pushToken (t : Token) : ScanM Unit := modify fun s => { s with tokens := s.tokens ++ [t] }

def unwindIndent (column : Int) : ScanM Unit := do
  let s ← get
  if s.flowLevel != 0 then return
  go column s.indents.length
where
  go (column : Int) : Nat → ScanM Unit
    | 0 => pure ()
    | fuel + 1 => do
      let s ← get
      if s.indent > column then
        let m := s.mark
        match s.indents with
        | i :: rest =>
          set { s with indent := i, indents := rest, tokens := s.tokens ++ [({ kind := .blockEnd, start := m, stop := m } : Token)] }
          go column fuel
        | [] => pure ()
      else pure ()

def addIndent (column : Int) : ScanM Bool := do
  let s ← get
  if s.indent < column then
    set { s with indents := s.indent :: s.indents, indent := column }
    pure true
  else pure false

end BuildGate.Yaml
