import BuildGate.Text.Literal

namespace BuildGate.Yaml

/-- A position in the text being read. -/
structure Mark where
  index : Nat
  line : Nat
  column : Nat
  deriving Repr, BEq, Inhabited

def isLineEnd (c : Char) : Bool :=
  c == '\x00' || c == '\r' || c == '\n' || c == '\x85' || c == '\u2028' || c == '\u2029'

def snippetParts (buf : Array Char) (pointer : Nat) : String × Nat :=
  let rec back (start : Nat) : Nat → Nat × Bool
    | 0 => (start, false)
    | fuel + 1 =>
      if start > 0 && !isLineEnd (buf.getD (start - 1) '\x00') then
        let start := start - 1
        if pointer - start > 36 then (start + 5, true) else back start fuel
      else (start, false)
  let rec fwd (stop : Nat) : Nat → Nat × Bool
    | 0 => (stop, false)
    | fuel + 1 =>
      if stop < buf.size && !isLineEnd (buf.getD stop '\x00') then
        let stop := stop + 1
        if stop - pointer > 36 then (stop - 5, true) else fwd stop fuel
      else (stop, false)
  let (start, cutHead) := back pointer (pointer + 1)
  let (stop, cutTail) := fwd pointer (buf.size + 1)
  let head := if cutHead then " ... " else ""
  let tail := if cutTail then " ... " else ""
  let body := String.ofList (buf.extract start stop).toList
  ("    " ++ head ++ body ++ tail, 4 + (pointer - start) + head.length)

def Mark.render (buf : Array Char) (m : Mark) : String :=
  let (line, caret) := snippetParts buf m.index
  "  in \"<unicode string>\", line " ++ toString (m.line + 1) ++ ", column " ++
    toString (m.column + 1) ++ ":\n" ++ line ++ "\n" ++ String.ofList (List.replicate caret ' ') ++ "^"

/-- An error of reading YAML: what was being read and where it began, what went wrong and
where. -/
structure MarkedError where
  context : Option String := none
  contextMark : Option Mark := none
  problem : String
  problemMark : Option Mark := none
  deriving Repr, Inhabited

/-- Why a YAML text cannot be read. -/
inductive YamlError where
  | badCharacter (index : Nat) (code : Nat)
  | marked (e : MarkedError)
  | other (kind message : String)
  deriving Repr, Inhabited

/-- The message of an error: the context and its mark (left out when it is the problem's
mark), the problem and its mark, one per line. -/
def YamlError.message (buf : Array Char) : YamlError → String
  | .badCharacter index code =>
    let hex := Text.hexPad (max 4 (Nat.toDigits 16 code).length) code
    "unacceptable character #x" ++ hex ++ ": special characters are not allowed\n" ++
      "  in \"<unicode string>\", position " ++ toString index
  | .marked e =>
    let showContext := match e.contextMark, e.problemMark with
      | some c, some p => c.line != p.line || c.column != p.column
      | some _, none => true
      | none, _ => false
    let parts :=
      (match e.context with | some c => [c] | none => []) ++
      (if showContext then (match e.contextMark with | some m => [m.render buf] | none => [])
       else []) ++
      [e.problem] ++
      (match e.problemMark with | some m => [m.render buf] | none => [])
    "\n".intercalate parts
  | .other _ m => m

def charText (c : Char) : String := Text.quote (String.singleton c)

end BuildGate.Yaml
