import BuildGate.Text.Classes

namespace BuildGate.Console

/-- The kind of a constant. -/
inductive ConstKind where
  | int
  | float
  | imaginary
  | text
  | bytes
  | formatted
  | other
  deriving Repr, BEq, DecidableEq, Inhabited

/-- A token of a literal. -/
inductive LitToken where
  | const (k : ConstKind)
  | name (s : String)
  | punct (s : String)
  deriving Repr, BEq, Inhabited

def isNameStart (c : Char) : Bool := c.isAlpha || c == '_'

def isNameChar (c : Char) : Bool := c.isAlphanum || c == '_'

def isHexDigit (c : Char) : Bool := c.isDigit || ('a' ≤ c && c ≤ 'f') || ('A' ≤ c && c ≤ 'F')

/-- The digits of a part of a number, single underscores allowed between them: the part and
the rest, when it starts with a digit and no underscore is misplaced. -/
def digitRun (ok : Char → Bool) (cs : List Char) : Option (List Char × List Char) :=
  let run := cs.takeWhile fun c => ok c || c == '_'
  let rest := cs.drop run.length
  match run with
  | [] => none
  | c :: _ =>
    if c == '_' || run.getLast? == some '_' then none
    else if (run.zip run.tail).any (fun (a, b) => a == '_' && b == '_') then none
    else some (run, rest)

def exponentPart (cs : List Char) : Option (Option (List Char × List Char)) :=
  match cs with
  | e :: rest =>
    if e == 'e' || e == 'E' then
      let rest := match rest with
        | s :: more => if s == '+' || s == '-' then more else rest
        | [] => rest
      match digitRun Char.isDigit rest with
      | some (d, after) => some (some (d, after))
      | none => none
    else some none
  | [] => some none

def numberEnd (k : ConstKind) (rest : List Char) : Option (ConstKind × List Char) :=
  match rest with
  | c :: more =>
    if (c == 'j' || c == 'J') && k != .int then
      match more with
      | d :: _ => if isNameChar d then none else some (.imaginary, more)
      | [] => some (.imaginary, more)
    else if isNameChar c then none
    else some (k, rest)
  | [] => some (k, rest)

def radixNumber (ok : Char → Bool) (cs : List Char) : Option (ConstKind × List Char) :=
  let cs := match cs with
    | '_' :: more => more
    | _ => cs
  match digitRun ok cs with
  | some (_, after) => numberEnd .int after
  | none => none

def decimalNumber (cs : List Char) : Option (ConstKind × List Char) :=
  let (whole, rest) := match digitRun Char.isDigit cs with
    | some (d, after) => (some d, after)
    | none => (none, cs)
  match rest with
  | '.' :: afterPoint =>
    let (frac, afterFrac) := match digitRun Char.isDigit afterPoint with
      | some (d, after) => (some d, after)
      | none => (none, afterPoint)
    if whole.isNone && frac.isNone then none
    else
      match exponentPart afterFrac with
      | some (some (_, after)) => numberEnd .float after
      | some none => numberEnd .float afterFrac
      | none => none
  | _ =>
    match whole with
    | none => none
    | some d =>
      match exponentPart rest with
      | some (some (_, after)) => numberEnd .float after
      | some none =>
        let leadingZero := d.head? == some '0' && d.any (fun c => c != '0' && c != '_')
        match rest with
        | c :: _ =>
          if c == 'j' || c == 'J' then numberEnd .float rest
          else if leadingZero then none
          else numberEnd .int rest
        | [] => if leadingZero then none else numberEnd .int rest
      | none => none

/-- Reads a number starting with a digit or a point: its kind and the rest, or nothing when it
is malformed. -/
def scanNumber (cs : List Char) : Option (ConstKind × List Char) :=
  match cs with
  | '0' :: x :: rest =>
    if x == 'x' || x == 'X' then radixNumber isHexDigit rest
    else if x == 'o' || x == 'O' then radixNumber (fun c => '0' ≤ c && c ≤ '7') rest
    else if x == 'b' || x == 'B' then radixNumber (fun c => c == '0' || c == '1') rest
    else decimalNumber cs
  | _ => decimalNumber cs

def hexDigitValue (c : Char) : Nat :=
  if c.isDigit then c.toNat - 48
  else if 'a' ≤ c && c ≤ 'f' then c.toNat - 87
  else c.toNat - 55

def hexValue (cs : List Char) : Nat := cs.foldl (fun n d => n * 16 + hexDigitValue d) 0

def escapesOk (isBytes : Bool) : List Char → Bool
  | '\\' :: c :: rest =>
    if c == 'x' then
      (rest.take 2).length == 2 && (rest.take 2).all isHexDigit && escapesOk isBytes (rest.drop 2)
    else if c == 'u' && !isBytes then
      (rest.take 4).length == 4 && (rest.take 4).all isHexDigit && escapesOk isBytes (rest.drop 4)
    else if c == 'U' && !isBytes then
      let h := rest.take 8
      h.length == 8 && h.all isHexDigit && hexValue h ≤ 0x10FFFF && escapesOk isBytes (rest.drop 8)
    else if c == 'N' && !isBytes then
      match rest with
      | '{' :: more =>
        let name := more.takeWhile (· != '}')
        !name.isEmpty && more.length > name.length && escapesOk isBytes (more.drop (name.length + 1))
      | _ => false
    else escapesOk isBytes rest
  | _ :: rest => escapesOk isBytes rest
  | [] => true
termination_by cs => cs.length
decreasing_by all_goals (simp only [List.length_drop, List.length_cons]; omega)

def stringBody (quote : Char) (triple : Bool) : Nat → List Char → List Char →
    Option (List Char × List Char)
  | 0, _, _ => none
  | _, _, [] => none
  | fuel + 1, acc, c :: rest =>
    if c == '\\' then
      match rest with
      | d :: more => stringBody quote triple fuel (acc ++ [c, d]) more
      | [] => none
    else if triple then
      if c == quote && rest.take 2 == [quote, quote] then some (acc, rest.drop 2)
      else stringBody quote triple fuel (acc ++ [c]) rest
    else if c == quote then some (acc, rest)
    else if c == '\n' then none
    else stringBody quote triple fuel (acc ++ [c]) rest

def stringPrefix (p : String) : Option (Bool × Bool × Bool) :=
  match p.toLower with
  | "" => some (false, false, false)
  | "u" => some (false, false, false)
  | "r" => some (true, false, false)
  | "b" => some (false, true, false)
  | "br" | "rb" => some (true, true, false)
  | "f" => some (false, false, true)
  | "fr" | "rf" => some (true, false, true)
  | _ => none

def scanString (pfx : String) (cs : List Char) : Option (ConstKind × List Char) :=
  match stringPrefix pfx, cs with
  | some (raw, isBytes, formatted), q :: rest =>
    let triple := rest.take 2 == [q, q]
    let body := if triple then rest.drop 2 else rest
    match stringBody q triple (body.length + 1) [] body with
    | some (inside, after) =>
      let asciiOk := !isBytes || inside.all (·.toNat < 128)
      let escOk := raw || escapesOk isBytes inside
      if asciiOk && escOk then
        some (if formatted then .formatted else if isBytes then .bytes else .text, after)
      else none
    | none => none
  | _, _ => none

def scanTokens (depth : Nat) : Nat → List Char → Option (List LitToken)
  | 0, _ => none
  | _, [] => some []
  | fuel + 1, cs@(c :: rest) =>
    if c == ' ' || c == '\t' || c == '\x0c' then scanTokens depth fuel rest
    else if c == '\\' then
      match rest with
      | '\n' :: more => scanTokens depth fuel more
      | _ => none
    else if c == '#' then scanTokens depth fuel (rest.dropWhile (· != '\n'))
    else if c == '\n' then
      if depth > 0 then scanTokens depth fuel rest
      else if rest.all (fun d => d == ' ' || d == '\t' || d == '\n') then some [] else none
    else if c == '(' || c == '{' then
      (scanTokens (depth + 1) fuel rest).map (.punct (String.singleton c) :: ·)
    else if c == ')' || c == '}' then
      (scanTokens (depth - 1) fuel rest).map (.punct (String.singleton c) :: ·)
    else if c == ',' || c == ':' || c == '+' || c == '-' then
      (scanTokens depth fuel rest).map (.punct (String.singleton c) :: ·)
    else if cs.take 3 == ['.', '.', '.'] then
      (scanTokens depth fuel (cs.drop 3)).map (.punct "..." :: ·)
    else if c.isDigit || (c == '.' && (rest.head?.map Char.isDigit).getD false) then
      match scanNumber cs with
      | some (k, after) => (scanTokens depth fuel after).map (.const k :: ·)
      | none => none
    else if c == '"' || c == '\'' then
      match scanString "" cs with
      | some (k, after) => (scanTokens depth fuel after).map (.const k :: ·)
      | none => none
    else if isNameStart c && c.toNat < 128 then
      let word := cs.takeWhile fun d => isNameChar d && d.toNat < 128
      let after := cs.drop word.length
      match after with
      | q :: _ =>
        if (q == '"' || q == '\'') && (stringPrefix (String.ofList word)).isSome then
          match scanString (String.ofList word) after with
          | some (k, more) => (scanTokens depth fuel more).map (.const k :: ·)
          | none => none
        else (scanTokens depth fuel after).map (.name (String.ofList word) :: ·)
      | [] => some [.name (String.ofList word)]
    else none

/-- The tree of a literal. -/
inductive LitNode where
  | const (k : ConstKind)
  | tuple (items : List LitNode)
  | set (items : List LitNode)
  | dict (keys values : List LitNode)
  | emptySet
  | signed (operand : LitNode)
  | sum (left right : LitNode)
  deriving Repr, Inhabited

mutual

def parseSum : Nat → List LitToken → Option (LitNode × List LitToken)
  | 0, _ => none
  | fuel + 1, ts => do
    let (first, rest) ← parseSigned fuel ts
    parseSumTail fuel first rest

def parseSumTail : Nat → LitNode → List LitToken → Option (LitNode × List LitToken)
  | 0, _, _ => none
  | fuel + 1, left, .punct op :: rest =>
    if op == "+" || op == "-" then do
      let (right, more) ← parseSigned fuel rest
      parseSumTail fuel (.sum left right) more
    else some (left, .punct op :: rest)
  | _ + 1, left, ts => some (left, ts)

def parseSigned : Nat → List LitToken → Option (LitNode × List LitToken)
  | 0, _ => none
  | fuel + 1, .punct op :: rest =>
    if op == "+" || op == "-" then do
      let (operand, more) ← parseSigned fuel rest
      pure (.signed operand, more)
    else parseAtom fuel (.punct op :: rest)
  | fuel + 1, ts => parseAtom fuel ts

def parseAtom : Nat → List LitToken → Option (LitNode × List LitToken)
  | 0, _ => none
  | _ + 1, .const k :: rest =>
    let strings := rest.takeWhile fun t => match t with
      | .const k' => k' == .text || k' == .bytes || k' == .formatted
      | _ => false
    let after := rest.drop strings.length
    let kinds := k :: strings.filterMap fun t => match t with
      | .const k' => some k'
      | _ => none
    if strings.isEmpty then some (.const k, rest)
    else if kinds.any (fun x => x != .text && x != .bytes && x != .formatted) then none
    else if kinds.all (· == .bytes) then some (.const .bytes, after)
    else if kinds.any (· == .bytes) then none
    else if kinds.any (· == .formatted) then some (.const .formatted, after)
    else some (.const .text, after)
  | _ + 1, .name "True" :: rest => some (.const .other, rest)
  | _ + 1, .name "False" :: rest => some (.const .other, rest)
  | _ + 1, .name "None" :: rest => some (.const .other, rest)
  | _ + 1, .name "set" :: .punct "(" :: .punct ")" :: rest => some (.emptySet, rest)
  | _ + 1, .punct "..." :: rest => some (.const .other, rest)
  | _ + 1, .punct "(" :: .punct ")" :: rest => some (.tuple [], rest)
  | fuel + 1, .punct "(" :: rest => do
    let (first, more) ← parseSum fuel rest
    match more with
    | .punct ")" :: after => pure (first, after)
    | .punct "," :: after =>
      let (items, after) ← parseItems fuel [first] after
      match after with
      | .punct ")" :: done => pure (.tuple items, done)
      | _ => none
    | _ => none
  | _ + 1, .punct "\x7b" :: .punct "\x7d" :: rest => some (.dict [] [], rest)
  | fuel + 1, .punct "\x7b" :: rest => do
    let (first, more) ← parseSum fuel rest
    match more with
    | .punct ":" :: afterColon =>
      let (value, after) ← parseSum fuel afterColon
      let (pairs, after) ← parsePairs fuel [(first, value)] after
      match after with
      | .punct "\x7d" :: done => pure (.dict (pairs.map (·.1)) (pairs.map (·.2)), done)
      | _ => none
    | .punct "\x7d" :: done => pure (.set [first], done)
    | .punct "," :: after =>
      let (items, after) ← parseItems fuel [first] after
      match after with
      | .punct "\x7d" :: done => pure (.set items, done)
      | _ => none
    | _ => none
  | _ + 1, _ => none

def parseItems : Nat → List LitNode → List LitToken → Option (List LitNode × List LitToken)
  | 0, _, _ => none
  | _ + 1, items, ts@(.punct ")" :: _) => some (items, ts)
  | _ + 1, items, ts@(.punct "\x7d" :: _) => some (items, ts)
  | _ + 1, items, [] => some (items, [])
  | fuel + 1, items, ts => do
    let (item, more) ← parseSum fuel ts
    match more with
    | .punct "," :: after => parseItems fuel (items ++ [item]) after
    | _ => pure (items ++ [item], more)

def parsePairs : Nat → List (LitNode × LitNode) → List LitToken →
    Option (List (LitNode × LitNode) × List LitToken)
  | 0, _, _ => none
  | _ + 1, pairs, ts@(.punct "\x7d" :: _) => some (pairs, ts)
  | fuel + 1, pairs, .punct "," :: rest =>
    match rest with
    | .punct "\x7d" :: _ => some (pairs, rest)
    | _ => do
      let (key, more) ← parseSum fuel rest
      match more with
      | .punct ":" :: afterColon =>
        let (value, after) ← parseSum fuel afterColon
        parsePairs fuel (pairs ++ [(key, value)]) after
      | _ => none
  | _ + 1, pairs, ts => some (pairs, ts)

end

def parseValue (ts : List LitToken) : Option LitNode := do
  let fuel := 4 * ts.length + 4
  let (first, rest) ← parseSum fuel ts
  match rest with
  | [] => pure first
  | .punct "," :: after =>
    let (items, done) ← parseItems fuel [first] after
    if done.isEmpty then pure (.tuple items) else none
  | _ => none

def LitNode.number? : LitNode → Option ConstKind
  | .const k => if k == .int || k == .float || k == .imaginary then some k else none
  | _ => none

def LitNode.signedNumber? : LitNode → Option ConstKind
  | .signed n => n.number?
  | n => n.number?

def valueShape : LitNode → Option Bool
  | .const k => if k == .formatted then none else some true
  | .tuple items =>
    let shapes := items.attach.map fun ⟨n, _⟩ => valueShape n
    if shapes.all Option.isSome then some (shapes.all (· == some true)) else none
  | .set items =>
    let shapes := items.attach.map fun ⟨n, _⟩ => valueShape n
    if shapes.all (· == some true) then some false else none
  | .dict keys values =>
    let keyShapes := keys.attach.map fun ⟨n, _⟩ => valueShape n
    let valueShapes := values.attach.map fun ⟨n, _⟩ => valueShape n
    if keyShapes.all (· == some true) && valueShapes.all Option.isSome then some false else none
  | .emptySet => some false
  | .signed n => n.number?.map fun _ => true
  | .sum l r =>
    match l.signedNumber?, r.number? with
    | some lk, some .imaginary => if lk != .imaginary then some true else none
    | _, _ => none

def isLiteral (cs : List Char) : Bool :=
  let cs := cs.dropWhile fun c => c == ' ' || c == '\t'
  match scanTokens 0 (cs.length + 1) cs with
  | some ts => match parseValue ts with
    | some node => (valueShape node).isSome
    | none => false
  | none => false

def isHandlerChar (c : Char) : Bool := isNameChar c || (c.toNat ≥ 128 && !Text.isBlank c)

/-- Whether the parameters of a handler tag are accepted: after a leading handler name (unless
the parameters span lines), the rest must be a literal value. -/
def literalAccepted (params : List Char) : Bool :=
  let trimmed := ((params.dropWhile Text.isBlank).reverse.dropWhile Text.isBlank).reverse
  if trimmed.contains '\n' then isLiteral trimmed
  else isLiteral (trimmed.dropWhile isHandlerChar)

end BuildGate.Console
