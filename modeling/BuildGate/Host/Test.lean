import BuildGate.Host.Tools

namespace BuildGate.Host

/-- The kinds of the words of a condition. -/
inductive TestWord where
  | unary
  | binary
  | negation
  | andOp
  | orOp
  | openParen
  | closeParen
  deriving Repr, BEq, Inhabited

def testWord (s : String) : Option TestWord :=
  if ["-r", "-w", "-x", "-e", "-f", "-d", "-c", "-b", "-p", "-u", "-g", "-k", "-s", "-t", "-z",
      "-n", "-h", "-O", "-G", "-L", "-S"].contains s then some .unary
  else if ["=", "!=", "<", ">", "-eq", "-ne", "-ge", "-gt", "-le", "-lt", "-nt", "-ot",
      "-ef"].contains s then some .binary
  else if s == "!" then some .negation
  else if s == "-a" then some .andOp
  else if s == "-o" then some .orOp
  else if s == "(" then some .openParen
  else if s == ")" then some .closeParen
  else none

def testEntry (t : Fs.Tree) (cwd : List String) (follow : Bool) (a : String) :
    Option (List String × Fs.Entry) :=
  if a.isEmpty then none
  else
    match t.lookup follow (absoluteFrom cwd a) with
    | .ok (phys, some e) => some (phys, e)
    | _ => none

def pathTest (t : Fs.Tree) (cwd : List String) (op a : String) : Bool :=
  let device (phys : List String) := isNullDevice phys || isZeroDevice phys
  let modeOf : Fs.Entry → Nat
    | .file _ m => m
    | .dir => 0o755
    | .link _ => 0o777
  match testEntry t cwd (op != "-h" && op != "-L") a with
  | none => false
  | some (phys, e) =>
    match op with
    | "-e" | "-r" | "-w" | "-O" | "-G" => true
    | "-f" => (match e with | .file _ _ => !device phys | _ => false)
    | "-d" => e == .dir
    | "-c" => device phys
    | "-h" | "-L" => (match e with | .link _ => true | _ => false)
    | "-s" => (match e with | .file bs _ => !bs.isEmpty | .dir => true | .link _ => true)
    | "-x" => modeOf e &&& 0o111 != 0
    | "-u" => modeOf e &&& 0o4000 != 0
    | "-g" => modeOf e &&& 0o2000 != 0
    | "-k" => modeOf e &&& 0o1000 != 0
    | _ => false

def sameFile (t : Fs.Tree) (cwd : List String) (a b : String) : Bool :=
  match testEntry t cwd true a, testEntry t cwd true b with
  | some (p, _), some (q, _) => p == q
  | _, _ => false

def shellInteger (s : String) : Option Int :=
  let isSpace (c : Char) := c == ' ' || ('\t' ≤ c && c ≤ '\r')
  let cs := s.toList.dropWhile isSpace
  let (neg, cs) := match cs with
    | '-' :: r => (true, r)
    | '+' :: r => (false, r)
    | _ => (false, cs)
  let ds := cs.takeWhile Char.isDigit
  if ds.isEmpty || !(cs.drop ds.length).all isSpace then none
  else
    let v : Int := (String.ofList ds).toNat?.getD 0
    let v := if neg then -v else v
    if v < -9223372036854775808 || v > 9223372036854775807 then none else some v

def wordAt (ws : List String) (i : Nat) : Option String := ws[i]?

def shellKind (ws : List String) (i : Nat) : Option (Option TestWord) :=
  match wordAt ws i with
  | none => none
  | some s =>
    match testWord s with
    | some .unary =>
      let operand : Bool := match wordAt ws (i + 1), wordAt ws (i + 2) with
        | none, _ => true
        | some _, none => false
        | some n, some _ => testWord n == some .binary
      some (cond operand none (some TestWord.unary))
    | some .openParen => some (if (wordAt ws (i + 1)).isNone then none else some .openParen)
    | k => some k

def shellBinary (t : Fs.Tree) (cwd : List String) (op a b : String) : Except String Bool := do
  let int (s : String) : Except String Int :=
    match shellInteger s with
    | some v => .ok v
    | none => .error ("Illegal number: " ++ s)
  match op with
  | "=" => pure (a == b)
  | "!=" => pure (a != b)
  | "<" => pure (compare a b == .lt)
  | ">" => pure (compare a b == .gt)
  | "-nt" | "-ot" => pure false
  | "-ef" => pure (sameFile t cwd (Raw.toText a) (Raw.toText b))
  | _ =>
    let x ← int a
    let y ← int b
    pure (match op with
      | "-eq" => x == y | "-ne" => x != y | "-ge" => x ≥ y | "-gt" => x > y
      | "-le" => x ≤ y | _ => x < y)

mutual

def shellOr (t : Fs.Tree) (cwd : List String) (ws : List String) :
    Nat → Nat → Except String (Bool × Nat)
  | 0, _ => .error "argument expected"
  | fuel + 1, i => do
    let (a, j) ← shellAnd t cwd ws fuel i
    if shellKind ws (j + 1) == some (some .orOp) then
      let (b, k) ← shellOr t cwd ws fuel (j + 2)
      pure (a || b, k)
    else pure (a, j)

def shellAnd (t : Fs.Tree) (cwd : List String) (ws : List String) :
    Nat → Nat → Except String (Bool × Nat)
  | 0, _ => .error "argument expected"
  | fuel + 1, i => do
    let (a, j) ← shellNot t cwd ws fuel i
    if shellKind ws (j + 1) == some (some .andOp) then
      let (b, k) ← shellAnd t cwd ws fuel (j + 2)
      pure (a && b, k)
    else pure (a, j)

def shellNot (t : Fs.Tree) (cwd : List String) (ws : List String) :
    Nat → Nat → Except String (Bool × Nat)
  | 0, _ => .error "argument expected"
  | fuel + 1, i =>
    if shellKind ws i == some (some .negation) then do
      let (a, j) ← shellNot t cwd ws fuel (i + 1)
      pure (!a, j)
    else shellPrimary t cwd ws fuel i

def shellPrimary (t : Fs.Tree) (cwd : List String) (ws : List String) :
    Nat → Nat → Except String (Bool × Nat)
  | 0, _ => .error "argument expected"
  | fuel + 1, i =>
    match shellKind ws i with
    | none => .ok (false, i - 1)
    | some (some .openParen) =>
      if shellKind ws (i + 1) == some (some .closeParen) then .ok (false, i + 1)
      else do
        let (a, j) ← shellOr t cwd ws fuel (i + 1)
        if shellKind ws (j + 1) == some (some .closeParen) then pure (a, j + 1)
        else .error "closing paren expected"
    | some (some .unary) =>
      let op := (wordAt ws i).getD ""
      match wordAt ws (i + 1) with
      | none => .error (op ++ ": argument expected")
      | some a =>
        match op with
        | "-n" => .ok (!a.isEmpty, i + 1)
        | "-z" => .ok (a.isEmpty, i + 1)
        | "-t" =>
          match shellInteger a with
          | some _ => .ok (false, i + 1)
          | none => .error ("Illegal number: " ++ a)
        | _ => .ok (pathTest t cwd op (Raw.toText a), i + 1)
    | some _ =>
      let a := (wordAt ws i).getD ""
      match wordAt ws (i + 1) with
      | some op =>
        if testWord op == some .binary then
          match wordAt ws (i + 2) with
          | none => .error (op ++ ": argument expected")
          | some b => do
            let r ← shellBinary t cwd op a b
            pure (r, i + 2)
        else .ok (!a.isEmpty, i)
      | none => .ok (!a.isEmpty, i)

end

def shellTest (t : Fs.Tree) (cwd : List String) (args : List String) : Except String Bool :=
  -- each word read passes through the four levels of the grammar at most once
  let fuel := 4 * args.length + 8
  let run (ws : List String) (negated : Bool) (direct : Bool) : Except String Bool := do
    let (v, j) ← if direct then
        match ws with
        | a :: op :: b :: _ => do
          let r ← shellBinary t cwd op a b
          pure (r, 2)
        | _ => shellOr t cwd ws fuel 0
      else shellOr t cwd ws fuel 0
    if (wordAt ws (j + 1)).isSome then
      .error ((wordAt ws j).getD "" ++ ": unexpected operator")
    else pure (v != negated)
  let rec check : Nat → List String → Bool → Except String Bool
    | 0, _, negated => .ok negated
    | fuel + 1, ws, negated =>
      match ws with
      | [] => .ok negated
      | _ =>
        let n := ws.length
        if n == 3 && testWord (ws.getD 1 "") == some .binary then run ws negated true
        else if (n == 3 || n == 4) && ws.headD "" == "(" && ws.getLastD "" == ")" then
          run (ws.drop 1).dropLast negated false
        else if (n == 3 || n == 4) && ws.headD "" == "!" then check fuel (ws.drop 1) true
        else run ws negated false
  check (args.length + 1) args false

def programInteger (s : String) : Option Int :=
  let isBlank (c : Char) := c == ' ' || c == '\t'
  let cs := s.toList.dropWhile isBlank
  let (neg, cs) := match cs with
    | '-' :: r => (true, r)
    | '+' :: r => (false, r)
    | _ => (false, cs)
  let ds := cs.takeWhile Char.isDigit
  if ds.isEmpty || !(cs.drop ds.length).all isBlank then none
  else
    let v : Int := (String.ofList ds).toNat?.getD 0
    some (if neg then -v else v)

def programBinop (s : String) : Bool :=
  ["=", "!=", "==", "-nt", "-ot", "-ef", "-eq", "-ne", "-lt", "-le", "-gt", "-ge", ">",
   "<"].contains s

/-- The program's reader: its arguments, the environment's quoting and the file tree. -/
structure TestReader where
  ws : List String
  quote : String → String
  fs : Fs.Tree
  cwd : List String

namespace TestReader

def at_ (r : TestReader) (i : Nat) : String := r.ws.getD i ""

def beyond (r : TestReader) : String :=
  "missing argument after " ++ r.quote (r.ws.getLastD "")

def int (r : TestReader) (s : String) : Except String Int :=
  match programInteger s with
  | some v => .ok v
  | none => .error ("invalid integer " ++ r.quote s)

/-- A binary comparison at `i` (`lenLeft` when the left operand is `-l word`): the value and
the position after it. -/
def binary (r : TestReader) (i : Nat) (lenLeft : Bool) : Except String (Bool × Nat) := do
  let i := if lenLeft then i + 1 else i
  let op := r.at_ (i + 1)
  let lenRight := i + 1 < r.ws.length - 2 && r.at_ (i + 2) == "-l"
  let left := r.at_ i
  let right := if lenRight then r.at_ (i + 3) else r.at_ (i + 2)
  let next := if lenRight then i + 4 else i + 3
  if ["-eq", "-ne", "-lt", "-le", "-gt", "-ge"].contains op then
    let x ← if lenLeft then pure (left.utf8ByteSize : Int) else r.int left
    let y ← if lenRight then pure (right.utf8ByteSize : Int) else r.int right
    let v := match op with
      | "-eq" => x == y | "-ne" => x != y | "-lt" => x < y | "-le" => x ≤ y
      | "-gt" => x > y | _ => x ≥ y
    pure (v, next)
  else if op == "-ef" then
    if lenLeft || lenRight then .error "-ef does not accept -l"
    else pure (sameFile r.fs r.cwd left right, next)
  else if op == "-nt" || op == "-ot" then
    if lenLeft || lenRight then .error (op ++ " does not accept -l")
    else
      let present (a : String) := (testEntry r.fs r.cwd true a).isSome
      pure (if op == "-nt" then present left && !present right
        else present right && !present left, next)
  else if op == "=" || op == "==" then pure (left == right, next)
  else if op == "!=" then pure (left != right, next)
  else if op == ">" then pure (compare left right == .gt, next)
  else pure (compare left right == .lt, next)

def unary (r : TestReader) (i : Nat) : Except String (Bool × Nat) := do
  let op := r.at_ i
  let known := ["-e", "-r", "-w", "-x", "-N", "-O", "-G", "-f", "-d", "-s", "-S", "-c", "-b",
    "-p", "-L", "-h", "-u", "-g", "-k", "-t", "-n", "-z"]
  if !known.contains op then .error (r.quote op ++ ": unary operator expected")
  if i + 1 ≥ r.ws.length then .error r.beyond
  let a := r.at_ (i + 1)
  match op with
  | "-n" => pure (!a.isEmpty, i + 2)
  | "-z" => pure (a.isEmpty, i + 2)
  | "-t" =>
    let _ ← r.int a
    pure (false, i + 2)
  | "-N" => pure (false, i + 2)
  | _ => pure (pathTest r.fs r.cwd op a, i + 2)

mutual

def posix (r : TestReader) : Nat → Nat → Nat → Except String (Bool × Nat)
  | 0, _, _ => .error "argument expected"
  | fuel + 1, i, count =>
    match count with
    | 1 => pure (!(r.at_ i).isEmpty, i + 1)
    | 2 => r.two fuel i
    | 3 => r.three fuel i
    | 4 =>
      if r.at_ i == "!" then
        if i + 1 ≥ r.ws.length then .error r.beyond
        else do
          let (v, j) ← r.three fuel (i + 1)
          pure (!v, j)
      else if r.at_ i == "(" && r.at_ (i + 3) == ")" then do
        let (v, j) ← r.two fuel (i + 1)
        pure (v, j + 1)
      else r.orExpr fuel i
    | _ => r.orExpr fuel i

def two (r : TestReader) : Nat → Nat → Except String (Bool × Nat)
  | 0, _ => .error "argument expected"
  | _ + 1, i =>
    let a := r.at_ i
    if a == "!" then pure ((r.at_ (i + 1)).isEmpty, i + 2)
    else if a.startsWith "-" && a.length == 2 then r.unary i
    else .error r.beyond

/-- Three arguments: a binary comparison, a negated pair, a parenthesized word, or a chain
of `-a` or `-o`. -/
def three (r : TestReader) : Nat → Nat → Except String (Bool × Nat)
  | 0, _ => .error "argument expected"
  | fuel + 1, i =>
    if programBinop (r.at_ (i + 1)) then r.binary i false
    else if r.at_ i == "!" then
      if i + 1 ≥ r.ws.length then .error r.beyond
      else do
        let (v, j) ← r.two fuel (i + 1)
        pure (!v, j)
    else if r.at_ i == "(" && r.at_ (i + 2) == ")" then pure (!(r.at_ (i + 1)).isEmpty, i + 3)
    else if r.at_ (i + 1) == "-a" || r.at_ (i + 1) == "-o" then r.orExpr fuel i
    else .error (r.quote (r.at_ (i + 1)) ++ ": binary operator expected")

def orExpr (r : TestReader) : Nat → Nat → Except String (Bool × Nat)
  | 0, _ => .error "argument expected"
  | fuel + 1, i => do
    if i ≥ r.ws.length then .error r.beyond
    let (a, j) ← r.andExpr fuel i
    if j < r.ws.length && r.at_ j == "-o" then
      let (b, k) ← r.orExpr fuel (j + 1)
      pure (a || b, k)
    else pure (a, j)

def andExpr (r : TestReader) : Nat → Nat → Except String (Bool × Nat)
  | 0, _ => .error "argument expected"
  | fuel + 1, i => do
    let (a, j) ← r.term fuel i
    if j < r.ws.length && r.at_ j == "-a" then
      let (b, k) ← r.andExpr fuel (j + 1)
      pure (a && b, k)
    else pure (a, j)

def term (r : TestReader) : Nat → Nat → Except String (Bool × Nat)
  | 0, _ => .error "argument expected"
  | fuel + 1, i =>
    if i < r.ws.length && r.at_ i == "!" then
      if i + 1 ≥ r.ws.length then .error r.beyond
      else do
        let (v, j) ← r.term fuel (i + 1)
        pure (!v, j)
    else if i ≥ r.ws.length then .error r.beyond
    else if r.at_ i == "(" then
      if i + 1 ≥ r.ws.length then .error r.beyond
      else
        let start := i + 1
        let close := ((List.range 4).map (· + 1)).find? fun k =>
          start + k ≥ r.ws.length || r.at_ (start + k) == ")"
        let count := close.getD (r.ws.length - start)
        do
          let (v, j) ← r.posix fuel start count
          if j ≥ r.ws.length then .error (r.quote ")" ++ " expected")
          else if r.at_ j != ")" then
            .error (r.quote ")" ++ " expected, found " ++ r.quote (r.at_ j))
          else pure (v, j + 1)
    else if r.ws.length - i ≥ 4 && r.at_ i == "-l" && programBinop (r.at_ (i + 2)) then
      r.binary i true
    else if r.ws.length - i ≥ 3 && programBinop (r.at_ (i + 1)) then r.binary i false
    else
      let a := r.at_ i
      if a.startsWith "-" && a.length == 2 then r.unary i
      else pure (!a.isEmpty, i + 1)

end

end TestReader

def programTest (t : Fs.Tree) (cwd : List String) (quote : String → String)
    (args : List String) : Except String Bool := do
  if args.isEmpty then return false
  let r : TestReader := { ws := args, quote, fs := t, cwd }
  -- each word read passes through the levels of the grammar a bounded number of times
  let (v, j) ← r.posix (4 * args.length + 8) 0 args.length
  if j != args.length then .error ("extra argument " ++ quote (r.at_ j))
  pure v

end BuildGate.Host
