import BuildGate.Shell.Format

namespace BuildGate.Shell

/-- A binary operator of arithmetic. -/
inductive BinOp where
  | mul | div | rem | add | sub | shl | shr | lt | le | gt | ge | eq | ne | band | bxor | bor
  deriving Repr, BEq, DecidableEq, Inhabited

def BinOp.rank : BinOp → Nat
  | .mul | .div | .rem => 0
  | .add | .sub => 1
  | .shl | .shr => 2
  | .lt | .le | .gt | .ge => 3
  | .eq | .ne => 4
  | .band => 5
  | .bxor => 6
  | .bor => 7

def BinOp.loosest : Nat := 8

/-- A token of an arithmetic expression. -/
inductive ArithToken where
  | num (v : Int64)
  | var (name : String)
  | bin (op : BinOp)
  | assign (op : Option BinOp)
  | andAnd | orOr | not | bnot | lparen | rparen | question | colon
  | bad
  | eof
  deriving Repr, BEq, Inhabited

/-- What stops an arithmetic expansion. -/
inductive ArithError where
  | expecting (what : String)
  | divisionByZero
  | quotientOverflow
  | illegalNumber (text : String)
  deriving Repr, BEq, Inhabited

def ArithError.message (expr : String) : ArithError → String
  | .expecting what => "arithmetic expression: expecting " ++ what ++ ": \"" ++ expr ++ "\""
  | .divisionByZero => "arithmetic expression: division by zero: \"" ++ expr ++ "\""
  | .quotientOverflow => "Floating point exception"
  | .illegalNumber text => "Illegal number: " ++ text

def wordMax : Nat := Nat.pow 2 63 - 1

def hexDigit? (c : Char) : Option Nat :=
  if '0' ≤ c && c ≤ '9' then some (c.toNat - 48)
  else if 'a' ≤ c && c ≤ 'f' then some (c.toNat - 87)
  else if 'A' ≤ c && c ≤ 'F' then some (c.toNat - 55)
  else none

def readDigits (base : Nat) (cs : List Char) : Nat × List Char :=
  let isDigitOf (c : Char) := (hexDigit? c).any (· < base)
  let ds := cs.takeWhile isDigitOf
  (ds.foldl (fun n c => base * n + (hexDigit? c).getD 0) 0, cs.drop ds.length)

def readConstant (cs : List Char) : Nat × List Char :=
  match cs with
  | '0' :: x :: d :: rest =>
    if (x == 'x' || x == 'X') && (hexDigit? d).isSome then readDigits 16 (d :: rest)
    else readDigits 8 cs
  | '0' :: _ => readDigits 8 cs
  | _ => readDigits 10 cs

def readVariable (s : String) : Option Int64 :=
  let cs := s.toList.dropWhile isNumberBlank
  let (neg, body) := match cs with
    | '-' :: rest => (true, rest)
    | '+' :: rest => (false, rest)
    | _ => (false, cs)
  match body with
  | c :: _ =>
    if c.isDigit then
      let (v, rest) := readConstant body
      if !(rest.all isNumberBlank) then none
      else if neg then (if v ≤ wordMax + 1 then some (Int64.ofInt (-(v : Int))) else none)
      else if v ≤ wordMax then some (Int64.ofNat v) else none
    else if cs.isEmpty then some 0 else none
  | [] => if cs.isEmpty then some 0 else none

def operatorToken (cs : List Char) : Option (ArithToken × Nat) :=
  let withAssign (op : BinOp) (rest : List Char) : ArithToken × Nat :=
    match rest with
    | '=' :: _ => (.assign (some op), 2)
    | _ => (.bin op, 1)
  match cs with
  | '=' :: '=' :: _ => some (.bin .eq, 2)
  | '=' :: _ => some (.assign none, 1)
  | '>' :: '=' :: _ => some (.bin .ge, 2)
  | '>' :: '>' :: '=' :: _ => some (.assign (some .shr), 3)
  | '>' :: '>' :: _ => some (.bin .shr, 2)
  | '>' :: _ => some (.bin .gt, 1)
  | '<' :: '=' :: _ => some (.bin .le, 2)
  | '<' :: '<' :: '=' :: _ => some (.assign (some .shl), 3)
  | '<' :: '<' :: _ => some (.bin .shl, 2)
  | '<' :: _ => some (.bin .lt, 1)
  | '|' :: '|' :: _ => some (.orOr, 2)
  | '|' :: rest => some (withAssign .bor rest)
  | '&' :: '&' :: _ => some (.andAnd, 2)
  | '&' :: rest => some (withAssign .band rest)
  | '!' :: '=' :: _ => some (.bin .ne, 2)
  | '!' :: _ => some (.not, 1)
  | '(' :: _ => some (.lparen, 1)
  | ')' :: _ => some (.rparen, 1)
  | '~' :: _ => some (.bnot, 1)
  | '?' :: _ => some (.question, 1)
  | ':' :: _ => some (.colon, 1)
  | '*' :: rest => some (withAssign .mul rest)
  | '/' :: rest => some (withAssign .div rest)
  | '%' :: rest => some (withAssign .rem rest)
  | '^' :: rest => some (withAssign .bxor rest)
  | '+' :: rest => some (withAssign .add rest)
  | '-' :: rest => some (withAssign .sub rest)
  | _ => none

def arithTokens : Nat → List Char → List ArithToken
  | 0, _ => [.eof]
  | fuel + 1, cs =>
    match cs with
    | [] => [.eof]
    | c :: rest =>
      if c == ' ' || c == '\t' || c == '\n' then arithTokens fuel rest
      else if c.isDigit then
        let (v, after) := readConstant cs
        .num (Int64.ofNat (min v wordMax)) :: arithTokens fuel after
      else if c.isAlpha || c == '_' then
        let name := cs.takeWhile fun d => d.isAlphanum || d == '_'
        .var (String.ofList name) :: arithTokens fuel (cs.drop name.length)
      else
        match operatorToken cs with
        | some (t, n) => t :: arithTokens fuel (cs.drop n)
        | none => [.bad]

/-- Applies a binary operator: C's operations on words, shift counts taken modulo 64,
comparisons giving `1` or `0`; dividing the least word by `-1` traps, for the quotient and the
remainder alike. -/
def BinOp.apply (op : BinOp) (a b : Int64) : Except ArithError Int64 :=
  let truth (p : Bool) : Int64 := if p then 1 else 0
  let overflows := a == Int64.minValue && b == -1
  match op with
  | .mul => .ok (a * b)
  | .div =>
    if b == 0 then .error .divisionByZero else if overflows then .error .quotientOverflow
    else .ok (a / b)
  | .rem =>
    if b == 0 then .error .divisionByZero else if overflows then .error .quotientOverflow
    else .ok (a % b)
  | .add => .ok (a + b)
  | .sub => .ok (a - b)
  | .shl => .ok (a <<< b)
  | .shr => .ok (a >>> b)
  | .lt => .ok (truth (a < b))
  | .le => .ok (truth (a ≤ b))
  | .gt => .ok (truth (a > b))
  | .ge => .ok (truth (a ≥ b))
  | .eq => .ok (truth (a == b))
  | .ne => .ok (truth (a != b))
  | .band => .ok (a &&& b)
  | .bxor => .ok (a ^^^ b)
  | .bor => .ok (a ||| b)

/-- An evaluation's state: the tokens still to read and the assignments made, latest first. -/
structure ArithState where
  tokens : List ArithToken
  assigned : List (String × Int64) := []

/-- Evaluation of an expression, over the variables' texts. -/
abbrev ArithM := ReaderT (String → Option String) (StateT ArithState (Except ArithError))

namespace Arith

def peek : ArithM ArithToken := do pure ((← get).tokens.headD .eof)

def peekSecond : ArithM ArithToken := do pure (((← get).tokens.drop 1).headD .eof)

def advance : ArithM Unit := modify fun st => { st with tokens := st.tokens.drop 1 }

def valueOf (name : String) : ArithM Int64 := do
  match (← get).assigned.lookup name with
  | some v => pure v
  | none =>
    let text := ((← read) name).getD ""
    match readVariable text with
    | some v => pure v
    | none => throw (.illegalNumber text)

def combine (skip : Bool) (op : BinOp) (a b : Int64) : ArithM Int64 :=
  if skip then pure b
  else
    match op.apply a b with
    | .ok v => pure v
    | .error e => throw e

/-- The grammar of expressions, loosest level first; `skip` reads without evaluating, on
the side of `&&`, `||` or `? :` that the other side decides. -/
inductive Level where
  | assignment
  | conditional
  | logicalOr
  | logicalAnd
  | binary (left : Int64) (limit : Nat)
  | unary
  deriving Inhabited

def eval : Nat → Level → Bool → ArithM Int64
  | 0, _, _ => throw (.expecting "primary")
  | fuel + 1, level, skip =>
    match level with
    | .assignment => do
      match ← peek, ← peekSecond with
      | .var name, .assign op =>
        advance
        advance
        let r ← eval fuel .assignment skip
        if skip then return r
        let v ← match op with
          | none => pure r
          | some o => do combine false o (← valueOf name) r
        modify fun st => { st with assigned := (name, v) :: st.assigned }
        pure v
      | _, _ => eval fuel .conditional skip
    | .conditional => do
      let a ← eval fuel .logicalOr skip
      if (← peek) != .question then return a
      advance
      let b ← eval fuel .assignment (skip || a == 0)
      if (← peek) != .colon then throw (.expecting "':'")
      advance
      let c ← eval fuel .conditional (skip || a != 0)
      pure (if a != 0 then b else c)
    | .logicalOr => do
      let a ← eval fuel .logicalAnd skip
      if (← peek) != .orOr then return a
      advance
      let b ← eval fuel .logicalOr (skip || a != 0)
      pure (if a != 0 || b != 0 then 1 else 0)
    | .logicalAnd => do
      let a ← eval fuel .unary skip
      let a ← eval fuel (.binary a BinOp.loosest) skip
      if (← peek) != .andAnd then return a
      advance
      let b ← eval fuel .logicalAnd (skip || a == 0)
      pure (if a != 0 && b != 0 then 1 else 0)
    | .binary a limit => do
      match ← peek with
      | .bin op =>
        if op.rank < limit then
          advance
          let b ← eval fuel .unary skip
          let tighter := match ← peek with
            | .bin next => decide (next.rank < op.rank)
            | _ => false
          let b ← if tighter then eval fuel (.binary b op.rank) skip else pure b
          eval fuel (.binary (← combine skip op a b) limit) skip
        else pure a
      | _ => pure a
    | .unary => do
      match ← peek with
      | .lparen =>
        advance
        let r ← eval fuel .assignment skip
        if (← peek) != .rparen then throw (.expecting "')'")
        advance
        pure r
      | .num v => advance; pure v
      | .var name => advance; if skip then pure 0 else valueOf name
      | .bin .add => advance; eval fuel .unary skip
      | .bin .sub => advance; pure (-(← eval fuel .unary skip))
      | .not => advance; pure (if (← eval fuel .unary skip) == 0 then 1 else 0)
      | .bnot => advance; pure (~~~(← eval fuel .unary skip))
      | _ => throw (.expecting "primary")

end Arith

/-- Evaluates the text of an arithmetic expansion over the variables' texts: its value and
the assignments it made, in order. -/
def evalArith (vars : String → Option String) (text : String) :
    Except ArithError (Int64 × List (String × Int64)) :=
  let tokens := arithTokens (text.length + 1) text.toList
  let whole : ArithM Int64 := do
    let r ← Arith.eval (8 * (tokens.length + 2)) .assignment false
    if (← Arith.peek) != .eof then throw (.expecting "EOF")
    pure r
  match (whole.run vars).run { tokens } with
  | .ok (r, st) => .ok (r, st.assigned.reverse)
  | .error e => .error e

end BuildGate.Shell
