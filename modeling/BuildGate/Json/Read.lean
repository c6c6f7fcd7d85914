import BuildGate.Value
import BuildGate.Fault
import BuildGate.Text.Halves

namespace BuildGate.Json

def maxIntDigits : Nat := 4300

/-- What went wrong while reading. -/
inductive Problem where
  | expectingValue
  | expectingName
  | expectingColon
  | expectingComma
  | extraData
  | unterminated
  | controlCharacter
  | badEscape
  | badUnicodeEscape
  | byteOrderMark
  | tooManyDigits (digits : Nat)
  deriving Repr, BEq, DecidableEq

def Problem.text : Problem → String
  | .expectingValue => "Expecting value"
  | .expectingName => "Expecting property name enclosed in double quotes"
  | .expectingColon => "Expecting ':' delimiter"
  | .expectingComma => "Expecting ',' delimiter"
  | .extraData => "Extra data"
  | .unterminated => "Unterminated string starting at"
  | .controlCharacter => "Invalid control character at"
  | .badEscape => "Invalid \\escape"
  | .badUnicodeEscape => "Invalid \\uXXXX escape"
  | .byteOrderMark => "Unexpected UTF-8 BOM (decode using utf-8-sig)"
  | .tooManyDigits n =>
    "Exceeds the limit (" ++ toString maxIntDigits ++ " digits) for integer string conversion: " ++
      "value has " ++ toString n ++ " digits; use sys.set_int_max_str_digits() to increase the limit"

/-- A problem and the index of the character where it was found. -/
structure ReadError where
  problem : Problem
  pos : Nat
  deriving Repr, BEq

/-- `problem: line L column C (char P)`, where lines are counted by newlines before the
position and the column is counted from the last of them. -/
def ReadError.message (doc : String) (e : ReadError) : String :=
  if let .tooManyDigits _ := e.problem then e.problem.text else
  let before := doc.toList.take e.pos
  let line := before.count '\n' + 1
  let lastBreak := (before.reverse.takeWhile (· != '\n')).length
  let column := if before.contains '\n' then lastBreak + 1 else e.pos + 1
  e.problem.text ++ ": line " ++ toString line ++ " column " ++ toString column ++
    " (char " ++ toString e.pos ++ ")"

def isBlank (c : Char) : Bool :=
  c == ' ' || c == '\t' || c == '\n' || c == '\r'

def skipBlank (s : Array Char) (i : Nat) : Nat :=
  if h : i < s.size then
    if isBlank s[i] then skipBlank s (i + 1) else i
  else i
termination_by s.size - i

def hexValue (c : Char) : Option Nat :=
  if '0' ≤ c && c ≤ '9' then some (c.toNat - 48)
  else if 'a' ≤ c && c ≤ 'f' then some (c.toNat - 87)
  else if 'A' ≤ c && c ≤ 'F' then some (c.toNat - 55)
  else none

def hex4 (s : Array Char) (i : Nat) : Option Nat :=
  [0, 1, 2, 3].foldlM (fun acc k => do
    let c ← s[i + k]?
    let d ← hexValue c
    pure (16 * acc + d)) 0

/-- Reads the rest of a string whose opening quote is at `begin`, from index `i`; gives its
text and the index after the closing quote. The code points read so far are `acc`, reversed:
an escaped half that no other half completes stays a point of its own. -/
def scanString (s : Array Char) (begin : Nat) (i : Nat) (acc : List Nat) :
    Except ReadError (String × Nat) :=
  if h : i < s.size then
    let c := s[i]
    if c == '"' then .ok (Text.ofPoints acc.reverse, i + 1)
    else if c == '\\' then
      if h2 : i + 1 < s.size then
        let e := s[i + 1]
        if e == 'u' then
          if i + 6 ≥ s.size then .error ⟨.badUnicodeEscape, i + 1⟩
          else match hex4 s (i + 2) with
            | none => .error ⟨.badUnicodeEscape, i + 1⟩
            | some hi =>
              let after := i + 6
              if 0xD800 ≤ hi && hi < 0xDC00 && after + 6 < s.size &&
                  s[after]? == some '\\' && s[after + 1]? == some 'u' then
                match hex4 s (after + 2) with
                | none => .error ⟨.badUnicodeEscape, after + 1⟩
                | some lo =>
                  if 0xDC00 ≤ lo && lo < 0xE000 then
                    let code := 0x10000 + (hi - 0xD800) * 0x400 + (lo - 0xDC00)
                    scanString s begin (after + 6) (code :: acc)
                  else scanString s begin after (hi :: acc)
              else scanString s begin after (hi :: acc)
        else
          let plain : Option Char :=
            if e == '"' then some '"' else if e == '\\' then some '\\'
            else if e == '/' then some '/' else if e == 'b' then some '\x08'
            else if e == 'f' then some '\x0c' else if e == 'n' then some '\n'
            else if e == 'r' then some '\r' else if e == 't' then some '\t'
            else none
          match plain with
          | some d => scanString s begin (i + 2) (d.toNat :: acc)
          | none => .error ⟨.badEscape, i⟩
      else .error ⟨.unterminated, begin⟩
    else if c.toNat ≤ 0x1F then .error ⟨.controlCharacter, i⟩
    else scanString s begin (i + 1) (c.toNat :: acc)
  else .error ⟨.unterminated, begin⟩
termination_by s.size - i

def digitsEnd (s : Array Char) (i : Nat) : Nat :=
  if h : i < s.size then
    if s[i].isDigit then digitsEnd s (i + 1) else i
  else i
termination_by s.size - i

def digitsValue (s : Array Char) (i j : Nat) : Nat :=
  ((s.extract i j).toList).foldl (fun n c => 10 * n + (c.toNat - 48)) 0

/-- The index after the whole digits of a number starting at `j`: a lone zero, or digits that
do not start with zero. -/
def wholeEnd (s : Array Char) (j : Nat) : Option Nat := do
  let c ← s[j]?
  if '1' ≤ c && c ≤ '9' then some (digitsEnd s (j + 1))
  else if c == '0' then some (j + 1)
  else none

/-- The index after a fraction at `i`, and whether there is one: a point and at least one
digit. -/
def fracEnd (s : Array Char) (i : Nat) : Nat × Bool :=
  if s[i]? == some '.' && (s[i + 1]?.map Char.isDigit) == some true then
    (digitsEnd s (i + 1), true)
  else (i, false)

def expoStart (s : Array Char) (i : Nat) : Nat :=
  if s[i + 1]? == some '+' || s[i + 1]? == some '-' then i + 2 else i + 1

/-- The index after an exponent at `i`, and whether there is one: a mark, perhaps a sign, and at
least one digit. -/
def expoEnd (s : Array Char) (i : Nat) : Nat × Bool :=
  if s[i]? == some 'e' || s[i]? == some 'E' then
    let d := digitsEnd s (expoStart s i)
    if expoStart s i < d then (d, true) else (i, false)
  else (i, false)

/-- Reads a number at `i`: an optional minus, an integer part without leading zeros, then a
fraction of at least one digit and an exponent with at least one digit, each only when complete. -/
def scanNumber (s : Array Char) (i : Nat) : Option (Value × Nat) := do
  let neg := s[i]? == some '-'
  let j := if neg then i + 1 else i
  let intEnd ← wholeEnd s j
  let (fracEnd, hasFrac) := fracEnd s intEnd
  let (expEnd, hasExp) := expoEnd s fracEnd
  let whole := digitsValue s j intEnd
  if !hasFrac && !hasExp then
    pure (.int (if neg then -(whole : Int) else whole), expEnd)
  else
    let fracDigits := if hasFrac then fracEnd - (intEnd + 1) else 0
    let frac := if hasFrac then digitsValue s (intEnd + 1) fracEnd else 0
    let expo : Int :=
      if hasExp then
        let m := (digitsValue s (expoStart s fracEnd) expEnd : Int)
        if s[fracEnd + 1]? == some '-' then -m else m
      else 0
    pure (.float (Binary64.ofDecimal neg (whole * Nat.pow 10 fracDigits + frac) (expo - fracDigits)),
      expEnd)

def hasWord (s : Array Char) (i : Nat) (word : String) : Bool :=
  (s.extract i (i + word.length)).toList == word.toList

mutual

/-- Reads one value at `i` (blanks already skipped); `fuel` bounds the nesting and the number
of elements, and the input length is enough. -/
def readValue (s : Array Char) (i : Nat) : Nat → Except ReadError (Value × Nat)
  | 0 => .error ⟨.expectingValue, i⟩
  | fuel + 1 =>
    match s[i]? with
    | none => .error ⟨.expectingValue, i⟩
    | some '"' => (scanString s i (i + 1) []).map fun (t, j) => (.str t, j)
    | some '\x7b' => readObject s (skipBlank s (i + 1)) [] true fuel
    | some '[' => readArray s (skipBlank s (i + 1)) [] true fuel
    | some c =>
      if c == 'n' && hasWord s i "null" then .ok (.null, i + 4)
      else if c == 't' && hasWord s i "true" then .ok (.bool true, i + 4)
      else if c == 'f' && hasWord s i "false" then .ok (.bool false, i + 5)
      else if c == 'N' && hasWord s i "NaN" then .ok (.float Binary64.nan, i + 3)
      else if c == 'I' && hasWord s i "Infinity" then .ok (.float Binary64.infinity, i + 8)
      else if c == '-' && hasWord s i "-Infinity" then .ok (.float (-Binary64.infinity), i + 9)
      else match scanNumber s i with
        | some (.int n, j) =>
          let digits := (toString n.natAbs).length
          if digits > maxIntDigits then .error ⟨.tooManyDigits digits, i⟩ else .ok (.int n, j)
        | some r => .ok r
        | none => .error ⟨.expectingValue, i⟩

def readObject (s : Array Char) (i : Nat) (acc : List (Value × Value)) (first : Bool) :
    Nat → Except ReadError (Value × Nat)
  | 0 => .error ⟨.expectingValue, i⟩
  | fuel + 1 =>
    if first && s[i]? == some '\x7d' then .ok (.dict acc, i + 1)
    else if s[i]? != some '"' then .error ⟨.expectingName, i⟩
    else do
      let (key, j) ← scanString s i (i + 1) []
      let j := skipBlank s j
      if s[j]? != some ':' then throw ⟨.expectingColon, j⟩
      let (v, k) ← readValue s (skipBlank s (j + 1)) fuel
      let acc := Value.putEntry acc (.str key) v
      let k := skipBlank s k
      if s[k]? == some '\x7d' then pure (.dict acc, k + 1)
      else if s[k]? != some ',' then throw ⟨.expectingComma, k⟩
      else readObject s (skipBlank s (k + 1)) acc false fuel

def readArray (s : Array Char) (i : Nat) (acc : List Value) (first : Bool) :
    Nat → Except ReadError (Value × Nat)
  | 0 => .error ⟨.expectingValue, i⟩
  | fuel + 1 =>
    if first && s[i]? == some ']' then .ok (.list acc.reverse, i + 1)
    else do
      let (v, k) ← readValue s i fuel
      let k := skipBlank s k
      if s[k]? == some ']' then pure (.list (v :: acc).reverse, k + 1)
      else if s[k]? != some ',' then throw ⟨.expectingComma, k⟩
      else readArray s (skipBlank s (k + 1)) (v :: acc) false fuel

end

/-- Reads a whole JSON document: blanks may surround the value and nothing else may follow. -/
def read (doc : String) : Except ReadError Value :=
  let s := doc.toList.toArray
  if s[0]? == some '\ufeff' then .error ⟨.byteOrderMark, 0⟩
  else do
    let (v, j) ← readValue s (skipBlank s 0) (2 * s.size + 2)
    let j := skipBlank s j
    if j != s.size then throw ⟨.extraData, j⟩
    pure v

def readText (doc : String) : Except String Value :=
  (read doc).mapError (·.message doc)

/-- Reads a whole JSON document, failing with the fault of the problem: a malformed document,
or an integer too long to convert. -/
def readDocument (doc : String) : Except Fault Value :=
  (read doc).mapError fun e =>
    match e.problem with
    | .tooManyDigits _ => .invalid (e.message doc)
    | _ => .badJson (e.message doc)

end BuildGate.Json
