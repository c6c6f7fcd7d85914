import BuildGate.Value.Literal

namespace BuildGate.Json

def escapeChar (c : Char) : List Char :=
  if c == '"' then ['\\', '"']
  else if c == '\\' then ['\\', '\\']
  else if c == '\n' then ['\\', 'n']
  else if c == '\r' then ['\\', 'r']
  else if c == '\t' then ['\\', 't']
  else if c == '\x08' then ['\\', 'b']
  else if c == '\x0c' then ['\\', 'f']
  else if c.toNat < 0x20 then '\\' :: 'u' :: Text.hexDigits 4 c.toNat
  else [c]

/-- How one code point is written inside a JSON string: as itself, held as text holds it, unless
JSON must escape it. -/
def escapePoint (n : Nat) : List Char :=
  if Text.isHalfCode n then Text.pointChars n
  else match escapeChar (Char.ofNat n) with
    | [_] => Text.pointChars n
    | e => e

def quoteString (s : String) : String :=
  String.ofList ('"' :: (Text.points s.toList).flatMap escapePoint ++ ['"'])

def escapeHalves (s : String) : String :=
  String.ofList ((Text.points s.toList).flatMap fun n =>
    if Text.isHalfCode n then '\\' :: 'u' :: Text.hexDigits 4 n else [Char.ofNat n])

def floatText (x : Float) : String :=
  match Binary64.shape x with
  | .nan => "NaN"
  | .infinite neg => if neg then "-Infinity" else "Infinity"
  | .finite .. => Decimal.numeral x

def keyText : Value → String
  | .str s => s
  | .int n => toString n
  | .float x => floatText x
  | .bool b => if b then "true" else "false"
  | .null => "null"
  | v => v.text

def lineBreak (indent : Option Nat) (depth : Nat) : String :=
  match indent with
  | some n => "\n" ++ String.ofList (List.replicate (n * depth) ' ')
  | none => ""

def itemSep (indent : Option Nat) : String :=
  match indent with
  | some _ => ","
  | none => ", "

mutual

def writeAt (indent : Option Nat) (depth : Nat) : Value → String
  | .null => "null"
  | .bool b => if b then "true" else "false"
  | .int n => toString n
  | .float x => floatText x
  | .str s => quoteString s
  | .list [] | .tuple [] => "[]"
  | .list xs | .tuple xs =>
    "[" ++ lineBreak indent (depth + 1) ++ writeItems indent (depth + 1) xs ++
      lineBreak indent depth ++ "]"
  | .dict [] => "\x7b\x7d"
  | .dict kvs =>
    "\x7b" ++ lineBreak indent (depth + 1) ++ writeEntries indent (depth + 1) kvs ++
      lineBreak indent depth ++ "\x7d"
  | v => quoteString v.text

def writeItems (indent : Option Nat) (depth : Nat) : List Value → String
  | [] => ""
  | [x] => writeAt indent depth x
  | x :: xs =>
    writeAt indent depth x ++ itemSep indent ++ lineBreak indent depth ++ writeItems indent depth xs

def writeEntries (indent : Option Nat) (depth : Nat) : List (Value × Value) → String
  | [] => ""
  | [(k, v)] => quoteString (keyText k) ++ ": " ++ writeAt indent depth v
  | (k, v) :: kvs =>
    quoteString (keyText k) ++ ": " ++ writeAt indent depth v ++ itemSep indent ++
      lineBreak indent depth ++ writeEntries indent depth kvs

end

def write (v : Value) : String := writeAt none 0 v

def writeIndented (n : Nat) (v : Value) : String := writeAt (some n) 0 v

end BuildGate.Json
