import BuildGate.Value
import BuildGate.Number.Decimal
import BuildGate.Text.Literal

namespace BuildGate

def padNat (width n : Nat) : String :=
  let ds := Nat.toDigits 10 n
  String.ofList (List.replicate (width - ds.length) '0' ++ ds)

namespace Date

def iso (d : Date) : String :=
  padNat 4 d.year ++ "-" ++ padNat 2 d.month ++ "-" ++ padNat 2 d.day

def literal (d : Date) : String :=
  "datetime.date(" ++ toString d.year ++ ", " ++ toString d.month ++ ", " ++
    toString d.day ++ ")"

end Date

namespace Stamp

def offsetText (s : Int) : String :=
  let sign := if s < 0 then "-" else "+"
  let a := s.natAbs
  sign ++ padNat 2 (a / 3600) ++ ":" ++ padNat 2 (a % 3600 / 60) ++
    (if a % 60 == 0 then "" else ":" ++ padNat 2 (a % 60))

def iso (t : Stamp) : String :=
  t.date.iso ++ " " ++ padNat 2 t.hour ++ ":" ++ padNat 2 t.minute ++ ":" ++ padNat 2 t.second ++
    (if t.micro == 0 then "" else "." ++ padNat 6 t.micro) ++
    (match t.offset with
     | some s => offsetText s
     | none => "")

/-- The literal of a span of `s` seconds: whole days (possibly negative) and the remaining
seconds, each shown only when not zero. -/
def spanLiteral (s : Int) : String :=
  let days := s / 86400
  let rest := s % 86400
  let parts := (if days == 0 then [] else ["days=" ++ toString days]) ++
    (if rest == 0 then [] else ["seconds=" ++ toString rest])
  if parts.isEmpty then "datetime.timedelta(0)"
  else "datetime.timedelta(" ++ ", ".intercalate parts ++ ")"

def zoneLiteral (s : Int) : String :=
  if s == 0 then "datetime.timezone.utc"
  else "datetime.timezone(" ++ spanLiteral s ++ ")"

/-- `datetime.datetime(2001, 12, 14, 21, 59, 43, 100000)`: trailing zero microseconds, then
trailing zero seconds, are left out. -/
def literal (t : Stamp) : String :=
  let fields := [t.date.year, t.date.month, t.date.day, t.hour, t.minute, t.second, t.micro]
  let fields := if t.micro == 0 then fields.take 6 else fields
  let fields := if t.micro == 0 && t.second == 0 then fields.take 5 else fields
  "datetime.datetime(" ++ ", ".intercalate (fields.map toString) ++
    (match t.offset with
     | some s => ", tzinfo=" ++ zoneLiteral s
     | none => "") ++ ")"

end Stamp

def byteEscape (q : Char) (b : UInt8) : List Char :=
  let n := b.toNat
  if n == q.toNat || n == 92 then ['\\', Char.ofNat n]
  else if n == 9 then ['\\', 't']
  else if n == 10 then ['\\', 'n']
  else if n == 13 then ['\\', 'r']
  else if n < 0x20 || 0x7F ≤ n then '\\' :: 'x' :: Text.hexDigits 2 n
  else [Char.ofNat n]

def bytesLiteral (bs : List UInt8) : String :=
  let q := if bs.contains 39 && !bs.contains 34 then '"' else '\''
  String.ofList ('b' :: q :: bs.flatMap (byteEscape q) ++ [q])

namespace Value

mutual

def literal : Value → String
  | .null => "None"
  | .bool b => if b then "True" else "False"
  | .int n => toString n
  | .float x => Decimal.numeral x
  | .str s => Text.quote s
  | .bytes b => bytesLiteral b
  | .date d => d.literal
  | .stamp t => t.literal
  | .list xs => "[" ++ literals xs ++ "]"
  | .tuple [x] => "(" ++ literal x ++ ",)"
  | .tuple xs => "(" ++ literals xs ++ ")"
  | .set [] => "set()"
  | .set xs => "\x7b" ++ literals xs ++ "\x7d"
  | .dict kvs => "\x7b" ++ entryLiterals kvs ++ "\x7d"
  | .recur _ => "[...]"

def literals : List Value → String
  | [] => ""
  | [x] => literal x
  | x :: xs => literal x ++ ", " ++ literals xs

def entryLiterals : List (Value × Value) → String
  | [] => ""
  | [(k, v)] => literal k ++ ": " ++ literal v
  | (k, v) :: kvs => literal k ++ ": " ++ literal v ++ ", " ++ entryLiterals kvs

end

def intTextLimit : Nat := 4300

def longIntMessage : String :=
  "Exceeds the limit (" ++ toString intTextLimit ++ " digits) for integer string conversion; " ++
    "use sys.set_int_max_str_digits() to increase the limit"

def isLongInt (n : Int) : Bool := n.natAbs ≥ Nat.pow 10 intTextLimit

mutual

def holdsLongInt : Value → Bool
  | .int n => isLongInt n
  | .list xs | .tuple xs | .set xs => anyHoldsLongInt xs
  | .dict kvs => entriesHoldLongInt kvs
  | _ => false

def anyHoldsLongInt : List Value → Bool
  | [] => false
  | x :: xs => holdsLongInt x || anyHoldsLongInt xs

def entriesHoldLongInt : List (Value × Value) → Bool
  | [] => false
  | (k, v) :: kvs => holdsLongInt k || holdsLongInt v || entriesHoldLongInt kvs

end

def text : Value → String
  | .str s => s
  | .date d => d.iso
  | .stamp t => t.iso
  | v => v.literal

end Value

end BuildGate
