import BuildGate.Number.Binary64

namespace BuildGate

/-- A calendar date. -/
structure Date where
  year : Nat
  month : Nat
  day : Nat
  deriving Repr, BEq, DecidableEq

/-- A date with a time of day, and an offset from UTC in seconds when one is given. -/
structure Stamp where
  date : Date
  hour : Nat
  minute : Nat
  second : Nat
  micro : Nat
  offset : Option Int
  deriving Repr, BEq, DecidableEq

/-- A document value. A list or mapping may hold itself, or one that holds it, through
`recur`. -/
inductive Value where
  | null
  | bool (b : Bool)
  | int (n : Int)
  | float (x : Float)
  | str (s : String)
  | bytes (b : List UInt8)
  | date (d : Date)
  | stamp (t : Stamp)
  | list (xs : List Value)
  | tuple (xs : List Value)
  | set (xs : List Value)
  | dict (kvs : List (Value × Value))
  | recur (depth : Nat)
  deriving Inhabited

def Date.ordinal (d : Date) : Nat :=
  let y := d.year - 1
  let leap (y : Nat) := y % 4 == 0 && (y % 100 != 0 || y % 400 == 0)
  let before := [31, if leap d.year then 29 else 28, 31, 30, 31, 30, 31, 31, 30, 31, 30, 31]
  y * 365 + y / 4 - y / 100 + y / 400 + (before.take (d.month - 1)).foldl (· + ·) 0 + d.day

/-- The whole seconds from the start of day 1 to a time stamp, its offset taken off: for
stamps with offsets, the instant they name. -/
def Stamp.moment (t : Stamp) : Int :=
  (t.date.ordinal : Int) * 86400 + t.hour * 3600 + t.minute * 60 + t.second - t.offset.getD 0

/-- Whether two time stamps are equal: two without offsets when they read the same, two with
offsets when they name the same instant; one with an offset and one without never. -/
def Stamp.same (a b : Stamp) : Bool :=
  match a.offset, b.offset with
  | none, none => a == b
  | some _, some _ => a.moment == b.moment && a.micro == b.micro
  | _, _ => false

namespace Value

def floatIsInt (x : Float) (n : Int) : Bool :=
  match Binary64.shape x with
  | .finite neg m e =>
    let sign : Int := if neg then -1 else 1
    if 0 ≤ e then sign * (m * Nat.pow 2 e.toNat : Nat) == n
    else m % Nat.pow 2 (-e).toNat == 0 && sign * (m / Nat.pow 2 (-e).toNat : Nat) == n
  | _ => false

def numeric? : Value → Option (Int ⊕ Float)
  | .bool b => some (.inl (if b then 1 else 0))
  | .int n => some (.inl n)
  | .float x => some (.inr x)
  | _ => none

/-- Whether two numbers are equal: integers exactly, floats as binary64 values (NaN equals
nothing), an integer and a float when the float is that integer. -/
def numericEq : Int ⊕ Float → Int ⊕ Float → Bool
  | .inl a, .inl b => a == b
  | .inr x, .inr y => x == y
  | .inl a, .inr y => floatIsInt y a
  | .inr x, .inl b => floatIsInt x b

mutual

/-- Whether two values are the same mapping key. Numbers compare by value across booleans,
integers and floats; texts, bytes and dates by content; timestamps as `Stamp.same` says; tuples
element by element; lists, sets and mappings are never keys and match nothing. -/
def sameKey : Value → Value → Bool
  | .null, .null => true
  | .str a, .str b => a == b
  | .bytes a, .bytes b => a == b
  | .date a, .date b => a == b
  | .stamp a, .stamp b => a.same b
  | .tuple xs, .tuple ys => sameKeys xs ys
  | a, b =>
    match a.numeric?, b.numeric? with
    | some x, some y => numericEq x y
    | _, _ => false

def sameKeys : List Value → List Value → Bool
  | [], [] => true
  | x :: xs, y :: ys => sameKey x y && sameKeys xs ys
  | _, _ => false

end

def isKey : Value → Bool
  | .list _ | .set _ | .dict _ | .recur _ => false
  | .tuple xs => xs.all fun x => isKeyShallow x
  | _ => true
where
  isKeyShallow : Value → Bool
    | .list _ | .set _ | .dict _ | .recur _ => false
    | _ => true

def putEntry (kvs : List (Value × Value)) (k v : Value) : List (Value × Value) :=
  if kvs.any (fun p => sameKey p.1 k) then
    kvs.map fun p => if sameKey p.1 k then (p.1, v) else p
  else kvs ++ [(k, v)]

def ofEntries (kvs : List (Value × Value)) : List (Value × Value) :=
  kvs.foldl (fun acc p => putEntry acc p.1 p.2) []

def lookupEntry (kvs : List (Value × Value)) (k : Value) : Option Value :=
  (kvs.find? fun p => sameKey p.1 k).map (·.2)

def get? (v : Value) (k : String) : Option Value :=
  match v with
  | .dict kvs => lookupEntry kvs (.str k)
  | _ => none

/-- Whether a value counts as false when tested: null, `false`, zero, and empty texts,
bytes and collections. -/
def isFalsy : Value → Bool
  | .null => true
  | .bool b => !b
  | .int n => n == 0
  | .float x => x == 0
  | .str s => s.isEmpty
  | .bytes b => b.isEmpty
  | .list xs | .tuple xs | .set xs => xs.isEmpty
  | .dict kvs => kvs.isEmpty
  | _ => false

def kindName : Value → String
  | .null => "NoneType"
  | .bool _ => "bool"
  | .int _ => "int"
  | .float _ => "float"
  | .str _ => "str"
  | .bytes _ => "bytes"
  | .date _ => "date"
  | .stamp _ => "datetime"
  | .list _ => "list"
  | .tuple _ => "tuple"
  | .set _ => "set"
  | .dict _ => "dict"
  | .recur _ => "list"

def object (kvs : List (String × Value)) : Value :=
  .dict (kvs.map fun p => (.str p.1, p.2))

def ofOption (s : Option String) : Value :=
  match s with
  | some t => .str t
  | none => .null

end Value

end BuildGate
