import BuildGate.Number.Decimal
import BuildGate.Value
import BuildGate.Fault

namespace BuildGate

/-- A number of seconds: whole, a float, or a boolean standing for 0 or 1; or a time reported
as another kind of value. -/
inductive Seconds where
  | whole (n : Int)
  | real (x : Float)
  | truth (b : Bool)
  | notNumber (v : Value)
  deriving Inhabited

namespace Seconds

/-- Seconds are shown by their number, a time that is no number by its kind. -/
instance : Repr Seconds where
  reprPrec s p := match s with
    | .whole n => Repr.addAppParen (Std.Format.text "Seconds.whole " ++ repr n) p
    | .real x => Repr.addAppParen (Std.Format.text "Seconds.real " ++ repr x) p
    | .truth b => Repr.addAppParen (Std.Format.text "Seconds.truth " ++ repr b) p
    | .notNumber v => Repr.addAppParen (Std.Format.text "Seconds.notNumber " ++ repr v.kindName) p

def zero : Seconds := .real 0.0

def asNumber : Seconds → Seconds
  | .truth b => .whole (if b then 1 else 0)
  | s => s

def round3 : Seconds → Except Fault Seconds
  | .whole n => .ok (.whole n)
  | .truth b => .ok (.whole (if b then 1 else 0))
  | .real x => .ok (.real (Decimal.roundPlaces 3 x))
  | .notNumber v => .error (.wrongType ("type " ++ v.kindName ++ " doesn't define __round__ method"))

def toFloat : Seconds → Float
  | .whole n => Binary64.ofInt n
  | .real x => x
  | .truth b => if b then 1.0 else 0.0
  | .notNumber _ => 0.0

def toValue : Seconds → Value
  | .whole n => .int n
  | .real x => .float x
  | .truth b => .bool b
  | .notNumber v => v

/-- The least magnitude of a whole number too large to become a float: it would round to
`2 ^ 1024`, half way above the largest finite binary64 value being rounded up. -/
def floatOverflowBound : Nat := Nat.pow 2 1024 - Nat.pow 2 970

/-- The seconds with two decimals, as logs and tables show them; a value that is no number
has no such form, and neither has a whole number too large to become a float. -/
def twoPlaces : Seconds → Except Fault String
  | .notNumber (.str _) => .error (.invalid "Unknown format code 'f' for object of type 'str'")
  | .notNumber v =>
    .error (.wrongType ("unsupported format string passed to " ++ v.kindName ++ ".__format__"))
  | .whole n =>
    if n.natAbs < floatOverflowBound then .ok (Decimal.fixed 2 (Binary64.ofInt n))
    else .error (.other "OverflowError" "int too large to convert to float")
  | s => .ok (Decimal.fixed 2 s.toFloat)

def add (a b : Seconds) : Seconds :=
  match a.asNumber, b.asNumber with
  | .whole a, .whole b => .whole (a + b)
  | a, b => .real (a.toFloat + b.toFloat)

end Seconds

end BuildGate
