import BuildGate.Value

namespace BuildGate

/-- Why two keys cannot be ordered. -/
inductive OrderError where
  | kinds (left right : String)
  | awareness
  | stampAndDate
  deriving Repr, BEq

def OrderError.message : OrderError → String
  | .kinds a b => "'>' not supported between instances of '" ++ a ++ "' and '" ++ b ++ "'"
  | .awareness => "can't compare offset-naive and offset-aware datetimes"
  | .stampAndDate => "can't compare datetime.datetime to datetime.date"

namespace Value

def orderName : Value → String
  | .date _ => "datetime.date"
  | .stamp _ => "datetime.datetime"
  | v => v.kindName

def compareIntFloat (a : Int) (x : Float) : Option Ordering :=
  match Binary64.shape x with
  | .finite neg m e =>
    let v : Int := if neg then -(m : Int) else m
    if 0 ≤ e then some (compare a (v * (Nat.pow 2 e.toNat : Nat)))
    else some (compare (a * (Nat.pow 2 (-e).toNat : Nat)) v)
  | .infinite neg => some (if neg then .gt else .lt)
  | .nan => none

def numericGt : Int ⊕ Float → Int ⊕ Float → Bool
  | .inl a, .inl b => decide (b < a)
  | .inr x, .inr y => decide (y < x)
  | .inl a, .inr y => compareIntFloat a y == some .gt
  | .inr x, .inl b => compareIntFloat b x == some .lt

def dateFields (d : Date) : List Nat := [d.year, d.month, d.day]

def stampGt (a b : Stamp) : Except OrderError Bool :=
  match a.offset, b.offset with
  | none, none =>
    pure (decide (dateFields b.date ++ [b.hour, b.minute, b.second, b.micro] <
      dateFields a.date ++ [a.hour, a.minute, a.second, a.micro]))
  | some _, some _ => pure (b.moment < a.moment || (b.moment == a.moment && b.micro < a.micro))
  | _, _ => throw .awareness

mutual

def greater : Value → Value → Except OrderError Bool
  | .str a, .str b => pure (decide (b < a))
  | .bytes a, .bytes b => pure (decide (b < a))
  | .date a, .date b => pure (decide (dateFields b < dateFields a))
  | .stamp a, .stamp b => stampGt a b
  | .stamp _, .date _ => throw .stampAndDate
  | .date _, .stamp _ => throw .stampAndDate
  | .tuple xs, .tuple ys => greaterList xs ys
  | a, b =>
    match a.numeric?, b.numeric? with
    | some p, some q => pure (numericGt p q)
    | _, _ => throw (.kinds a.orderName b.orderName)

/-- Whether the list `xs` is greater than `ys`: at the first pair that are not the same key,
the greater item; when one list starts the other, the longer. -/
def greaterList : List Value → List Value → Except OrderError Bool
  | x :: xs, y :: ys => if sameKey x y then greaterList xs ys else greater x y
  | _ :: _, [] => pure true
  | _, _ => pure false

end

end Value

end BuildGate
