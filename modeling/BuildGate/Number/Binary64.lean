
namespace BuildGate.Binary64

/-- What a binary64 value is: NaN, an infinity, or `±m · 2^e` (the zeros have `m = 0`). -/
inductive Shape where
  | nan
  | infinite (neg : Bool)
  | finite (neg : Bool) (m : Nat) (e : Int)
  deriving Repr

def shape (x : Float) : Shape :=
  let b : Nat := x.toBits.toNat
  let neg := decide (Nat.pow 2 63 ≤ b)
  let field : Nat := (b / Nat.pow 2 52) % 2048
  let frac : Nat := b % Nat.pow 2 52
  if field == 2047 then
    if frac == 0 then .infinite neg else .nan
  else if field == 0 then .finite neg frac (-1074)
  else .finite neg (frac + Nat.pow 2 52) ((field : Int) - 1075)

def signBit (neg : Bool) : Nat := if neg then Nat.pow 2 63 else 0

def roundHalfEven (q d : Nat) : Nat :=
  let n := q / d
  let r := q % d
  if 2 * r > d || (2 * r == d && n % 2 == 1) then n + 1 else n

/-- The binary exponent `e` with which `num / den` scales to a significand in `[2^52, 2^53)`,
but never below the subnormal exponent `-1074`. -/
def scaleExponent (num den : Nat) : Int :=
  let t : Int := (Nat.log2 num : Int) - (Nat.log2 den : Int)
  let e0 := t - 52
  let low : Bool :=
    if 0 ≤ e0 then num / (den * Nat.pow 2 e0.toNat) < Nat.pow 2 52
    else num * Nat.pow 2 (-e0).toNat / den < Nat.pow 2 52
  let e := if low then e0 - 1 else e0
  max e (-1074)

/-- The bits of the binary64 value nearest to `num / den`, with sign `neg`; an exact tie goes
to the even significand and a value beyond the largest finite one becomes infinite. -/
def nearestBits (neg : Bool) (num den : Nat) : UInt64 :=
  if num == 0 || den == 0 then (signBit neg).toUInt64
  else
    let e := scaleExponent num den
    let m :=
      if 0 ≤ e then roundHalfEven num (den * Nat.pow 2 e.toNat)
      else roundHalfEven (num * Nat.pow 2 (-e).toNat) den
    let (m, e) := if m == Nat.pow 2 53 then (Nat.pow 2 52, e + 1) else (m, e)
    if m < Nat.pow 2 52 then (signBit neg + m).toUInt64
    else if e + 1075 ≥ 2047 then (signBit neg + 2047 * Nat.pow 2 52).toUInt64
    else (signBit neg + (e + 1075).toNat * Nat.pow 2 52 + (m - Nat.pow 2 52)).toUInt64

def decimalLength (n : Nat) : Nat :=
  (Nat.toDigits 10 n).length

/-- The binary64 value nearest to `±digits · 10^exp10`. Exponents far outside the range of
binary64 give an infinity or a zero at once, without building the power of ten. -/
def ofDecimal (neg : Bool) (digits : Nat) (exp10 : Int) : Float :=
  if digits == 0 then Float.ofBits (signBit neg).toUInt64
  else
    let size := (decimalLength digits : Int) + exp10
    if size > 310 then Float.ofBits (signBit neg + 2047 * Nat.pow 2 52).toUInt64
    else if size < -330 then Float.ofBits (signBit neg).toUInt64
    else if 0 ≤ exp10 then Float.ofBits (nearestBits neg (digits * Nat.pow 10 exp10.toNat) 1)
    else Float.ofBits (nearestBits neg digits (Nat.pow 10 (-exp10).toNat))

/-- The binary64 value nearest to an integer, a tie going to the even significand; an integer
beyond the largest finite value becomes an infinity. -/
def ofInt (n : Int) : Float := ofDecimal (decide (n < 0)) n.natAbs 0

def infinity : Float := Float.ofBits 0x7FF0000000000000

def nan : Float := Float.ofBits 0x7FF8000000000000

def toInt? (x : Float) : Option Int :=
  match shape x with
  | .finite neg m e =>
    let sign : Int := if neg then -1 else 1
    if 0 ≤ e then some (sign * (m * Nat.pow 2 e.toNat : Nat))
    else if m % Nat.pow 2 (-e).toNat == 0 then some (sign * (m / Nat.pow 2 (-e).toNat : Nat))
    else none
  | _ => none

def isFinite (x : Float) : Bool :=
  match shape x with
  | .finite .. => true
  | _ => false

end BuildGate.Binary64
