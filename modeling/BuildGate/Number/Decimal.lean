import BuildGate.Number.Binary64

namespace BuildGate.Decimal

open BuildGate.Binary64

/-- The reals that read back as `m · 2^e`, scaled by `den`: from `low / den` to `high / den`
around `mid / den`, the ends included when `closed`. -/
structure Interval where
  low : Nat
  mid : Nat
  high : Nat
  den : Nat
  closed : Bool

/-- The rounding interval of `m · 2^e`; below a power of two with a normal exponent the lower
half-gap is half as wide. -/
def Interval.of (m : Nat) (e : Int) : Interval :=
  let lowOff := if m == Nat.pow 2 52 && e > -1074 then 1 else 2
  if 2 ≤ e then
    let f := Nat.pow 2 (e - 2).toNat
    ⟨(4 * m - lowOff) * f, 4 * m * f, (4 * m + 2) * f, 1, m % 2 == 0⟩
  else
    ⟨4 * m - lowOff, 4 * m, 4 * m + 2, Nat.pow 2 (2 - e).toNat, m % 2 == 0⟩

def Interval.decade (i : Interval) : Int :=
  (decimalLength (i.mid * Nat.pow 10 340 / i.den) : Int) - 341

def gridScale (g : Int) : Nat × Nat :=
  if 0 ≤ g then (Nat.pow 10 g.toNat, 1) else (1, Nat.pow 10 (-g).toNat)

def Interval.holds (i : Interval) (g : Int) (k : Nat) : Bool :=
  let (a, b) := gridScale g
  let x := k * a * i.den
  if i.closed then i.low * b ≤ x && x ≤ i.high * b
  else i.low * b < x && x < i.high * b

def Interval.gap (i : Interval) (g : Int) (k : Nat) : Nat :=
  let (a, b) := gridScale g
  let x := k * a * i.den
  let y := i.mid * b
  if x ≤ y then y - x else x - y

def Interval.pick (i : Interval) (g : Int) : Option Nat :=
  let (a, b) := gridScale g
  let c := i.mid * b / (i.den * a)
  match i.holds g c, i.holds g (c + 1) with
  | true, true =>
    let d₀ := i.gap g c
    let d₁ := i.gap g (c + 1)
    if d₀ < d₁ then some c else if d₁ < d₀ then some (c + 1)
    else if c % 2 == 0 then some c else some (c + 1)
  | true, false => some c
  | false, true => some (c + 1)
  | false, false => none

def stripZeros (k : Nat) : Nat :=
  let ds := (Nat.toDigits 10 k).reverse.dropWhile (· == '0')
  ds.reverse.foldl (fun n c => 10 * n + (c.toNat - 48)) 0

/-- Significant digits and point of a decimal: the value is `0.d₁d₂…dₙ × 10^point`, where
`digits` is `d₁d₂…dₙ` read as a number without trailing zeros. -/
structure Digits where
  digits : Nat
  point : Int
  deriving Repr, BEq

def Digits.ofGrid (k : Nat) (g : Int) : Digits :=
  ⟨stripZeros k, g + (decimalLength k : Int)⟩

/-- The neighbour that reads back on the first of the grids `10^d`, `10^(d-1)`, …, `10^(d-16)`
below the decade `d` of the interval that has one. -/
def Interval.search (i : Interval) : Option Digits :=
  (List.range 17).findSome? fun (n : Nat) =>
    let g := i.decade - (n : Int)
    (i.pick g).map fun k => Digits.ofGrid k g

def Interval.nearest (i : Interval) (g : Int) : Nat :=
  let (a, b) := gridScale g
  roundHalfEven (i.mid * b) (i.den * a)

def Interval.fallback (i : Interval) : Digits :=
  let g := i.decade - 16
  Digits.ofGrid (i.nearest g) g

/-- The fewest significant digits that read back as `m · 2^e` (`m > 0`), the nearest of
those. -/
def shortest (m : Nat) (e : Int) : Digits :=
  let i := Interval.of m e
  i.search.getD i.fallback

/-- The decisions of one written form of binary64 values. -/
structure Style where
  lowestPoint : Int
  highestPoint : Int
  mark : String
  expWidth : Nat
  expSign : Bool
  pointZero : Bool
  infinity : String
  nan : String

/-- Numbers in messages, reports and JSON: positional from `0.0001` up to below `10^16`,
otherwise one leading digit and an exponent `e+XX` of at least two digits with its sign; a whole
positional value ends in `.0`; `inf` and `nan`. -/
def Style.numeral : Style :=
  ⟨-3, 16, "e", 2, true, true, "inf", "nan"⟩

def zeros (n : Nat) : String := String.ofList (List.replicate n '0')

def Style.writeDigits (st : Style) (d : Digits) : String :=
  let ds := String.ofList (Nat.toDigits 10 d.digits)
  let n := ds.length
  if st.lowestPoint ≤ d.point && d.point ≤ st.highestPoint then
    if d.point ≤ 0 then "0." ++ zeros (-d.point).toNat ++ ds
    else if (n : Int) ≤ d.point then
      ds ++ zeros (d.point.toNat - n) ++ (if st.pointZero then ".0" else "")
    else
      String.ofList ((ds.toList.take d.point.toNat) ++ '.' :: ds.toList.drop d.point.toNat)
  else
    let x := d.point - 1
    let body := match ds.toList with
      | c :: rest@(_ :: _) => String.ofList (c :: '.' :: rest)
      | cs => String.ofList cs
    let mag := Nat.toDigits 10 x.natAbs
    let expo := String.ofList (List.replicate (st.expWidth - mag.length) '0' ++ mag)
    let sign := if x < 0 then "-" else if st.expSign then "+" else ""
    body ++ st.mark ++ sign ++ expo

def Style.write (st : Style) (x : Float) : String :=
  match shape x with
  | .nan => st.nan
  | .infinite neg => (if neg then "-" else "") ++ st.infinity
  | .finite neg m e =>
    let sign := if neg then "-" else ""
    if m == 0 then sign ++ "0" ++ (if st.pointZero then ".0" else "")
    else sign ++ st.writeDigits (shortest m e)

def numeral (x : Float) : String := Style.numeral.write x

def scaledRound (k : Nat) (m : Nat) (e : Int) : Nat :=
  if 0 ≤ e then m * Nat.pow 2 e.toNat * Nat.pow 10 k
  else roundHalfEven (m * Nat.pow 10 k) (Nat.pow 2 (-e).toNat)

/-- `x` rounded to `k` decimal places: the exact binary value is rounded, a tie going to the
even neighbour, and the result read back to the nearest binary64 value; the sign of a zero
is kept, and infinities and NaN are unchanged. -/
def roundPlaces (k : Nat) (x : Float) : Float :=
  match shape x with
  | .nan | .infinite _ => x
  | .finite neg m e => Float.ofBits (nearestBits neg (scaledRound k m e) (Nat.pow 10 k))

/-- `±m · 2^e` written with exactly `k` decimal places (rounded as `roundPlaces` rounds, the
sign of a negative value kept even when it rounds to zero). -/
def fixedParts (k : Nat) (neg : Bool) (m : Nat) (e : Int) : String :=
  let n := scaledRound k m e
  let ds := Nat.toDigits 10 n
  let ds := List.replicate (k + 1 - ds.length) '0' ++ ds
  let whole := ds.take (ds.length - k)
  let frac := ds.drop (ds.length - k)
  (if neg then "-" else "") ++ String.ofList whole ++
    (if k == 0 then "" else "." ++ String.ofList frac)

def fixed (k : Nat) (x : Float) : String :=
  match shape x with
  | .nan => "nan"
  | .infinite neg => if neg then "-inf" else "inf"
  | .finite neg m e => fixedParts k neg m e

def decadeOf (m : Nat) (e : Int) : Int :=
  if 0 ≤ e then (decimalLength (m * Nat.pow 2 e.toNat) : Int) - 1
  else
    let k := (-e).toNat
    let s := k * 31 / 100 + 2
    (decimalLength (m * Nat.pow 10 s / Nat.pow 2 k) : Int) - 1 - s

/-- A positive `m · 2^e` to `k + 1` significant digits, a tie going to the even neighbour: the
digits as a number below `10^(k+1)` and the decimal exponent of the first digit. -/
def significant (k : Nat) (m : Nat) (e : Int) : Nat × Int :=
  let d := decadeOf m e
  let s := (k : Int) - d
  let num := m * (if 0 ≤ e then Nat.pow 2 e.toNat else 1) *
    (if 0 ≤ s then Nat.pow 10 s.toNat else 1)
  let den := (if 0 ≤ e then 1 else Nat.pow 2 (-e).toNat) *
    (if 0 ≤ s then 1 else Nat.pow 10 (-s).toNat)
  let digits := roundHalfEven num den
  if digits == Nat.pow 10 (k + 1) then (Nat.pow 10 k, d + 1) else (digits, d)

/-- `±m · 2^e` in scientific notation: one digit, a point and `k` more digits (no point when
`k` is 0, unless `point`), then `e`, the exponent's sign and at least two digits of it. -/
def scientificParts (k : Nat) (point : Bool) (neg : Bool) (m : Nat) (e : Int) : String :=
  let (digits, d) := if m == 0 then (0, 0) else significant k m e
  let ds := Nat.toDigits 10 digits
  let ds := List.replicate (k + 1 - ds.length) '0' ++ ds
  let mantissa := String.ofList (ds.take 1) ++ (if k > 0 || point then "." else "") ++
    String.ofList (ds.drop 1)
  let mag := Nat.toDigits 10 d.natAbs
  let expo := String.ofList (List.replicate (2 - mag.length) '0' ++ mag)
  (if neg then "-" else "") ++ mantissa ++ "e" ++ (if d < 0 then "-" else "+") ++ expo

def scientific (k : Nat) (point : Bool) (x : Float) : String :=
  match shape x with
  | .nan => "nan"
  | .infinite neg => if neg then "-inf" else "inf"
  | .finite neg m e => scientificParts k point neg m e

def trimFraction (s : String) : String :=
  if s.toList.contains '.' then
    let cs := (s.toList.reverse.dropWhile (· == '0'))
    let cs := match cs with
      | '.' :: rest => rest
      | _ => cs
    String.ofList cs.reverse
  else s

/-- `±m · 2^e` with `p` significant digits (one when `p` is 0) in fixed notation when the
decimal exponent `d` of the rounded value has `-4 ≤ d < p`, and in scientific notation
otherwise; trailing zeros of the fraction are dropped unless `keep`, which also keeps the
point. -/
def generalParts (p : Nat) (keep : Bool) (neg : Bool) (m : Nat) (e : Int) : String :=
  let p := if p == 0 then 1 else p
  let d := if m == 0 then 0 else (significant (p - 1) m e).2
  if -4 ≤ d && d < p then
    let places := ((p : Int) - 1 - d).toNat
    let s := fixedParts places neg m e
    if keep then (if places == 0 then s ++ "." else s) else trimFraction s
  else
    let s := scientificParts (p - 1) keep neg m e
    if keep then s
    else
      match s.splitOn "e" with
      | [mantissa, expo] => trimFraction mantissa ++ "e" ++ expo
      | _ => s

def general (p : Nat) (keep : Bool) (x : Float) : String :=
  match shape x with
  | .nan => "nan"
  | .infinite neg => if neg then "-inf" else "inf"
  | .finite neg m e => generalParts p keep neg m e

end BuildGate.Decimal
