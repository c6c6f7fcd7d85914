import BuildGate.Number.Decimal

namespace BuildGate.Number

open BuildGate.Binary64

/-- A floating value: NaN or an infinity with its sign, or `±m · 2^e`. -/
inductive CFloat where
  | nan (neg : Bool)
  | infinite (neg : Bool)
  | finite (neg : Bool) (m : Nat) (e : Int)
  deriving Repr, BEq, Inhabited

/-- A binary floating format: values `m · 2^e` with `m < 2^precision` and
`minExp ≤ e ≤ maxExp`, normal when `m ≥ 2^(precision - 1)`. -/
structure FloatFormat where
  precision : Nat
  minExp : Int
  maxExp : Int

def FloatFormat.double : FloatFormat := ⟨53, -1074, 971⟩

def FloatFormat.extended : FloatFormat := ⟨64, -16445, 16320⟩

/-- The value of a format nearest to `±num / den` (`den > 0`), a tie going to the even
significand, and whether reading it is a range error: it overflowed to an infinity, or it lies
below the normal range and is not exact. -/
def FloatFormat.nearest (f : FloatFormat) (neg : Bool) (num den : Nat) : CFloat × Bool :=
  if num == 0 || den == 0 then (.finite neg 0 0, false)
  else
    let top := Nat.pow 2 f.precision
    let normal := Nat.pow 2 (f.precision - 1)
    -- the quotient and remainder of `num / den` scaled by `2^-e`
    let split (e : Int) : Nat × Nat :=
      if 0 ≤ e then (num / (den * Nat.pow 2 e.toNat), num % (den * Nat.pow 2 e.toNat))
      else (num * Nat.pow 2 (-e).toNat / den, num * Nat.pow 2 (-e).toNat % den)
    let e0 : Int := (Nat.log2 num : Int) - (Nat.log2 den : Int) - (f.precision - 1 : Nat)
    let e := if (split e0).1 < normal then e0 - 1 else e0
    let e := max e f.minExp
    let divisor := if 0 ≤ e then den * Nat.pow 2 e.toNat else den
    let scaled := if 0 ≤ e then num else num * Nat.pow 2 (-e).toNat
    let m := roundHalfEven scaled divisor
    let exact := scaled % divisor == 0
    let (m, e) := if m == top then (normal, e + 1) else (m, e)
    if e > f.maxExp then (.infinite neg, true)
    else (.finite neg m e, m < normal && !exact)

/-- A number read from text, before rounding: a NaN or an infinity, or `±num / den`. -/
inductive CNumber where
  | special (x : CFloat)
  | ratio (neg : Bool) (num den : Nat)
  deriving Repr, Inhabited

def isCBlank (c : Char) : Bool :=
  c == ' ' || c == '\t' || c == '\n' || c == '\x0b' || c == '\x0c' || c == '\r'

def startsWord (word : String) (cs : List Char) : Bool :=
  word.toList.isPrefixOf ((cs.take word.length).map Char.toLower)

def cHexValue (c : Char) : Option Nat :=
  if c.isDigit then some (c.toNat - 48)
  else if 'a' ≤ c && c ≤ 'f' then some (c.toNat - 87)
  else if 'A' ≤ c && c ≤ 'F' then some (c.toNat - 55)
  else none

def readCExponent (cs : List Char) : Option (Int × List Char) :=
  let (neg, rest) := match cs with
    | '-' :: r => (true, r)
    | '+' :: r => (false, r)
    | _ => (false, cs)
  let ds := rest.takeWhile Char.isDigit
  if ds.isEmpty then none
  else
    let v : Int := (ds.foldl (fun n c => 10 * n + (c.toNat - 48)) 0 : Nat)
    some (if neg then -v else v, rest.drop ds.length)

def exponentBound : Int := 100000

def scaledRatio (neg : Bool) (num base : Nat) (exp : Int) : CNumber :=
  if num == 0 then .ratio neg 0 1
  else if exp > exponentBound then .ratio neg (Nat.pow 2 20000) 1
  else if exp < -exponentBound then .ratio neg 1 (Nat.pow 2 20000)
  else if 0 ≤ exp then .ratio neg (num * Nat.pow base exp.toNat) 1
  else .ratio neg num (Nat.pow base (-exp).toNat)

/-- The number at the start of a text as `strtod` reads it, and the text after it; nothing when
no number starts it. -/
def readCNumber (s : List Char) : Option (CNumber × List Char) :=
  let cs := s.dropWhile isCBlank
  let (neg, cs) := match cs with
    | '-' :: r => (true, r)
    | '+' :: r => (false, r)
    | _ => (false, cs)
  if startsWord "infinity" cs then some (.special (.infinite neg), cs.drop 8)
  else if startsWord "inf" cs then some (.special (.infinite neg), cs.drop 3)
  else if startsWord "nan" cs then
    let after := cs.drop 3
    let rest := match after with
      | '(' :: more =>
        let inner := more.takeWhile fun c => c.isAlphanum || c == '_'
        match more.drop inner.length with
        | ')' :: r => r
        | _ => after
      | _ => after
    some (.special (.nan neg), rest)
  else
    let hex : Option (CNumber × List Char) := match cs with
      | '0' :: x :: more =>
        if x == 'x' || x == 'X' then
          let whole := more.takeWhile fun c => (cHexValue c).isSome
          let after := more.drop whole.length
          let (frac, after) := match after with
            | '.' :: r =>
              let f := r.takeWhile fun c => (cHexValue c).isSome
              (f, r.drop f.length)
            | _ => ([], after)
          if whole.isEmpty && frac.isEmpty then none
          else
            let digits := (whole ++ frac).foldl (fun n c => 16 * n + (cHexValue c).getD 0) 0
            let (p, after) := match after with
              | m :: r =>
                if m == 'p' || m == 'P' then (readCExponent r).getD (0, after) else (0, after)
              | [] => (0, after)
            some (scaledRatio neg digits 2 (p - 4 * frac.length), after)
        else none
      | _ => none
    match hex with
    | some r => some r
    | none =>
      let whole := cs.takeWhile Char.isDigit
      let after := cs.drop whole.length
      let (frac, after) := match after with
        | '.' :: r =>
          let f := r.takeWhile Char.isDigit
          (f, r.drop f.length)
        | _ => ([], after)
      if whole.isEmpty && frac.isEmpty then none
      else
        let digits := (whole ++ frac).foldl (fun n c => 10 * n + (c.toNat - 48)) 0
        let (x, after) := match after with
          | m :: r => if m == 'e' || m == 'E' then (readCExponent r).getD (0, after) else (0, after)
          | [] => (0, after)
        some (scaledRatio neg digits 10 (x - frac.length), after)

def CNumber.round (f : FloatFormat) : CNumber → CFloat × Bool
  | .special x => (x, false)
  | .ratio neg num den => f.nearest neg num den

namespace CFloat

def specialText : CFloat → Option String
  | .nan neg => some (if neg then "-nan" else "nan")
  | .infinite neg => some (if neg then "-inf" else "inf")
  | .finite _ _ _ => none

def isFinite : CFloat → Bool
  | .finite _ _ _ => true
  | _ => false

def fixed (k : Nat) (x : CFloat) : String :=
  match x with
  | .finite neg m e => Decimal.fixedParts k neg m e
  | _ => x.specialText.getD ""

def scientific (k : Nat) (point : Bool) (x : CFloat) : String :=
  match x with
  | .finite neg m e => Decimal.scientificParts k point neg m e
  | _ => x.specialText.getD ""

def general (p : Nat) (keep : Bool) (x : CFloat) : String :=
  match x with
  | .finite neg m e => Decimal.generalParts p keep neg m e
  | _ => x.specialText.getD ""

def hexWidth (width n : Nat) : List Char :=
  (List.range width).reverse.map fun i =>
    let d := n / Nat.pow 16 i % 16
    if d < 10 then Char.ofNat (48 + d) else Char.ofNat (87 + d)

/-- `%a` of an extended value: `0x`, the top four bits of the 64-bit significand as one digit,
the other sixty as fifteen digits (trailing zeros dropped, or rounded to `precision` digits, a
tie going to the even one), then `p` and the binary exponent of the first digit. A point stands
before the fraction when there is one, or when `point`. -/
def hexExtended (precision : Option Nat) (point : Bool) (x : CFloat) : String :=
  match x with
  | .finite neg m e =>
    let sign := if neg then "-" else ""
    let (lead, frac, expo) : Nat × List Char × Int :=
      if m == 0 then
        (0, List.replicate (precision.getD 0) '0', 0)
      else
        match precision with
        | none =>
          let digits := hexWidth 15 (m % Nat.pow 2 60)
          (m / Nat.pow 2 60, (digits.reverse.dropWhile (· == '0')).reverse, e + 60)
        | some p =>
          if p ≥ 15 then
            (m / Nat.pow 2 60, hexWidth 15 (m % Nat.pow 2 60) ++ List.replicate (p - 15) '0',
              e + 60)
          else
            let drop := 60 - 4 * p
            let q := roundHalfEven m (Nat.pow 2 drop)
            if q == Nat.pow 2 (4 + 4 * p) then (1, List.replicate p '0', e + 64)
            else (q / Nat.pow 16 p, hexWidth p (q % Nat.pow 16 p), e + 60)
    let leadDigit := (hexWidth 1 lead)
    sign ++ "0x" ++ String.ofList leadDigit ++
      (if frac.isEmpty && !point then "" else "." ++ String.ofList frac) ++ "p" ++
      (if expo < 0 then "-" else "+") ++ toString expo.natAbs
  | _ => x.specialText.getD ""

end CFloat

end BuildGate.Number
