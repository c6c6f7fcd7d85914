import BuildGate.Number.Binary64
import BuildGate.Text.Literal

namespace BuildGate.Number

def digitValue (c : Char) : Option Nat :=
  if '0' ≤ c && c ≤ '9' then some (c.toNat - 48)
  else if 'a' ≤ c && c ≤ 'z' then some (c.toNat - 87)
  else if 'A' ≤ c && c ≤ 'Z' then some (c.toNat - 55)
  else none

def digitPart (base : Nat) (cs : List Char) : Option (List Nat) :=
  go cs true
where
  go : List Char → Bool → Option (List Nat)
    | [], afterUnderscore => if afterUnderscore then none else some []
    | '_' :: rest, afterUnderscore => if afterUnderscore then none else go rest true
    | c :: rest, _ => do
      let d ← digitValue c
      if d < base then (d :: ·) <$> go rest false else none

def digitsValue (base : Nat) (ds : List Nat) : Nat := ds.foldl (fun n d => base * n + d) 0

def stripBlank (s : List Char) : List Char :=
  ((s.dropWhile Text.isBlank).reverse.dropWhile Text.isBlank).reverse

def splitSign : List Char → Bool × List Char
  | '-' :: rest => (true, rest)
  | '+' :: rest => (false, rest)
  | cs => (false, cs)

def dropBasePrefix (base : Nat) (cs : List Char) : List Char :=
  match cs with
  | '0' :: p :: rest =>
    if (base == 16 && (p == 'x' || p == 'X')) || (base == 8 && (p == 'o' || p == 'O')) ||
        (base == 2 && (p == 'b' || p == 'B')) then
      (match rest with
       | '_' :: r => r
       | r => r)
    else cs
  | _ => cs

def isWord (cs : List Char) (words : List String) : Bool :=
  words.contains (String.ofList (cs.map Char.toLower))

def decimalBlocks : List Nat :=
  [0x30, 0x660, 0x6F0, 0x7C0, 0x966, 0x9E6, 0xA66, 0xAE6, 0xB66, 0xBE6, 0xC66, 0xCE6, 0xD66,
   0xDE6, 0xE50, 0xED0, 0xF20, 0x1040, 0x1090, 0x17E0, 0x1810, 0x1946, 0x19D0, 0x1A80, 0x1A90,
   0x1B50, 0x1BB0, 0x1C40, 0x1C50, 0xA620, 0xA8D0, 0xA900, 0xA9D0, 0xA9F0, 0xAA50, 0xABF0,
   0xFF10, 0x104A0, 0x10D30, 0x11066, 0x110F0, 0x11136, 0x111D0, 0x112F0, 0x11450, 0x114D0,
   0x11650, 0x116C0, 0x11730, 0x118E0, 0x11950, 0x11C50, 0x11D50, 0x11DA0, 0x16A60, 0x16AC0,
   0x16B50, 0x1D7CE, 0x1D7D8, 0x1D7E2, 0x1D7EC, 0x1D7F6, 0x1E140, 0x1E2F0, 0x1E950, 0x1FBF0]

def decimalValue (c : Char) : Option Nat :=
  (decimalBlocks.find? fun b => b ≤ c.toNat && c.toNat < b + 10).map fun b => c.toNat - b

/-- A number's text with the decimal digits of every script as ASCII digits and every blank as
a space, the way the number constructors read it; nothing when another character beyond ASCII
is in it. -/
def asciiDigits (text : String) : Option String :=
  (text.toList.mapM fun c =>
    if Text.isBlank c then some ' '
    else if c.toNat < 128 then some c
    else (decimalValue c).map fun d => Char.ofNat (48 + d)).map String.ofList

def intDigitLimit : Nat := 4300

/-- An integer from text in a base, or the message of a text that is not one. Decimal digits
of every script count as digits; in a base that is not a power of two, more than
`intDigitLimit` digits are refused. -/
def readInt (text : String) (base : Nat) : Except String Int :=
  let bad : Except String Int :=
    .error ("invalid literal for int() with base " ++ toString base ++ ": " ++ Text.quote text)
  match asciiDigits text with
  | none => bad
  | some t =>
    let (neg, body) := splitSign (stripBlank t.toList)
    let body := dropBasePrefix base body
    match digitPart base body with
    | some ds =>
      if ds.isEmpty then bad
      else if ds.length > intDigitLimit && base &&& (base - 1) != 0 then
        .error ("Exceeds the limit (" ++ toString intDigitLimit ++
          " digits) for integer string conversion: value has " ++ toString ds.length ++
          " digits; use sys.set_int_max_str_digits() to increase the limit")
      else
        let n := (digitsValue base ds : Int)
        .ok (if neg then -n else n)
    | none => bad

/-- A float from text, or the message of a text that is not one; decimal digits of every
script count as digits. -/
def readFloat (text : String) : Except String Float :=
  let bad : Except String Float :=
    .error ("could not convert string to float: " ++ Text.quote text)
  match asciiDigits text with
  | none => bad
  | some t =>
    let (neg, body) := splitSign (stripBlank t.toList)
    if isWord body ["inf", "infinity"] then
      .ok (if neg then -Binary64.infinity else Binary64.infinity)
    else if isWord body ["nan"] then
      .ok (if neg then -Binary64.nan else Binary64.nan)
    else
      let (mantissa, expo) := body.span fun c => c != 'e' && c != 'E'
      let expValue : Option Int :=
        match expo with
        | [] => some 0
        | _ :: rest =>
          let (eneg, edigits) := splitSign rest
          (digitPart 10 edigits).bind fun ds =>
            if ds.isEmpty then none
            else some (if eneg then -(digitsValue 10 ds : Int) else (digitsValue 10 ds : Int))
      let (whole, frac) := mantissa.span (· != '.')
      let wholeDigits := if whole.isEmpty then some [] else digitPart 10 whole
      let fracDigits :=
        match frac with
        | [] => some []
        | _ :: [] => some []
        | _ :: rest => digitPart 10 rest
      match wholeDigits, fracDigits, expValue with
      | some w, some f, some e =>
        if w.isEmpty && f.isEmpty then bad
        else
          .ok (Binary64.ofDecimal neg (digitsValue 10 (w ++ f)) (e - f.length))
      | _, _, _ => bad

end BuildGate.Number
