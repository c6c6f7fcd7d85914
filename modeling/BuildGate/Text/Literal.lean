import BuildGate.Text.Classes
import BuildGate.Text.Halves

namespace BuildGate.Text

def hexDigit (n : Nat) : Char :=
  if n < 10 then Char.ofNat (48 + n) else Char.ofNat (87 + n)

def hexDigits : Nat → Nat → List Char
  | 0, _ => []
  | width + 1, n => hexDigits width (n / 16) ++ [hexDigit (n % 16)]

def hexPad (width n : Nat) : String :=
  String.ofList (hexDigits width n)

def literalQuote (s : List Char) : Char :=
  if s.contains '\'' && !s.contains '"' then '"' else '\''

def escapeIn (q c : Char) : List Char :=
  if c == q || c == '\\' then ['\\', c]
  else if c == '\t' then ['\\', 't']
  else if c == '\n' then ['\\', 'n']
  else if c == '\r' then ['\\', 'r']
  else if c.toNat < 0x20 || c.toNat == 0x7F then '\\' :: 'x' :: hexDigits 2 c.toNat
  else if c.toNat < 0x7F then [c]
  else if isShown c then [c]
  else if c.toNat ≤ 0xFF then '\\' :: 'x' :: hexDigits 2 c.toNat
  else if c.toNat ≤ 0xFFFF then '\\' :: 'u' :: hexDigits 4 c.toNat
  else '\\' :: 'U' :: hexDigits 8 c.toNat

def escapePointIn (q : Char) (n : Nat) : List Char :=
  if isHalfCode n then '\\' :: 'u' :: hexDigits 4 n else escapeIn q (Char.ofNat n)

def quote (s : String) : String :=
  let cs := s.toList
  let q := literalQuote cs
  String.ofList (q :: (points cs).flatMap (escapePointIn q) ++ [q])

end BuildGate.Text
