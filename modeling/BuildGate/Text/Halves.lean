
namespace BuildGate.Text

def halfMark : Char := Char.ofNat 0xFFFF

def isHalfCode (n : Nat) : Bool := 0xD800 ≤ n && n < 0xE000

def pointChars (n : Nat) : List Char :=
  if isHalfCode n then [halfMark, Char.ofNat (0x100000 + n)]
  else if n == halfMark.toNat then [halfMark, halfMark]
  else [Char.ofNat n]

def charChars (c : Char) : List Char :=
  if c == halfMark then [halfMark, halfMark] else [c]

def points : List Char → List Nat
  | [] => []
  | [c] => [c.toNat]
  | c :: d :: more =>
    if c == halfMark && d == halfMark then halfMark.toNat :: points more
    else if c == halfMark && 0x10D800 ≤ d.toNat && d.toNat < 0x10E000 then
      (d.toNat - 0x100000) :: points more
    else c.toNat :: points (d :: more)

def ofPoints (ps : List Nat) : String := String.ofList (ps.flatMap pointChars)

def holdsHalf (s : String) : Bool := (points s.toList).any isHalfCode

end BuildGate.Text
