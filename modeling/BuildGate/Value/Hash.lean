import BuildGate.Value
import BuildGate.Text.Halves

namespace BuildGate.Value

def rotl (x : UInt64) (s : UInt64) : UInt64 := (x <<< s) ||| (x >>> (64 - s))

/-- The four words of SipHash. -/
structure SipState where
  v0 : UInt64
  v1 : UInt64
  v2 : UInt64
  v3 : UInt64

def SipState.round (s : SipState) : SipState :=
  let v0 := s.v0 + s.v1
  let v2 := s.v2 + s.v3
  let v1 := rotl s.v1 13 ^^^ v0
  let v3 := rotl s.v3 16 ^^^ v2
  let v0 := rotl v0 32
  let v2 := v2 + v1
  let v0 := v0 + v3
  let v1 := rotl v1 17 ^^^ v2
  let v3 := rotl v3 21 ^^^ v0
  let v2 := rotl v2 32
  ⟨v0, v1, v2, v3⟩

def SipState.absorb (s : SipState) (m : UInt64) : SipState :=
  let t := { s with v3 := s.v3 ^^^ m }.round
  { t with v0 := t.v0 ^^^ m }

def leWord (bs : List UInt8) : UInt64 :=
  bs.foldr (fun b acc => (acc <<< 8) ||| b.toUInt64) 0

def sipBlocks : List UInt8 → SipState → SipState × List UInt8
  | b0 :: b1 :: b2 :: b3 :: b4 :: b5 :: b6 :: b7 :: rest, s =>
    sipBlocks rest (s.absorb (leWord [b0, b1, b2, b3, b4, b5, b6, b7]))
  | rest, s => (s, rest)

def sipHash13 (bs : List UInt8) : UInt64 :=
  let start : SipState := ⟨0x736f6d6570736575, 0x646f72616e646f6d, 0x6c7967656e657261,
    0x7465646279746573⟩
  let (s, tail) := sipBlocks bs start
  let last := ((bs.length % 256).toUInt64 <<< 56) ||| leWord tail
  let s := s.absorb last
  let s := { s with v2 := s.v2 ^^^ 0xff }.round.round.round
  (s.v0 ^^^ s.v1) ^^^ (s.v2 ^^^ s.v3)

def signedHash (w : UInt64) : Int :=
  let n : Int := if w.toNat ≥ Nat.pow 2 63 then (w.toNat : Int) - (Nat.pow 2 64 : Nat) else w.toNat
  if n == -1 then -2 else n

def bytesHash (bs : List UInt8) : Int :=
  if bs.isEmpty then 0 else signedHash (sipHash13 bs)

def textHashBytes (s : String) : List UInt8 :=
  let codes := Text.points s.toList
  let widest := codes.foldl max 0
  let width := if widest < 256 then 1 else if widest < 65536 then 2 else 4
  codes.flatMap fun c => (List.range width).map fun i => ((c >>> (8 * i)) % 256).toUInt8

def hashModulus : Nat := Nat.pow 2 61 - 1

def numberHash (neg : Bool) (m : Nat) (e : Int) : Int :=
  let power := (e % 61).toNat
  let r : Int := ((m % hashModulus) * Nat.pow 2 power % hashModulus : Nat)
  let h := if neg then -r else r
  if h == -1 then -2 else h

def intHash (n : Int) : Int := numberHash (n < 0) n.natAbs 0

def floatHash (x : Float) : Int :=
  match Binary64.shape x with
  | .finite neg m e => numberHash neg m e
  | .infinite neg => if neg then -314159 else 314159
  | .nan => 0

def xxPrime1 : UInt64 := 11400714785074694791

def xxPrime2 : UInt64 := 14029467366897019727

def xxPrime5 : UInt64 := 2870177450012600261

def tupleHash (lanes : List Int) : Int :=
  let acc := lanes.foldl (fun (acc : UInt64) (lane : Int) =>
    let acc := acc + (UInt64.ofInt lane) * xxPrime2
    rotl acc 31 * xxPrime1) xxPrime5
  let acc := acc + (lanes.length.toUInt64 ^^^ (xxPrime5 ^^^ 3527539))
  if acc == UInt64.ofInt (-1) then 1546275796 else signedHash acc

def stampHash (t : Stamp) : Int :=
  match t.offset with
  | none =>
    let y := t.date.year
    bytesHash ([(y / 256).toUInt8, (y % 256).toUInt8, t.date.month.toUInt8,
      t.date.day.toUInt8, t.hour.toUInt8, t.minute.toUInt8, t.second.toUInt8,
      (t.micro / 65536).toUInt8, (t.micro / 256 % 256).toUInt8, (t.micro % 256).toUInt8])
  | some _ =>
    let total := t.moment
    tupleHash [intHash (total / 86400), intHash (total % 86400), intHash t.micro]

def nullHash : Int := 36

/-- The hash of a key. Lists, sets and mappings are never keys; a recursive reference stands
for one of them. -/
def hash : Value → Int
  | .null => nullHash
  | .bool b => if b then 1 else 0
  | .int n => intHash n
  | .float x => floatHash x
  | .str s => bytesHash (textHashBytes s)
  | .bytes b => bytesHash b
  | .date d =>
    bytesHash [(d.year / 256).toUInt8, (d.year % 256).toUInt8, d.month.toUInt8, d.day.toUInt8]
  | .stamp t => stampHash t
  | .tuple xs => tupleHash (xs.attach.map fun ⟨x, _⟩ => hash x)
  | _ => 0

end BuildGate.Value
