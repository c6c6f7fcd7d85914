import BuildGate.Text.Literal

namespace BuildGate.Text

/-- Why a sequence of bytes is not UTF-8. -/
inductive Utf8Problem where
  | invalidStart
  | invalidContinuation
  | truncated
  deriving Repr, BEq, DecidableEq

def Utf8Problem.text : Utf8Problem → String
  | .invalidStart => "invalid start byte"
  | .invalidContinuation => "invalid continuation byte"
  | .truncated => "unexpected end of data"

/-- One character read at the start of some bytes, or a bad sequence and the length of its
longest valid prefix (at least one byte). -/
inductive Utf8Step where
  | char (c : Char) (len : Nat)
  | bad (len : Nat) (problem : Utf8Problem)

def inByteRange (b : UInt8) (lo hi : Nat) : Bool := lo ≤ b.toNat && b.toNat ≤ hi

def firstContinuation (lead : Nat) : Nat × Nat :=
  if lead == 0xE0 then (0xA0, 0xBF)
  else if lead == 0xED then (0x80, 0x9F)
  else if lead == 0xF0 then (0x90, 0xBF)
  else if lead == 0xF4 then (0x80, 0x8F)
  else (0x80, 0xBF)

/-- Reads the `need` continuation bytes of a character whose lead byte gave `acc`; `seen` counts
the bytes read so far. -/
def readContinuations (lead : Nat) : Nat → Nat → Nat → List UInt8 → Utf8Step
  | 0, seen, acc, _ => .char (Char.ofNat acc) seen
  | _ + 1, seen, _, [] => .bad seen .truncated
  | need + 1, seen, acc, b :: rest =>
    let (lo, hi) := if seen == 1 then firstContinuation lead else (0x80, 0xBF)
    if inByteRange b lo hi then readContinuations lead need (seen + 1) (acc * 64 + (b.toNat - 0x80)) rest
    else .bad seen .invalidContinuation

def readChar (b : UInt8) (rest : List UInt8) : Utf8Step :=
  let n := b.toNat
  if n < 0x80 then .char (Char.ofNat n) 1
  else if n < 0xC2 then .bad 1 .invalidStart
  else if n < 0xE0 then readContinuations n 1 1 (n - 0xC0) rest
  else if n < 0xF0 then readContinuations n 2 1 (n - 0xE0) rest
  else if n < 0xF5 then readContinuations n 3 1 (n - 0xF0) rest
  else .bad 1 .invalidStart

/-- Where UTF-8 reading failed: the index of the first byte, the length of the bad sequence,
that first byte, and the problem. -/
structure Utf8Error where
  start : Nat
  len : Nat
  byte : UInt8
  problem : Utf8Problem
  deriving Repr, BEq

/-- `'utf-8' codec can't decode byte 0xff in position 0: invalid start byte`, or
`… bytes in position 3-4: …` when the bad sequence is longer than one byte. -/
def Utf8Error.message (e : Utf8Error) : String :=
  if e.len == 1 then
    "'utf-8' codec can't decode byte 0x" ++ hexPad 2 e.byte.toNat ++ " in position " ++
      toString e.start ++ ": " ++ e.problem.text
  else
    "'utf-8' codec can't decode bytes in position " ++ toString e.start ++ "-" ++
      toString (e.start + e.len - 1) ++ ": " ++ e.problem.text

/-- Reads all bytes as UTF-8; `pos` is the index of the first of them, `fuel` at least their
number. -/
def decodeFrom (pos : Nat) (acc : List Char) : Nat → List UInt8 → Except Utf8Error String
  | _, [] => .ok (String.ofList acc.reverse)
  | 0, _ :: _ => .ok (String.ofList acc.reverse)
  | fuel + 1, b :: rest =>
    match readChar b rest with
    | .char c len => decodeFrom (pos + len) (c :: acc) fuel ((b :: rest).drop len)
    | .bad len p => .error ⟨pos, len, b, p⟩

def decodeUtf8 (bs : List UInt8) : Except Utf8Error String :=
  decodeFrom 0 [] bs.length bs

def lossyFrom (acc : List Char) : Nat → List UInt8 → String
  | _, [] => String.ofList acc.reverse
  | 0, _ :: _ => String.ofList acc.reverse
  | fuel + 1, b :: rest =>
    match readChar b rest with
    | .char c len => lossyFrom (c :: acc) fuel ((b :: rest).drop len)
    | .bad len _ => lossyFrom ('\ufffd' :: acc) fuel ((b :: rest).drop len)

/-- Bytes read as UTF-8, each bad sequence becoming U+FFFD. -/
def decodeLossy (bs : List UInt8) : String :=
  lossyFrom [] bs.length bs

def encodeUtf8 (s : String) : List UInt8 :=
  s.toUTF8.toList

def unencodableMessage (first start count : Nat) : String :=
  if count == 1 then
    "'utf-8' codec can't encode character '\\u" ++ hexPad 4 first ++ "' in position " ++
      toString start ++ ": surrogates not allowed"
  else
    "'utf-8' codec can't encode characters in position " ++ toString start ++ "-" ++
      toString (start + count - 1) ++ ": surrogates not allowed"

/-- Text written as UTF-8, or, when it holds unpaired halves, the message naming the first run
of them. -/
def encodeStrict (s : String) : Except String (List UInt8) :=
  let ps := points s.toList
  match ps.findIdx? isHalfCode with
  | none => .ok (encodeUtf8 (String.ofList (ps.map Char.ofNat)))
  | some i =>
    let run := (ps.drop i).takeWhile isHalfCode
    .error (unencodableMessage (run.headD 0) i run.length)

end BuildGate.Text
