import BuildGate.Text.CellWidth

namespace BuildGate.Console

def isBlank (c : Char) : Bool :=
  let n := c.toNat
  (9 ≤ n && n ≤ 13) || (28 ≤ n && n ≤ 32) || n == 0x85 || n == 0xa0 || n == 0x1680 ||
    (0x2000 ≤ n && n ≤ 0x200a) || n == 0x2028 || n == 0x2029 || n == 0x202f || n == 0x205f ||
    n == 0x3000

/-- How a line aligns in its width. `none` leaves it as it is. -/
inductive Align where
  | none
  | left
  | center
  | right
  deriving Repr, BEq, DecidableEq, Inhabited

/-- What happens to a line wider than its width. -/
inductive Overflow where
  | fold
  | crop
  | ellipsis
  | ignore
  deriving Repr, BEq, DecidableEq, Inhabited

def spaces (n : Nat) : List Char := List.replicate n ' '

def expandTabs (cs : List Char) : List Char :=
  let parts := cs.splitOn '\t'
  let (out, _) := parts.dropLast.foldl (fun (acc : List Char × Nat) part =>
    let (out, col) := acc
    let pos := col + Text.cellsOf part + 1
    let pad := (8 - pos % 8) % 8
    (out ++ part ++ ' ' :: spaces pad, pos + pad)) ([], 0)
  out ++ parts.getLastD []

def wordsFrom (pos : Nat) : Nat → List Char → List (Nat × List Char)
  | 0, _ => []
  | fuel + 1, cs =>
    let lead := cs.takeWhile isBlank
    let rest := cs.drop lead.length
    if rest.isEmpty then []
    else
      let body := rest.takeWhile (!isBlank ·)
      let after := rest.drop body.length
      let trail := after.takeWhile isBlank
      let word := lead ++ body ++ trail
      (pos, word) :: wordsFrom (pos + word.length) fuel (after.drop trail.length)

def words (cs : List Char) : List (Nat × List Char) := wordsFrom 0 (cs.length + 1) cs

def dropEndBlanks (cs : List Char) : List Char := (cs.reverse.dropWhile isBlank).reverse

def chopCells (width : Nat) (cs : List Char) : List (List Char) :=
  let (done, cur, _) := (Text.clusters cs).foldl
    (fun (acc : List (List Char) × List Char × Nat) (k : Text.Cluster) =>
      let (done, cur, used) := acc
      if used + k.cells > width then (done ++ [cur], k.chars, k.cells)
      else (done, cur ++ k.chars, used + k.cells))
    ([], [], 0)
  done ++ [cur]

def pieceBreaks (start : Nat) : List (List Char) → List Nat × Nat
  | [] => ([], 0)
  | [p] => (if start == 0 then [] else [start], Text.cellsOf p)
  | p :: rest =>
    let (bs, last) := pieceBreaks (start + p.length) rest
    ((if start == 0 then [] else [start]) ++ bs, last)

def breakStep (width : Nat) (fold : Bool) (acc : List Nat × Nat) (w : Nat × List Char) :
    List Nat × Nat :=
  let (breaks, used) := acc
  let (start, word) := w
  let need := Text.cellsOf (dropEndBlanks word)
  if used + need ≤ width then (breaks, used + Text.cellsOf word)
  else if need > width then
    if fold then
      let (bs, last) := pieceBreaks start (chopCells width word)
      (breaks ++ bs, last)
    else (breaks ++ (if start == 0 then [] else [start]), Text.cellsOf word)
  else if used != 0 && start != 0 then (breaks ++ [start], Text.cellsOf word)
  else (breaks, used)

def breakPositions (width : Nat) (fold : Bool) (cs : List Char) : List Nat :=
  ((words cs).foldl (breakStep width fold) ([], 0)).1

def cutAt (cs : List Char) (positions : List Nat) : List (List Char) :=
  let bounds := 0 :: positions ++ [cs.length]
  (bounds.zip bounds.tail).map fun (a, b) => (cs.drop a).take (b - a)

def trimEnd (size : Nat) (cs : List Char) : List Char :=
  if cs.length > size then
    let blanks := (cs.reverse.takeWhile isBlank).length
    cs.take (cs.length - min blanks (cs.length - size))
  else cs

def fitClusters (total : Nat) : List Text.Cluster → List Char × Nat
  | [] => ([], 0)
  | k :: rest =>
    if k.cells ≤ total then
      let (kept, used) := fitClusters (total - k.cells) rest
      (k.chars ++ kept, used + k.cells)
    else ([], 0)

def fitPrefix (total : Nat) (cs : List Char) : List Char × Nat :=
  fitClusters total (Text.clusters cs)

/-- A text made exactly `total` cells wide: cut, or padded with spaces (also where a wide
cluster would straddle the end). -/
def setCells (total : Nat) (cs : List Char) : List Char :=
  let size := Text.cellsOf cs
  if size ≤ total then cs ++ spaces (total - size)
  else
    let (kept, used) := fitPrefix total cs
    kept ++ spaces (total - used)

def truncate (width : Nat) (ov : Overflow) (pad : Bool) (cs : List Char) : List Char :=
  let size := Text.cellsOf cs
  if ov != .ignore && size > width then
    if ov == .ellipsis then setCells (width - 1) cs ++ ['…'] else setCells width cs
  else if pad && size < width then cs ++ spaces (width - size)
  else cs

def alignLine (width : Nat) (ov : Overflow) (a : Align) (cs : List Char) : List Char :=
  match a with
  | .none => cs
  | .left => truncate width ov true cs
  | .center =>
    let t := truncate width ov false (dropEndBlanks cs)
    let size := Text.cellsOf t
    let left := (width - size) / 2
    spaces left ++ t ++ spaces (width - size - left)
  | .right =>
    let t := truncate width ov false (dropEndBlanks cs)
    spaces (width - Text.cellsOf t) ++ t

def splitLines (cs : List Char) : List (List Char) :=
  cs.splitOn '\n'

def wrapLine (width : Nat) (a : Align) (ov : Overflow) (noWrap : Bool) (line : List Char) :
    List (List Char) :=
  let line := expandTabs line
  let pieces :=
    if noWrap || ov == .ignore then [line]
    else cutAt line (breakPositions width (ov == .fold) line)
  pieces.map fun p => truncate width ov false (alignLine width ov a (trimEnd width p))

def wrapText (width : Nat) (a : Align) (ov : Overflow) (noWrap : Bool) (cs : List Char) :
    List (List Char) :=
  (splitLines cs).flatMap (wrapLine width a ov noWrap)

def isDropped (c : Char) : Bool :=
  c == '\x07' || c == '\x08' || c == '\x0b' || c == '\x0c' || c == '\r'

def dropControls (s : String) : List Char := s.toList.filter (!isDropped ·)

end BuildGate.Console
