
namespace BuildGate.Text

def runLength (a b : Array Char) (ahi bhi : Nat) : Nat → Nat → Nat → Nat
  | 0, _, _ => 0
  | fuel + 1, i, j =>
    if i < ahi && j < bhi && a.getD i ' ' == b.getD j ' ' then
      1 + runLength a b ahi bhi fuel (i + 1) (j + 1)
    else 0

def longestBlock (a b : Array Char) (alo ahi blo bhi : Nat) : Nat × Nat × Nat :=
  (List.range' alo (ahi - alo)).foldl (fun best i =>
    (List.range' blo (bhi - blo)).foldl (fun best j =>
      let k := runLength a b ahi bhi (ahi - i) i j
      if k > best.2.2 then (i, j, k) else best) best) (alo, blo, 0)

def matchedChars (a b : Array Char) : Nat → Nat → Nat → Nat → Nat → Nat
  | 0, _, _, _, _ => 0
  | fuel + 1, alo, ahi, blo, bhi =>
    let (i, j, k) := longestBlock a b alo ahi blo bhi
    if k == 0 then 0
    else
      k + matchedChars a b fuel alo i blo j + matchedChars a b fuel (i + k) ahi (j + k) bhi

def matched (a b : String) : Nat :=
  let x := a.toList.toArray
  let y := b.toList.toArray
  matchedChars x y (x.size + 1) 0 x.size 0 y.size

def similarity (a b : String) : Nat × Nat := (2 * matched a b, a.length + b.length)

def closeEnough (r : Nat × Nat) : Bool := r.2 == 0 || 5 * r.1 ≥ 3 * r.2

def closeMatches (word : String) (candidates : List String) : List String :=
  let scored := (candidates.map fun c =>
    let r := similarity c word
    (if r.2 == 0 then (1, 1) else r, c)).filter fun x => closeEnough x.1
  let better (x y : (Nat × Nat) × String) : Bool :=
    let l := x.1.1 * y.1.2
    let r := y.1.1 * x.1.2
    l > r || (l == r && decide (y.2 < x.2))
  ((scored.mergeSort better).take 3).map (·.2)

end BuildGate.Text
