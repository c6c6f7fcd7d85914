namespace BuildGate

/-- The regular expressions of the library's checks: the anchors `^` and `$`, character
classes, sequences and bounded repetitions, matched by backtracking with the longer repetitions
tried first. -/
inductive Pattern where
  | start
  | stop
  | oneOf (ranges : List (Char × Char))
  | seq (p q : Pattern)
  | rep (p : Pattern) (lo hi : Nat)

namespace Pattern

def inRanges (ranges : List (Char × Char)) (c : Char) : Bool :=
  ranges.any fun r => r.1 ≤ c && c ≤ r.2

/-- At least `lo` and at most `hi` further matches by `m`, the longer tries first; `k` goes on
from where the last one ends. -/
def repeatRun (m : Nat → List Char → (Nat → List Char → Bool) → Bool) :
    Nat → Nat → Nat → List Char → (Nat → List Char → Bool) → Bool
  | lo, 0, pos, rest, k => lo == 0 && k pos rest
  | lo, hi + 1, pos, rest, k =>
    m pos rest (fun pos' rest' => repeatRun m (lo - 1) hi pos' rest' k) || (lo == 0 && k pos rest)

/-- Whether the pattern matches from `pos`, the number of characters before `rest`, so that `k`
accepts the position and the rest where the match ends. -/
def run : Pattern → Nat → List Char → (Nat → List Char → Bool) → Bool
  | start, pos, rest, k => pos == 0 && k pos rest
  | stop, pos, rest, k => (rest.isEmpty || rest == ['\n']) && k pos rest
  | oneOf ranges, pos, rest, k =>
    match rest with
    | c :: cs => inRanges ranges c && k (pos + 1) cs
    | [] => false
  | seq p q, pos, rest, k => p.run pos rest fun pos' rest' => q.run pos' rest' k
  | rep p lo hi, pos, rest, k => repeatRun p.run lo hi pos rest k

/-- `re.fullmatch`: whether a match spans the whole text. -/
def fullmatch (p : Pattern) (s : String) : Bool :=
  p.run 0 s.toList fun _ rest => rest.isEmpty

end Pattern

def alnumClass : List (Char × Char) := [('A', 'Z'), ('a', 'z'), ('0', '9')]

def nameClass : List (Char × Char) := alnumClass ++ [('_', '_'), ('.', '.'), ('-', '-')]

/-- `^[A-Za-z0-9][A-Za-z0-9_.-]{0,63}$`, the pattern of step names and of run ids. -/
def namePattern : Pattern :=
  .seq .start (.seq (.oneOf alnumClass) (.seq (.rep (.oneOf nameClass) 0 63) .stop))

end BuildGate
