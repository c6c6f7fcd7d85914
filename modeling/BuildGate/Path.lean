
namespace BuildGate

/-- A path: its root (`""`, `"/"` or `"//"`) and its components, none empty or `.`. -/
structure Path where
  root : String
  parts : List String
  deriving Repr, BEq, DecidableEq, Inhabited

namespace Path

def components (s : String) : List String :=
  ((s.toList.splitOn '/').map String.ofList).filter fun c => c != "" && c != "."

def ofString (s : String) : Path :=
  let cs := s.toList
  let slashes := (cs.takeWhile (· == '/')).length
  let root := if slashes == 0 then "" else if slashes == 2 then "//" else "/"
  ⟨root, components (String.ofList (cs.drop slashes))⟩

def toText (p : Path) : String :=
  if p.root.isEmpty && p.parts.isEmpty then "." else p.root ++ "/".intercalate p.parts

instance : ToString Path := ⟨toText⟩

def isAbs (p : Path) : Bool := !p.root.isEmpty

def join (p q : Path) : Path :=
  if q.isAbs then q else ⟨p.root, p.parts ++ q.parts⟩

def joinText (p : Path) (s : String) : Path := p.join (ofString s)

def joinAll (p : Path) (ss : List String) : Path := ss.foldl joinText p

def name (p : Path) : String := p.parts.getLastD ""

def parent (p : Path) : Path := ⟨p.root, p.parts.dropLast⟩

/-- The last component without its last suffix: a final `.` and what follows it, when the
dot is neither first nor last. -/
def stem (p : Path) : String :=
  let cs := p.name.toList
  let idx := (cs.length - 1) - ((cs.reverse.takeWhile (· != '.')).length)
  if cs.contains '.' && 0 < idx && idx < cs.length - 1 then String.ofList (cs.take idx)
  else p.name

def isUnder (p base : Path) : Bool :=
  p.root == base.root && base.parts.isPrefixOf p.parts

def relativeTo (p base : Path) : Path := ⟨"", p.parts.drop base.parts.length⟩

end Path

end BuildGate
