import BuildGate.Fs

namespace BuildGate.Fs

namespace Tree

def parentOf (t : Tree) (cs : List String) : Except Nat (List String × String) :=
  match cs.getLast? with
  | none => .error 17
  | some name =>
    match t.lookup true cs.dropLast with
    | .ok (phys, some .dir) => .ok (phys, name)
    | .ok (_, some _) => .error 20
    | .ok (_, none) => .error 2
    | .error n => .error n

def mkdir (t : Tree) (cs : List String) (existOk : Bool) : Except Nat Tree := do
  let (dir, name) ← t.parentOf cs
  let at_ := dir ++ [name]
  match t.entryAt at_ with
  | none => pure (t.put at_ .dir)
  | some _ => if existOk && t.isDir cs then pure t else throw 17

/-- Makes a directory and every missing one above it. -/
def makeDirs (t : Tree) (cs : List String) : Except Nat Tree :=
  (List.range cs.length).foldlM (fun t i => t.mkdir (cs.take (i + 1)) true) t

def writeFile (t : Tree) (cs : List String) (bytes : List UInt8) (mode : Nat := 0o644) :
    Except Nat Tree :=
  match t.lookup true cs with
  | .ok (phys, none) =>
    match t.lookup true phys.dropLast with
    | .ok (_, some .dir) => .ok (t.put phys (.file bytes mode))
    | _ => .error 2
  | .ok (_, some .dir) => .error 21
  | .ok (phys, some (.file _ m)) => .ok (t.put phys (.file bytes m))
  | .ok (_, some (.link _)) => .error 40
  | .error n => .error n

def symlink (t : Tree) (cs : List String) (target : String) : Except Nat Tree := do
  let (dir, name) ← t.parentOf cs
  let at_ := dir ++ [name]
  match t.entryAt at_ with
  | none => pure (t.put at_ (.link target))
  | some _ => throw 17

def readFile (t : Tree) (cs : List String) : Except Nat (List UInt8) :=
  match t.stat cs with
  | .ok (.file bytes _) => .ok bytes
  | .ok _ => .error 21
  | .error n => .error n

def chmod (t : Tree) (cs : List String) (mode : Nat) : Except Nat Tree :=
  match t.lookup true cs with
  | .ok (phys, some (.file b _)) => .ok (t.put phys (.file b mode))
  | .ok (_, some _) => .ok t
  | .ok (_, none) => .error 2
  | .error n => .error n

end Tree

def hasZero (s : String) : Bool := s.toList.contains (Char.ofNat 0)

def zeroFault : Fault := .invalid "embedded null byte"

/-- The result of a system call at a path as a fault: a path with a zero character is
refused before any call, and an error number becomes the system error at the path. -/
def atPath (path : String) (r : Except Nat α) : Except Fault α :=
  if hasZero path then .error zeroFault
  else r.mapError fun n => .system (errorAt n path)

/-- Why a path cannot be resolved: a zero character in it, or a link loop (with the
canonical path met). -/
inductive ResolveError where
  | zero
  | loop (path : String)
  deriving Repr, BEq

/-- The canonical path of an absolute path, checked: a zero character or a link loop is an
error; a missing path, a file in the way or a name too long is not. -/
def resolvePath (t : Tree) (cs : List String) : Except ResolveError (List String) :=
  if cs.any hasZero then .error .zero
  else
    let real := t.realpath cs
    match t.stat real with
    | .error 40 => .error (.loop (absText real))
    | _ => .ok real

def ResolveError.fault : ResolveError → Fault
  | .zero => zeroFault
  | .loop p => .runtime ("Symlink loop from " ++ Text.quote p)

end BuildGate.Fs
