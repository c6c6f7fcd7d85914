import BuildGate.Path
import BuildGate.Fault

namespace BuildGate.Fs

/-- What stands at a path. -/
inductive Entry where
  | dir
  | file (content : List UInt8) (mode : Nat)
  | link (target : String)
  deriving Repr, BEq, Inhabited

/-- A file tree: each entry under the components of its absolute path, and the working
directory that relative paths start from. -/
structure Tree where
  entries : List (List String × Entry) := []
  cwd : List String := []
  deriving Repr, Inhabited

def absText (cs : List String) : String := "/" ++ "/".intercalate cs

def absParts (p : Path) : List String := p.parts

def maxLinks : Nat := 40

def maxName : Nat := 255

namespace Tree

def entryAt (t : Tree) (cs : List String) : Option Entry :=
  if cs.isEmpty then some .dir else t.entries.lookup cs

def put (t : Tree) (cs : List String) (e : Entry) : Tree :=
  { t with entries := (t.entries.filter (·.1 != cs)) ++ [(cs, e)] }

def absolute (t : Tree) (p : Path) : List String :=
  if p.isAbs then p.parts else t.cwd ++ p.parts

/-- A bound on the steps of a lookup: every component of the path, and of every link target
for each link that may be followed. -/
def lookupFuel (t : Tree) (cs : List String) : Nat :=
  let longest := t.entries.foldl (fun m p =>
    match p.2 with
    | .link target => max m (target.toList.splitOn '/').length
    | _ => m) 0
  cs.length + (maxLinks + 1) * (longest + 1) + 1

/-- Walks `todo` from the directory `cur` (physical components): the physical components of
what it names and its entry, or no entry when only the last component is missing. Fails
with an error number: 2 (a directory on the way is missing), 20 (a file on the way), 36 (a
name longer than `maxName`), 40 (too many links). -/
def walk (t : Tree) (follow : Bool) :
    Nat → Nat → List String → List String → Except Nat (List String × Option Entry)
  | 0, _, _, _ => .error 40
  | _ + 1, _, cur, [] => .ok (cur, some .dir)
  | fuel + 1, links, cur, c :: rest =>
    if c == "" || c == "." then walk t follow fuel links cur rest
    else if c == ".." then walk t follow fuel links cur.dropLast rest
    else if c.utf8ByteSize > maxName then .error 36
    else
      let next := cur ++ [c]
      let last := rest.all fun r => r == "" || r == "."
      match t.entryAt next with
      | none => if last then .ok (next, none) else .error 2
      | some .dir => walk t follow fuel links next rest
      | some (.file b m) => if last then .ok (next, some (.file b m)) else .error 20
      | some (.link target) =>
        if last && !follow then .ok (next, some (.link target))
        else if links ≥ maxLinks then .error 40
        else
          let parts := Path.components target
          if target.startsWith "/" then walk t follow fuel (links + 1) [] (parts ++ rest)
          else walk t follow fuel (links + 1) cur (parts ++ rest)

def lookup (t : Tree) (follow : Bool) (cs : List String) :
    Except Nat (List String × Option Entry) :=
  t.walk follow (t.lookupFuel cs) 0 [] cs

def stat (t : Tree) (cs : List String) : Except Nat Entry :=
  match t.lookup true cs with
  | .ok (_, some e) => .ok e
  | .ok (_, none) => .error 2
  | .error n => .error n

def lstat (t : Tree) (cs : List String) : Except Nat Entry :=
  match t.lookup false cs with
  | .ok (_, some e) => .ok e
  | .ok (_, none) => .error 2
  | .error n => .error n

def children (t : Tree) (dir : List String) : List String :=
  t.entries.filterMap fun (cs, _) =>
    if cs.length == dir.length + 1 && dir.isPrefixOf cs then cs.getLast? else none

def isDir (t : Tree) (cs : List String) : Bool :=
  match t.stat cs with
  | .ok .dir => true
  | _ => false

def isFile (t : Tree) (cs : List String) : Bool :=
  match t.stat cs with
  | .ok (.file ..) => true
  | _ => false

def exists_ (t : Tree) (cs : List String) : Bool := (t.stat cs).toBool

def filesUnder (t : Tree) (dir : List String) : List (List String × List UInt8) :=
  t.entries.filterMap fun (cs, e) =>
    if dir.isPrefixOf cs && cs.length > dir.length then
      match e with
      | .file b _ => some (cs.drop dir.length, b)
      | .link _ =>
        match t.stat cs with
        | .ok (.file b _) => some (cs.drop dir.length, b)
        | _ => none
      | .dir => none
    else none

end Tree

def errorAt (errno : Nat) (path : String) : SysError :=
  match errno with
  | 2 => SysError.noEntry path
  | 8 => SysError.badFormat path
  | 13 => SysError.denied path
  | 17 => SysError.exists_ path
  | 20 => SysError.notDir path
  | 21 => SysError.isDir path
  | 36 => SysError.nameTooLong path
  | 40 => SysError.loop path
  | _ => ⟨errno, "Unknown error " ++ toString errno, path⟩

def lexical (cs : List String) : List String :=
  cs.foldl (fun acc c =>
    if c == "" || c == "." then acc else if c == ".." then acc.dropLast else acc ++ [c]) []

namespace Tree

/-- Resolves `rest` after the resolved directory `path`: every link on the way is replaced by
what it resolves to. `seen` holds the links met, with what each resolved to, or nothing
while it is being resolved; meeting such a link again is a loop, and then the rest is left
as it is and the flag is false. -/
def joinReal (t : Tree) :
    Nat → List (List String × Option (List String)) → List String → List String →
      (List String × Bool × List (List String × Option (List String)))
  | 0, seen, path, rest => (lexical (path ++ rest), false, seen)
  | _ + 1, seen, path, [] => (path, true, seen)
  | fuel + 1, seen, path, name :: rest =>
    if name == "" || name == "." then joinReal t fuel seen path rest
    else if name == ".." then joinReal t fuel seen path.dropLast rest
    else
      let next := path ++ [name]
      match t.entryAt next with
      | some (.link target) =>
        match seen.lookup next with
        | some (some resolved) => joinReal t fuel seen resolved rest
        | some none => (lexical (next ++ rest), false, seen)
        | none =>
          let seen := seen ++ [(next, none)]
          let start := if target.startsWith "/" then [] else path
          let (resolved, ok, seen) := joinReal t fuel seen start (Path.components target)
          if !ok then (lexical (resolved ++ rest), false, seen)
          else
            let seen := seen.map fun p => if p.1 == next then (p.1, some resolved) else p
            joinReal t fuel seen resolved rest
      | _ => joinReal t fuel seen next rest

def realpath (t : Tree) (cs : List String) : List String :=
  let fuel := (t.entries.length + 1) * (t.lookupFuel cs + 1)
  (t.joinReal fuel [] [] cs).1

end Tree

end BuildGate.Fs
