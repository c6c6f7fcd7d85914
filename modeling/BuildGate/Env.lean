
namespace BuildGate

/-- An environment: entries in the order their names were first set, names distinct. -/
structure Env where
  entries : List (String × String)
  deriving Repr, BEq, Inhabited

namespace Env

def empty : Env := ⟨[]⟩

def get? (e : Env) (k : String) : Option String :=
  (e.entries.find? (·.1 == k)).map (·.2)

def contains (e : Env) (k : String) : Bool :=
  e.entries.any (·.1 == k)

def set (e : Env) (k v : String) : Env :=
  if e.contains k then ⟨e.entries.map fun p => if p.1 == k then (k, v) else p⟩
  else ⟨e.entries ++ [(k, v)]⟩

def ofList (kvs : List (String × String)) : Env :=
  kvs.foldl (fun e p => e.set p.1 p.2) empty

def overlay (e f : Env) : Env :=
  f.entries.foldl (fun acc p => acc.set p.1 p.2) e

def keys (e : Env) : List String := e.entries.map (·.1)

end Env

end BuildGate
