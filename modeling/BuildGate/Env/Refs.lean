import BuildGate.Env
import BuildGate.ConfigError

namespace BuildGate

def isRefStart (c : Char) : Bool :=
  ('a' ≤ c && c ≤ 'z') || ('A' ≤ c && c ≤ 'Z') || c == '_'

def isRefChar (c : Char) : Bool :=
  isRefStart c || ('0' ≤ c && c ≤ '9')

/-- The longest name at the start of `cs`, empty when `cs` does not start with one. -/
def refName (cs : List Char) : List Char :=
  match cs with
  | c :: _ => if isRefStart c then cs.takeWhile isRefChar else []
  | [] => []

/-- Expands the references of `cs` against `scope`; `place` is where the value stands. -/
def expandChars (scope : Env) (place : String) (cs : List Char) :
    Except ConfigError (List Char) :=
  match cs with
  | [] => .ok []
  | '$' :: '$' :: rest => ('$' :: ·) <$> expandChars scope place rest
  | '$' :: '\x7b' :: rest =>
    let name := refName rest
    match h : rest.drop name.length with
    | '\x7d' :: after =>
      if name.isEmpty then ('$' :: ·) <$> expandChars scope place ('\x7b' :: rest)
      else
        match scope.get? (String.ofList name) with
        | some v => (v.toList ++ ·) <$> expandChars scope place after
        | none => .error (.unresolved place (String.ofList name))
    | _ => ('$' :: ·) <$> expandChars scope place ('\x7b' :: rest)
  | c :: rest => (c :: ·) <$> expandChars scope place rest
termination_by cs.length
decreasing_by
  all_goals simp_wf
  all_goals first
    | omega
    | (have hl := congrArg List.length h
       simp only [List.length_drop, List.length_cons] at hl
       omega)

/-- `value` with its references expanded against `scope`. -/
def expandRefs (scope : Env) (value : String) (place : String := "env") :
    Except ConfigError String :=
  String.ofList <$> expandChars scope place value.toList

end BuildGate
