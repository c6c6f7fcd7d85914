import BuildGate.Text.Similar
import BuildGate.Text.Literal

namespace BuildGate.Cli

/-- An option of a command. -/
structure Opt where
  key : String
  names : List String
  negatives : List String := []
  flag : Bool := false
  metavar : String := ""
  help : String := ""
  shownDefault : Option String := none
  required : Bool := false
  eager : Bool := false
  deriving Repr, Inhabited

def isShortName (n : String) : Bool :=
  match n.toList with
  | '-' :: c :: _ => c != '-'
  | _ => false

def Opt.longNames (o : Opt) : List String := o.names.filter (!isShortName ·)

def Opt.shortNames (o : Opt) : List String := o.names.filter isShortName

/-- Why a command line is refused. -/
inductive UsageError where
  | noSuchOption (name : String) (possible : List String)
  | needsValue (name : String)
  | takesNoValue (name : String)
  | extraArguments (args : List String)
  | missingOption (names : List String)
  | badValue (names : List String) (message : String)
  | invalid (message : String)
  | missingCommand
  | noSuchCommand (name : String) (possible : List String)
  deriving Repr, BEq, Inhabited

def namesHint (names : List String) : String :=
  " / ".intercalate (names.map fun n => "'" ++ n ++ "'")

def UsageError.message : UsageError → String
  | .noSuchOption name [] => "No such option: " ++ name
  | .noSuchOption name [p] => "No such option: " ++ name ++ " Did you mean " ++ p ++ "?"
  | .noSuchOption name ps =>
    "No such option: " ++ name ++ " (Possible options: " ++ ", ".intercalate (ps.mergeSort (· ≤ ·)) ++ ")"
  | .needsValue name => "Option " ++ Text.quote name ++ " requires an argument."
  | .takesNoValue name => "Option " ++ Text.quote name ++ " does not take a value."
  | .extraArguments [a] => "Got unexpected extra argument (" ++ a ++ ")"
  | .extraArguments args => "Got unexpected extra arguments (" ++ " ".intercalate args ++ ")"
  | .missingOption names => "Missing option " ++ namesHint names ++ "."
  | .badValue names m => "Invalid value for " ++ namesHint names ++ ": " ++ m
  | .invalid m => "Invalid value: " ++ m
  | .missingCommand => "Missing command."
  | .noSuchCommand name [] => "No such command " ++ Text.quote name ++ "."
  | .noSuchCommand name ps =>
    "No such command " ++ Text.quote name ++ ". Did you mean " ++ ", ".intercalate (ps.map Text.quote) ++ "?"

/-- What was read from a command line: the options given, in order, with their values, and the
other arguments. -/
structure Given where
  options : List (String × Option String) := []
  rest : List String := []
  deriving Repr, Inhabited

def findOpt (opts : List Opt) (name : String) : Option Opt :=
  opts.find? fun o => o.names.contains name

def readShort (opts : List Opt) (more : List String) (g : Given) :
    List Char → Except UsageError (Given × List String)
  | [] => .ok (g, more)
  | c :: cs =>
    let name := "-" ++ c.toString
    match (opts.filter fun o => o.shortNames.contains name).head? with
    | none => .error (.noSuchOption name [])
    | some o =>
      if o.flag then readShort opts more { g with options := g.options ++ [(o.key, none)] } cs
      else if !cs.isEmpty then
        .ok ({ g with options := g.options ++ [(o.key, some (String.ofList cs))] }, more)
      else
        match more with
        | [] => .error (.needsValue name)
        | v :: rest => .ok ({ g with options := g.options ++ [(o.key, some v)] }, rest)

def readOption (opts : List Opt) (arg : String) (more : List String) (g : Given) :
    Except UsageError (Given × List String) :=
  let (name, attached) := match arg.splitOn "=" with
    | [] => (arg, none)
    | [n] => (n, none)
    | n :: vs => (n, some ("=".intercalate vs))
  match (opts.filter fun o => o.longNames.contains name).head? with
  | some o =>
    if o.flag then
      if attached.isSome then .error (.takesNoValue name)
      else .ok ({ g with options := g.options ++ [(o.key, none)] }, more)
    else
      match attached.toList ++ more with
      | [] => .error (.needsValue name)
      | v :: rest => .ok ({ g with options := g.options ++ [(o.key, some v)] }, rest)
  | none =>
    if arg.startsWith "--" then
      .error (.noSuchOption name (Text.closeMatches name (opts.flatMap Opt.longNames)))
    else readShort opts more g (arg.toList.drop 1)

def readArgs (opts : List Opt) (interspersed : Bool) : Nat → List String → Given →
    Except UsageError Given
  | 0, args, g => .ok { g with rest := g.rest ++ args }
  | _, [], g => .ok g
  | fuel + 1, arg :: more, g =>
    if arg == "--" then .ok { g with rest := g.rest ++ more }
    else if arg.startsWith "-" && arg.length > 1 then do
      let (g, more) ← readOption opts arg more g
      readArgs opts interspersed fuel more g
    else if interspersed then readArgs opts interspersed fuel more { g with rest := g.rest ++ [arg] }
    else .ok { g with rest := g.rest ++ arg :: more }

/-- Reads a command line from its start. -/
def Given.read (opts : List Opt) (interspersed : Bool) (args : List String) :
    Except UsageError Given :=
  readArgs opts interspersed (args.length + 1) args {}

def Given.value? (g : Given) (key : String) : Option (Option String) :=
  (g.options.reverse.find? (·.1 == key)).map (·.2)

def Given.has (g : Given) (key : String) : Bool := (g.value? key).isSome

def Given.text? (g : Given) (key : String) : Option String := (g.value? key).bind id

def Given.eagerOrder (g : Given) (opts : List Opt) : List String :=
  let keys := g.options.map (·.1)
  (keys.eraseDups).filter fun k => (opts.find? (·.key == k)).any (·.eager)

end BuildGate.Cli
