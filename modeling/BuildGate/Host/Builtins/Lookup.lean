import BuildGate.Host.Builtins.Basic

namespace BuildGate.Host

/-- What a command name finds. -/
inductive Found where
  | keyword
  | alias (text : String)
  | function
  | builtin (special : Bool)
  | file (path : String) (tracked : Bool)
  | missing (errno : Nat)
  deriving Repr, BEq, Inhabited

def searchPaths (name path : String) : List String :=
  (path.splitOn ":").map fun d => if d.isEmpty then name else d ++ "/" ++ name

/-- Searches the directories of a path for a regular file of a name: its path, or the error
(`EACCES` when something else of that name stood in the way). -/
def searchFile (fs : Fs.Tree) (cwd : List String) (name path : String) : Except Nat String :=
  let step (acc : Option String × Nat) (p : String) : Option String × Nat :=
    match acc with
    | (some f, e) => (some f, e)
    | (none, e) =>
      match fs.stat (absoluteFrom cwd (Raw.toText p)) with
      | .ok (.file _ _) => (some p, e)
      | .ok _ => (none, 13)
      | .error n => (none, if n == 2 || n == 20 then e else n)
  match (searchPaths name path).foldl step (none, 2) with
  | (some f, _) => .ok f
  | (none, e) => .error e

/-- Looks a name up as a command name: `path` is the search path given instead of the shell's
own (`command -p`), when one is. The answer, and the shell with the command remembered when
it was found in its own search path. -/
def findCommand (sh : ShellProc) (fs : Fs.Tree) (name : String) (path : Option String) :
    Found × ShellProc :=
  if name.toList.contains '/' then
    match fs.stat (absoluteFrom sh.cwd (Raw.toText name)) with
    | .ok _ => (.file name false, sh)
    | .error e => (.missing e, sh)
  else if (sh.functions.lookup name).isSome then (.function, sh)
  else if path.isNone && (sh.tracked.lookup name).isSome then
    (.file ((sh.tracked.lookup name).getD name) true, sh)
  else if isBuiltin name then (.builtin (Shell.specialBuiltins.contains name), sh)
  else
    match searchFile fs sh.cwd name (path.getD ((sh.var? "PATH").getD "")) with
    | .ok f =>
      if path.isNone then (.file f false, { sh with tracked := sh.tracked ++ [(name, f)] })
      else (.file f false, sh)
    | .error e => (.missing e, sh)

/-- Describes a command name, as `type` (`verbose`) or `command -v` does: the text to write
and the status. -/
def describe (name : String) (found : Found) (verbose : Bool) : String × Nat :=
  match found with
  | .keyword => (if verbose then name ++ " is a shell keyword\n" else name ++ "\n", 0)
  | .alias text =>
    (if verbose then name ++ " is an alias for " ++ text ++ "\n"
     else "alias " ++ name ++ "=" ++ shellQuote text ++ "\n", 0)
  | .function => (if verbose then name ++ " is a shell function\n" else name ++ "\n", 0)
  | .builtin special =>
    (if verbose then name ++ " is a " ++ (if special then "special " else "") ++ "shell builtin\n"
     else name ++ "\n", 0)
  | .file p tracked =>
    (if verbose then name ++ " is " ++ (if tracked then "a tracked alias for " else "") ++ p ++ "\n"
     else p ++ "\n", 0)
  | .missing _ => (if verbose then name ++ ": not found\n" else "", 127)

def lookupName (name : String) (path : Option String) : ShellM Found := do
  let sh ← get
  if Shell.reservedWords.contains name then return .keyword
  if let some text := sh.aliases.lookup name then return .alias text
  let (found, sh') := findCommand sh (← host get).fs name path
  set sh'
  pure found

def typeBuiltin (args : List String) : ShellM Status := do
  let mut st := 0
  for a in args do
    let (text, code) := describe a (← lookupName a none) true
    sayText text
    if code != 0 then st := code
  pure (.exited st)

/-- `command -v` and `command -V`: says what the first name is, briefly or in words; `-p`
searches the default path instead. -/
def commandDescribe (opts : List Char) (args : List String) : ShellM Status := do
  match args with
  | [] => pure (.exited 0)
  | name :: _ =>
    let path := if opts.contains 'p' then some defaultPath else none
    let (text, code) := describe name (← lookupName name path) (opts.contains 'V')
    sayText text
    pure (.exited code)

def commandBucket (name : String) : Nat :=
  let bs := (Raw.bytes name).map UInt8.toNat
  match bs with
  | [] => 0
  | b :: _ => (b * 16 + bs.foldl (· + ·) 0) % 31

/-- `hash`: lists the tracked commands, forgets them all with `-r`, or looks names up and
remembers them. -/
def hashBuiltin (args : List String) : ShellM Status := do
  let (opts, names) ← builtinOptions "r" args
  if !opts.isEmpty then
    modify fun sh => { sh with tracked := [] }
    return .exited 0
  if names.isEmpty then
    let sh ← get
    let listed := (List.range 31).flatMap fun b =>
      (sh.tracked.filter fun (n, _) => commandBucket n == b).map fun (_, p) => p ++ "\n"
    sayText (String.join listed)
    return .exited 0
  let mut st := 0
  for n in names do
    modify fun sh => { sh with tracked := sh.tracked.filter (·.1 != n) }
    let (found, sh') := findCommand (← get) (← host get).fs n none
    set sh'
    if let .missing e := found then
      complain (n ++ ": " ++ (if e == 2 then "not found" else errnoText e))
      st := 1
  pure (.exited st)

def aliasBuiltin (args : List String) : ShellM Status := do
  let sh ← get
  let line (n v : String) := n ++ "=" ++ shellQuote v ++ "\n"
  if args.isEmpty then
    let listed := (List.range 39).flatMap fun b =>
      (sh.aliases.filter fun (n, _) => varBucket n == b).map fun (n, v) => line n v
    sayText (String.join listed)
    return .exited 0
  let mut st := 0
  for a in args do
    match (a.toList.drop 1).idxOf? '=' with
    | some i =>
      let name := String.ofList (a.toList.take (i + 1))
      let value := String.ofList (a.toList.drop (i + 2))
      modify fun sh =>
        if sh.aliases.any (·.1 == name) then
          { sh with aliases := sh.aliases.map fun p => if p.1 == name then (name, value) else p }
        else { sh with aliases := sh.aliases ++ [(name, value)] }
    | none =>
      match (← get).aliases.lookup a with
      | some v => sayText (line a v)
      | none =>
        host (emit (← get).io.err (Raw.bytes ("alias: " ++ a ++ " not found\n")))
        st := 1
  pure (.exited st)

def unaliasBuiltin (args : List String) : ShellM Status := do
  let (opts, names) ← builtinOptions "a" args
  if !opts.isEmpty then
    modify fun sh => { sh with aliases := [] }
    return .exited 0
  let mut st := 0
  for n in names do
    if (← get).aliases.any (·.1 == n) then
      modify fun sh => { sh with aliases := sh.aliases.filter (·.1 != n) }
    else
      host (emit (← get).io.err (Raw.bytes ("unalias: " ++ n ++ " not found\n")))
      st := 1
  pure (.exited st)

end BuildGate.Host
