import BuildGate.Host.Process
import BuildGate.Host.Builtins.Control
import BuildGate.Host.Builtins.Dirs
import BuildGate.Host.Builtins.Input
import BuildGate.Host.Builtins.Signals
import BuildGate.Host.Builtins.Vars
import BuildGate.Host.Test

namespace BuildGate.Host

open BuildGate.Shell (Word Command Redir parseScript)

def callFunction (recur : Job → ShellM Status) (body : Command) (args : List String) :
    ShellM Status := do
  let saved ← get
  modify fun sh => { sh with params := args, loopDepth := 0, frames := [] :: sh.frames,
                             optIndex := 1, optOffset := none }
  let leave : ShellM Unit := modify fun sh =>
    { sh.restoreLocals (sh.frames.headD []) with
      params := saved.params, loopDepth := saved.loopDepth, frames := sh.frames.drop 1,
      optIndex := saved.optIndex, optOffset := saved.optOffset }
  withCleanup (tryCatch (recur (.command body)) fun e =>
    match e with
    | .ret code => pure (.exited code)
    | other => throw other) leave

def printfBuiltin (args : List String) : ShellM Status := do
  let (_, rest) ← builtinOptions "" args
  match rest with
  | [] => refuse "usage: printf format [arg ...]"
  | fmt :: more =>
    let p := Shell.printf .shell fmt more
    for (_, w) in p.warnings do complain w
    say p.out
    match p.fatal with
    | some m => refuse m
    | none => pure (.exited p.status)

def testBuiltin (bracket : Bool) (args : List String) : ShellM Status := do
  let name := if bracket then "[" else "test"
  let args ←
    if bracket then
      if (args.getLast?.bind (·.toList.head?)) == some ']' then pure args.dropLast
      else refuse "missing ]"
    else pure args
  match shellTest (← host get).fs (← get).cwd args with
  | .ok b => pure (.exited (if b then 0 else 1))
  | .error m => refuse m

def runText (recur : Job → ShellM Status) (text : String) : ShellM Status := do
  let chunks := parseScript text
  let ran := chunks.any fun
    | .run _ => true
    | .bad _ _ => true
  let st ← recur (.lines chunks)
  pure (if ran then st else .exited 0)

def dotBuiltin (recur : Job → ShellM Status) (args : List String) : ShellM Status := do
  match args with
  | [] => pure (.exited 0)
  | f :: _ =>
    let sh ← get
    let fs := (← host get).fs
    let path ←
      if f.toList.contains '/' then pure f
      else
        match searchFile fs sh.cwd f ((sh.var? "PATH").getD "") with
        | .ok p => pure p
        | .error _ => refuse (f ++ ": not found")
    match readSource fs sh.cwd (Raw.toText path) with
    | .ok (.bytes bs) =>
      modify fun sh => { sh with command := some path }
      runText recur (Raw.ofBytes (bs.filter (· != 0)))
    | .ok .zeros => host hang
    | .error n =>
      refuse ("cannot open " ++ path ++ ": " ++
        (if n == 2 || n == 20 then "No such file" else errnoText n))

def commandBuiltin (args : List String) : ShellM Status := do
  let (opts, rest) ← builtinOptions "pvV" args
  let letters := opts.map (·.1)
  if (letters.contains 'v' || letters.contains 'V') && !rest.isEmpty then
    commandDescribe letters rest
  else pure (.exited 0)

def waitBuiltin (args : List String) : ShellM Status := do
  let (_, operands) ← builtinOptions "" args
  let children := (← get).jobs.filter (·.child)
  if operands.isEmpty then
    for j in children do host j.await
    return .exited 0
  let mut st : Nat := 127
  for a in operands do
    let pid ← numberArg a
    match children.find? (·.pid == pid) with
    | some j =>
      host j.await
      st := j.status.code
    | none => st := 127
  pure (.exited st)

def builtinBody (recur : Job → ShellM Status) (name : String) (args : List String) :
    ShellM Status := do
  let runTrap (act : String) : ShellM Unit := do
    let status := (← get).status
    let _ ← recur (.lines (parseScript act))
    modify fun sh => { sh with status }
  match name with
  | ":" | "true" => pure (.exited 0)
  | "false" => pure (.exited 1)
  | "echo" =>
    say (Shell.echoOutput args)
    pure (.exited 0)
  | "printf" => printfBuiltin args
  | "pwd" => pwdBuiltin args
  | "test" => testBuiltin false args
  | "[" => testBuiltin true args
  | "cd" | "chdir" => cdBuiltin args
  | "umask" => umaskBuiltin args
  | "type" => typeBuiltin args
  | "hash" => hashBuiltin args
  | "alias" => aliasBuiltin args
  | "unalias" => unaliasBuiltin args
  | "read" => readBuiltin args
  | "getopts" => getoptsBuiltin args
  | "kill" => killBuiltin runTrap args
  | "trap" => trapBuiltin args
  | "export" => markBuiltin "export" args
  | "readonly" => markBuiltin "readonly" args
  | "unset" => unsetBuiltin args
  | "local" => localBuiltin args
  | "set" => setBuiltin args
  | "shift" => shiftBuiltin args
  | "exit" => exitBuiltin args
  | "return" => returnBuiltin args
  | "break" => jumpBuiltin true args
  | "continue" => jumpBuiltin false args
  | "eval" => runText recur (" ".intercalate args)
  | "." => dotBuiltin recur args
  | "command" => commandBuiltin args
  | "times" =>
    sayText "0m0.000000s 0m0.000000s\n0m0.000000s 0m0.000000s\n"
    pure (.exited 0)
  | "ulimit" =>
    sayText "unlimited\n"
    pure (.exited 0)
  | "fg" | "bg" => refuse "No current job"
  | "wait" => waitBuiltin args
  | _ => pure (.exited 0)

def runBuiltin (recur : Job → ShellM Status) (name : String) (args : List String)
    (special : Bool) : ShellM Status := do
  let outer := (← get).command
  modify fun sh => { sh with command := some name }
  withCleanup (do
    let st ← tryCatch (builtinBody recur name args) fun e =>
      match e with
      | .failure => if special then throw .failure else pure (.exited 2)
      | other => throw other
    if (← get).writeFailed then
      modify fun sh => { sh with writeFailed := false }
      complain (name ++ ": I/O error")
      pure (.exited (st.code ||| 1))
    else pure st) (modify fun sh => { sh with command := outer })

/-- What the first word of a simple command names, once `command` prefixes are taken off. -/
inductive Target where
  | function (body : Command)
  | builtin (name : String)
  | file
  deriving Inhabited

/-- How a simple command resolves: what it runs, its arguments, whether it is special, and the
search path given for it when it is not the shell's own. -/
structure Resolved where
  target : Target
  fields : List String
  special : Bool
  path : Option String

def commandPrefix : Nat → List String → Bool → Option (List String × Bool)
  | 0, _, _ => none
  | _ + 1, [], _ => none
  | fuel + 1, a :: rest, usesDefault =>
    match a.toList with
    | '-' :: [] => some (a :: rest, usesDefault)
    | ['-', '-'] => if rest.isEmpty then none else some (rest, usesDefault)
    | '-' :: letters =>
      if letters.all (· == 'p') then commandPrefix fuel rest true else none
    | _ => some (a :: rest, usesDefault)

def resolve (sh : ShellProc) : Nat → List String → Option Bool → Option String → Bool → Resolved
  | 0, fields, special, path, _ =>
    { target := .file, fields, special := special.getD false, path }
  | fuel + 1, fields, special, path, noFunctions =>
    let name := fields.headD ""
    match (if noFunctions || Shell.specialBuiltins.contains name then none
           else sh.functions.lookup name) with
    | some body => { target := .function body, fields, special := special.getD false, path }
    | none =>
      if isBuiltin name then
        let special := special.getD (Shell.specialBuiltins.contains name)
        if name != "command" then { target := .builtin name, fields, special, path }
        else
          match commandPrefix (fields.length + 1) (fields.drop 1) false with
          | none => { target := .builtin name, fields, special, path }
          | some (rest, usesDefault) =>
            resolve sh fuel rest (some special) (if usesDefault then some defaultPath else path)
              true
      else { target := .file, fields, special := special.getD false, path }

def withTemporary (values : List (String × String)) (act : ShellM Status) : ShellM Status := do
  let sh ← get
  let frame := values.map fun (n, _) => (n, sh.vars.find? (·.name == n))
  for (n, v) in values do assignVar n v true
  withCleanup act (modify fun sh => sh.restoreLocals frame)

def traceCommand (values : List (String × String)) (fields : List String) : ShellM Unit := do
  let sh ← get
  if sh.isOn "xtrace" then
    let words := values.map (fun (n, v) => n ++ "=" ++ v) ++ fields
    let ps4 := (sh.var? "PS4").getD ""
    host (emit sh.io.err (Raw.bytes (ps4 ++ " ".intercalate words ++ "\n")))

def withStreams (io : Io) (act : ShellM α) : ShellM α := do
  let saved := (← get).io
  modify fun sh => { sh with io }
  withCleanup act (modify fun sh => { sh with io := saved })

/-- Runs a simple command. Its assignments are expanded, and set, with its redirections in
place; a failed redirection leaves them unset. -/
def runSimple (recur : Job → ShellM Status) (sub : String → ShellM String)
    (assigns : List (String × Word)) (words : List Word) (redirs : List Redir) (line : Nat) :
    ShellM Status := do
  modify fun sh => { sh with line, substStatus := 0 }
  let fields ← expandWords sub words
  let opened ← if redirs.isEmpty then pure (.ok (← get).io) else redirect sub redirs
  if let .error m := opened then complain m
  let expand := assigns.mapM fun (n, w) => do pure (n, ← expandText sub .colons w)
  let values ← match opened with
    | .ok io => withStreams io expand
    | .error _ => expand
  traceCommand values fields
  let sh ← get
  let ownPath := values.lookup "PATH"
  let r := resolve sh (fields.length + 1) fields none ownPath false
  match opened with
  | .error _ => if r.special && !fields.isEmpty then throw (.exit 2) else pure (.exited 2)
  | .ok io =>
    let assignAll (exported : Bool) : ShellM Unit :=
      withStreams io (for (n, v) in values do assignVar n v exported)
    match fields with
    | [] =>
      assignAll false
      pure (.exited (← get).substStatus)
    | _ =>
      match r.target with
      | .function body =>
        withStreams io (withTemporary values (callFunction recur body (r.fields.drop 1)))
      | .builtin "exec" =>
        match r.fields.drop 1 with
        | [] =>
          assignAll false
          modify fun sh => { sh with io }
          pure (.exited 0)
        | cmd =>
          assignAll true
          let env := (← get).childEnv
          modify fun sh => { sh with command := some "exec" }
          let st ← withStreams io (runExternal recur cmd env r.path)
          match st with
          | .exited n => throw (.exit n)
          | .signaled s => throw (.signal (← get).self s)
      | .builtin name =>
        let args := r.fields.drop 1
        if r.special then
          assignAll false
          withStreams io (runBuiltin recur name args true)
        else withStreams io (withTemporary values (runBuiltin recur name args false))
      | .file =>
        withStreams io (withTemporary values (do
          runExternal recur r.fields (← get).childEnv r.path))

end BuildGate.Host
