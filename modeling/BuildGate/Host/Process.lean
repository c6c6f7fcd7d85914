import BuildGate.Host.Job
import BuildGate.Host.Programs
import BuildGate.Host.Builtins.Lookup
import BuildGate.Host.Load

namespace BuildGate.Host

open BuildGate.Shell (parseScript)

def execText (e : Nat) : String :=
  if e == 2 || e == 20 then "not found" else errnoText e

def execStatus (e : Nat) : Nat :=
  if e == 13 then 126 else if e == 2 then 127 else 2

def tryExec (fs : Fs.Tree) (cwd : List String) (argv : List String) :
    List String → Nat → Except Nat (String × List String)
  | [], e => .error e
  | p :: rest, e =>
    match loadImage fs cwd loadDepth p argv with
    | .ok r => .ok r
    | .error 8 => .ok ("dash", ["/bin/sh", p] ++ argv.drop 1)
    | .error n => tryExec fs cwd argv rest (if n != 2 && n != 20 then n else e)

def writeFailureStatus (program : String) : Nat :=
  match program with
  | "env" => 125
  | "sort" | "test" | "[" => 2
  | _ => 1

def startProgram (recur : Job → ShellM Status) (name : String) (argv : List String) (env : Env)
    (cwd : List String) (io : Io) (umask : Nat) : ShellM Status := do
  let parent ← get
  if name == "dash" then
    let pid ← host newPid
    let m ← host get
    let reader ← host (readerAt io.input)
    let errLine (msg : String) : ShellM Status := do
      host (emit io.err (Raw.bytes (argv.headD "sh" ++ ": 0: " ++ msg ++ "\n")))
      pure (.exited 2)
    match shellArgs argv with
    | .error msg => errLine msg
    | .ok start =>
      let script : Except String (Option String) := match start.source with
        | .text s => .ok (some s)
        | .input =>
          match reader.left with
          | .bytes bs => .ok (some (Raw.ofBytes (bs.filter (· != 0))))
          | .zeros => .ok none
        | .file f =>
          match readSource m.fs cwd (Raw.toText f) with
          | .ok (.bytes bs) => .ok (some (Raw.ofBytes (bs.filter (· != 0))))
          | .ok .zeros => .ok none
          | .error n =>
            .error ("cannot open " ++ f ++ ": " ++
              (if n == 2 || n == 20 then "No such file" else errnoText n))
      match script with
      | .error msg => errLine msg
      | .ok none => host hang
      | .ok (some text) =>
        if start.source matches .input then host (readFrom io.input .whole)
        let sh := ShellProc.start start.name start.params env cwd m.fs io pid parent.self umask
        let sh := start.options.foldl (fun sh (n, on) => sh.setOption n on) sh
        let runTrap (act : String) : ShellM Unit := do
          let _ ← recur (.lines (parseScript act))
        asShell runTrap sh do
          let _ ← recur (.lines (parseScript text))
          pure (.exited (← get).status)
  else
    let m ← host get
    let reader ← host (readerAt io.input)
    let r := runProgram name
      { argv := argv.map Raw.toText, env := textEnv env, cwd, input := reader.left,
        seekable := reader.seekable, fs := m.fs, umask }
    host (readFrom io.input r.reading)
    let r := if io.out == .closed && !r.out.isEmpty then
        { r.warn (Raw.bytes (argv.headD name ++ ": write error: Bad file descriptor\n")) with
          status := .exited (writeFailureStatus name) }
      else r
    for w in r.writes do
      match w with
      | .out bs => host (emit io.out bs)
      | .err bs => host (emit io.err bs)
    if let some t := r.fs then host (modify fun m => { m with fs := t })
    if r.endless then host hang
    host (sleepFor r.wait)
    match r.exec with
    | none => pure r.status
    | some (argv', env', dir) =>
      let cwd := dir.getD cwd
      let rawArgv := argv'.map Raw.ofText
      let cmd := rawArgv.headD ""
      let searchPath := ((rawEnv env').get? "PATH").getD "/bin:/usr/bin"
      match tryExec m.fs cwd rawArgv (candidates cmd searchPath) 2 with
      | .ok (prog, argv'') => recur (.program prog argv'' (rawEnv env') cwd io umask)
      | .error e =>
        let q := localeQuote (textEnv env) (argv'.headD "")
        host (emit io.err (textBytes (Raw.toText (argv.headD "env") ++ ": " ++ q ++ ": " ++
          errnoText e ++ "\n")))
        pure (.exited (if e == 2 then 127 else 126))

/-- Runs a command that is not a builtin or a function: found as a file and started as a
process with the environment `env`. `path` is the search path when it is not the shell's
own. -/
def runExternal (recur : Job → ShellM Status) (fields : List String) (env : Env)
    (path : Option String) : ShellM Status := do
  let sh ← get
  let fs := (← host get).fs
  let cmd := fields.headD ""
  let start : Except Nat (List String) ←
    if cmd.toList.contains '/' then pure (.ok [cmd])
    else do
      let (found, sh') := findCommand sh fs cmd path
      set sh'
      match found with
      | .file p _ =>
        let all := searchPaths cmd (path.getD ((sh.var? "PATH").getD ""))
        pure (.ok (if all.contains p then all.drop (all.idxOf p) else [p]))
      | .missing e => pure (.error e)
      | _ => pure (.error 2)
  match start with
  | .error e =>
    complain (cmd ++ ": " ++ execText e)
    pure (.exited 127)
  | .ok paths =>
    let loaded := if cmd.toList.contains '/' then
        match loadImage fs sh.cwd loadDepth cmd fields with
        | .error 8 => .ok ("dash", ["/bin/sh", cmd] ++ fields.drop 1)
        | other => other
      else tryExec fs sh.cwd fields paths 2
    match loaded with
    | .ok (prog, argv) =>
      -- starting a program lets the commands in the background catch up first
      host (do flushUntil (← get).clock)
      recur (.program prog argv env sh.cwd sh.io sh.umask)
    | .error e =>
      complain (cmd ++ ": " ++ execText e)
      pure (.exited (execStatus e))

end BuildGate.Host
