import BuildGate.Host.Script
import BuildGate.Run

namespace BuildGate.Host

/-- The host. -/
structure World where
  fs : Fs.Tree
  env : Env
  clock : Nat := 0
  stdout : List UInt8 := []
  stderr : List UInt8 := []
  deriving Inhabited

/-- The exit code a launch failure gives for its error number. -/
def launchCode (errno : Nat) : Int :=
  if errno == 2 then 127 else if errno == 13 then 126 else 1

def secondsOfMicros (us : Nat) : Seconds := .real (Float.ofNat us / 1000000.0)

def timeoutMicros (s : Seconds) : Nat :=
  let x := s.toFloat * 1000000.0
  if x ≤ 0 then 0 else x.floor.toUInt64.toNat

def Status.returncode : Status → Int
  | .exited n => (n % 256 : Nat)
  | .signaled s => -(s : Int)

/-- What makes an invocation impossible to hand to the system at all: an environment name
with `=`, or a zero character in a path tried for the command, an argument, an environment
entry or the working directory. -/
def launchFault (inv : Invocation) : Option Fault :=
  let hasZero (s : String) := s.toList.contains (Char.ofNat 0)
  let searchPath := (inv.env.get? "PATH").getD "/bin:/usr/bin"
  let texts := candidates inv.command searchPath ++ inv.args ++
    inv.env.entries.flatMap (fun (k, v) => [k, v]) ++ [inv.cwd.toText]
  if inv.env.keys.any (·.toList.contains '=') then
    some (.invalid "illegal environment variable name")
  else if texts.any hasZero then some (.invalid "embedded null byte")
  else none

/-- Launches an invocation on the host: its outcome and the host after it. -/
def World.launch (inv : Invocation) (h : World) : Outcome × World :=
  let argv := (inv.command :: inv.args).map Raw.ofText
  let fail (e : SysError) : Outcome × World :=
    let msg := "Failed to launch " ++ Text.quote inv.command ++ ": " ++ e.message
    ({ returncode := launchCode e.errno, stderr := textBytes msg, elapsed := Seconds.zero,
       launchError := some msg }, h)
  let cwdText := inv.cwd.toText
  let chdir : Except Nat (List String) :=
    match h.fs.lookup true (h.fs.absolute inv.cwd) with
    | .error e => .error e
    | .ok (_, none) => .error 2
    | .ok (phys, some .dir) => .ok phys
    | .ok (_, some _) => .error 20
  match chdir with
  | .error e => fail (Fs.errorAt e cwdText)
  | .ok cwd =>
    let searchPath := (inv.env.get? "PATH").getD "/bin:/usr/bin"
    let tried := candidates (Raw.ofText inv.command) (Raw.ofText searchPath)
    match loadFirst h.fs cwd argv tried none 2 with
    | .error e => fail (Fs.errorAt e inv.command)
    | .ok (prog, argv') =>
      let m : Machine := { fs := h.fs, deadline := inv.timeout.map timeoutMicros,
                           firstOnly := inv.live }
      let (r, m) := (do
          let st ← runImage prog argv' (rawEnv inv.env) cwd {}
          -- what the background still writes after the end goes to files
          flushAll
          pure st).run.run m
      let (code, err) := match r with
        | .ok st => (st.returncode, m.err)
        | .error .timedOut => (124, m.err ++ textBytes "\nTimeout expired.\n")
      let h := { h with fs := m.fs, clock := h.clock + m.clock }
      let h := if inv.live then
          { h with stdout := h.stdout ++ m.out, stderr := h.stderr ++ m.err }
        else h
      ({ returncode := code, stdout := m.out, stderr := err, elapsed := secondsOfMicros m.clock }, h)

/-- Launches an invocation on the host, unless it cannot be handed to the system. -/
def World.execute (inv : Invocation) (h : World) : Except Fault (Outcome × World) :=
  match launchFault inv with
  | some f => .error f
  | none => .ok (h.launch inv)

def World.runner : Runner World := fun inv h => h.execute inv

/-- The entry at a path for a test of its kind: nothing when it is missing, a file stands in
the way, links loop, or the path has a zero character; any other system error is a fault. -/
def World.probe (h : World) (p : Path) : Except Fault (Option Fs.Entry) :=
  if Fs.hasZero p.toText then .ok none
  else
    match h.fs.stat (h.fs.absolute p) with
    | .ok e => .ok (some e)
    | .error n =>
      if n == 2 || n == 20 || n == 40 then .ok none
      else .error (.system (Fs.errorAt n p.toText))

def World.isExecutable (h : World) (p : Path) : Except Fault Bool := do
  match ← h.probe p with
  | some (.file _ mode) => pure (mode % 2 == 1 || (mode / 8) % 2 == 1 || (mode / 64) % 2 == 1)
  | _ => pure false

/-- The first path of a list that names an executable file. -/
def World.firstExecutable (h : World) : List Path → Except Fault (Option Path)
  | [] => pure none
  | p :: rest => do
    if ← h.isExecutable p then pure (some p) else h.firstExecutable rest

/-- The paths looked at for a command: the command itself when it has a `/`, else the command
in each non-empty directory of the host's `PATH`. -/
def World.whichPaths (h : World) (cmd : String) : List Path :=
  if cmd.toList.contains '/' then [Path.ofString cmd]
  else
    let dirs := (searchDirs ((h.env.get? "PATH").getD "")).filter (!·.isEmpty)
    dirs.map fun d => (Path.ofString d).joinText cmd

/-- Finds a command: its path, when it names an executable file. -/
def World.which (h : World) (cmd : String) : Except Fault (Option String) := do
  let found ← h.firstExecutable (h.whichPaths cmd)
  pure (found.map Path.toText)

end BuildGate.Host
