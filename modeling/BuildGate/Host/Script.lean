import BuildGate.Host.SimpleCommand

namespace BuildGate.Host

open BuildGate.Shell (Command Chunk parseScript)

/-- Runs the stages of a pipeline, all starting at one moment, each reading what the one
before wrote; the status is the last stage's. -/
def runPipeline (recur : Job → ShellM Status) (stages : List Command) : ShellM Status := do
  let start := (← host get).clock
  let io := (← get).io
  let mut input := io.input
  let mut finish := start
  let mut st : Status := .exited 0
  let n := stages.length
  for (c, i) in stages.zip (List.range n) do
    host (modify fun m => { m with clock := start })
    if i + 1 < n then
      let d ← host openPipe
      let sh ← subshellOf { io with input, out := .pipe d }
      let _ ← asProcess sh (recur (.command c)) true
      let written ← host closePipe
      input ← host (openReader (.bytes written) false)
    else
      let sh ← subshellOf { io with input }
      st ← asProcess sh (recur (.command c))
    finish := max finish (← host get).clock
  host (modify fun m => { m with clock := finish })
  pure st

/-- How a loop goes on after a round of its condition or body. -/
inductive LoopStep where
  | next
  | stop
  | pass (e : Ended)

def loopRound (act : ShellM Status) : ShellM (Option Status × LoopStep) :=
  tryCatch (do let st ← act; pure (some st, .next)) fun e =>
    match e with
    | .brk n => pure (none, if n ≤ 1 then .stop else .pass (.brk (n - 1)))
    | .cont n => pure (none, if n ≤ 1 then .next else .pass (.cont (n - 1)))
    | other => throw other

/-- Runs a command of the shell; with `noexec` on, commands are read but not run. -/
def runCommand (recur : Job → ShellM Status) (sub : String → ShellM String) (c : Command) :
    ShellM Status := do
  if (← get).isOn "noexec" then return .exited (← get).status
  match c with
  | .simple assigns words redirs line =>
    let st ← runSimple recur sub assigns words redirs line
    checkErrexit (← setStatus st)
  | .pipeline negate stages =>
    if negate then
      let st ← tested (if stages.length == 1 then recur (.command (stages.headD default))
        else runPipeline recur stages)
      setStatus (.exited (if st.code == 0 then 1 else 0))
    else
      let st ← runPipeline recur stages
      checkErrexit (← setStatus st)
  | .andIf a b =>
    let st ← tested (recur (.command a))
    if st.code == 0 then recur (.command b) else setStatus st
  | .orIf a b =>
    let st ← tested (recur (.command a))
    if st.code != 0 then recur (.command b) else setStatus st
  | .seq cs =>
    let mut st : Status := .exited (← get).status
    for c in cs do
      st ← recur (.command c)
    pure st
  | .background c =>
    -- the command runs ahead, reading nothing, from this moment; the shell goes on from it
    let sh ← subshellOf { (← get).io with input := 0 }
    let m ← host get
    let start := m.clock
    -- when the deadline stops only the first process, a job in the background outlives it
    host (set { m with ahead := some (sh.self, m.pipes.length),
                       deadline := if m.firstOnly then none else m.deadline })
    let run : HostM (Option Status × List BackgroundJob) := do
      let (r, left) ← ((asProcess sh (recur (.command c))).run).run sh
      pure (some (match r with
        | .ok st => st
        | .error _ => .exited 0), left.jobs)
    let (r, orphans) ← host (tryCatch run fun _ => pure (none, []))
    let stop := (← host get).clock
    host (modify fun m' =>
      { m' with clock := start, ahead := m.ahead, deadline := m.deadline, level := m.level })
    let job : BackgroundJob := match r with
      | some st => { pid := sh.self, stop := some stop, status := st, holdsOutput := c.keepsOutput }
      | none => { pid := sh.self, stop := none, status := .exited 0, holdsOutput := c.keepsOutput }
    modify fun s => { s with lastBackground := some sh.self, jobs := s.jobs ++ [job] ++ orphans }
    setStatus (.exited 0)
  | .group body rs => withRedirs sub rs (recur (.command body))
  | .subshell body rs =>
    let st ← withRedirs sub rs do
      let sh ← subshellOf (← get).io
      let runTrap (act : String) : ShellM Unit := do
        let _ ← recur (.lines (parseScript act))
      asShell runTrap sh (recur (.command body))
    checkErrexit (← setStatus st)
  | .ifThen cond yes no =>
    let st ← tested (recur (.command cond))
    if st.code == 0 then recur (.command yes)
    else
      match no with
      | some n => recur (.command n)
      | none => setStatus (.exited 0)
  | .loop untilLoop cond body =>
    let depth := (← get).loopDepth
    modify fun sh => { sh with loopDepth := depth + 1 }
    let mut st : Status := .exited 0
    let mut pending : Option Ended := none
    let mut ended := false
    for _ in List.range loopLimit do
      let (t, step) ← loopRound (tested (recur (.command cond)))
      match step, t with
      | .stop, _ => ended := true; st := .exited 0; break
      | .pass e, _ => ended := true; pending := some e; break
      | .next, none => st := .exited 0
      | .next, some t =>
        if (t.code == 0) == untilLoop then ended := true; break
        let (b, step) ← loopRound (recur (.command body))
        st := b.getD (.exited 0)
        match step with
        | .stop => ended := true; break
        | .pass e => ended := true; pending := some e; break
        | .next => pure ()
    modify fun sh => { sh with loopDepth := depth }
    if let some e := pending then throw e
    if !ended then host hang
    setStatus st
  | .forIn name items body =>
    let values ← match items with
      | some ws => expandWords sub ws
      | none => pure (← get).params
    let depth := (← get).loopDepth
    modify fun sh => { sh with loopDepth := depth + 1 }
    let mut st : Status := .exited 0
    let mut pending : Option Ended := none
    for v in values do
      assignVar name v
      let (b, step) ← loopRound (recur (.command body))
      st := b.getD (.exited 0)
      match step with
      | .stop => break
      | .pass e => pending := some e; break
      | .next => pure ()
    modify fun sh => { sh with loopDepth := depth }
    if let some e := pending then throw e
    setStatus st
  | .caseOf subject arms =>
    let text ← expandText sub .start subject
    let mut chosen : Option (Option Command) := none
    for (pats, body) in arms do
      if chosen.isNone then
        for p in pats do
          if chosen.isNone then
            if Shell.patternMatches (← expandPattern sub p) text then chosen := some body
    match chosen with
    | some (some body) => recur (.command body)
    | _ => setStatus (.exited 0)
  | .funcDef name body =>
    modify fun sh => { sh with functions := sh.functions.filter (·.1 != name) ++ [(name, body)] }
    setStatus (.exited 0)

def runLines (recur : Job → ShellM Status) (chunks : List Chunk) : ShellM Status := do
  for ch in chunks do
    match ch with
    | .run c => let _ ← recur (.command c)
    | .bad line msg =>
      modify fun sh => { sh with line }
      complain msg
      throw (.exit 2)
  pure (.exited (← get).status)

def run : Nat → Job → ShellM Status
  | 0, _ => host hang
  | fuel + 1, job =>
    let sub (script : String) : ShellM String :=
      substitute (run fuel (.lines (parseScript script)))
    match job with
    | .program name argv env cwd io umask => startProgram (run fuel) name argv env cwd io umask
    | .lines chunks => runLines (run fuel) chunks
    | .command c => runCommand (run fuel) sub c

def startMask : Nat := 0o022

/-- Runs a program of the image as a process of the machine, its arguments and environment in
raw text: how it ended. -/
def runImage (name : String) (argv : List String) (env : Env) (cwd : List String) (io : Io) :
    HostM Status := do
  let (r, _) ← ((run runFuel (.program name argv env cwd io startMask)).run).run { name := "" }
  match r with
  | .ok st => pure st
  | .error (.exit n) | .error (.ret n) => pure (.exited n)
  | .error (.signal _ s) => pure (.signaled s)
  | .error (.brk _) | .error (.cont _) => pure (.exited 0)
  | .error .failure => pure (.exited 2)

end BuildGate.Host
