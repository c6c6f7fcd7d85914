import BuildGate.Host.ShellState

namespace BuildGate.Host

/-- How a run of commands stops before its end. -/
inductive Ended where
  | exit (code : Nat)
  | signal (pid sig : Nat)
  | ret (code : Nat)
  | brk (levels : Nat)
  | cont (levels : Nat)
  | failure
  deriving Repr, BEq, Inhabited

/-- Computations of a shell process. The state outlives an early end, so that what ran
before a `break`, `return` or `exit` stays done. -/
abbrev ShellM := ExceptT Ended (StateT ShellProc HostM)

def host (x : HostM α) : ShellM α := liftM x

def complain (text : String) : ShellM Unit := do
  let sh ← get
  let source := match sh.command with
    | some c => c ++ ": "
    | none => ""
  host (emit sh.io.err
    (Raw.bytes (sh.name ++ ": " ++ toString sh.line ++ ": " ++ source ++ text ++ "\n")))

def refuse (text : String) : ShellM α := do
  complain text
  throw .failure

/-- Writes bytes to the standard output of the shell; when it is closed, the write fails and
the failure is kept for the builtin that wrote. -/
def say (bs : List UInt8) : ShellM Unit := do
  let sh ← get
  if sh.io.out == .closed then
    if !bs.isEmpty then set { sh with writeFailed := true }
  else host (emit sh.io.out bs)

def sayText (s : String) : ShellM Unit := say (Raw.bytes s)

/-- Runs a computation as the process `sh`: with its own state, its end caught. A signal sent
to another process goes on up. The commands it left in the background hold its output open
until they end, unless they sent their output elsewhere. When whoever reads that output reads
it to its end (`drained`: a command substitution, a stage of a pipeline before the last, or
the first process), the run ends with them; otherwise the shell around keeps them. -/
def asProcess (sh : ShellProc) (act : ShellM Status) (drained : Bool := false) :
    ShellM Status := do
  host (modify fun m => { m with level := m.level + 1 })
  let (r, after) ← host ((act.run).run sh)
  host (modify fun m => { m with level := m.level - 1 })
  let m ← host get
  -- the first process has ended: when only it had the deadline, its output is read to its end
  if m.level == 0 && m.firstOnly then host (set { m with deadline := none })
  let holders := after.jobs.filter (·.holdsOutput)
  if drained || m.level == 0 then
    for j in holders do host j.await
  else
    modify fun s => { s with jobs := s.jobs ++ holders.map fun j => { j with child := false } }
    -- while the shell waited for the process, the commands in the background ran
    host (do flushUntil (← get).clock)
  match r with
  | .ok st => pure st
  | .error (.exit n) => pure (.exited n)
  | .error (.signal pid s) =>
    if pid == sh.self then pure (.signaled s) else throw (.signal pid s)
  | .error (.ret n) => pure (.exited n)
  | .error (.brk _) | .error (.cont _) => pure (.exited 0)
  | .error .failure => pure (.exited 2)

/-- The shell as a subshell of itself: a new process number and other streams; the traps
that run commands are reset, those that ignore a signal kept. The commands in the background
are the shell's, not the subshell's. A command put in the background runs only once the shell
lets go of the processor, as it does to start another process: what it wrote by now goes out
first. -/
def subshellOf (io : Io) : ShellM ShellProc := do
  host (do flushUntil (← get).clock)
  let pid ← host newPid
  let sh ← get
  pure { sh with self := pid, io, traps := sh.traps.filter (·.2.isEmpty), jobs := [] }

/-- Runs commands as the shell process `sh`, then its exit trap (through `runTrap`): the
process ends with the status the commands end with, which only an `exit` in the trap
changes. -/
def asShell (runTrap : String → ShellM Unit) (sh : ShellProc) (act : ShellM Status) :
    ShellM Status :=
  asProcess sh do
    let code ← tryCatch (do let st ← act; pure st.code) fun e =>
      match e with
      | .exit n | .ret n => pure n
      | .failure => pure 2
      | other => throw other
    match (← get).traps.lookup 0 with
    | some action =>
      modify fun s => { s with traps := s.traps.filter (·.1 != 0), status := code }
      if !action.isEmpty then runTrap action
      pure (.exited code)
    | none => pure (.exited code)

def withCleanup (act : ShellM α) (after : ShellM Unit) : ShellM α :=
  tryCatch (do let r ← act; after; pure r) fun e => do after; throw e

def setStatus (st : Status) : ShellM Status := do
  modify fun sh => { sh with status := st.code }
  pure st

def tested (act : ShellM Status) : ShellM Status := do
  let before := (← get).tested
  modify fun sh => { sh with tested := true }
  withCleanup act (modify fun sh => { sh with tested := before })

def checkErrexit (st : Status) : ShellM Status := do
  let sh ← get
  if sh.isOn "errexit" && !sh.tested && st.code != 0 then throw (.exit st.code) else pure st

def assignVar (name value : String) (exported : Bool := false) : ShellM Unit := do
  match (← get).assign name value exported with
  | .ok sh => set sh
  | .error m => refuse m

/-- The most rounds a loop runs. -/
def loopLimit : Nat := 10000

/-- The fuel a run starts with: the deepest nesting of commands and processes. -/
def runFuel : Nat := 4000

def shellNumber (s : String) : Option Nat :=
  let isSpace (c : Char) := c == ' ' || ('\t' ≤ c && c ≤ '\r')
  let cs := s.toList.dropWhile isSpace
  let (neg, cs) := match cs with
    | '-' :: r => (true, r)
    | '+' :: r => (false, r)
    | _ => (false, cs)
  let ds := cs.takeWhile Char.isDigit
  let rest := cs.drop ds.length
  if ds.isEmpty || !rest.all isSpace then none
  else
    let v := (String.ofList ds).toNat?.getD 0
    if neg && v != 0 then none
    else if v > 2147483647 then none
    else some v

def numberArg (a : String) : ShellM Nat :=
  match shellNumber a with
  | some n => pure n
  | none => refuse ("Illegal number: " ++ a)

end BuildGate.Host
