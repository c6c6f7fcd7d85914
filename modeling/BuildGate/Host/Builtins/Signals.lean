import BuildGate.Host.Builtins.Basic

namespace BuildGate.Host

def lowSignalNames : List String :=
  ["HUP", "INT", "QUIT", "ILL", "TRAP", "ABRT", "BUS", "FPE", "KILL", "USR1", "SEGV", "USR2",
   "PIPE", "ALRM", "TERM", "", "CHLD", "CONT", "STOP", "TSTP", "TTIN", "TTOU", "URG", "XCPU",
   "XFSZ", "VTALRM", "PROF", "WINCH", "IO", "PWR", "SYS"]

def signalCount : Nat := 65

def signalName? (n : Nat) : Option String :=
  if n == 0 then some "EXIT"
  else if n ≤ 31 then
    match lowSignalNames.getD (n - 1) "" with
    | "" => none
    | s => some s
  else if n == 34 then some "RTMIN"
  else if 35 ≤ n && n ≤ 49 then some ("RTMIN+" ++ toString (n - 34))
  else if 50 ≤ n && n ≤ 63 then some ("RTMAX-" ++ toString (64 - n))
  else if n == 64 then some "RTMAX"
  else none

def signalLabel (n : Nat) : String := (signalName? n).getD (toString n)

def signalOf (least : Nat) (s : String) : Option Nat :=
  if !s.isEmpty && s.toList.all Char.isDigit then
    let n := s.toNat?.getD signalCount
    if n < signalCount then some n else none
  else
    let u := s.toUpper
    (List.range signalCount).find? fun n => least ≤ n && signalName? n == some u

def ignoredByDefault (s : Nat) : Bool := s == 0 || s == 17 || s == 18 || s == 23 || s == 28

def stopsByDefault (s : Nat) : Bool := 19 ≤ s && s ≤ 22

/-- `kill`: sends a signal (`-s name`, `-name` or `-number`; `TERM` by default) to processes,
or with `-l` lists the signals' names, or names the signal of a number or exit status. -/
def killBuiltin (runTrap : String → ShellM Unit) (args : List String) : ShellM Status := do
  let usage := "Usage: kill [-s sigspec | -signum | -sigspec] [pid | job]... or\nkill -l [exitstatus]"
  if args.isEmpty then refuse usage
  let mut sig : Option Nat := none
  let mut list := false
  let mut rest := args
  match args with
  | a :: more =>
    if a.startsWith "-" then
      match signalOf 1 (a.drop 1).toString with
      | some s =>
        sig := some s
        rest := more
      | none =>
        let (opts, operands) ← builtinOptions "ls:" args
        rest := operands
        for (c, v) in opts do
          if c == 'l' then list := true
          else
            match signalOf 1 v with
            | some s => sig := some s
            | none => refuse ("invalid signal number or name: " ++ v)
  | [] => pure ()
  if !list && sig.isNone then sig := some 15
  if (sig.isNone || rest.isEmpty) != list then refuse usage
  if list then
    match rest with
    | [] =>
      sayText (String.join ((List.range signalCount).map fun n =>
        (if n == 0 then "0" else signalLabel n) ++ "\n"))
    | a :: _ =>
      let n ← numberArg a
      let n := if n > 128 then n - 128 else n
      if 0 < n && n < signalCount then sayText (signalLabel n ++ "\n")
      else refuse ("invalid signal number or exit status: " ++ a)
    return .exited 0
  let s := sig.getD 15
  let sh ← get
  let mut st : Status := .exited 0
  for p in rest do
    let pid ← if p.startsWith "-" then numberArg (p.drop 1).toString
      else numberArg p
    if pid == sh.pid || pid == sh.self || pid == 0 then
      let trap := if s == 9 || s == 19 then none else sh.traps.lookup s
      match trap with
      | some act => if !act.isEmpty then runTrap act
      | none =>
        if ignoredByDefault s then pure ()
        else if stopsByDefault s then host hang
        else throw (.signal sh.self s)
    else if (← get).jobs.any (·.pid == pid) then
      -- a command in the background still running ends by the signal, unless the signal
      -- does nothing to it; what it would have written later is never written
      let now := (← host get).clock
      let running (j : BackgroundJob) : Bool := match j.stop with
        | some t => now < t
        | none => true
      if s != 0 && !ignoredByDefault s && !stopsByDefault s then
        modify fun sh => { sh with jobs := sh.jobs.map fun j =>
          if j.pid == pid && running j then { j with stop := some now, status := .signaled s }
          else j }
        host (modify fun m => { m with scheduled := m.scheduled.filter fun (t, p, _, _) =>
          p != pid || t ≤ now })
    else
      complain "No such process\n"
      st := .exited 1
  pure st

/-- `trap`: lists the actions in the order of their signals, or sets the action of each
condition given. With one operand, or a first operand that names a signal, the conditions are
reset instead, and so they are by the action `-`. A condition that is not one stops the
builtin with status 1. -/
def trapBuiltin (args : List String) : ShellM Status := do
  let (_, args) ← builtinOptions "" args
  match args with
  | [] =>
    let sh ← get
    let set := (List.range signalCount).filterMap fun n =>
      (sh.traps.lookup n).map fun act =>
        "trap -- " ++ shellQuote act ++ " " ++ (signalName? n).getD "(null)" ++ "\n"
    sayText (String.join set)
    pure (.exited 0)
  | first :: rest =>
    let (action, conds) :=
      if rest.isEmpty || (signalOf 0 first).isSome then (none, args)
      else if first == "-" then (none, rest)
      else (some first, rest)
    for c in conds do
      match signalOf 0 c with
      | some n =>
        modify fun sh =>
          let others := sh.traps.filter (·.1 != n)
          { sh with traps := match action with
            | some act => others ++ [(n, act)]
            | none => others }
      | none =>
        host (emit (← get).io.err (Raw.bytes ("trap: " ++ c ++ ": bad trap\n")))
        return .exited 1
    pure (.exited 0)

end BuildGate.Host
