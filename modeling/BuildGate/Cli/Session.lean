import BuildGate.Host.Exec
import BuildGate.Cli.Screen

namespace BuildGate.Cli

open Host (World)

/-- The world of a command line. -/
structure Session where
  host : World
  started : Nat := 0
  draws : List Nat := []
  verbose : Bool := false
  deriving Inhabited

/-- Why a command line ends before its end. -/
inductive Stop where
  | exit (code : Nat)
  | usage (cmd : CommandHelp) (e : UsageError)
  | fault (f : Fault)
  deriving Inhabited

/-- A step of a command line. -/
abbrev CliM := ExceptT Stop (StateM Session)

/-- The console's width: the `COLUMNS` variable when it is a number, else 80. -/
def consoleWidth (env : Env) : Nat :=
  match env.get? "COLUMNS" with
  | some s => if !s.isEmpty && s.toList.all Char.isDigit then s.toNat?.getD 80 else 80
  | none => 80

def width : CliM Nat := do pure (consoleWidth (← get).host.env)

def writeOut (s : String) : CliM Unit :=
  modify fun st => { st with host := { st.host with stdout := st.host.stdout ++ Host.textBytes s } }

def writeErr (s : String) : CliM Unit :=
  modify fun st => { st with host := { st.host with stderr := st.host.stderr ++ Host.textBytes s } }

def liftFault (r : Except Fault α) : CliM α :=
  match r with
  | .ok a => pure a
  | .error f => throw (.fault f)

def say (markup : String) : CliM Unit := do
  match Console.printMarkup (← width) markup with
  | .ok s => writeOut s
  | .error e => throw (.fault (.other "MarkupError" e.message))

def sayRaw (s : String) : CliM Unit := do
  writeOut (Console.writeRaw (← width) s)

def twoDigits (n : Nat) : String := if n < 10 then "0" ++ toString n else toString n

def logText (secs : Nat) (lvl : Level) (msg : String) : String :=
  let t := secs % 86400
  let name := lvl.name
  twoDigits (t / 3600) ++ ":" ++ twoDigits (t % 3600 / 60) ++ ":" ++ twoDigits (t % 60) ++ " | " ++
    name ++ String.ofList (List.replicate (7 - name.length) ' ') ++ " | " ++ msg ++ "\n"

/-- The log sink of a session that started at `started`: warnings always, the rest only when
verbose, each written to the host's standard error at the host's time. -/
def logSink (verbose : Bool) (started : Nat) : LogSink World :=
  fun (lvl, msg) h =>
    if verbose || lvl == .warning then
      { h with stderr := h.stderr ++ Host.textBytes (logText (started + h.clock / 1000000) lvl msg) }
    else h

end BuildGate.Cli
