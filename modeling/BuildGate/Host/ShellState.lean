import BuildGate.Host.Tools
import BuildGate.Shell.Lex

namespace BuildGate.Host

/-- A shell variable. -/
structure ShellVar where
  name : String
  value : Option String
  exported : Bool := false
  readonly : Bool := false
  deriving Repr, BEq, Inhabited

def optionTable : List (String × Option Char) :=
  [("errexit", some 'e'), ("noglob", some 'f'), ("ignoreeof", some 'I'),
   ("interactive", some 'i'), ("monitor", some 'm'), ("noexec", some 'n'), ("stdin", some 's'),
   ("xtrace", some 'x'), ("verbose", some 'v'), ("vi", some 'V'), ("emacs", some 'E'),
   ("noclobber", some 'C'), ("allexport", some 'a'), ("notify", some 'b'),
   ("nounset", some 'u'), ("nolog", none), ("debug", none)]

def optionOfLetter (c : Char) : Option String :=
  (optionTable.find? (·.2 == some c)).map (·.1)

/-- A command put in the background: its process number, the moment it ends (none when it
runs past the deadline, or for ever), its status, and whether it keeps the output of the
shell that started it open. It runs ahead when it is started; its writes wait for the
moments they are made. A job left by a subshell that ended is no child of the shell that
keeps it (`child`): `wait` does not wait for it, though its output still counts. -/
structure BackgroundJob where
  pid : Nat
  stop : Option Nat
  status : Status
  holdsOutput : Bool
  child : Bool := true
  deriving Inhabited

def BackgroundJob.await (j : BackgroundJob) : HostM Unit :=
  match j.stop with
  | none => hang
  | some t => do
    let now := (← get).clock
    if t > now then sleepFor (t - now)
    flushUntil (← get).clock

/-- The state of a shell process. -/
structure ShellProc where
  name : String
  params : List String := []
  vars : List ShellVar := []
  status : Nat := 0
  substStatus : Nat := 0
  pid : Nat := 0
  self : Nat := 0
  cwd : List String := []
  pwd : String := "/"
  io : Io := {}
  line : Nat := 1
  command : Option String := none
  options : List String := []
  tested : Bool := false
  lastBackground : Option Nat := none
  jobs : List BackgroundJob := []
  functions : List (String × Shell.Command) := []
  traps : List (Nat × String) := []
  loopDepth : Nat := 0
  frames : List (List (String × Option ShellVar)) := []
  umask : Nat := 0o022
  tracked : List (String × String) := []
  aliases : List (String × String) := []
  writeFailed : Bool := false
  optIndex : Nat := 1
  optOffset : Option Nat := none
  deriving Inhabited

def defaultPath : String := "/usr/local/sbin:/usr/local/bin:/usr/sbin:/usr/bin:/sbin:/bin"

def initialVars : List ShellVar :=
  [⟨"IFS", some " \t\n", false, false⟩, ⟨"MAIL", none, false, false⟩,
   ⟨"MAILPATH", none, false, false⟩, ⟨"PATH", some defaultPath, false, false⟩,
   ⟨"PS1", some "$ ", false, false⟩, ⟨"PS2", some "> ", false, false⟩,
   ⟨"PS4", some "+ ", false, false⟩, ⟨"OPTIND", some "1", false, false⟩,
   ⟨"LINENO", some "", false, false⟩, ⟨"TERM", none, false, false⟩,
   ⟨"HISTSIZE", none, false, false⟩]

def varBucket (name : String) : Nat :=
  let bs := (Raw.bytes name).map UInt8.toNat
  match bs with
  | [] => 0
  | b :: _ => (b * 16 + bs.foldl (· + ·) 0) % 39

namespace ShellProc

def isOn (sh : ShellProc) (option : String) : Bool := sh.options.contains option

def setOption (sh : ShellProc) (option : String) (on : Bool) : ShellProc :=
  let others := sh.options.filter (· != option)
  { sh with options := if on then others ++ [option] else others }

/-- Sets a variable, making it at the end when new; `exported` adds the exported mark, and so
does the option `allexport`. Setting `PATH` forgets the commands found in it. -/
def setVar (sh : ShellProc) (name value : String) (exported : Bool := false) : ShellProc :=
  let exported := exported || sh.isOn "allexport"
  let sh := if name == "PATH" then { sh with tracked := [] } else sh
  let sh := if name == "OPTIND" then
      { sh with optIndex := (match value.toNat? with | some 0 | none => 1 | some n => n),
                optOffset := none }
    else sh
  if sh.vars.any (·.name == name) then
    { sh with vars := sh.vars.map fun v =>
        if v.name == name then { v with value := some value, exported := v.exported || exported }
        else v }
  else { sh with vars := sh.vars ++ [⟨name, some value, exported, false⟩] }

def isReadonly (sh : ShellProc) (name : String) : Bool :=
  sh.vars.any fun v => v.name == name && v.readonly

def assign (sh : ShellProc) (name value : String) (exported : Bool := false) :
    Except String ShellProc :=
  if sh.isReadonly name then .error (name ++ ": is read only")
  else .ok (sh.setVar name value exported)

def exportVar (sh : ShellProc) (name : String) : ShellProc :=
  if sh.vars.any (·.name == name) then
    { sh with vars := sh.vars.map fun v => if v.name == name then { v with exported := true } else v }
  else { sh with vars := sh.vars ++ [⟨name, none, true, false⟩] }

def markReadonly (sh : ShellProc) (name : String) : ShellProc :=
  if sh.vars.any (·.name == name) then
    { sh with vars := sh.vars.map fun v => if v.name == name then { v with readonly := true } else v }
  else { sh with vars := sh.vars ++ [⟨name, none, false, true⟩] }

def unsetVar (sh : ShellProc) (name : String) : ShellProc :=
  let sh := if name == "PATH" then { sh with tracked := [] } else sh
  { sh with vars := sh.vars.filter (·.name != name) }

def var? (sh : ShellProc) (name : String) : Option String :=
  (sh.vars.find? (·.name == name)).bind (·.value)

def optionLetters (sh : ShellProc) : String :=
  String.ofList (optionTable.reverse.filterMap fun (name, letter) =>
    if sh.isOn name then letter else none)

def param? (sh : ShellProc) (name : String) : Option String :=
  match name with
  | "?" => some (toString sh.status)
  | "$" => some (toString sh.pid)
  | "#" => some (toString sh.params.length)
  | "0" => some sh.name
  | "!" => sh.lastBackground.map toString
  | "-" => some sh.optionLetters
  | "@" | "*" => some (" ".intercalate sh.params)
  | _ =>
    if !name.isEmpty && name.toList.all Char.isDigit then
      let n := name.toNat?.getD 0
      if n == 0 then some sh.name else sh.params[n - 1]?
    else sh.var? name

def makeLocal (sh : ShellProc) (name : String) : ShellProc :=
  match sh.frames with
  | frame :: rest =>
    if frame.any (·.1 == name) then sh
    else { sh with frames := ((name, sh.vars.find? (·.name == name)) :: frame) :: rest }
  | [] => sh

def restoreLocals (sh : ShellProc) (frame : List (String × Option ShellVar)) : ShellProc :=
  frame.foldl (fun sh (name, old) =>
    match old with
    | some v =>
      if sh.vars.any (·.name == name) then
        { sh with vars := sh.vars.map fun w => if w.name == name then v else w }
      else { sh with vars := sh.vars ++ [v] }
    | none => { sh with vars := sh.vars.filter (·.name != name) }) sh

def childEnv (sh : ShellProc) : Env :=
  let indexed := (List.range sh.vars.length).zip sh.vars
  let live := indexed.filter fun (_, v) => v.exported && v.value.isSome
  let ordered := (List.range 39).flatMap fun b =>
    (live.filter fun (_, v) => varBucket v.name == b).reverse
  ⟨ordered.map fun (_, v) => (v.name, v.value.getD "")⟩

def importable (name : String) : Bool := BuildGate.Shell.isName name

end ShellProc

/-- A new shell process: its name and parameters, its environment, its working directory and
streams, and its number and that of its parent. -/
def ShellProc.start (name : String) (params : List String) (env : Env) (cwd : List String)
    (fs : Fs.Tree) (io : Io) (pid ppid : Nat) (umask : Nat) : ShellProc :=
  let sh : ShellProc := { name, params, vars := initialVars, pid, self := pid, cwd, io, umask }
  let sh := env.entries.foldl (fun sh (k, v) =>
    if BuildGate.Shell.isName k then sh.setVar k v true else sh) sh
  let sh := sh.setVar "IFS" " \t\n"
  let sh := sh.setVar "OPTIND" "1"
  let sh := sh.setVar "PPID" (toString ppid)
  let physical := Raw.ofText (Fs.absText cwd)
  let logical := match sh.var? "PWD" with
    | some p =>
      if p.startsWith "/" then
        match fs.lookup true (Path.ofString (Raw.toText p)).parts with
        | .ok (phys, some .dir) => if phys == cwd then p else physical
        | _ => physical
      else physical
    | none => physical
  { sh.setVar "PWD" logical true with pwd := logical }

end BuildGate.Host
