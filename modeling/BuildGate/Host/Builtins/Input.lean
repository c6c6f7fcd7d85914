import BuildGate.Host.Builtins.Basic

namespace BuildGate.Host

/-- A character of a line that `read` took, and whether a backslash protected it. -/
abbrev ReadChar := Char × Bool

def readLine (raw : Bool) : Nat → List UInt8 → Bool → List ReadChar →
    List ReadChar × Bool × List UInt8
  | 0, bs, _, acc => (acc, false, bs)
  | _ + 1, [], _, acc => (acc, false, [])
  | fuel + 1, b :: rest, escaped, acc =>
    if b == 0 then readLine raw fuel rest escaped acc
    else if escaped then
      if b == 10 then readLine raw fuel rest false acc
      else readLine raw fuel rest false (acc ++ [(Char.ofNat b.toNat, true)])
    else if !raw && b == 92 then readLine raw fuel rest true acc
    else if b == 10 then (acc, true, rest)
    else readLine raw fuel rest false (acc ++ [(Char.ofNat b.toNat, false)])

def isSplitter (ifs : List Char) (c : ReadChar) : Bool := !c.2 && ifs.contains c.1

def isIfsBlank (ifs : List Char) (c : ReadChar) : Bool :=
  isSplitter ifs c && (c.1 == ' ' || c.1 == '\t' || c.1 == '\n')

def skipSeparator (ifs : List Char) (cs : List ReadChar) : List ReadChar :=
  let cs := cs.dropWhile (isIfsBlank ifs)
  let cs := match cs with
    | c :: rest => if isSplitter ifs c then rest else cs
    | [] => []
  cs.dropWhile (isIfsBlank ifs)

def readText (cs : List ReadChar) : String := String.ofList (cs.map (·.1))

def lastField (ifs : List Char) (cs : List ReadChar) : String :=
  let trimmed := (cs.reverse.dropWhile (isIfsBlank ifs)).reverse
  let field := trimmed.takeWhile (!isSplitter ifs ·)
  let after := trimmed.drop field.length
  if !after.isEmpty && (skipSeparator ifs after).isEmpty &&
      (after.filter fun c => isSplitter ifs c && !isIfsBlank ifs c).length ≤ 1 then
    readText field
  else readText trimmed

def splitAmong (ifs : List Char) : List String → List ReadChar → List (String × String)
  | [], _ => []
  | [n], cs => [(n, lastField ifs cs)]
  | n :: more, cs =>
    let field := cs.takeWhile (!isSplitter ifs ·)
    let rest := skipSeparator ifs (cs.drop field.length)
    (n, readText field) :: splitAmong ifs more rest

def readBuiltin (args : List String) : ShellM Status := do
  let (opts, names) ← builtinOptions "p:r" args
  if names.isEmpty then refuse "arg count"
  let raw := opts.any (·.1 == 'r')
  let n := (← get).io.input
  match (← host (readerAt n)).left with
  | .zeros => host hang
  | .bytes bs =>
    let (line, ended, rest) := readLine raw (bs.length + 1) bs false []
    host (readFrom n (.first (bs.length - rest.length)))
    let ifs := ((← get).var? "IFS").getD " \t\n" |>.toList
    let line := line.dropWhile (isIfsBlank ifs)
    for (n, v) in splitAmong ifs names line do assignVar n v
    pure (.exited (if ended then 0 else 1))

/-- `getopts`: reads the next option into a variable, its value into `OPTARG`; status 1 after
the last option. An unknown option or a missing value is `?` (or, when the option string
starts with `:`, `?` and `:` with the letter in `OPTARG`, without a message). -/
def getoptsBuiltin (args : List String) : ShellM Status := do
  match args with
  | optstr :: var :: operands =>
    let sh ← get
    let list := if operands.isEmpty then sh.params else operands
    let (ind, off) := if sh.optIndex > list.length + 1 then (1, none)
      else (sh.optIndex, sh.optOffset)
    let spec := optstr.toList
    let silent := spec.headD ' ' == ':'
    -- the characters left of the current argument, and the index of the next argument
    let inside : Option (List Char) :=
      match off with
      | some o =>
        if ind ≤ 1 then none
        else
          let prev := (list.getD (ind - 2) "").toList
          if prev.length < o then none else some (prev.drop o)
      | none => none
    let (cs, next, done) : List Char × Nat × Bool :=
      match inside with
      | some (c :: more) => (c :: more, ind, false)
      | _ =>
        match list[ind - 1]? with
        | some a =>
          match a.toList with
          | '-' :: c :: more =>
            if c == '-' && more.isEmpty then ([], ind + 1, true) else (c :: more, ind + 1, false)
          | _ => ([], ind, true)
        | none => ([], ind, true)
    let finish (c : String) (next : Nat) (offset : Option Nat) (st : Nat) : ShellM Status := do
      modify fun sh => sh.setVar "OPTIND" (toString next)
      assignVar var c
      modify fun sh => { sh with optIndex := next, optOffset := offset }
      pure (.exited st)
    if done then return ← finish "?" next none 1
    match cs with
    | c :: more =>
      let known := c != ':' && spec.contains c
      let takes := match spec.dropWhile (· != c) with
        | _ :: ':' :: _ => true
        | _ => false
      let argText := (list.getD (next - 2) "").toList
      let offsetOf (rest : List Char) : Option Nat :=
        if rest.isEmpty then none else some (argText.length - rest.length)
      if !known then
        if silent then assignVar "OPTARG" c.toString
        else
          host (emit (← get).io.err (Raw.bytes ("Illegal option -" ++ c.toString ++ "\n")))
          modify fun sh => sh.unsetVar "OPTARG"
        finish "?" next (offsetOf more) 0
      else if takes then
        if !more.isEmpty then
          assignVar "OPTARG" (String.ofList more)
          finish c.toString next none 0
        else
          match list[next - 1]? with
          | some v =>
            assignVar "OPTARG" v
            finish c.toString (next + 1) none 0
          | none =>
            if silent then
              assignVar "OPTARG" c.toString
              finish ":" next none 0
            else
              host (emit (← get).io.err (Raw.bytes ("No arg for -" ++ c.toString ++ " option\n")))
              modify fun sh => sh.unsetVar "OPTARG"
              finish "?" next none 0
      else
        assignVar "OPTARG" ""
        finish c.toString next (offsetOf more) 0
    | [] => finish "?" next none 1
  | _ => refuse "Usage: getopts optstring var [arg...]"

end BuildGate.Host
