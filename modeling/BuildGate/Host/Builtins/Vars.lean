import BuildGate.Host.Builtins.Basic

namespace BuildGate.Host

def varListing (sh : ShellProc) (prefix_ : String) (marked : ShellVar → Bool) : String :=
  let vs := (sh.vars.filter marked).mergeSort fun a b => compare a.name b.name != .gt
  String.join (vs.map fun v =>
    (if prefix_.isEmpty then "" else prefix_ ++ " ") ++ v.name ++
      (match v.value with
       | some x => "=" ++ shellQuote x
       | none => "") ++ "\n")

def markVar (mark : ShellProc → String → ShellProc) (a : String) :
    ShellM Unit := do
  let name := String.ofList (a.toList.takeWhile (· != '='))
  if !Shell.isName name then refuse (name ++ ": bad variable name")
  if (a.toList.contains '=') then
    assignVar name (String.ofList (a.toList.drop (name.length + 1)))
  modify fun sh => mark sh name

/-- `export` and `readonly`: mark variables, or list the marked ones with `-p` or no
operands. -/
def markBuiltin (builtin : String) (args : List String) : ShellM Status := do
  let (opts, names) ← builtinOptions "p" args
  let readonly := builtin == "readonly"
  if !opts.isEmpty || names.isEmpty then
    let sh ← get
    sayText (varListing sh builtin fun v => if readonly then v.readonly else v.exported)
  else
    for a in names do
      markVar (if readonly then ShellProc.markReadonly else ShellProc.exportVar) a
  pure (.exited 0)

def unsetBuiltin (args : List String) : ShellM Status := do
  let (opts, names) ← builtinOptions "vf" args
  let functions := (opts.getLast?.map (·.1)) == some 'f'
  for n in names do
    if functions then
      modify fun sh => { sh with functions := sh.functions.filter (·.1 != n) }
    else
      if !Shell.isName n then refuse (n ++ ": bad variable name")
      if (← get).isReadonly n then refuse (n ++ ": is read only")
      modify fun sh => sh.unsetVar n
  pure (.exited 0)

def localBuiltin (args : List String) : ShellM Status := do
  if (← get).frames.isEmpty then refuse "not in a function"
  for a in args do
    let name := String.ofList (a.toList.takeWhile (· != '='))
    if !Shell.isName name then refuse (name ++ ": bad variable name")
    modify fun sh => sh.makeLocal name
    if a.toList.contains '=' then
      assignVar name (String.ofList (a.toList.drop (name.length + 1)))
  pure (.exited 0)

def setParams (ps : List String) : ShellM Unit :=
  modify fun sh => { sh with params := ps, optIndex := 1, optOffset := none }

def optionListing (sh : ShellProc) (asCommands : Bool) : String :=
  if asCommands then
    String.join (optionTable.map fun (name, _) =>
      "set " ++ (if sh.isOn name then "-o " else "+o ") ++ name ++ "\n")
  else
    "Current option settings\n" ++ String.join (optionTable.map fun (name, _) =>
      name ++ String.ofList (List.replicate (16 - name.length) ' ') ++
        (if sh.isOn name then "on" else "off") ++ "\n")

def setLetter (c : Char) (on : Bool) : ShellM Unit := do
  match optionOfLetter c with
  | some name => modify fun sh => sh.setOption name on
  | none => refuse ("Illegal option " ++ (if on then "-" else "+") ++ c.toString)

/-- `set`: lists the variables with no operands; otherwise reads options (`-x`, `+x`,
`-o name`, `+o name`; `-o` alone lists them) up to `--`, `-` or the first operand that is not
one, and the operands left become the positional parameters. `-` alone also turns off
`xtrace` and `verbose`, and `--` alone clears the parameters. -/
def setBuiltin (args : List String) : ShellM Status := do
  if args.isEmpty then
    let sh ← get
    sayText (varListing sh "" fun v => v.value.isSome)
    return .exited 0
  let mut rest := args
  for _ in List.range (args.length + 1) do
    match rest with
    | a :: more =>
      if a == "-" || a == "--" then
        rest := more
        if a == "-" then
          modify fun sh => (sh.setOption "xtrace" false).setOption "verbose" false
        else if more.isEmpty then setParams []
        break
      else if a.startsWith "-" || a.startsWith "+" then
        let on := a.startsWith "-"
        rest := more
        for c in (a.drop 1).toString.toList do
          if c == 'o' then
            match rest with
            | name :: after =>
              rest := after
              if optionTable.any (·.1 == name) then modify fun sh => sh.setOption name on
              else refuse ("Illegal option -o " ++ name)
            | [] => sayText (optionListing (← get) !on)
          else setLetter c on
      else break
    | [] => break
  if !rest.isEmpty then setParams rest
  pure (.exited 0)

def shiftBuiltin (args : List String) : ShellM Status := do
  let n ← match args with
    | a :: _ => numberArg a
    | [] => pure 1
  let sh ← get
  if n > sh.params.length then refuse "can't shift that many"
  setParams (sh.params.drop n)
  pure (.exited 0)

end BuildGate.Host
