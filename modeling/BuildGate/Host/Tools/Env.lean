import BuildGate.Host.Tools.About

namespace BuildGate.Host

def envSpec : OptionSpec :=
  { shorts := [('i', .noValue), ('u', .required), ('v', .noValue), ('0', .noValue),
      ('C', .required), ('S', .required)],
    longs := [("ignore-environment", 'i', .noValue), ("null", '0', .noValue),
      ("unset", 'u', .required), ("chdir", 'C', .required), ("debug", 'v', .noValue),
      ("split-string", 'S', .required), ("block-signal", '\x03', .optional),
      ("default-signal", '\x03', .optional), ("ignore-signal", '\x03', .optional),
      ("list-signal-handling", '\x04', .noValue)] ++ aboutLongs,
    inOrder := true }

/-- The state of splitting a `-S` string: the arguments so far, the one being built (none
between arguments), and whether inside double quotes. -/
structure SplitState where
  args : List String := []
  current : Option String := none
  doubleQuoted : Bool := false

def SplitState.finish (s : SplitState) : List String :=
  s.args ++ s.current.toList

def SplitState.push (s : SplitState) (c : Char) : SplitState :=
  { s with current := some ((s.current.getD "").push c) }

def SplitState.stop (s : SplitState) : SplitState :=
  { s with args := s.finish, current := none }

def splitString (env : Env) : Nat → SplitState → List Char → Except String (List String)
  | 0, s, _ => .ok s.finish
  | _ + 1, s, [] =>
    if s.doubleQuoted then .error "no terminating quote in -S string" else .ok s.finish
  | fuel + 1, s, c :: rest =>
    let blank := c == ' ' || c == '\t' || c == '\n' || c == '\x0b' || c == '\x0c' || c == '\r'
    if blank && !s.doubleQuoted then splitString env fuel s.stop rest
    else if c == '#' && s.current.isNone && !s.doubleQuoted then .ok s.finish
    else if c == '"' then
      let flipped : SplitState :=
        { s with doubleQuoted := !s.doubleQuoted, current := some (s.current.getD "") }
      splitString env fuel flipped rest
    else if c == '\'' && !s.doubleQuoted then
      let body := rest.takeWhile (· != '\'')
      let rec quoted : Nat → List Char → String → Option (String × List Char)
        | 0, _, _ => none
        | _ + 1, [], _ => none
        | f + 1, '\'' :: more, acc => some (acc, more)
        | f + 1, '\\' :: d :: more, acc =>
          if d == '\\' || d == '\'' then quoted f more (acc.push d)
          else quoted f (d :: more) (acc.push '\\')
        | f + 1, d :: more, acc => quoted f more (acc.push d)
      let _ := body
      match quoted (rest.length + 1) rest "" with
      | none => .error "no terminating quote in -S string"
      | some (text, more) =>
        splitString env fuel { s with current := some (s.current.getD "" ++ text) } more
    else if c == '\\' then
      match rest with
      | [] => .error "invalid backslash at end of string in -S"
      | d :: more =>
        match d with
        | '"' | '#' | '$' | '\'' | '\\' => splitString env fuel (s.push d) more
        | '_' =>
          if s.doubleQuoted then splitString env fuel (s.push ' ') more
          else splitString env fuel s.stop more
        | 'c' =>
          if s.doubleQuoted then .error "'\\c' must not appear in double-quoted -S string"
          else .ok s.finish
        | 'f' => splitString env fuel (s.push '\x0c') more
        | 'n' => splitString env fuel (s.push '\n') more
        | 'r' => splitString env fuel (s.push '\r') more
        | 't' => splitString env fuel (s.push '\t') more
        | 'v' => splitString env fuel (s.push '\x0b') more
        | _ => .error ("invalid sequence '\\" ++ d.toString ++ "' in -S")
    else if c == '$' then
      match rest with
      | '\x7b' :: more =>
        let name := more.takeWhile fun x => x.isAlphanum || x == '_'
        match more.drop name.length with
        | '\x7d' :: after =>
          if name.isEmpty || (name.headD '0').isDigit then
            .error ("only $\x7bVARNAME\x7d expansion is supported, error at: " ++
              String.ofList (c :: rest))
          else
            let value := (env.get? (String.ofList name)).getD ""
            splitString env fuel { s with current := some (s.current.getD "" ++ value) } after
        | _ => .error ("only $\x7bVARNAME\x7d expansion is supported, error at: " ++
            String.ofList (c :: rest))
      | _ => .error ("only $\x7bVARNAME\x7d expansion is supported, error at: " ++
          String.ofList (c :: rest))
    else splitString env fuel (s.push c) rest

/-- What the options of `env` asked for. -/
structure EnvSetup where
  clear : Bool := false
  unset : List String := []
  nul : Bool := false
  dir : Option String := none
  debug : Bool := false
  about : Option Char := none

def envOptions (env : Env) : Nat → EnvSetup → List String →
    Except (String × Bool) (EnvSetup × List String)
  | 0, s, args => .ok (s, args)
  | _ + 1, s, [] => .ok (s, [])
  | fuel + 1, s, a :: rest =>
    if a == "--" then .ok (s, rest)
    else if !isOptionArg a then .ok (s, a :: rest)
    else
      let (opts, rest, bad) := readOptionArg envSpec a rest
      let step (acc : Except (String × Bool) (EnvSetup × Option (List String)))
          (o : Char × Option String) : Except (String × Bool) (EnvSetup × Option (List String)) :=
        match acc with
        | .error e => .error e
        | .ok (s, split) =>
          if s.about.isSome || split.isSome then .ok (s, split)
          else
            let v := o.2.getD ""
            match o.1 with
            | 'i' => .ok ({ s with clear := true }, none)
            | 'u' => .ok ({ s with unset := s.unset ++ [v] }, none)
            | '0' => .ok ({ s with nul := true }, none)
            | 'C' => .ok ({ s with dir := some v }, none)
            | 'v' => .ok ({ s with debug := true }, none)
            | 'S' =>
              match splitString env (v.length + 1) {} v.toList with
              | .ok parts => .ok (s, some parts)
              | .error m => .error (m, false)
            | '\x01' => .ok ({ s with about := some 'h' }, none)
            | '\x02' => .ok ({ s with about := some 'v' }, none)
            | _ => .ok (s, none)
      match opts.foldl step (.ok (s, none)) with
      | .error e => .error e
      | .ok (s, split) =>
        if s.about.isSome then .ok (s, [])
        else
          match bad with
          | some m => .error (m, true)
          | none =>
            match split with
            | some parts => envOptions env fuel s (parts ++ rest)
            | none => envOptions env fuel s rest

def envTool (c : ToolCall) : ToolRun :=
  let cancel (m : String) : ToolRun := failWith (c.name ++ ": " ++ m ++ "\n") 125
  let fuel := c.args.length + (c.args.foldl (fun n a => n + a.length) 0) + 1
  match envOptions c.env fuel {} c.args with
  | .error (m, hint) => if hint then usageFailure c m 125 else cancel m
  | .ok (s, operands) =>
    match s.about with
    | some w => aboutRun c "env" w
    | none =>
      let (s, operands) := match operands with
        | "-" :: more => ({ s with clear := true }, more)
        | _ => (s, operands)
      let badUnset := s.unset.find? fun n => n.isEmpty || n.toList.contains '='
      match badUnset with
      | some n => cancel ("cannot unset " ++ localeQuote c.env n ++ ": Invalid argument")
      | none =>
        let debugLines := if !s.debug then "" else
          if s.clear then "cleaning environ\n"
          else String.join (s.unset.map fun n => "unset:    " ++ n ++ "\n")
        let base := if s.clear then Env.empty
          else ⟨c.env.entries.filter fun (k, _) => !s.unset.contains k⟩
        let assigns := operands.takeWhile (·.toList.contains '=')
        let command := operands.drop assigns.length
        let env := assigns.foldl (fun e a =>
          let name := String.ofList (a.toList.takeWhile (· != '='))
          e.set name (String.ofList (a.toList.drop (name.length + 1)))) base
        let debugLines := debugLines ++ (if s.debug then
            String.join (assigns.map fun a => "setenv:   " ++ a ++ "\n") else "")
        let withDebug (r : ToolRun) : ToolRun := r.warnFirst (textBytes debugLines)
        if command.isEmpty then
          if s.dir.isSome then
            withDebug (usageFailure c "must specify command with --chdir (-C)" 125)
          else
            let lines := env.entries.map fun (k, v) =>
              textBytes (k ++ "=" ++ v) ++ [if s.nul then 0 else 10]
            withDebug (ToolRun.printing lines.flatten)
        else if s.nul then
          withDebug (usageFailure c "cannot specify --null (-0) with command" 125)
        else
          let dir : Except Nat (Option (List String)) :=
            match s.dir with
            | none => .ok none
            | some d =>
              let cs := absoluteFrom c.cwd d
              match c.fs.lookup true cs with
              | .ok (phys, some .dir) => .ok (some phys)
              | .ok (_, some _) => .error 20
              | .ok (_, none) => .error 2
              | .error n => .error n
          match dir with
          | .error n =>
            withDebug (cancel ("cannot change directory to " ++ alwaysQuoted c.env (s.dir.getD "") ++
              ": " ++ errnoText n))
          | .ok cwd =>
            let debugLines := debugLines ++ (if s.debug then
                (match s.dir with
                 | some d => "chdir:    " ++ alwaysQuoted c.env d ++ "\n"
                 | none => "") ++
                "executing: " ++ command.headD "" ++ "\n" ++
                String.join ((command.zip (List.range command.length)).map fun (a, i) =>
                  "   arg[" ++ toString i ++ "]= " ++ localeQuote c.env a ++ "\n")
              else "")
            { (ToolRun.printing []).warn (textBytes debugLines) with exec := some (command, env, cwd) }

end BuildGate.Host
