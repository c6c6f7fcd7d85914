import BuildGate.Host.Builtins.Basic
import BuildGate.Shell.Parse

namespace BuildGate.Host

open BuildGate.Shell (Command Chunk)

/-- What to run. -/
inductive Job where
  | program (name : String) (argv : List String) (env : Env) (cwd : List String) (io : Io)
      (umask : Nat)
  | lines (chunks : List Chunk)
  | command (c : Command)
  deriving Inhabited

/-- Where a shell's commands come from. -/
inductive ScriptFrom where
  | text (script : String)
  | file (path : String)
  | input
  deriving Repr, Inhabited

/-- How a shell starts: the options it sets, where its commands come from, its name `$0` and
its positional parameters. -/
structure ShellStart where
  options : List (String × Bool) := []
  source : ScriptFrom := .input
  name : String
  params : List String := []
  deriving Repr, Inhabited

/-- The state of reading a shell's arguments: the options set so far, and whether `-c` was
given. -/
structure StartFlags where
  options : List (String × Bool) := []
  commandText : Bool := false

def startOptions : Nat → StartFlags → List String → Except String (StartFlags × List String)
  | 0, f, rest => .ok (f, rest)
  | _ + 1, f, [] => .ok (f, [])
  | fuel + 1, f, a :: rest =>
    match a.toList with
    | '-' :: [] | '-' :: ['-'] => .ok (f, rest)
    | sign :: letters =>
      if sign != '-' && sign != '+' then .ok (f, a :: rest)
      else
        let on := sign == '-'
        let step (acc : Except String (StartFlags × List String)) (c : Char) :
            Except String (StartFlags × List String) := do
          let (f, rest) ← acc
          if c == 'c' then pure ({ f with commandText := true }, rest)
          else if c == 'l' then pure (f, rest)
          else if c == 'o' then
            match rest with
            | name :: more =>
              if (optionTable.lookup name).isSome then
                pure ({ f with options := f.options ++ [(name, on)] }, more)
              else throw ("Illegal option -o " ++ name)
            | [] => pure (f, [])
          else
            match optionOfLetter c with
            | some name => pure ({ f with options := f.options ++ [(name, on)] }, rest)
            | none => throw ("Illegal option " ++ sign.toString ++ c.toString)
        match letters.foldl step (.ok (f, rest)) with
        | .ok (f, rest) => startOptions fuel f rest
        | .error m => .error m
    | [] => .ok (f, a :: rest)

def shellArgs (argv : List String) : Except String ShellStart := do
  let arg0 := argv.headD "sh"
  let (f, rest) ← startOptions (argv.length + 1) {} (argv.drop 1)
  let fromInput := f.options.any fun (n, on) => n == "stdin" && on
  if f.commandText then
    match rest with
    | [] => throw "-c requires an argument"
    | script :: more =>
      match more with
      | name :: params => pure { options := f.options, source := .text script, name, params }
      | [] => pure { options := f.options, source := .text script, name := arg0 }
  else if fromInput || rest.isEmpty then
    pure { options := f.options, source := .input, name := arg0, params := rest }
  else
    match rest with
    | file :: params => pure { options := f.options, source := .file file, name := file, params }
    | [] => pure { options := f.options, source := .input, name := arg0 }

end BuildGate.Host
