import BuildGate.Host.Redirect

namespace BuildGate.Host

def regularBuiltins : List String :=
  ["[", "alias", "bg", "cd", "chdir", "command", "echo", "false", "fg", "getopts", "hash",
   "jobs", "kill", "printf", "pwd", "read", "test", "true", "type", "ulimit", "umask",
   "unalias", "wait"]

def isBuiltin (name : String) : Bool :=
  Shell.specialBuiltins.contains name || regularBuiltins.contains name

/-- A text in single quotes as the shell writes it back: each run of single quotes in it is
written inside double quotes between the quoted parts. -/
def shellQuote (s : String) : String :=
  let rec go : Nat → List Char → String
    | 0, _ => ""
    | fuel + 1, cs =>
      let plain := cs.takeWhile (· != '\'')
      let rest := cs.drop plain.length
      let part := "'" ++ String.ofList plain ++ "'"
      if rest.isEmpty then part
      else
        let quotes := rest.takeWhile (· == '\'')
        let after := rest.drop quotes.length
        let qs := "\"" ++ String.ofList quotes ++ "\""
        if after.isEmpty then part ++ qs else part ++ qs ++ go fuel after
  go (s.length + 1) s.toList

/-- Reads the options of a builtin: the option letters it knows, those followed by `:` taking
a value (the rest of the argument or the next one). The options in order, each with its
value, and the operands; an unknown letter or a missing value stops the builtin. -/
def builtinOptions (spec : String) (args : List String) :
    ShellM (List (Char × String) × List String) := do
  let specCs := spec.toList
  let takesValue (c : Char) : Bool :=
    match specCs.dropWhile (· != c) with
    | _ :: ':' :: _ => true
    | _ => false
  let mut opts : List (Char × String) := []
  let mut rest := args
  for _ in List.range (args.length + 1) do
    match rest with
    | a :: more =>
      if a == "--" then
        rest := more
        break
      else if a.startsWith "-" && a.length > 1 then
        let mut letters := (a.drop 1).toString.toList
        rest := more
        for _ in List.range (letters.length + 1) do
          match letters with
          | c :: cs =>
            if c == ':' || !specCs.contains c then
              refuse ("Illegal option -" ++ c.toString)
            if takesValue c then
              if !cs.isEmpty then
                opts := opts ++ [(c, String.ofList cs)]
              else
                match rest with
                | v :: after =>
                  opts := opts ++ [(c, v)]
                  rest := after
                | [] => refuse ("No arg for -" ++ c.toString ++ " option")
              letters := []
            else
              opts := opts ++ [(c, "")]
              letters := cs
          | [] => break
      else break
    | [] => break
  pure (opts, rest)

end BuildGate.Host
