import BuildGate.Host.ShellM
import BuildGate.Host.Expand
import BuildGate.Shell.Arith

namespace BuildGate.Host

open BuildGate.Shell (Piece Word evalArith)

def trimValue (op : String) (p : List Shell.PatChar) (v : String) : String :=
  let cs := v.toList
  let n := cs.length
  let fits (t : List Char) := Shell.patternMatches p (String.ofList t)
  let cuts := List.range (n + 1)
  match op with
  | "#" =>
    match cuts.find? (fun i => fits (cs.take i)) with
    | some i => String.ofList (cs.drop i)
    | none => v
  | "##" =>
    match cuts.reverse.find? (fun i => fits (cs.take i)) with
    | some i => String.ofList (cs.drop i)
    | none => v
  | "%" =>
    match cuts.reverse.find? (fun i => fits (cs.drop i)) with
    | some i => String.ofList (cs.take i)
    | none => v
  | _ =>
    match cuts.find? (fun i => fits (cs.drop i)) with
    | some i => String.ofList (cs.take i)
    | none => v

def checkSet (name : String) : ShellM Unit := do
  let sh ← get
  if sh.isOn "nounset" && name != "@" && name != "*" && (sh.param? name).isNone then
    complain (name ++ ": parameter not set")
    throw (.exit 2)

def segments (sub : String → ShellM String) : Nat → Word → ShellM (List Seg)
  | 0, _ => pure []
  | fuel + 1, w => do
    let mut out : List Seg := []
    for p in w do
      match p with
      | .text s q => out := out ++ [.lit s false (!q)]
      | .param name q =>
        checkSet name
        out := out ++ paramSegs (← get) name q
      | .length name q =>
        checkSet name
        out := out ++ [.lit (toString (((← get).param? name).getD "").length) false (!q)]
      | .subst script q => out := out ++ [.lit (← sub script) (!q) (!q)]
      | .badSubst _ =>
        complain "Bad substitution"
        throw (.exit 2)
      | .arith expr q =>
        let text := joinSegs (joiner (← get)) (← segments sub fuel expr)
        match evalArith (← get).var? text with
        | .ok (v, assigned) =>
          for (n, x) in assigned do assignVar n (toString x.toInt)
          out := out ++ [.lit (toString v.toInt) (!q) (!q)]
        | .error .quotientOverflow => throw (.signal (← get).self 8)
        | .error e =>
          complain (e.message text)
          throw (.exit 2)
      | .paramOp name op word q =>
        let v := (← get).param? name
        let isSet := v.isSome
        let full := v.any (!·.isEmpty)
        let home := homeOf (← get)
        let word := if q then word else tildeWord home .start word
        -- unquoted, the whole expansion is split, the word's own unquoted text included
        let wordSegs : ShellM (List Seg) := do
          let segs ← segments sub fuel word
          pure (if q then segs else segs.map fun
            | .lit s split active => .lit s (split || active) active
            | .brk => .brk)
        -- quoted, the expansion is a field even when it comes to nothing
        if q then out := out ++ [.lit "" false false]
        match op with
        | ":-" | "-" =>
          if (if op == ":-" then full else isSet) then out := out ++ paramSegs (← get) name q
          else out := out ++ (← wordSegs)
        | ":=" | "=" =>
          if (if op == ":=" then full else isSet) then out := out ++ paramSegs (← get) name q
          else
            let text := joinSegs (joiner (← get)) (← wordSegs)
            assignVar name text
            out := out ++ [.lit text (!q) (!q)]
        | ":+" | "+" =>
          if (if op == ":+" then full else isSet) then out := out ++ (← wordSegs)
        | "#" | "##" | "%" | "%%" =>
          checkSet name
          let pat := patternOf (joiner (← get)) (← wordSegs)
          out := out ++ [.lit (trimValue op pat (v.getD "")) (!q) (!q)]
        | _ =>
          if !(if op == ":?" then full else isSet) then
            let text := joinSegs (joiner (← get)) (← wordSegs)
            let why := if !text.isEmpty then text
              else if op == ":?" then "parameter not set or null" else "parameter not set"
            complain (name ++ ": " ++ why)
            throw (.exit 2)
          else out := out ++ paramSegs (← get) name q
    pure out

/-- The fields of words, patterns among them matched against the paths of files unless
`noglob` is on. -/
def expandWords (sub : String → ShellM String) (ws : List Word) : ShellM (List String) := do
  let mut out := []
  for w in ws do
    let w := tildeWord (homeOf (← get)) .start w
    let segs ← segments sub (w.length + 8) w
    let sh ← get
    let ifs := (sh.var? "IFS").getD " \t\n"
    let fs := (← host get).fs
    let fields := fieldsOf ifs segs
    out := out ++ if sh.isOn "noglob" then fields.map Shell.patternText
      else fields.flatMap (expandField fs sh.cwd)
  pure out

def expandPattern (sub : String → ShellM String) (w : Word) : ShellM (List Shell.PatChar) := do
  let w := tildeWord (homeOf (← get)) .start w
  let segs ← segments sub (w.length + 8) w
  pure (patternOf (joiner (← get)) segs)

def expandText (sub : String → ShellM String) (tilde : TildeAt) (w : Word) :
    ShellM String := do
  let w := tildeWord (homeOf (← get)) tilde w
  let segs ← segments sub (w.length + 8) w
  pure (joinSegs (joiner (← get)) segs)

def substitute (act : ShellM Status) : ShellM String := do
  let d ← host openPipe
  let sh ← subshellOf { (← get).io with out := .pipe d }
  let st ← asProcess sh act true
  let bytes ← host closePipe
  modify fun sh => { sh with substStatus := st.code }
  let text := Raw.ofBytes bytes
  pure (String.ofList (text.toList.reverse.dropWhile (· == '\n')).reverse)

end BuildGate.Host
