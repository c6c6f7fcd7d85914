import BuildGate.Host.Builtins.Basic

namespace BuildGate.Host

def physicalOption (args : List String) : ShellM (Bool × List String) := do
  let (opts, rest) ← builtinOptions "LP" args
  pure (opts.foldl (fun _ (c, _) => c == 'P') false, rest)

def logicalPath (cur target : String) : String :=
  let base := if target.startsWith "/" then [] else (cur.splitOn "/").filter (!·.isEmpty)
  let parts := base ++ ((target.splitOn "/").filter (!·.isEmpty))
  let kept := parts.foldl (fun acc c =>
    if c == "." then acc else if c == ".." then acc.dropLast else acc ++ [c]) []
  let lead := if target.startsWith "//" && !target.startsWith "///" then "//" else "/"
  lead ++ "/".intercalate kept

def changeDir (target : String) (physical print : Bool) : ShellM Bool := do
  let sh ← get
  let fs := (← host get).fs
  let (path, text) :=
    if physical then (absoluteFrom sh.cwd (Raw.toText target), none)
    else
      let t := logicalPath sh.pwd target
      ((Path.ofString (Raw.toText t)).parts, some t)
  match fs.lookup true path with
  | .ok (_, some .dir) =>
    let phys := fs.realpath path
    let shown := text.getD (Raw.ofText (Fs.absText phys))
    modify fun sh => { (sh.setVar "OLDPWD" sh.pwd true).setVar "PWD" shown true with
      cwd := phys, pwd := shown }
    if print then sayText (shown ++ "\n")
    pure true
  | _ => pure false

def skipsCdPath (target : String) : Bool :=
  target.startsWith "/" || target == "." || target == ".." || target.startsWith "./" ||
    target.startsWith "../"

def cdBuiltin (args : List String) : ShellM Status := do
  let (physical, operands) ← physicalOption args
  let sh ← get
  let (target, print) := match operands with
    | "-" :: _ => ((sh.var? "OLDPWD").getD "", true)
    | d :: _ => (d, false)
    | [] => ((sh.var? "HOME").getD "", false)
  let dest := if target.isEmpty then "." else target
  if !skipsCdPath dest then
    if let some cdpath := sh.var? "CDPATH" then
      for dir in cdpath.splitOn ":" do
        let p := if dir.isEmpty then dest else dir ++ "/" ++ dest
        let fs := (← host get).fs
        if fs.isDir (absoluteFrom (← get).cwd (Raw.toText p)) then
          if ← changeDir p physical (print || !dir.isEmpty) then return .exited 0
          else refuse ("can't cd to " ++ target)
  if ← changeDir dest physical print then pure (.exited 0)
  else refuse ("can't cd to " ++ target)

def pwdBuiltin (args : List String) : ShellM Status := do
  let (physical, _) ← physicalOption args
  let sh ← get
  sayText ((if physical then Raw.ofText (Fs.absText sh.cwd) else sh.pwd) ++ "\n")
  pure (.exited 0)

def octalMask (m : Nat) : String :=
  let ds := String.ofList (Nat.toDigits 8 m)
  String.ofList (List.replicate (4 - ds.length) '0') ++ ds

def symbolicMask (m : Nat) : String :=
  let allowed := 0o777 - (m &&& 0o777)
  ",".intercalate ((List.range 3).map fun i =>
    let bits := (allowed >>> (6 - 3 * i)) &&& 7
    ("ugo".toList.getD i ' ').toString ++ "=" ++
      String.ofList ((List.range 3).filterMap fun j =>
        if (bits >>> (2 - j)) &&& 1 == 1 then some ("rwx".toList.getD j ' ') else none))

def applyClauses (allowed : Nat) : Nat → List Char → Option Nat
  | 0, _ => none
  | _ + 1, [] => some allowed
  | fuel + 1, cs =>
    let whoCs := cs.takeWhile fun c => "augo".toList.contains c
    let positions := whoCs.foldl (fun p c =>
      p ||| (match c with | 'a' => 0o111 | 'u' => 0o100 | 'g' => 0o010 | _ => 0o001)) 0
    let positions := if positions == 0 then 0o111 else positions
    let rec ops : Nat → Nat → List Char → Option (Nat × List Char)
      | 0, _, _ => none
      | _ + 1, cur, [] => some (cur, [])
      | f + 1, cur, op :: rest =>
        if op == '=' || op == '+' || op == '-' then
          let permCs := rest.takeWhile fun c => "rwxugoXst".toList.contains c
          let value := permCs.foldl (fun v c =>
            v ||| (match c with
              | 'r' => 4 | 'w' => 2 | 'x' => 1
              | 'u' => (allowed >>> 6) &&& 7 | 'g' => (allowed >>> 3) &&& 7 | 'o' => allowed &&& 7
              | 'X' => if allowed &&& 0o111 != 0 then 1 else 0
              | _ => 0)) 0
          let bits := (value &&& 7) * positions
          let cur := match op with
            | '-' => cur &&& (0o777 - bits)
            | '=' => bits ||| (cur &&& (0o777 - positions * 7))
            | _ => cur ||| bits
          ops f cur (rest.drop permCs.length)
        else some (cur, op :: rest)
    match ops (cs.length + 1) allowed (cs.drop whoCs.length) with
    | some (cur, ',' :: more) => applyClauses cur fuel more
    | some (cur, []) => some cur
    | _ => none

def umaskBuiltin (args : List String) : ShellM Status := do
  let (opts, operands) ← builtinOptions "S" args
  let sh ← get
  match operands with
  | [] =>
    sayText ((if opts.isEmpty then octalMask sh.umask else symbolicMask sh.umask) ++ "\n")
    pure (.exited 0)
  | a :: _ =>
    match a.toList with
    | c :: _ =>
      if c.isDigit then
        if a.toList.all fun d => '0' ≤ d && d ≤ '7' then
          let m := a.toList.foldl (fun v d => (v * 8 + (d.toNat - '0'.toNat)) % 4294967296) 0
          set { sh with umask := m &&& 0o777 }
          pure (.exited 0)
        else refuse ("Illegal number: " ++ a)
      else
        match applyClauses (0o777 - sh.umask) (a.length + 1) a.toList with
        | some allowed =>
          set { sh with umask := 0o777 - (allowed &&& 0o777) }
          pure (.exited 0)
        | none => refuse ("Illegal mode: " ++ a)
    | [] => pure (.exited 0)

end BuildGate.Host
