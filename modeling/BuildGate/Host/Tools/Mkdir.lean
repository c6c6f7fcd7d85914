import BuildGate.Host.Tools.About
import BuildGate.Fs.Change

namespace BuildGate.Host

def mkdirSpec : OptionSpec :=
  { shorts := [('m', .required), ('p', .noValue), ('v', .noValue), ('Z', .noValue)],
    longs := [("mode", 'm', .required), ("parents", 'p', .noValue), ("verbose", 'v', .noValue),
      ("context", '\x03', .optional)] ++ aboutLongs }

def isModeText (s : String) : Bool :=
  let cs := s.toList
  if !cs.isEmpty && cs.all Shell.isOctal then
    cs.foldl (fun v c => v * 8 + (c.toNat - 48)) 0 ≤ 0o7777
  else
    let clause (cl : List Char) : Bool :=
      let who := cl.takeWhile fun c => "ugoa".toList.contains c
      let acts := cl.drop who.length
      let ops := acts.splitBy fun _ b => !"+-=".toList.contains b
      !acts.isEmpty && ops.all fun op =>
        match op with
        | o :: perms => "+-=".toList.contains o &&
          (perms.all (fun p => "rwxXst".toList.contains p) ||
            (perms.length == 1 && "ugo".toList.contains (perms.headD ' ')))
        | [] => false
    (cs.splitOn ',').all clause

def pathPrefixes (path : String) : List String :=
  let parts := path.splitOn "/"
  let lead := if path.startsWith "/" then "/" else ""
  let names := parts.filter (!·.isEmpty)
  (List.range names.length).map fun i => lead ++ "/".intercalate (names.take (i + 1))

def mkdirTool (c : ToolCall) : ToolRun :=
  let r := c.options mkdirSpec
  match askedAbout r.opts, r.bad with
  | some w, _ => aboutRun c "mkdir" w
  | none, some m => usageFailure c m 1
  | none, none =>
    let has (k : Char) := r.opts.any (·.1 == k)
    let parents := has 'p'
    let verbose := has 'v'
    let mode := (r.opts.filter (·.1 == 'm')).getLast?.bind (·.2)
    match mode with
    | some m =>
      if !isModeText m then failWith (c.name ++ ": invalid mode " ++ localeQuote c.env m ++ "\n") 1
      else if r.operands.isEmpty then usageFailure c "missing operand" 1
      else mkdirAll c r.operands parents verbose
    | none =>
      if r.operands.isEmpty then usageFailure c "missing operand" 1
      else mkdirAll c r.operands parents verbose
where
  mkdirAll (c : ToolCall) (dirs : List String) (parents verbose : Bool) : ToolRun :=
    let made (d : String) := if verbose then
        c.name ++ ": created directory " ++ alwaysQuoted c.env d ++ "\n" else ""
    let failed (d : String) (n : Nat) :=
      c.name ++ ": cannot create directory " ++ localeQuote c.env d ++ ": " ++ errnoText n ++ "\n"
    let (t, run) := dirs.foldl (fun ((t : Fs.Tree), (run : ToolRun)) d =>
      let cs := absoluteFrom c.cwd d
      let fail (n : Nat) : ToolRun := { run.warn (textBytes (failed d n)) with status := .exited 1 }
      -- an empty name names no directory
      if d.isEmpty then (t, fail 2)
      else if parents then
        let steps := (pathPrefixes d).dropLast
        let (t, run, bad) := steps.foldl
          (fun ((t : Fs.Tree), (run : ToolRun), (bad : Option Nat)) p =>
            if bad.isSome then (t, run, bad)
            else
              let pcs := absoluteFrom c.cwd p
              if t.isDir pcs then (t, run, none)
              else
                match t.mkdir pcs false with
                | .ok t' => (t', run.say (textBytes (made p)), none)
                | .error n => (t, run, some n)) (t, run, none)
        let fail (n : Nat) : ToolRun := { run.warn (textBytes (failed d n)) with status := .exited 1 }
        match bad with
        | some n => (t, fail n)
        | none =>
          if t.isDir cs then (t, run)
          else
            match t.mkdir cs false with
            | .ok t' => (t', run.say (textBytes (made d)))
            | .error n => (t, fail n)
      else
        match t.mkdir cs false with
        | .ok t' => (t', run.say (textBytes (made d)))
        | .error n => (t, fail n)) (c.fs, {})
    { run with fs := some t }

end BuildGate.Host
