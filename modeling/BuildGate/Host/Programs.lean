import BuildGate.Host.Tools.Cat
import BuildGate.Host.Tools.Echo
import BuildGate.Host.Tools.Env
import BuildGate.Host.Tools.Head
import BuildGate.Host.Tools.Mkdir
import BuildGate.Host.Tools.Sleep
import BuildGate.Host.Tools.Sort
import BuildGate.Host.Tools.Tr
import BuildGate.Host.Tools.Wc
import BuildGate.Host.Test

namespace BuildGate.Host

def statusTool (c : ToolCall) (program : String) (status : Nat) : ToolRun :=
  match c.args with
  | ["--help"] => aboutRun c program 'h' status
  | ["--version"] => aboutRun c program 'v' status
  | _ => { status := .exited status }

def isCleanPath (p : String) : Bool :=
  p.startsWith "/" && (p.splitOn "/").all fun part => part != "." && part != ".."

def pwdTool (c : ToolCall) : ToolRun :=
  let spec : OptionSpec :=
    { shorts := [('L', .noValue), ('P', .noValue)],
      longs := [("logical", 'L', .noValue), ("physical", 'P', .noValue)] ++ aboutLongs }
  let r := c.options spec
  match askedAbout r.opts, r.bad with
  | some w, _ => aboutRun c "pwd" w
  | none, some m => usageFailure c m 1
  | none, none =>
    let logical := ((r.opts.filter fun (k, _) => k == 'L' || k == 'P').getLast?.map (·.1)) ==
      some 'L'
    let warn := if r.operands.isEmpty then []
      else textBytes (c.name ++ ": ignoring non-option arguments\n")
    let physical := Fs.absText c.cwd
    let shown := match c.env.get? "PWD" with
      | some p =>
        if logical && isCleanPath p then
          match c.fs.lookup true (Path.ofString p).parts with
          | .ok (phys, some .dir) => if phys == c.cwd then p else physical
          | _ => physical
        else physical
      | none => physical
    (({} : ToolRun).warn warn).say (textBytes (shown ++ "\n"))

def testTool (c : ToolCall) (bracket : Bool) : ToolRun :=
  let args : Option (List String) :=
    if bracket then
      if c.args.getLast? == some "]" then some c.args.dropLast else none
    else some c.args
  match bracket, c.args with
  | true, ["--help"] => aboutRun c "[" 'h'
  | true, ["--version"] => aboutRun c "[" 'v'
  | _, _ =>
    match args with
    | none => failWith (c.name ++ ": missing " ++ localeQuote c.env "]" ++ "\n") 2
    | some args =>
      match programTest c.fs c.cwd (localeQuote c.env) args with
      | .ok b => { status := .exited (if b then 0 else 1) }
      | .error m => failWith (c.name ++ ": " ++ m ++ "\n") 2

def runProgram (name : String) (c : ToolCall) : ToolRun :=
  match name with
  | "cat" => catTool c
  | "echo" => echoTool c
  | "env" => envTool c
  | "false" => statusTool c "false" 1
  | "head" => headTool c
  | "mkdir" => mkdirTool c
  | "printf" => printfTool c
  | "pwd" => pwdTool c
  | "sleep" => sleepTool c
  | "sort" => sortTool c
  | "tr" => trTool c
  | "true" => statusTool c "true" 0
  | "wc" => wcTool c
  | "test" => testTool c false
  | "[" => testTool c true
  | _ => {}

end BuildGate.Host
