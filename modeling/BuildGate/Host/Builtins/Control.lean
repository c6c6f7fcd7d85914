import BuildGate.Host.Builtins.Basic

namespace BuildGate.Host

def exitBuiltin (args : List String) : ShellM Status := do
  match args with
  | [] => throw (.exit (← get).status)
  | a :: _ => throw (.exit (← numberArg a))

/-- `return`: ends the running function with a status, or with the last one; outside a
function it ends the script. -/
def returnBuiltin (args : List String) : ShellM Status := do
  match args with
  | [] => throw (.ret (← get).status)
  | a :: _ => throw (.ret (← numberArg a))

/-- `break` and `continue`: end, or go on with, the `n`-th enclosing loop (the outermost when
there are fewer); outside a loop they do nothing. -/
def jumpBuiltin (isBreak : Bool) (args : List String) : ShellM Status := do
  let name := if isBreak then "break" else "continue"
  let n ← match args with
    | a :: _ => do
      let n ← numberArg a
      if n == 0 then refuse ("Illegal number: " ++ a)
      pure n
    | [] => pure 1
  let n := min n (← get).loopDepth
  if n == 0 then pure (.exited 0)
  else throw (if isBreak then .brk n else .cont n)

end BuildGate.Host
