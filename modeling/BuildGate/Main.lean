import BuildGate.Cli.App

open BuildGate

def passedVariables : List String := ["PATH", "HOME", "LANG", "COLUMNS", "TERM"]

def main (args : List String) : IO UInt32 := do
  let mut env := Env.empty
  for k in passedVariables do
    if let some v ← IO.getEnv k then env := env.set k v
  let draws ← (List.range 4).mapM fun _ => IO.rand 0 35
  let work := ["work"]
  let tree : Fs.Tree :=
    { Host.image with entries := Host.image.entries ++ [(work, .dir)], cwd := work }
  let r := Cli.runCli args { host := { fs := tree, env }, draws }
  let out ← IO.getStdout
  out.write (ByteArray.mk r.session.host.stdout.toArray)
  out.flush
  let err ← IO.getStderr
  err.write (ByteArray.mk r.session.host.stderr.toArray)
  if let some kind := r.fault then err.putStrLn kind
  err.flush
  pure r.code.toUInt32
