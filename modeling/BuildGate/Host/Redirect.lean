import BuildGate.Host.Words

namespace BuildGate.Host

open BuildGate.Shell (Redir RedirOp)

def redirect (sub : String → ShellM String) (rs : List Redir) : ShellM (Except String Io) := do
  let mut io := (← get).io
  for r in rs do
    let target ← expandText sub (if r.op == .document then .nowhere else .start) r.target
    let sh ← get
    let fs := (← host get).fs
    match r.op with
    | .document =>
      let n ← host (openReader (.bytes (Raw.bytes target)) false)
      io := io.setChannel r.fd (.reads n)
    | .write | .clobber | .append | .readWrite =>
      let cs := absoluteFrom sh.cwd (Raw.toText target)
      match fs.lookup true cs with
      | .ok (_, some .dir) => return .error ("cannot create " ++ target ++ ": Is a directory")
      | .ok (phys, some (.file bytes mode)) =>
        if isNullDevice phys || isZeroDevice phys then
          if r.op == .readWrite && r.fd == 0 then
            let n ← host (openReader (if isZeroDevice phys then .zeros else .bytes []) false)
            io := io.setChannel 0 (.reads n)
          else io := io.setChannel r.fd (.writes .null)
        else if r.op == .write && sh.isOn "noclobber" then
          return .error ("cannot create " ++ target ++ ": File exists")
        else
          if r.op == .write || r.op == .clobber then
            host (modify fun m => { m with fs := m.fs.put phys (.file [] mode) })
          if r.op == .readWrite && r.fd == 0 then
            let n ← host (openReader (.bytes bytes) true)
            io := io.setChannel 0 (.reads n)
          else io := io.setChannel r.fd (.writes (.file phys))
      | .ok (phys, none) =>
        if target.isEmpty then return .error "cannot create : Directory nonexistent"
        host (modify fun m => { m with fs := m.fs.put phys (.file [] (0o666 - (0o666 &&& sh.umask))) })
        io := if r.op == .readWrite && r.fd == 0 then io.setChannel 0 (.reads 0)
          else io.setChannel r.fd (.writes (.file phys))
      | .ok (_, some (.link _)) =>
        return .error ("cannot create " ++ target ++ ": Too many levels of symbolic links")
      | .error e =>
        let why := if e == 2 then "Directory nonexistent" else errnoText e
        return .error ("cannot create " ++ target ++ ": " ++ why)
    | .read =>
      match readSource fs sh.cwd (Raw.toText target) with
      | .ok src =>
        let n ← host (openReader src (isRegularFile fs sh.cwd (Raw.toText target)))
        io := io.setChannel r.fd (.reads n)
      | .error e =>
        let why := if e == 2 then "No such file" else errnoText e
        return .error ("cannot open " ++ target ++ ": " ++ why)
    | .dup =>
      if target == "-" then io := io.close r.fd
      else if !target.isEmpty && target.toList.all Char.isDigit then
        let from_ := target.toNat?.getD 0
        match io.channel? from_ with
        | some p => io := io.setChannel r.fd p
        | none => return .error (target ++ ": Bad file descriptor")
      else return .error "Syntax error: Bad fd number"
  pure (.ok io)

/-- Runs a computation with the descriptors a command's redirections give. A failing
redirection is reported and gives status 2, or ends the shell for a special builtin. -/
def withRedirs (sub : String → ShellM String) (rs : List Redir) (act : ShellM Status)
    (special : Bool := false) : ShellM Status := do
  if rs.isEmpty then act
  else
    match ← redirect sub rs with
    | .error m =>
      complain m
      if special then throw (.exit 2) else pure (.exited 2)
    | .ok io =>
      let saved := (← get).io
      modify fun sh => { sh with io }
      withCleanup act (modify fun sh => { sh with io := saved })

def keepRedirs (sub : String → ShellM String) (rs : List Redir) : ShellM Status := do
  match ← redirect sub rs with
  | .error m =>
    complain m
    throw (.exit 2)
  | .ok io =>
    modify fun sh => { sh with io }
    pure (.exited 0)

end BuildGate.Host
