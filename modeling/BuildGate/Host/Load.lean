import BuildGate.Host.Tools

namespace BuildGate.Host

def isLineBlank (b : UInt8) : Bool := b == 32 || b == 9

def shebangLine (bytes : List UInt8) : Option (List UInt8) :=
  let buf := bytes.take 256 ++ List.replicate (256 - bytes.length) 0
  let line : Option (List UInt8) :=
    match buf.idxOf? 10 with
    | some i => some ((buf.take i).drop 2)
    | none =>
      let body := buf.drop 2
      let start := body.dropWhile isLineBlank
      if start.any fun b => isLineBlank b || b == 0 then some ((buf.take 255).drop 2)
      else none
  line.map fun l => (l.reverse.dropWhile isLineBlank).reverse

/-- The interpreter and optional argument of a `#!` line: the name runs from the first
non-blank byte to a blank or zero byte, and the argument, when a blank ends the name, is the
rest of the line after blanks up to a zero byte. Nothing when the line is blank or cannot be
read. -/
def shebang (bytes : List UInt8) : Option (String × Option String) :=
  match shebangLine bytes with
  | none => none
  | some line =>
    let line := line.dropWhile isLineBlank
    if line.isEmpty then none
    else
      let interp := line.takeWhile fun b => !(isLineBlank b || b == 0)
      let arg := match line.drop interp.length with
        | b :: rest =>
          let r := rest.dropWhile isLineBlank
          if isLineBlank b && !r.isEmpty then some (r.takeWhile (· != 0)) else none
        | [] => none
      some (Raw.ofBytes interp, arg.map Raw.ofBytes)

/-- Loads a file to execute from a working directory: the program it runs and the argument
vector the program gets, or the error number. -/
def loadImage (t : Fs.Tree) (cwd : List String) : Nat → String → List String →
    Except Nat (String × List String)
  | 0, _, _ => .error 40
  | depth + 1, path, argv =>
    if path.isEmpty then .error 2 else
    match t.lookup true (absoluteFrom cwd (Raw.toText path)) with
    | .error e => .error e
    | .ok (_, none) => .error 2
    | .ok (_, some .dir) => .error 13
    | .ok (_, some (.link _)) => .error 40
    | .ok (_, some (.file bytes mode)) =>
      if mode % 2 == 0 && (mode / 8) % 2 == 0 && (mode / 64) % 2 == 0 then .error 13
      else
        match programOf bytes with
        | some name => .ok (name, argv)
        | none =>
          if bytes.take 2 == [35, 33] then
            match shebang bytes with
            | none => .error 8
            | some (interp, arg) =>
              loadImage t cwd depth interp ([interp] ++ arg.toList ++ [path] ++ argv.drop 1)
          else .error 8

def loadDepth : Nat := 6

def joinCommand (dir cmd : String) : String :=
  if dir.isEmpty || dir.endsWith "/" then dir ++ cmd else dir ++ "/" ++ cmd

def searchDirs (searchPath : String) : List String :=
  (searchPath.toList.splitOn ':').map String.ofList

/-- The paths tried for a command: the command itself when it has a `/`, else the command in
each directory of the search path. -/
def candidates (cmd : String) (searchPath : String) : List String :=
  if cmd.toList.contains '/' then [cmd]
  else (searchDirs searchPath).map fun d => joinCommand d cmd

def loadFirst (t : Fs.Tree) (cwd : List String) (argv : List String) :
    List String → Option Nat → Nat → Except Nat (String × List String)
  | [], saved, last => .error (saved.getD last)
  | p :: rest, saved, _ =>
    match loadImage t cwd loadDepth p argv with
    | .ok r => .ok r
    | .error e =>
      let saved := if saved.isNone && e != 2 && e != 20 then some e else saved
      loadFirst t cwd argv rest saved e

end BuildGate.Host
