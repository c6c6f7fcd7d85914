import BuildGate.Host.Machine
import BuildGate.Host.Image
import BuildGate.Shell.Format
import BuildGate.Path
import BuildGate.Text.Raw

namespace BuildGate.Host

/-- A call of a program. -/
structure ToolCall where
  argv : List String
  env : Env
  cwd : List String
  input : Source
  seekable : Bool := false
  fs : Fs.Tree
  umask : Nat := 0o022

/-- A write of a program: to its standard output, or to its standard error. -/
inductive Write where
  | out (bs : List UInt8)
  | err (bs : List UInt8)
  deriving Repr, BEq, Inhabited

/-- What a program did. -/
structure ToolRun where
  writes : List Write := []
  status : Status := .exited 0
  wait : Nat := 0
  endless : Bool := false
  reading : Reading := .nothing
  fs : Option Fs.Tree := none
  exec : Option (List String × Env × Option (List String)) := none

def ToolRun.printing (bs : List UInt8) : ToolRun := { writes := [.out bs] }

def ToolRun.say (r : ToolRun) (bs : List UInt8) : ToolRun :=
  if bs.isEmpty then r else { r with writes := r.writes ++ [.out bs] }

def ToolRun.warn (r : ToolRun) (bs : List UInt8) : ToolRun :=
  if bs.isEmpty then r else { r with writes := r.writes ++ [.err bs] }

def ToolRun.warnFirst (r : ToolRun) (bs : List UInt8) : ToolRun :=
  if bs.isEmpty then r else { r with writes := .err bs :: r.writes }

def ToolRun.out (r : ToolRun) : List UInt8 :=
  r.writes.flatMap fun w => match w with
    | .out bs => bs
    | .err _ => []

def ToolRun.err (r : ToolRun) : List UInt8 :=
  r.writes.flatMap fun w => match w with
    | .out _ => []
    | .err bs => bs

def ToolCall.name (c : ToolCall) : String := c.argv.headD ""

def ToolCall.args (c : ToolCall) : List String := c.argv.drop 1

def utf8Locale (env : Env) : Bool :=
  let pick := [env.get? "LC_ALL", env.get? "LC_CTYPE", env.get? "LANG"].filterMap fun
    | some v => if v.isEmpty then none else some v
    | none => none
  match pick with
  | v :: _ =>
    let l := v.toLower
    (l.splitOn "utf-8").length > 1 || (l.splitOn "utf8").length > 1
  | [] => false

def localeQuote (env : Env) (s : String) : String := Shell.quoteName (utf8Locale env) s

/-- A name quoted for a message the way a shell would read it back: as it is when nothing in
it is special. -/
def shellQuoted (env : Env) (s : String) : String := Shell.quoteForShell (utf8Locale env) s

/-- A name quoted for a message the way a shell would read it back, in quotes even when
nothing in it is special. -/
def alwaysQuoted (env : Env) (s : String) : String := Shell.quoteForShell (utf8Locale env) s true

def textBytes (s : String) : List UInt8 := s.toUTF8.toList

def scriptText (bs : List UInt8) : String := Text.decodeLossy (bs.filter (· != 0))

def absoluteFrom (cwd : List String) (path : String) : List String :=
  let p := Path.ofString path
  if p.isAbs then p.parts else cwd ++ p.parts

/-- The bytes of a file to read, or the error number: the zero device is endless and the null
device empty. -/
def readSource (t : Fs.Tree) (cwd : List String) (path : String) : Except Nat Source :=
  let cs := absoluteFrom cwd path
  match t.lookup true cs with
  | .ok (phys, some (.file bytes _)) =>
    if isZeroDevice phys then .ok .zeros
    else if isNullDevice phys then .ok (.bytes [])
    else .ok (.bytes bytes)
  | .ok (_, some .dir) => .error 21
  | .ok (_, _) => .error 2
  | .error n => .error n

def nulNames (bs : List UInt8) : List String :=
  let parts := bs.splitOn 0
  let parts := if bs.getLast? == some 0 || bs.isEmpty then parts.dropLast else parts
  parts.map fun p => Text.decodeLossy p

def isRegularFile (t : Fs.Tree) (cwd : List String) (path : String) : Bool :=
  match t.lookup true (absoluteFrom cwd path) with
  | .ok (phys, some (.file _ _)) => !isZeroDevice phys && !isNullDevice phys
  | _ => false

/-- The characters of bytes decoded as UTF-8: the code of each character, and nothing for a
byte that does not decode. -/
def utf8Codes : Nat → List UInt8 → List (Option Nat)
  | 0, _ => []
  | _ + 1, [] => []
  | fuel + 1, b :: rest =>
    let n := b.toNat
    let cont (k : Nat) : Option (Nat × Nat) :=
      let tail := rest.take k
      if tail.length == k && tail.all (fun t => t.toNat / 64 == 2) then
        some (tail.foldl (fun v t => v * 64 + t.toNat % 64) 0, k)
      else none
    let decoded : Option (Nat × Nat) :=
      if n < 0x80 then some (n, 0)
      else if 0xC2 ≤ n && n ≤ 0xDF then (cont 1).map fun (v, k) => ((n % 32) * 64 + v, k)
      else if 0xE0 ≤ n && n ≤ 0xEF then
        (cont 2).bind fun (v, k) =>
          let code := (n % 16) * 4096 + v
          if code < 0x800 || (0xD800 ≤ code && code ≤ 0xDFFF) then none else some (code, k)
      else if 0xF0 ≤ n && n ≤ 0xF4 then
        (cont 3).bind fun (v, k) =>
          let code := (n % 8) * 262144 + v
          if code < 0x10000 || code > 0x10FFFF then none else some (code, k)
      else none
    match decoded with
    | some (code, k) => some code :: utf8Codes fuel (rest.drop k)
    | none => none :: utf8Codes fuel rest

def textEnv (e : Env) : Env := ⟨e.entries.map fun (k, v) => (Raw.toText k, Raw.toText v)⟩

def rawEnv (e : Env) : Env := ⟨e.entries.map fun (k, v) => (Raw.ofText k, Raw.ofText v)⟩

/-- The sources of the inputs a program names, in order: `-` is the standard input, which the
first `-` reads to its end, so that a later `-` finds nothing more. -/
def inputSources (c : ToolCall) (files : List String) : List (String × Except Nat Source) :=
  (files.foldl (fun (acc : List (String × Except Nat Source) × Bool) f =>
    if f == "-" then (acc.1 ++ [(f, .ok (if acc.2 then .bytes [] else c.input))], true)
    else (acc.1 ++ [(f, readSource c.fs c.cwd f)], acc.2)) ([], false)).1

def errnoText (n : Nat) : String := (Fs.errorAt n "").text

def isEndless : Except Nat Source → Bool
  | .ok .zeros => true
  | _ => false

def failWith (msg : String) (code : Nat) : ToolRun :=
  { writes := [.err (textBytes msg)], status := .exited code }

def byteLines (bs : List UInt8) : List (List UInt8) :=
  let rec go : Nat → List UInt8 → List (List UInt8)
    | 0, _ => []
    | _ + 1, [] => []
    | fuel + 1, bs =>
      let line := bs.takeWhile (· != 10)
      let rest := bs.drop line.length
      match rest with
      | _ :: after => (line ++ [10]) :: go fuel after
      | [] => [line]
  go (bs.length + 1) bs

/-- Whether an option takes a value. -/
inductive ValueKind where
  | noValue
  | required
  | optional
  deriving Repr, BEq, Inhabited

/-- The options a program knows: one-letter options and long ones, each long option standing
for a key (the letter of its short form, or a key of its own), and whether the options end at
the first operand. -/
structure OptionSpec where
  shorts : List (Char × ValueKind) := []
  longs : List (String × Char × ValueKind) := []
  inOrder : Bool := false

def OptionSpec.findLong (spec : OptionSpec) (text : String) :
    Except String (String × Char × ValueKind) :=
  match spec.longs.find? (·.1 == text) with
  | some o => .ok o
  | none =>
    match spec.longs.filter (·.1.startsWith text) with
    | [o] => .ok o
    | [] => .error ("unrecognized option '--" ++ text ++ "'")
    | os =>
      let keys := os.map (·.2.1)
      if keys.all (· == keys.headD ' ') then .ok (os.headD ("", ' ', .noValue))
      else .error ("option '--" ++ text ++ "' is ambiguous; possibilities:" ++
        String.join (os.map fun o => " '--" ++ o.1 ++ "'"))

/-- The options and operands of a program's arguments: the options in order, each with its
value, the operands, and the message of the bad option that stopped the reading, if one
did. -/
structure ReadArgs where
  opts : List (Char × Option String) := []
  operands : List String := []
  bad : Option String := none

/-- Reads the options one argument holds (an argument that starts with `-` and is not `-` or
`--`): a cluster of letters, a value attached or in the next argument, or `--name` and
`--name=value` for a long option (any unambiguous start of its name). The options read, the
arguments after those taken, and the message of a bad option that stopped the reading. -/
def readOptionArg (spec : OptionSpec) (a : String) (rest : List String) :
    List (Char × Option String) × List String × Option String :=
  if a.startsWith "--" then
    let body := (a.drop 2).toString
    let name := String.ofList (body.toList.takeWhile (· != '='))
    let attached := if body.toList.contains '=' then
        some (String.ofList (body.toList.drop (name.length + 1))) else none
    match spec.findLong name with
    | .error m => ([], rest, some m)
    | .ok (full, key, kind) =>
      match kind, attached with
      | .noValue, some _ => ([], rest, some ("option '--" ++ full ++ "' doesn't allow an argument"))
      | .noValue, none => ([(key, none)], rest, none)
      | .optional, v => ([(key, v)], rest, none)
      | .required, some v => ([(key, some v)], rest, none)
      | .required, none =>
        match rest with
        | v :: more => ([(key, some v)], more, none)
        | [] => ([], rest, some ("option '--" ++ full ++ "' requires an argument"))
  else
    let rec cluster : Nat → List Char → List String →
        List (Char × Option String) × List String × Option String
      | 0, _, rest => ([], rest, none)
      | _ + 1, [], rest => ([], rest, none)
      | f + 1, c :: cs, rest =>
        match spec.shorts.lookup c with
        | none => ([], rest, some ("invalid option -- '" ++ c.toString ++ "'"))
        | some .noValue =>
          let (os, r, bad) := cluster f cs rest
          ((c, none) :: os, r, bad)
        | some .optional => ([(c, if cs.isEmpty then none else some (String.ofList cs))], rest, none)
        | some .required =>
          if !cs.isEmpty then ([(c, some (String.ofList cs))], rest, none)
          else
            match rest with
            | v :: more => ([(c, some v)], more, none)
            | [] => ([], rest, some ("option requires an argument -- '" ++ c.toString ++ "'"))
    let letters := (a.drop 1).toString.toList
    cluster (letters.length + 1) letters rest

def isOptionArg (a : String) : Bool := a.startsWith "-" && a.length > 1

/-- Reads the options of a program's arguments the way the usual option reader does: the
options of each argument that holds some (`readOptionArg`), `--` ending the options, and
`-` alone an operand; options are read among the operands unless the spec says they end at
the first one. -/
def readOptions (spec : OptionSpec) : Nat → List String → ReadArgs
  | 0, args => { operands := args }
  | _ + 1, [] => {}
  | fuel + 1, a :: rest =>
    if a == "--" then { operands := rest }
    else if isOptionArg a then
      let (os, rest, bad) := readOptionArg spec a rest
      match bad with
      | some m => { opts := os, bad := some m }
      | none =>
        let r := readOptions spec fuel rest
        { r with opts := os ++ r.opts }
    else if spec.inOrder then { operands := a :: rest }
    else
      let r := readOptions spec fuel rest
      { r with operands := a :: r.operands }

def ToolCall.options (c : ToolCall) (spec : OptionSpec) : ReadArgs :=
  readOptions spec (c.args.length + 1) c.args

def usageFailure (c : ToolCall) (msg : String) (code : Nat) : ToolRun :=
  failWith (c.name ++ ": " ++ msg ++ "\nTry '" ++ c.name ++
    " --help' for more information.\n") code

def askedAbout (opts : List (Char × Option String)) : Option Char :=
  (opts.find? fun (k, _) => k == '\x01' || k == '\x02').map fun (k, _) =>
    if k == '\x01' then 'h' else 'v'

def aboutLongs : List (String × Char × ValueKind) :=
  [("help", '\x01', .noValue), ("version", '\x02', .noValue)]

end BuildGate.Host
