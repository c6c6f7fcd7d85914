import BuildGate.Host.Tools.About

namespace BuildGate.Host

def multiplierPower (c : Char) : Option Nat :=
  match c with
  | 'k' | 'K' => some 1 | 'm' | 'M' => some 2 | 'G' => some 3 | 'T' => some 4
  | 'P' => some 5 | 'E' => some 6 | 'Z' => some 7 | 'Y' => some 8 | 'R' => some 9
  | 'Q' => some 10 | _ => none

/-- How a size text fell short. -/
inductive SizeFault where
  | invalid
  | tooLarge
  deriving Repr, BEq, Inhabited

def sizeValue (s : String) : Except SizeFault Nat :=
  let cs := s.toList.dropWhile fun c => c == ' ' || ('\t' ≤ c && c ≤ '\r')
  let cs := match cs with
    | '+' :: r => r
    | _ => cs
  let ds := cs.takeWhile Char.isDigit
  if ds.isEmpty then .error .invalid
  else
    let n := (String.ofList ds).toNat?.getD 0
    let scaled : Option Nat := match cs.drop ds.length with
      | [] => some n
      | ['b'] => some (n * 512)
      | c :: rest =>
        match multiplierPower c with
        | some p =>
          match rest with
          | [] => some (n * Nat.pow 1024 p)
          | ['B'] => some (n * Nat.pow 1000 p)
          | ['i', 'B'] => some (n * Nat.pow 1024 p)
          | _ => none
        | none => none
    match scaled with
    | none => .error .invalid
    | some v => if v ≥ Nat.pow 2 64 then .error .tooLarge else .ok v

/-- What `head` takes from each input. -/
structure HeadPlan where
  bytes : Bool := false
  count : Nat := 10
  elide : Bool := false
  headers : Option Bool := none
  delimiter : UInt8 := 10

def HeadPlan.take (p : HeadPlan) (bs : List UInt8) : List UInt8 :=
  if p.bytes then
    if p.elide then bs.take (bs.length - p.count) else bs.take p.count
  else
    let lines := (bs.splitOn p.delimiter).map (· ++ [p.delimiter])
    let lines := if bs.getLast? == some p.delimiter || bs.isEmpty then lines.dropLast
      else (lines.dropLast ++ [(lines.getLastD []).dropLast])
    if p.elide then (lines.take (lines.length - p.count)).flatten
    else (lines.take p.count).flatten

/-- How much of an input `head` reads. It reads blocks of 8192 bytes; in a file it then goes
back to the end of what it writes, and elsewhere the rest of the last block is read all the
same. Leaving out the last lines or bytes reads the input to its end, and a count of bytes is
read exactly. -/
def HeadPlan.reading (p : HeadPlan) (seekable : Bool) (bs : List UInt8) : Reading :=
  if p.elide then .whole
  else
    let k := (p.take bs).length
    if p.bytes || seekable then .first k
    else .first (min bs.length ((k + 8191) / 8192 * 8192))

def headSpec : OptionSpec :=
  { shorts := [('c', .required), ('n', .required), ('q', .noValue), ('v', .noValue),
      ('z', .noValue)],
    longs := [("bytes", 'c', .required), ("lines", 'n', .required), ("quiet", 'q', .noValue),
      ("silent", 'q', .noValue), ("verbose", 'v', .noValue),
      ("zero-terminated", 'z', .noValue)] ++ aboutLongs }

def headPlan (c : ToolCall) (opts : List (Char × Option String)) (p : HeadPlan) :
    Except ToolRun HeadPlan :=
  opts.foldlM (fun (p : HeadPlan) (k, v) =>
    match k with
    | '\x01' => .error (aboutRun c "head" 'h')
    | '\x02' => .error (aboutRun c "head" 'v')
    | 'c' | 'n' =>
      let text := v.getD ""
      let elide := text.startsWith "-"
      let digits := if elide then (text.drop 1).toString else text
      match sizeValue digits with
      | .ok n => .ok { p with bytes := k == 'c', count := n, elide }
      | .error f =>
        let what := if k == 'c' then "invalid number of bytes" else "invalid number of lines"
        .error (failWith (c.name ++ ": " ++ what ++ ": " ++ localeQuote c.env digits ++
          (if f == .tooLarge then ": Value too large for defined data type" else "") ++ "\n") 1)
    | 'q' => .ok { p with headers := some false }
    | 'v' => .ok { p with headers := some true }
    | 'z' => .ok { p with delimiter := 0 }
    | _ => .ok p) p

def leadingCount (args : List String) : Option (HeadPlan × List String) :=
  match args with
  | a :: rest =>
    match a.toList with
    | '-' :: d :: more =>
      if d.isDigit then
        let ds := (d :: more).takeWhile Char.isDigit
        let letters := (d :: more).drop ds.length
        let n := (String.ofList ds).toNat?.getD 0
        let p := letters.foldl (fun (p : HeadPlan) l =>
          match l with
          | 'c' => { p with bytes := true }
          | 'b' => { p with bytes := true, count := p.count * 512 }
          | 'k' => { p with bytes := true, count := p.count * 1024 }
          | 'm' => { p with bytes := true, count := p.count * 1048576 }
          | 'q' => { p with headers := some false }
          | 'v' => { p with headers := some true }
          | 'z' => { p with delimiter := 0 }
          | _ => p) { count := n }
        some (p, rest)
      else none
    | _ => none
  | [] => none

def headTool (c : ToolCall) : ToolRun :=
  let (start, args) := (leadingCount c.args).getD ({}, c.args)
  let r := readOptions headSpec (args.length + 1) args
  match headPlan c r.opts start with
  | .error run => run
  | .ok plan =>
    match r.bad with
    | some m => usageFailure c m 1
    | none =>
      let files := if r.operands.isEmpty then ["-"] else r.operands
      let headers := plan.headers.getD (files.length > 1)
      let (run, _) := (inputSources c files).foldl (fun ((run : ToolRun), (first : Bool)) (f, src) =>
        if run.endless then (run, false)
        else
          let header := if headers then
              textBytes ((if first then "" else "\n") ++ "==> " ++
                (if f == "-" then "standard input" else f) ++ " <==\n")
            else []
          match src with
          | .ok (.bytes bs) => (run.say (header ++ plan.take bs), false)
          | .ok .zeros =>
            if plan.elide || (!plan.bytes && plan.delimiter != 0) then
              ({ run.say header with endless := true }, false)
            else (run.say (header ++ List.replicate plan.count 0), false)
          | .error 21 =>
            -- a directory opens, and then cannot be read
            let msg := c.name ++ ": error reading " ++ alwaysQuoted c.env f ++ ": " ++ errnoText 21 ++ "\n"
            ({ (run.say header).warn (textBytes msg) with status := .exited 1 }, false)
          | .error e =>
            let msg := c.name ++ ": cannot open " ++ alwaysQuoted c.env f ++ " for reading: " ++
              errnoText e ++ "\n"
            ({ run.warn (textBytes msg) with status := .exited 1 }, first))
        ({}, true)
      let reading := match files.contains "-", c.input with
        | true, .bytes bs => plan.reading c.seekable bs
        | _, _ => .nothing
      { run with reading }

end BuildGate.Host
