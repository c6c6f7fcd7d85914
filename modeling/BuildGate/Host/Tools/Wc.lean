import BuildGate.Host.Tools.About
import BuildGate.Text.CellWidth

namespace BuildGate.Host

/-- What `wc` counts of an input. -/
structure WcCounts where
  lines : Nat := 0
  words : Nat := 0
  chars : Nat := 0
  bytes : Nat := 0
  longest : Nat := 0
  deriving Repr, Inhabited

def WcCounts.add (a b : WcCounts) : WcCounts :=
  { lines := a.lines + b.lines, words := a.words + b.words, chars := a.chars + b.chars,
    bytes := a.bytes + b.bytes, longest := max a.longest b.longest }

/-- How a character moves the count: a line end, a separator of words (and the columns it
advances), a printable character of a word, or nothing. -/
inductive WcClass where
  | lineEnd (newline : Bool)
  | tab
  | blank (columns : Nat)
  | word (columns : Nat)
  | ignored
  deriving Repr, BEq, Inhabited

def wcClass (printable : Nat → Bool) (width : Nat → Nat) (n : Nat) : WcClass :=
  match n with
  | 10 => .lineEnd true
  | 13 | 12 => .lineEnd false
  | 9 => .tab
  | 32 => .blank 1
  | 11 => .blank 0
  | _ => if printable n then (if n == 0x85 || n == 0xA0 || n == 0x1680 ||
      (0x2000 ≤ n && n ≤ 0x2006) || (0x2008 ≤ n && n ≤ 0x200A) || n == 0x2028 || n == 0x2029 ||
      n == 0x205F || n == 0x3000 then .blank 1 else .word (width n)) else .ignored

/-- The state of counting: the counts so far, whether a word is open, and the column. -/
structure WcState where
  counts : WcCounts := {}
  inWord : Bool := false
  column : Nat := 0

def WcState.step (s : WcState) (k : WcClass) : WcState :=
  let c := s.counts
  let c := { c with chars := c.chars + 1 }
  let closed (c : WcCounts) : WcCounts := if s.inWord then { c with words := c.words + 1 } else c
  match k with
  | .lineEnd nl =>
    let ended : WcCounts := { closed c with
      lines := c.lines + (if nl then 1 else 0), longest := max c.longest s.column }
    { counts := ended, inWord := false, column := 0 }
  | .tab => { counts := closed c, inWord := false, column := s.column + 8 - s.column % 8 }
  | .blank n => { counts := closed c, inWord := false, column := s.column + n }
  | .word n => { counts := c, inWord := true, column := s.column + n }
  | .ignored => { s with counts := c }

def WcState.finish (s : WcState) : WcCounts :=
  let c := s.counts
  { c with words := c.words + (if s.inWord then 1 else 0), longest := max c.longest s.column }

def wcCounts (utf8 : Bool) (bs : List UInt8) : WcCounts :=
  let bytes := bs.length
  if utf8 then
    let codes := utf8Codes (bs.length + 1) bs
    let printable (n : Nat) := (32 ≤ n && n < 127) || (n ≥ 0xA0 && n != 0xAD)
    let s := codes.foldl (fun s code =>
      match code with
      | some n => s.step (wcClass printable (fun n => Text.charCells (Char.ofNat n)) n)
      | none => s) ({} : WcState)
    { s.finish with bytes }
  else
    let printable (n : Nat) := 32 ≤ n && n < 127
    let s := bs.foldl (fun s b => s.step (wcClass printable (fun _ => 1) b.toNat)) ({} : WcState)
    { s.finish with bytes }

def wcSpec : OptionSpec :=
  { shorts := "clLmw".toList.map (·, .noValue),
    longs := [("bytes", 'c', .noValue), ("chars", 'm', .noValue), ("lines", 'l', .noValue),
      ("files0-from", 'f', .required), ("max-line-length", 'L', .noValue),
      ("words", 'w', .noValue)] ++ aboutLongs }

/-- What `wc` learned of one input: its counts (none when it could not be opened), its error,
and the size it adds to the width when it is a regular file (none when it is not one). -/
structure WcInput where
  name : Option String
  counts : Option WcCounts
  error : Option String := none
  regularSize : Option Nat := none
  unknown : Bool := false
  deriving Inhabited

def wcInput (c : ToolCall) (utf8 stdin : Bool) (f : Option String) : WcInput :=
  match f with
  | none | some "-" =>
    match (if stdin then c.input else .bytes []) with
    | .zeros => { name := f, counts := none, error := some "" }
    | .bytes bs =>
      { name := f, counts := some (wcCounts utf8 bs),
        regularSize := if c.seekable then some bs.length else none }
  | some path =>
    let cs := absoluteFrom c.cwd path
    let problem (n : Nat) := c.name ++ ": " ++ shellQuoted c.env path ++ ": " ++
      errnoText n ++ "\n"
    match c.fs.lookup true cs with
    | .ok (phys, some (.file bytes _)) =>
      if isZeroDevice phys then { name := f, counts := none, error := some "" }
      else if isNullDevice phys then { name := f, counts := some {} }
      else
        { name := f, counts := some (wcCounts utf8 bytes), regularSize := some bytes.length }
    | .ok (_, some .dir) => { name := f, counts := some {}, error := some (problem 21) }
    | .ok (_, _) => { name := f, counts := none, unknown := true, error := some (problem 2) }
    | .error n => { name := f, counts := none, unknown := true, error := some (problem n) }

/-- `wc`: counts of each input, and their total when there are several. The names come from
the operands or, with `--files0-from`, from a list of NUL-terminated names; an empty name,
or `-` in a list read from the standard input, is skipped with a message. The width of the
counts is 1 when the names are read from a stream, or when the first input's size cannot be
looked up. -/
def wcTool (c : ToolCall) : ToolRun :=
  let r := c.options wcSpec
  match askedAbout r.opts, r.bad with
  | some w, _ => aboutRun c "wc" w
  | none, some m => usageFailure c m 1
  | none, none =>
    let has (k : Char) := r.opts.any (·.1 == k)
    let any := has 'l' || has 'w' || has 'm' || has 'c' || has 'L'
    let shown := if any then [has 'l', has 'w', has 'm', has 'c', has 'L']
      else [true, true, false, true, false]
    let utf8 := utf8Locale c.env
    let listFile := (r.opts.filter (·.1 == 'f')).getLast?.map (·.2.getD "")
    -- the names, whether the list of names is a file whose names all count for the width,
    -- and whether the standard input was read for the list
    let given : Except ToolRun (List (Option String) × Bool × Bool) :=
      match listFile with
      | none => .ok (if r.operands.isEmpty then [none] else r.operands.map some, true, false)
      | some list =>
        match r.operands with
        | extra :: _ =>
          .error (usageFailure c ("extra operand " ++ alwaysQuoted c.env extra ++
            "\nfile operands cannot be combined with --files0-from") 1)
        | [] =>
          let src := if list == "-" then .ok c.input else readSource c.fs c.cwd list
          match src with
          | .error 21 =>
            -- a directory opens, and then cannot be read
            .error (failWith (c.name ++ ": " ++ shellQuoted c.env list ++ ": read error: " ++
              errnoText 21 ++ "\n") 1)
          | .error n =>
            .error (failWith (c.name ++ ": cannot open " ++ alwaysQuoted c.env list ++
              " for reading: " ++ errnoText n ++ "\n") 1)
          | .ok .zeros => .error { endless := true }
          | .ok (.bytes bs) =>
            let regular := if list == "-" then c.seekable
              else isRegularFile c.fs c.cwd list
            .ok ((nulNames bs).map some, regular, list == "-")
    match given with
    | .error run => run
    | .ok (names, sized, listRead) =>
    let stdinFirst := if listRead then none else names.findIdx? fun f => f.isNone || f == some "-"
    -- a name skipped, with its message, or an input
    let items : List (Except String WcInput) := names.zipIdx.map fun (f, i) =>
      if listRead && f == some "-" then
        .error (c.name ++ ": when reading file names from stdin, no file name of " ++
          alwaysQuoted c.env "-" ++ " allowed\n")
      else if f == some "" then
        .error (c.name ++ ": " ++ (match listFile with
          | some list => shellQuoted c.env list ++ ":" ++ toString (i + 1) ++ ": "
          | none => "") ++ "invalid zero-length file name\n")
      else .ok (wcInput c utf8 (stdinFirst == some i) f)
    let inputs := items.filterMap fun it => match it with
      | .ok i => some i
      | .error _ => none
    if inputs.any (·.error == some "") then { endless := true }
    else
      let oneCount := (shown.filter id).length == 1
      let measured : List WcInput := if sized then
          names.map fun f => match f with
            | some "" => { name := f, counts := none, unknown := true }
            | _ => wcInput c utf8 false f
        else []
      let width :=
        match measured with
        | [] => 1
        | first :: _ =>
          if measured.length == 1 && oneCount then 1
          else if first.unknown then 1
          else
            let known := measured.filter (!·.unknown)
            let total := (known.filterMap (·.regularSize)).foldl (· + ·) 0
            let least := if known.any (·.regularSize.isNone) then 7 else 1
            max least (toString total).length
      let pad (n : Nat) := let s := toString n
        String.ofList (List.replicate (width - s.length) ' ') ++ s
      let pick (t : WcCounts) : List Nat :=
        ([t.lines, t.words, t.chars, t.bytes, t.longest].zip shown).filterMap fun (n, on) =>
          if on then some n else none
      let line (t : WcCounts) (label : Option String) :=
        " ".intercalate ((pick t).map pad) ++ (label.map (" " ++ ·)).getD "" ++ "\n"
      -- each input's message comes before its line
      let run := items.foldl (fun (run : ToolRun) it =>
        match it with
        | .error m => run.warn (textBytes m)
        | .ok i =>
          let run := run.warn (textBytes (i.error.getD ""))
          match i.counts with
          | some t => run.say (textBytes (line t i.name))
          | none => run) {}
      let total := (inputs.filterMap (·.counts)).foldl WcCounts.add {}
      let run := if names.length > 1 then run.say (textBytes (line total (some "total"))) else run
      let failed := inputs.any (·.error.isSome) || items.any (· matches .error _)
      { run with
        status := .exited (if failed then 1 else 0),
        reading := if stdinFirst.isSome || listRead then .whole else .nothing }

end BuildGate.Host
