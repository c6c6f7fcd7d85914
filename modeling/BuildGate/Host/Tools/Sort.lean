import BuildGate.Host.Tools.SortDebug
import BuildGate.Fs.Change

namespace BuildGate.Host

def sortSpec : OptionSpec :=
  { shorts := "bcCdfghiMmnRrsuVz".toList.map (·, .noValue) ++
      [('k', .required), ('o', .required), ('S', .required), ('t', .required),
       ('T', .required), ('y', .required)],
    longs := [("ignore-leading-blanks", 'b', .noValue), ("check", '\x04', .optional),
      ("compress-program", '\x05', .required), ("debug", '\x07', .noValue),
      ("dictionary-order", 'd', .noValue), ("ignore-case", 'f', .noValue),
      ("files0-from", '\x05', .required), ("general-numeric-sort", 'g', .noValue),
      ("ignore-nonprinting", 'i', .noValue), ("key", 'k', .required),
      ("merge", 'm', .noValue), ("month-sort", 'M', .noValue),
      ("numeric-sort", 'n', .noValue), ("human-numeric-sort", 'h', .noValue),
      ("version-sort", 'V', .noValue), ("random-sort", 'R', .noValue),
      ("random-source", '\x05', .required), ("reverse", 'r', .noValue),
      ("sort", '\x03', .required), ("output", 'o', .required), ("stable", 's', .noValue),
      ("batch-size", '\x05', .required), ("buffer-size", 'S', .required),
      ("field-separator", 't', .required), ("temporary-directory", 'T', .required),
      ("unique", 'u', .noValue), ("zero-terminated", 'z', .noValue),
      ("parallel", '\x05', .required)] ++ aboutLongs }

def fieldCount (cs : List Char) : Option (Nat × List Char) :=
  let cs := cs.dropWhile fun c => c == ' ' || ('\t' ≤ c && c ≤ '\r')
  let cs := match cs with
    | '+' :: more => more
    | _ => cs
  let ds := cs.takeWhile Char.isDigit
  if ds.isEmpty then none
  else some ((String.ofList ds).toNat?.getD 0, cs.drop ds.length)

def keyLetters (o : KeyOrder) (start stop : Bool) : List Char → KeyOrder × List Char
  | [] => (o, [])
  | c :: rest =>
    match o.add start stop c with
    | some o => keyLetters o start stop rest
    | none => (o, c :: rest)

def readKey (quote : String → String) (spec : String) : Except String SortKey := do
  let bad (m : String) : Except String SortKey :=
    .error (m ++ ": invalid field specification " ++ quote spec)
  let count (m : String) (cs : List Char) : Except String (Nat × List Char) :=
    match fieldCount cs with
    | some r => .ok r
    | none => .error (m ++ ": invalid count at start of " ++ quote (String.ofList cs))
  let (field, rest) ← count "invalid number at field start" spec.toList
  if field == 0 then bad "field number is zero"
  else
    let (offset, rest) ← match rest with
      | '.' :: more => do
        let (c, r) ← count "invalid number after '.'" more
        pure (some c, r)
      | _ => pure (none, rest)
    if offset == some 0 then bad "character offset is zero"
    else
      let startPos : Option (Nat × Nat) :=
        if field == 1 && offset.getD 1 == 1 then none else some (field - 1, offset.getD 1 - 1)
      let (order, rest) := keyLetters {} true false rest
      match rest with
      | ',' :: more =>
        let (efield, rest) ← count "invalid number after ','" more
        if efield == 0 then bad "field number is zero"
        else
          let (echar, rest) ← match rest with
            | '.' :: more => count "invalid number after '.'" more
            | _ => pure (0, rest)
          let (order, rest) := keyLetters order false true rest
          if !rest.isEmpty then bad "stray character in field spec"
          else pure { start := startPos, stop := some (efield - 1, echar), order }
      | [] => pure { start := startPos, order }
      | _ => bad "stray character in field spec"

/-- What the options of `sort` ask for. -/
structure SortSetup where
  keys : List SortKey := []
  global : KeyOrder := {}
  tab : Option UInt8 := none
  unique : Bool := false
  stable : Bool := false
  zero : Bool := false
  check : Option Char := none
  output : Option String := none
  debug : Bool := false

def sortSetup (c : ToolCall) (opts : List (Char × Option String)) :
    Except (String × Bool) SortSetup :=
  opts.foldlM (fun (s : SortSetup) (k, v) =>
    let value := v.getD ""
    let argFault (what : String) (valid : List String) : Except (String × Bool) SortSetup :=
      .error ("invalid argument " ++ localeQuote c.env value ++ " for " ++
        localeQuote c.env what ++ "\nValid arguments are:" ++
        String.join (valid.map ("\n  - " ++ ·)), true)
    match k with
    | 'k' =>
      match readKey (localeQuote c.env) value with
      | .ok key => .ok { s with keys := s.keys ++ [key] }
      | .error m => .error (m, false)
    | 't' =>
      let t : Except String UInt8 :=
        match value.toUTF8.toList with
        | [] => .error "empty tab"
        | [b] => .ok b
        | [92, 48] => .ok 0
        | _ => .error ("multi-character tab " ++ localeQuote c.env value)
      match t with
      | .error m => .error (m, false)
      | .ok b =>
        if s.tab.isSome && s.tab != some b then .error ("incompatible tabs", false)
        else .ok { s with tab := some b }
    | 'o' =>
      if s.output.isSome && s.output != some value then
        .error ("multiple output files specified", false)
      else .ok { s with output := some value }
    | 'u' => .ok { s with unique := true }
    | '\x07' => .ok { s with debug := true }
    | 's' => .ok { s with stable := true }
    | 'z' => .ok { s with zero := true }
    | 'c' => .ok { s with check := some 'c' }
    | 'C' => .ok { s with check := some 'C' }
    | '\x04' =>
      match v with
      | none => .ok { s with check := some 'c' }
      | some w =>
        let choices : List (String × Char) := [("quiet", 'C'), ("silent", 'C'), ("diagnose-first", 'c')]
        match choices.lookup w, choices.filter (·.1.startsWith w) with
        | some ch, _ => .ok { s with check := some ch }
        | none, (_, ch) :: more =>
          if !w.isEmpty && more.all (·.2 == ch) then .ok { s with check := some ch }
          else argFault "--check" ["'quiet', 'silent'", "'diagnose-first'"]
        | none, [] => argFault "--check" ["'quiet', 'silent'", "'diagnose-first'"]
    | '\x03' =>
      let choices : List (String × Char) := [("general-numeric", 'g'), ("human-numeric", 'h'), ("month", 'M'),
        ("numeric", 'n'), ("random", 'R'), ("version", 'V')]
      let pick := match choices.lookup value with
        | some ch => some ch
        | none =>
          match choices.filter fun (p : String × Char) => p.1.startsWith value with
          | [(_, ch)] => if value.isEmpty then none else some ch
          | _ => none
      match pick with
      | some ch => .ok { s with global := (s.global.add true true ch).getD s.global }
      | none => argFault "--sort" (choices.map fun (n, _) => "'" ++ n ++ "'")
    | _ => .ok { s with global := (s.global.add true true k).getD s.global }) {}

def SortSetup.finalKeys (s : SortSetup) : List SortKey :=
  let keys := s.keys.map fun k =>
    if k.order.plain && !k.order.reverse then { k with order := s.global } else k
  if keys.isEmpty && !s.global.plain then [{ order := s.global }] else keys

def SortSetup.compareLines (s : SortSetup) (keys : List SortKey) (a b : List UInt8) : Ordering :=
  let byKeys := if keys.isEmpty then .eq else compareByKeys s.tab keys a b
  if byKeys != .eq || (!keys.isEmpty && (s.unique || s.stable)) then byKeys
  else
    let c := bytesCompare a b
    if s.global.reverse then c.swap else c

def recordsOf (delim : UInt8) (bs : List UInt8) : List (List UInt8) :=
  let parts := bs.splitOn delim
  if bs.isEmpty then [] else if bs.getLast? == some delim then parts.dropLast else parts

def firstOfRuns (cmp : List UInt8 → List UInt8 → Ordering) (lines : List (List UInt8)) :
    List (List UInt8) :=
  (lines.foldl (fun (acc : List (List UInt8)) l =>
    match acc with
    | prev :: _ => if cmp prev l == .eq then acc else l :: acc
    | [] => [l]) []).reverse

def firstDisorder (cmp : List UInt8 → List UInt8 → Ordering) (unique : Bool)
    (lines : List (List UInt8)) : Option (Nat × List UInt8) :=
  ((lines.zip (lines.drop 1)).zip (List.range lines.length)).findSome? fun ((a, b), i) =>
    let c := cmp a b
    if c == .gt || (unique && c == .eq) then some (i + 2, b) else none

def sortTool (c : ToolCall) : ToolRun :=
  let r := c.options sortSpec
  let stop (m : String) : ToolRun := failWith (c.name ++ ": " ++ m ++ "\n") 2
  match askedAbout r.opts, r.bad with
  | some w, _ => aboutRun c "sort" w
  | none, some m => usageFailure c m 2
  | none, none =>
    match sortSetup c r.opts with
    | .error (m, hint) => if hint then usageFailure c m 2 else stop m
    | .ok s =>
      -- the inputs: the operands, or the names listed in the file of `--files0-from`
      let listFile := (r.opts.filter (·.1 == '\x05')).getLast?.map (·.2.getD "")
      let given : Except ToolRun (List String × Bool) :=
        match listFile with
        | none => .ok (if r.operands.isEmpty then ["-"] else r.operands, false)
        | some list =>
          match r.operands with
          | extra :: _ =>
            .error (usageFailure c ("extra operand " ++ alwaysQuoted c.env extra ++
              "\nfile operands cannot be combined with --files0-from") 2)
          | [] =>
            match (if list == "-" then .ok c.input else readSource c.fs c.cwd list) with
            | .error 21 => .error (stop ("cannot read file names from " ++ alwaysQuoted c.env list))
            | .error n => .error (stop ("open failed: " ++ shellQuoted c.env list ++ ": " ++ errnoText n))
            | .ok .zeros => .error { endless := true }
            | .ok (.bytes bs) =>
              let names := nulNames bs
              let bad := names.zipIdx.findSome? fun (n, i) =>
                if n == "-" then
                  some ("when reading file names from stdin, no file name of " ++
                    alwaysQuoted c.env n ++ " allowed")
                else if n.isEmpty then
                  some (shellQuoted c.env list ++ ":" ++ toString (i + 1) ++
                    ": invalid zero-length file name")
                else none
              let reading : Reading := if list == "-" then .whole else .nothing
              if names.isEmpty then
                .error { stop ("no input from " ++ alwaysQuoted c.env list) with reading }
              else match bad with
                | some m => .error { stop m with reading }
                | none => .ok (names, list == "-")
      match given with
      | .error run => run
      | .ok (files, listRead) =>
      let keys := s.finalKeys
      match keys.find? (·.order.clashes) with
      | some k =>
        let shown := { k.order with blanksStart := false, blanksEnd := false, reverse := false }
        stop ("options '-" ++ shown.letters ++ "' are incompatible")
      | none =>
        let notes := if s.debug then
            orderingNotes c.env ++ keyWarnings c.env keys (s.keys.isEmpty && !keys.isEmpty)
              s.global s.tab s.stable s.unique
          else []
        let run : ToolRun :=
          let delim : UInt8 := if s.zero then 0 else 10
          let cmp := s.compareLines keys
          let readFile (f : String) : Except Nat Source :=
            if f == "-" then .ok c.input else readSource c.fs c.cwd f
          match s.check with
          | some mode =>
            if files.length > 1 then
              stop ("extra operand " ++ alwaysQuoted c.env (files.getD 1 "") ++
                " not allowed with -" ++ mode.toString)
            else if s.output.isSome then
              stop ("options '-" ++ mode.toString ++ "o' are incompatible")
            else
              let f := files.headD "-"
              match readFile f with
              | .error n => stop ("open failed: " ++ shellQuoted c.env f ++ ": " ++ errnoText n)
              | .ok .zeros => { endless := true }
              | .ok (.bytes bs) =>
                let reading : Reading := if f == "-" then .whole else .nothing
                match firstDisorder cmp s.unique (recordsOf delim bs) with
                | none => { reading }
                | some (n, line) =>
                  if mode == 'C' then { status := .exited 1, reading }
                  else
                    { writes := [.err (textBytes (c.name ++ ": " ++ f ++ ":" ++ toString n ++
                        ": disorder: ") ++ line ++ [delim])], status := .exited 1, reading }
          | none =>
            -- a directory can be opened for reading: it fails only when it is read
            let missing := files.find? fun f =>
              f != "-" && match readSource c.fs c.cwd f with
                | .error 21 => false
                | .error _ => true
                | .ok _ => false
            match missing with
            | some f =>
              let n := match readSource c.fs c.cwd f with
                | .error n => n
                | .ok _ => 2
              stop ("cannot read: " ++ shellQuoted c.env f ++ ": " ++ errnoText n)
            | none =>
              let read := inputSources c files
              if read.any (fun p => isEndless p.2) then { endless := true }
              else
                let dir := files.find? fun f =>
                  f != "-" && (c.fs.isDir (absoluteFrom c.cwd f))
                match dir with
                | some f => stop ("read failed: " ++ shellQuoted c.env f ++ ": " ++ errnoText 21)
                | none =>
                  let lines := read.flatMap fun p =>
                    match p.2 with
                    | .ok (.bytes bs) => recordsOf delim bs
                    | _ => []
                  let sorted := lines.mergeSort fun a b => cmp a b != .gt
                  let sorted := if s.unique then firstOfRuns cmp sorted else sorted
                  let lastResort := !(s.unique || s.stable)
                  let out :=
                    if s.debug && s.output.isNone then
                      sorted.flatMap (debugLine (utf8Locale c.env) s.tab keys lastResort)
                    else sorted.flatMap (· ++ [delim])
                  let reading : Reading := if files.contains "-" then .whole else .nothing
                  match s.output with
                  | none => { ToolRun.printing out with reading }
                  | some path =>
                    let mode := 0o666 - (0o666 &&& c.umask)
                    match c.fs.writeFile (absoluteFrom c.cwd path) out mode with
                    | .ok t => { fs := some t, reading }
                    | .error n =>
                      { stop ("open failed: " ++ shellQuoted c.env path ++ ": " ++ errnoText n)
                        with reading }
        let noted := String.join (notes.map (c.name ++ ": " ++ · ++ "\n"))
        let run := run.warnFirst (textBytes noted)
        if listRead then { run with reading := .whole } else run

end BuildGate.Host
