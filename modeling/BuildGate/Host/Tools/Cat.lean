import BuildGate.Host.Tools.About

namespace BuildGate.Host

/-- What `cat` does to the lines it copies. -/
structure CatOptions where
  number : Bool := false
  numberNonblank : Bool := false
  squeeze : Bool := false
  showEnds : Bool := false
  showTabs : Bool := false
  showNonprinting : Bool := false

def CatOptions.add (o : CatOptions) (c : Char) : CatOptions :=
  match c with
  | 'n' => { o with number := true }
  | 'b' => { o with numberNonblank := true }
  | 's' => { o with squeeze := true }
  | 'E' => { o with showEnds := true }
  | 'T' => { o with showTabs := true }
  | 'v' => { o with showNonprinting := true }
  | 'A' => { o with showNonprinting := true, showEnds := true, showTabs := true }
  | 'e' => { o with showNonprinting := true, showEnds := true }
  | 't' => { o with showNonprinting := true, showTabs := true }
  | _ => o

def CatOptions.plain (o : CatOptions) : Bool :=
  !(o.number || o.numberNonblank || o.squeeze || o.showEnds || o.showTabs || o.showNonprinting)

def shownByte (tabs nonprinting : Bool) (b : UInt8) : List UInt8 :=
  if b == 9 then (if tabs then [94, 73] else [9])
  else if !nonprinting then [b]
  else
    let (pre, low) := if b ≥ 128 then ([77, 45], b - 128) else ([], b)
    pre ++ (if low < 32 then [94, low + 64] else if low == 127 then [94, 63] else [low])

def catLines (o : CatOptions) (bs : List UInt8) : List UInt8 :=
  let step (acc : List UInt8 × Nat × Nat) (line : List UInt8) : List UInt8 × Nat × Nat :=
    let (out, count, blanks) := acc
    let ended := line.getLast? == some 10
    let body := if ended then line.dropLast else line
    let empty := body.isEmpty && ended
    if o.squeeze && empty && blanks ≥ 1 then (out, count, blanks + 1)
    else
      let numbered := if o.numberNonblank then !body.isEmpty else o.number
      let (num, count) := if numbered then
          let n := toString (count + 1)
          (textBytes (String.ofList (List.replicate (6 - n.length) ' ') ++ n ++ "\t"), count + 1)
        else ([], count)
      let shown := body.flatMap (shownByte o.showTabs o.showNonprinting)
      let tail := if ended then (if o.showEnds then [36, 10] else [10]) else []
      (out ++ num ++ shown ++ tail, count, if empty then blanks + 1 else 0)
  ((byteLines bs).foldl step ([], 0, 0)).1

def catSpec : OptionSpec :=
  { shorts := "benstuvAET".toList.map (·, .noValue),
    longs := [("number-nonblank", 'b', .noValue), ("number", 'n', .noValue),
      ("squeeze-blank", 's', .noValue), ("show-nonprinting", 'v', .noValue),
      ("show-ends", 'E', .noValue), ("show-tabs", 'T', .noValue), ("show-all", 'A', .noValue)] ++
      aboutLongs }

def catTool (c : ToolCall) : ToolRun :=
  let r := c.options catSpec
  match askedAbout r.opts, r.bad with
  | some w, _ => aboutRun c "cat" w
  | none, some m => usageFailure c m 1
  | none, none =>
    let o := r.opts.foldl (fun o (k, _) => o.add k) ({} : CatOptions)
    let files := if r.operands.isEmpty then ["-"] else r.operands
    -- the output of the inputs read so far, shown by the options; an input's share is what
    -- it adds, written before the message of the next input that fails
    let shown (bs : List UInt8) : List UInt8 := if o.plain then bs else catLines o bs
    let (run, _) := (inputSources c files).foldl (fun ((run : ToolRun), (read : List UInt8)) (f, src) =>
      if run.endless then (run, read)
      else
        match src with
        | .ok (.bytes bs) =>
          (run.say ((shown (read ++ bs)).drop (shown read).length), read ++ bs)
        | .ok .zeros => ({ run with endless := true }, read)
        | .error n =>
          ({ run.warn (textBytes (c.name ++ ": " ++ shellQuoted c.env f ++ ": " ++
              errnoText n ++ "\n")) with status := .exited 1 }, read)) ({}, [])
    { run with reading := if files.contains "-" then .whole else .nothing }

end BuildGate.Host
