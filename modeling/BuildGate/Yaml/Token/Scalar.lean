import BuildGate.Yaml.Token.Scan
import BuildGate.Text.Utf8

namespace BuildGate.Yaml

def takeSpan (p : Char → Bool) : ScanM String := do
  let s ← get
  let n := s.span p
  set (s.forward n)
  pure (s.ahead n)

def loopFuel : ScanM Nat := do
  pure ((← get).buf.size + 1)

def escapeReplacement : Char → Option Char
  | '0' => some '\x00'
  | 'a' => some '\x07'
  | 'b' => some '\x08'
  | 't' => some '\t'
  | '\t' => some '\t'
  | 'n' => some '\n'
  | 'v' => some '\x0b'
  | 'f' => some '\x0c'
  | 'r' => some '\r'
  | 'e' => some '\x1b'
  | ' ' => some ' '
  | '"' => some '"'
  | '/' => some '/'
  | '\\' => some '\\'
  | 'N' => some '\x85'
  | '_' => some '\xa0'
  | 'L' => some '\u2028'
  | 'P' => some '\u2029'
  | _ => none

def escapeCodeLength : Char → Option Nat
  | 'x' => some 2
  | 'u' => some 4
  | 'U' => some 8
  | _ => none

def textOfCode (code : Nat) : Except YamlError String :=
  if code > 0x10FFFF then throw (.other "ValueError" "chr() arg not in range(0x110000)")
  else pure (Text.ofPoints [code])

def quotedError (start : Mark) (problem : String) : ScanM α :=
  scanError (some "while scanning a quoted scalar") (some start) problem

def quotedBreaks (start : Mark) : Nat → ScanM (List String)
  | 0 => pure []
  | fuel + 1 => do
    if (← get).atSeparator then quotedError start "found unexpected document separator"
    else
      let _ ← takeSpan fun c => c == ' ' || c == '\t'
      if isBreak (← get).peek then
        let b ← scanLineBreak
        let rest ← quotedBreaks start fuel
        pure (b :: rest)
      else pure []

def scanEscape (start : Mark) : ScanM (List String) := do
  let s ← get
  let ch := s.peek
  match escapeReplacement ch with
  | some r =>
    advance
    pure [String.singleton r]
  | none =>
    match escapeCodeLength ch with
    | some len =>
      advance
      let s ← get
      match (List.range len).find? (fun k => !isHexChar (s.peek k)) with
      | some k =>
        scanError (some "while scanning a double-quoted scalar") (some start)
          ("expected escape sequence of " ++ toString len ++
            " hexadecimal numbers, but found " ++ charText (s.peek k))
      | none =>
        let t ← liftM (textOfCode (hexText (s.ahead len)))
        advance len
        pure [t]
    | none =>
      if isBreak ch then
        let _ ← scanLineBreak
        quotedBreaks start (← loopFuel)
      else
        scanError (some "while scanning a double-quoted scalar") (some start)
          ("found unknown escape character " ++ charText ch)
where
  liftM {α : Type} (r : Except YamlError α) : ScanM α :=
    match r with
    | .ok a => pure a
    | .error e => throw e

def quotedText (double : Bool) (start : Mark) : Nat → ScanM (List String)
  | 0 => pure []
  | fuel + 1 => do
    let run ← takeSpan fun c => !(c == '\'' || c == '"' || c == '\\' || isBlankOrEnd c)
    let here := if run.isEmpty then [] else [run]
    let s ← get
    let ch := s.peek
    if !double && ch == '\'' && s.peek 1 == '\'' then
      advance 2
      pure (here ++ ["'"] ++ (← quotedText double start fuel))
    else if (double && ch == '\'') || (!double && (ch == '"' || ch == '\\')) then
      advance
      pure (here ++ [String.singleton ch] ++ (← quotedText double start fuel))
    else if double && ch == '\\' then
      advance
      let escaped ← scanEscape start
      pure (here ++ escaped ++ (← quotedText double start fuel))
    else pure here

def quotedSpaces (start : Mark) : ScanM (List String) := do
  let blanks ← takeSpan fun c => c == ' ' || c == '\t'
  let ch := (← get).peek
  if ch == '\x00' then quotedError start "found unexpected end of stream"
  else if isBreak ch then
    let lineBreak ← scanLineBreak
    let breaks ← quotedBreaks start (← loopFuel)
    let first := if lineBreak != "\n" then [lineBreak] else if breaks.isEmpty then [" "] else []
    pure (first ++ breaks)
  else pure [blanks]

def scanQuoted (double : Bool) : ScanM Token := do
  let s ← get
  let start := s.mark
  let quote := s.peek
  advance
  let first ← quotedText double start (← loopFuel)
  let rest ← more quote start (← loopFuel)
  advance
  let stop := (← get).mark
  pure ⟨.scalar (String.join (first ++ rest)) false (some quote), start, stop⟩
where
  more (quote : Char) (start : Mark) : Nat → ScanM (List String)
    | 0 => pure []
    | fuel + 1 => do
      if (← get).peek == quote then pure []
      else
        let spaces ← quotedSpaces start
        let text ← quotedText double start (← loopFuel)
        pure (spaces ++ text ++ (← more quote start fuel))

def plainRun (s : Scanner) : Nat :=
  go 0 (s.buf.size + 1)
where
  go (k : Nat) : Nat → Nat
    | 0 => k
    | fuel + 1 =>
      let ch := s.peek k
      let next := s.peek (k + 1)
      let flow := s.flowLevel != 0
      if isBlankOrEnd ch ||
          (ch == ':' && (isBlankOrEnd next || (flow && ",[]\x7b\x7d".toList.contains next))) ||
          (flow && ",?[]\x7b\x7d".toList.contains ch) then k
      else go (k + 1) fuel

def plainBreaks : Nat → ScanM (Option (List String))
  | 0 => pure (some [])
  | fuel + 1 => do
    let ch := (← get).peek
    if ch == ' ' then
      advance
      plainBreaks fuel
    else if isBreak ch then
      let b ← scanLineBreak
      if (← get).atSeparator then pure none
      else
        match ← plainBreaks fuel with
        | none => pure none
        | some rest => pure (some (b :: rest))
    else pure (some [])

def plainSpaces : ScanM (Option (List String)) := do
  let blanks ← takeSpan (· == ' ')
  if isBreak (← get).peek then
    let lineBreak ← scanLineBreak
    modify fun s => { s with allowSimpleKey := true }
    if (← get).atSeparator then return none
    match ← plainBreaks (← loopFuel) with
    | none => pure none
    | some breaks =>
      let first := if lineBreak != "\n" then [lineBreak] else if breaks.isEmpty then [" "] else []
      pure (some (first ++ breaks))
  else if blanks.isEmpty then pure (some [])
  else pure (some [blanks])

def scanPlain : ScanM Token := do
  let s ← get
  let start := s.mark
  let (chunks, stop) ← go (s.indent + 1) start [] [] start (← loopFuel)
  pure ⟨.scalar (String.join chunks) true none, start, stop⟩
where
  go (indent : Int) (start : Mark) (chunks spaces : List String) (stop : Mark) :
      Nat → ScanM (List String × Mark)
    | 0 => pure (chunks, stop)
    | fuel + 1 => do
      let s ← get
      if s.peek == '#' then return (chunks, stop)
      let n := plainRun s
      if n == 0 then return (chunks, stop)
      set { s with allowSimpleKey := false }
      let chunks := chunks ++ spaces ++ [s.ahead n]
      advance n
      let stop := (← get).mark
      match ← plainSpaces with
      | none => pure (chunks, stop)
      | some [] => pure (chunks, stop)
      | some spaces =>
        let s ← get
        if s.peek == '#' || (s.flowLevel == 0 && (s.column : Int) < indent) then
          pure (chunks, stop)
        else go indent start chunks spaces stop fuel

def blockError (start : Mark) (problem : String) : ScanM α :=
  scanError (some "while scanning a block scalar") (some start) problem

def isDigitChar (c : Char) : Bool := '0' ≤ c && c ≤ '9'

def blockIndicators (start : Mark) : ScanM (Option Bool × Option Nat) := do
  let zero : ScanM Unit :=
    blockError start "expected indentation indicator in the range 1-9, but found 0"
  let ch := (← get).peek
  let mut chomping : Option Bool := none
  let mut increment : Option Nat := none
  if ch == '+' || ch == '-' then
    chomping := some (ch == '+')
    advance
    let c := (← get).peek
    if isDigitChar c then
      if c == '0' then zero
      increment := some (c.toNat - 48)
      advance
  else if isDigitChar ch then
    if ch == '0' then zero
    increment := some (ch.toNat - 48)
    advance
    let c := (← get).peek
    if c == '+' || c == '-' then
      chomping := some (c == '+')
      advance
  let c := (← get).peek
  if !isSpaceOrEnd c then
    blockError start ("expected chomping or indentation indicators, but found " ++ charText c)
  pure (chomping, increment)

def blockHeaderEnd (start : Mark) : ScanM Unit := do
  skipSpaces
  skipComment
  let c := (← get).peek
  if !isBreakOrEnd c then
    blockError start ("expected a comment or a line break, but found " ++ charText c)
  let _ ← scanLineBreak

def blockIndentation : ScanM (List String × Nat × Mark) := do
  go [] 0 (← get).mark (← loopFuel)
where
  go (chunks : List String) (deepest : Nat) (stop : Mark) : Nat → ScanM (List String × Nat × Mark)
    | 0 => pure (chunks, deepest, stop)
    | fuel + 1 => do
      let ch := (← get).peek
      if ch == ' ' then
        advance
        go chunks (max deepest (← get).column) stop fuel
      else if isBreak ch then
        let b ← scanLineBreak
        go (chunks ++ [b]) deepest (← get).mark fuel
      else pure (chunks, deepest, stop)

def skipIndentation (indent : Nat) : ScanM Unit := do
  let s ← get
  if s.column < indent then advance (min (s.span (· == ' ')) (indent - s.column))

def blockBreaks (indent : Nat) : ScanM (List String × Mark) := do
  let stop := (← get).mark
  skipIndentation indent
  go [] stop (← loopFuel)
where
  go (chunks : List String) (stop : Mark) : Nat → ScanM (List String × Mark)
    | 0 => pure (chunks, stop)
    | fuel + 1 => do
      if isBreak (← get).peek then
        let b ← scanLineBreak
        let stop := (← get).mark
        skipIndentation indent
        go (chunks ++ [b]) stop fuel
      else pure (chunks, stop)

def blockLines (folded : Bool) (indent : Nat) :
    List String → String → List String → Mark → Nat → ScanM (List String × String × List String × Mark)
  | chunks, lineBreak, breaks, stop, 0 => pure (chunks, lineBreak, breaks, stop)
  | chunks, lineBreak, breaks, stop, fuel + 1 => do
    let s ← get
    if !(s.column == indent && s.peek != '\x00') then
      return (chunks, lineBreak, breaks, stop)
    let leadingNonSpace := !(s.peek == ' ' || s.peek == '\t')
    let line ← takeSpan fun c => !isBreakOrEnd c
    let chunks := chunks ++ breaks ++ [line]
    let lineBreak ← scanLineBreak
    let (breaks, stop) ← blockBreaks indent
    let s ← get
    if s.column == indent && s.peek != '\x00' then
      let chunks :=
        if folded && lineBreak == "\n" && leadingNonSpace && !(s.peek == ' ' || s.peek == '\t') then
          (if breaks.isEmpty then chunks ++ [" "] else chunks)
        else chunks ++ [lineBreak]
      blockLines folded indent chunks lineBreak breaks stop fuel
    else pure (chunks, lineBreak, breaks, stop)

def scanBlockScalar (folded : Bool) : ScanM Token := do
  let s ← get
  let start := s.mark
  advance
  let (chomping, increment) ← blockIndicators start
  blockHeaderEnd start
  let least : Nat := max 1 ((← get).indent + 1).toNat
  let (breaks, indent, stop) ← match increment with
    | none => do
      let (breaks, deepest, stop) ← blockIndentation
      pure (breaks, max least deepest, stop)
    | some inc => do
      let indent := least + inc - 1
      let (breaks, stop) ← blockBreaks indent
      pure (breaks, indent, stop)
  let (chunks, lineBreak, breaks, stop) ← blockLines folded indent [] "" breaks stop (← loopFuel)
  let chunks := chunks ++ (if chomping != some false then [lineBreak] else []) ++
    (if chomping == some true then breaks else [])
  pure ⟨.scalar (String.join chunks) false (some (if folded then '>' else '|')), start, stop⟩

end BuildGate.Yaml
