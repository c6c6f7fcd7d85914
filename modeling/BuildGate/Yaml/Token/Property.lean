import BuildGate.Yaml.Token.Scalar

namespace BuildGate.Yaml

def scanAnchor (isAlias : Bool) : ScanM Token := do
  let s ← get
  let start := s.mark
  let what := if isAlias then "alias" else "anchor"
  let bad (c : Char) : ScanM Unit :=
    scanError (some ("while scanning an " ++ what)) (some start)
      ("expected alphabetic or numeric character, but found " ++ charText c)
  advance
  let s ← get
  let n := s.span isWordChar
  if n == 0 then bad (s.peek n)
  let name := s.ahead n
  advance n
  let c := (← get).peek
  if !(isBlankOrEnd c || "?:,]\x7d%@\x60".toList.contains c) then bad c
  let stop := (← get).mark
  pure ⟨if isAlias then .alias name else .anchor name, start, stop⟩

def scanTagHandle (what : String) (start : Mark) : ScanM String := do
  let bad (c : Char) : ScanM Unit :=
    scanError (some ("while scanning a " ++ what)) (some start)
      ("expected '!', but found " ++ charText c)
  let s ← get
  if s.peek != '!' then bad s.peek
  let n :=
    if s.peek 1 == ' ' then 1
    else 1 + s.spanAt isWordChar 1
  if s.peek 1 != ' ' then
    if s.peek n != '!' then
      advance n
      bad (s.peek n)
  let n := if s.peek 1 == ' ' then n else n + 1
  advance n
  pure (s.ahead n)

def isUriChar (c : Char) : Bool :=
  isWordChar c || "-;/?:@&=+$,_.!~*'()[]%".toList.contains c

def scanUriEscapes (what : String) (start : Mark) : ScanM String := do
  let at_ := (← get).mark
  let codes ← go [] (← loopFuel)
  match Text.decodeUtf8 codes with
  | .ok text => pure text
  | .error e =>
    throw (.marked ⟨some ("while scanning a " ++ what), some start, e.message, some at_⟩)
where
  go (codes : List UInt8) : Nat → ScanM (List UInt8)
    | 0 => pure codes
    | fuel + 1 => do
      if (← get).peek != '%' then return codes
      advance
      let s ← get
      match (List.range 2).find? (fun k => !isHexChar (s.peek k)) with
      | some k =>
        scanError (some ("while scanning a " ++ what)) (some start)
          ("expected URI escape sequence of 2 hexadecimal numbers, but found " ++
            charText (s.peek k))
      | none =>
        let code := hexText (s.ahead 2)
        advance 2
        go (codes ++ [code.toUInt8]) fuel

def scanTagUri (what : String) (start : Mark) : ScanM String := do
  let chunks ← go [] (← loopFuel)
  if chunks.isEmpty then
    let c := (← get).peek
    scanError (some ("while parsing a " ++ what)) (some start)
      ("expected URI, but found " ++ charText c)
  else pure (String.join chunks)
where
  go (chunks : List String) : Nat → ScanM (List String)
    | 0 => pure chunks
    | fuel + 1 => do
      let run ← takeSpan fun c => isUriChar c && c != '%'
      let chunks := if run.isEmpty then chunks else chunks ++ [run]
      if (← get).peek == '%' then
        let text ← scanUriEscapes what start
        go (chunks ++ [text]) fuel
      else pure chunks

def scanTag : ScanM Token := do
  let s ← get
  let start := s.mark
  let ch := s.peek 1
  let (handle, suffix) ← do
    if ch == '<' then
      advance 2
      let suffix ← scanTagUri "tag" start
      let c := (← get).peek
      if c != '>' then
        scanError (some "while parsing a tag") (some start) ("expected '>', but found " ++ charText c)
      advance
      pure (none, suffix)
    else if isBlankOrEnd ch then
      advance
      pure (none, "!")
    else
      let n := s.spanAt (fun c => !(c == '!' || isSpaceOrEnd c)) 1
      let handle ← do
        if s.peek (n + 1) == '!' then scanTagHandle "tag" start
        else
          advance
          pure "!"
      let suffix ← scanTagUri "tag" start
      pure (some handle, suffix)
  let c := (← get).peek
  if !isSpaceOrEnd c then
    scanError (some "while scanning a tag") (some start) ("expected ' ', but found " ++ charText c)
  let stop := (← get).mark
  pure ⟨.tag handle suffix, start, stop⟩

def directiveError (start : Mark) (problem : String) : ScanM α :=
  scanError (some "while scanning a directive") (some start) problem

def scanDirectiveName (start : Mark) : ScanM String := do
  let s ← get
  let n := s.span isWordChar
  if n == 0 then
    directiveError start ("expected alphabetic or numeric character, but found " ++ charText (s.peek n))
  advance n
  let c := (← get).peek
  if !isSpaceOrEnd c then
    directiveError start ("expected alphabetic or numeric character, but found " ++ charText c)
  pure (s.ahead n)

def scanVersionNumber (start : Mark) : ScanM Nat := do
  let s ← get
  if !isDigitChar s.peek then
    directiveError start ("expected a digit, but found " ++ charText s.peek)
  let n := s.span isDigitChar
  advance n
  pure ((s.ahead n).toList.foldl (fun v c => 10 * v + (c.toNat - 48)) 0)

def scanVersion (start : Mark) : ScanM (Nat × Nat) := do
  skipSpaces
  let major ← scanVersionNumber start
  let c := (← get).peek
  if c != '.' then directiveError start ("expected a digit or '.', but found " ++ charText c)
  advance
  let minor ← scanVersionNumber start
  let c := (← get).peek
  if !isSpaceOrEnd c then directiveError start ("expected a digit or ' ', but found " ++ charText c)
  pure (major, minor)

def scanTagPair (start : Mark) : ScanM (String × String) := do
  skipSpaces
  let handle ← scanTagHandle "directive" start
  let c := (← get).peek
  if c != ' ' then directiveError start ("expected ' ', but found " ++ charText c)
  skipSpaces
  let uri ← scanTagUri "directive" start
  let c := (← get).peek
  if !isSpaceOrEnd c then directiveError start ("expected ' ', but found " ++ charText c)
  pure (handle, uri)

def scanDirective : ScanM Token := do
  let start := (← get).mark
  advance
  let name ← scanDirectiveName start
  let (kind, stop) ← do
    if name == "YAML" then
      let v ← scanVersion start
      pure (TokenKind.directive name (some v) none, (← get).mark)
    else if name == "TAG" then
      let p ← scanTagPair start
      pure (TokenKind.directive name none (some p), (← get).mark)
    else
      let stop := (← get).mark
      let _ ← takeSpan fun c => !isBreakOrEnd c
      pure (TokenKind.directive name none none, stop)
  skipSpaces
  skipComment
  let c := (← get).peek
  if !isBreakOrEnd c then
    directiveError start ("expected a comment or a line break, but found " ++ charText c)
  let _ ← scanLineBreak
  pure ⟨kind, start, stop⟩

end BuildGate.Yaml
