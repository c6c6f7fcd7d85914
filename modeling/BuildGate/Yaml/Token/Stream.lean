import BuildGate.Yaml.Token.Property

namespace BuildGate.Yaml

def pushIndicator (kind : TokenKind) (width : Nat := 1) : ScanM Unit := do
  let start := (← get).mark
  advance width
  let stop := (← get).mark
  pushToken ⟨kind, start, stop⟩

def insertToken (k : Nat) (t : Token) : ScanM Unit :=
  modify fun s => { s with tokens := s.tokens.take k ++ t :: s.tokens.drop k }

def allowKey (b : Bool) : ScanM Unit := modify fun s => { s with allowSimpleKey := b }

def scanToNextToken : ScanM Unit := do
  let s ← get
  if s.index == 0 && s.peek == '\ufeff' then advance
  go (← loopFuel)
where
  go : Nat → ScanM Unit
    | 0 => pure ()
    | fuel + 1 => do
      skipSpaces
      skipComment
      let b ← scanLineBreak
      if b.isEmpty then pure ()
      else
        if (← get).flowLevel == 0 then allowKey true
        go fuel

def fetchStreamEnd : ScanM Unit := do
  unwindIndent (-1)
  removePossibleSimpleKey
  modify fun s => { s with allowSimpleKey := false, simpleKeys := [] }
  let m := (← get).mark
  pushToken ⟨.streamEnd, m, m⟩
  modify fun s => { s with done := true }

def fetchDirective : ScanM Unit := do
  unwindIndent (-1)
  removePossibleSimpleKey
  allowKey false
  pushToken (← scanDirective)

def fetchDocumentIndicator (kind : TokenKind) : ScanM Unit := do
  unwindIndent (-1)
  removePossibleSimpleKey
  allowKey false
  pushIndicator kind 3

def fetchFlowStart (kind : TokenKind) : ScanM Unit := do
  savePossibleSimpleKey
  modify fun s => { s with flowLevel := s.flowLevel + 1, allowSimpleKey := true }
  pushIndicator kind

def fetchFlowEnd (kind : TokenKind) : ScanM Unit := do
  removePossibleSimpleKey
  modify fun s => { s with flowLevel := s.flowLevel - 1, allowSimpleKey := false }
  pushIndicator kind

def fetchFlowEntry : ScanM Unit := do
  allowKey true
  removePossibleSimpleKey
  pushIndicator .flowEntry

def openBlock (kind : TokenKind) : ScanM Unit := do
  if ← addIndent (← get).column then
    let m := (← get).mark
    pushToken ⟨kind, m, m⟩

def fetchBlockEntry : ScanM Unit := do
  let s ← get
  if s.flowLevel == 0 then
    if !s.allowSimpleKey then scanError none none "sequence entries are not allowed here"
    openBlock .blockSequenceStart
  allowKey true
  removePossibleSimpleKey
  pushIndicator .blockEntry

def fetchKey : ScanM Unit := do
  let s ← get
  if s.flowLevel == 0 then
    if !s.allowSimpleKey then scanError none none "mapping keys are not allowed here"
    openBlock .blockMappingStart
  allowKey ((← get).flowLevel == 0)
  removePossibleSimpleKey
  pushIndicator .key

def fetchValue : ScanM Unit := do
  let s ← get
  match s.simpleKeys.lookup s.flowLevel with
  | some key =>
    set { s with simpleKeys := s.simpleKeys.filter (·.1 != s.flowLevel) }
    let at_ := key.tokenNumber - s.tokensTaken
    insertToken at_ ⟨.key, key.mark, key.mark⟩
    if s.flowLevel == 0 then
      if ← addIndent key.column then
        insertToken at_ ⟨.blockMappingStart, key.mark, key.mark⟩
    allowKey false
  | none =>
    if s.flowLevel == 0 then
      if !s.allowSimpleKey then scanError none none "mapping values are not allowed here"
      openBlock .blockMappingStart
    allowKey ((← get).flowLevel == 0)
    removePossibleSimpleKey
  pushIndicator .value

def fetchKeyable (scan : ScanM Token) : ScanM Unit := do
  savePossibleSimpleKey
  allowKey false
  pushToken (← scan)

def fetchBlockScalar (folded : Bool) : ScanM Unit := do
  allowKey true
  removePossibleSimpleKey
  pushToken (← scanBlockScalar folded)

def startsPlain (s : Scanner) : Bool :=
  let ch := s.peek
  !(isBlankOrEnd ch || "-?:,[]\x7b\x7d#&*!|>'\"%@\x60".toList.contains ch) ||
    (!isBlankOrEnd (s.peek 1) && (ch == '-' || (s.flowLevel == 0 && (ch == '?' || ch == ':'))))

def fetchMoreTokens : ScanM Unit := do
  scanToNextToken
  stalePossibleSimpleKeys
  unwindIndent (← get).column
  let s ← get
  let ch := s.peek
  let flow := s.flowLevel != 0
  let blankNext := isBlankOrEnd (s.peek 1)
  if ch == '\x00' then fetchStreamEnd
  else if ch == '%' && s.column == 0 then fetchDirective
  else if ch == '-' && s.column == 0 && s.ahead 3 == "---" && isBlankOrEnd (s.peek 3) then
    fetchDocumentIndicator .documentStart
  else if ch == '.' && s.column == 0 && s.ahead 3 == "..." && isBlankOrEnd (s.peek 3) then
    fetchDocumentIndicator .documentEnd
  else if ch == '[' then fetchFlowStart .flowSequenceStart
  else if ch == '\x7b' then fetchFlowStart .flowMappingStart
  else if ch == ']' then fetchFlowEnd .flowSequenceEnd
  else if ch == '\x7d' then fetchFlowEnd .flowMappingEnd
  else if ch == ',' then fetchFlowEntry
  else if ch == '-' && blankNext then fetchBlockEntry
  else if ch == '?' && (flow || blankNext) then fetchKey
  else if ch == ':' && (flow || blankNext) then fetchValue
  else if ch == '*' then fetchKeyable (scanAnchor true)
  else if ch == '&' then fetchKeyable (scanAnchor false)
  else if ch == '!' then fetchKeyable scanTag
  else if ch == '|' && !flow then fetchBlockScalar false
  else if ch == '>' && !flow then fetchBlockScalar true
  else if ch == '\'' then fetchKeyable (scanQuoted false)
  else if ch == '"' then fetchKeyable (scanQuoted true)
  else if startsPlain s then fetchKeyable scanPlain
  else
    scanError (some "while scanning for the next token") none
      ("found character " ++ charText ch ++ " that cannot start any token")

def needMoreTokens : ScanM Bool := do
  let s ← get
  if s.done then return false
  if s.tokens.isEmpty then return true
  stalePossibleSimpleKeys
  let s ← get
  pure (nextPossibleSimpleKey s == some s.tokensTaken)

def fillTokens : ScanM Unit := do
  go ((← get).buf.size + 2)
where
  go : Nat → ScanM Unit
    | 0 => pure ()
    | fuel + 1 => do
      if ← needMoreTokens then
        fetchMoreTokens
        go fuel

def peekToken : ScanM (Option Token) := do
  fillTokens
  pure (← get).tokens.head?

def takeToken : ScanM (Option Token) := do
  fillTokens
  let s ← get
  match s.tokens with
  | t :: rest =>
    set { s with tokens := rest, tokensTaken := s.tokensTaken + 1 }
    pure (some t)
  | [] => pure none

end BuildGate.Yaml
