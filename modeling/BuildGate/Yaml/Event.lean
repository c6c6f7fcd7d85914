import BuildGate.Yaml.Token.Stream

namespace BuildGate.Yaml

/-- What an event is. -/
inductive EventKind where
  | streamStart
  | streamEnd
  | documentStart (explicit : Bool)
  | documentEnd (explicit : Bool)
  | alias (anchor : String)
  | scalar (anchor : Option String) (tag : Option String) (implicit : Bool × Bool)
      (value : String)
  | sequenceStart (anchor : Option String) (tag : Option String) (implicit : Bool)
  | sequenceEnd
  | mappingStart (anchor : Option String) (tag : Option String) (implicit : Bool)
  | mappingEnd
  deriving Repr, Inhabited

/-- An event with the marks of its first character and of the character after it. -/
structure Event where
  kind : EventKind
  start : Mark
  stop : Mark
  deriving Repr, Inhabited

def Event.anchor : Event → Option String
  | ⟨.alias a, _, _⟩ => some a
  | ⟨.scalar a .., _, _⟩ => a
  | ⟨.sequenceStart a .., _, _⟩ => a
  | ⟨.mappingStart a .., _, _⟩ => a
  | _ => none

/-- The states of the parser: what it expects next. -/
inductive ParseState where
  | streamStart
  | implicitDocumentStart
  | documentStart
  | documentEnd
  | documentContent
  | blockNode
  | blockSequenceFirstEntry
  | blockSequenceEntry
  | indentlessSequenceEntry
  | blockMappingFirstKey
  | blockMappingKey
  | blockMappingValue
  | flowSequenceFirstEntry
  | flowSequenceEntry
  | flowSequenceEntryMappingKey
  | flowSequenceEntryMappingValue
  | flowSequenceEntryMappingEnd
  | flowMappingFirstKey
  | flowMappingKey
  | flowMappingValue
  | flowMappingEmptyValue
  | finished
  deriving Repr, Inhabited, BEq

def defaultTagHandles : List (String × String) :=
  [("!", "!"), ("!!", "tag:yaml.org,2002:")]

/-- The state of the parser. -/
structure Parser where
  scanner : Scanner
  state : ParseState := .streamStart
  states : List ParseState := []
  marks : List Mark := []
  tagHandles : List (String × String) := []
  yamlVersion : Option (Nat × Nat) := none
  current : Option Event := none
  deriving Inhabited

/-- Parsing steps. -/
abbrev ParseM := StateT Parser (Except YamlError)

def onScanner (m : ScanM α) : ParseM α := do
  let p ← get
  match m.run p.scanner with
  | .ok (a, s) =>
    set { p with scanner := s }
    pure a
  | .error e => throw e

def nextToken : ParseM Token := do
  match ← onScanner peekToken with
  | some t => pure t
  | none =>
    let m := (← get).scanner.mark
    pure ⟨.streamEnd, m, m⟩

def takeNext : ParseM Token := do
  match ← onScanner takeToken with
  | some t => pure t
  | none =>
    let m := (← get).scanner.mark
    pure ⟨.streamEnd, m, m⟩

def nextIs (cs : List TokenClass) : ParseM Bool := do
  match ← onScanner peekToken with
  | some t => pure (cs.contains t.kind.cls)
  | none => pure false

def tokenText (t : Token) : String := Text.quote t.kind.name

def parseError (context : Option String) (contextMark : Option Mark) (problem : String)
    (problemMark : Mark) : ParseM α :=
  throw (.marked ⟨context, contextMark, problem, some problemMark⟩)

def popState : ParseM Unit :=
  modify fun p => match p.states with
    | s :: rest => { p with state := s, states := rest }
    | [] => { p with state := .finished }

def pushState (s : ParseState) : ParseM Unit :=
  modify fun p => { p with states := s :: p.states }

def goTo (s : ParseState) : ParseM Unit := modify fun p => { p with state := s }

def popMark : ParseM Unit := modify fun p => { p with marks := p.marks.drop 1 }

def topMark : ParseM Mark := do
  pure ((← get).marks.headD ⟨0, 0, 0⟩)

def emptyScalar (m : Mark) : Event := ⟨.scalar none none (true, false) "", m, m⟩

def processDirectives : ParseM Unit := do
  modify fun p => { p with yamlVersion := none, tagHandles := [] }
  go ((← get).scanner.buf.size + 1)
  modify fun p => { p with
    tagHandles := p.tagHandles ++ defaultTagHandles.filter (fun h => (p.tagHandles.lookup h.1).isNone) }
where
  go : Nat → ParseM Unit
    | 0 => pure ()
    | fuel + 1 => do
      if !(← nextIs [.directive]) then return
      let t ← takeNext
      match t.kind with
      | .directive "YAML" (some (major, minor)) _ =>
        if (← get).yamlVersion.isSome then
          parseError none none "found duplicate YAML directive" t.start
        if major != 1 then
          parseError none none "found incompatible YAML document (version 1.* is required)" t.start
        modify fun p => { p with yamlVersion := some (major, minor) }
      | .directive "TAG" _ (some (handle, uri)) =>
        if ((← get).tagHandles.lookup handle).isSome then
          parseError none none ("duplicate tag handle " ++ Text.quote handle) t.start
        modify fun p => { p with tagHandles := p.tagHandles ++ [(handle, uri)] }
      | _ => pure ()
      go fuel

def parseNode (block indentless : Bool) : ParseM Event := do
  if ← nextIs [.alias] then
    let t ← takeNext
    popState
    match t.kind with
    | .alias name => return ⟨.alias name, t.start, t.stop⟩
    | _ => return ⟨.alias "", t.start, t.stop⟩
  let mut anchor : Option String := none
  let mut tag : Option (Option String × String) := none
  let mut startAt : Option Mark := none
  let mut stopAt : Option Mark := none
  let mut tagMark : Option Mark := none
  if ← nextIs [.anchor] then
    let t ← takeNext
    startAt := some t.start
    stopAt := some t.stop
    if let .anchor name := t.kind then anchor := some name
    if ← nextIs [.tag] then
      let t ← takeNext
      tagMark := some t.start
      stopAt := some t.stop
      if let .tag h s := t.kind then tag := some (h, s)
  else if ← nextIs [.tag] then
    let t ← takeNext
    startAt := some t.start
    tagMark := some t.start
    stopAt := some t.stop
    if let .tag h s := t.kind then tag := some (h, s)
    if ← nextIs [.anchor] then
      let t ← takeNext
      stopAt := some t.stop
      if let .anchor name := t.kind then anchor := some name
  let mut fullTag : Option String := none
  if let some (handle, suffix) := tag then
    match handle with
    | some h =>
      match (← get).tagHandles.lookup h with
      | some uri => fullTag := some (uri ++ suffix)
      | none =>
        parseError (some "while parsing a node") startAt ("found undefined tag handle " ++ Text.quote h)
          (tagMark.getD ⟨0, 0, 0⟩)
    | none => fullTag := some suffix
  let next ← nextToken
  let start := startAt.getD next.start
  let stop := stopAt.getD next.start
  let implicit := fullTag.isNone || fullTag == some "!"
  if indentless && (← nextIs [.blockEntry]) then
    goTo .indentlessSequenceEntry
    return ⟨.sequenceStart anchor fullTag implicit, start, next.stop⟩
  match next.kind with
  | .scalar value isPlain _ =>
    let t ← takeNext
    let imp :=
      if (isPlain && fullTag.isNone) || fullTag == some "!" then (true, false)
      else if fullTag.isNone then (false, true) else (false, false)
    popState
    return ⟨.scalar anchor fullTag imp value, start, t.stop⟩
  | .flowSequenceStart =>
    goTo .flowSequenceFirstEntry
    return ⟨.sequenceStart anchor fullTag implicit, start, next.stop⟩
  | .flowMappingStart =>
    goTo .flowMappingFirstKey
    return ⟨.mappingStart anchor fullTag implicit, start, next.stop⟩
  | .blockSequenceStart =>
    if block then
      goTo .blockSequenceFirstEntry
      return ⟨.sequenceStart anchor fullTag implicit, start, next.start⟩
  | .blockMappingStart =>
    if block then
      goTo .blockMappingFirstKey
      return ⟨.mappingStart anchor fullTag implicit, start, next.start⟩
  | _ => pure ()
  if anchor.isSome || fullTag.isSome then
    popState
    return ⟨.scalar anchor fullTag (implicit, false) "", start, stop⟩
  parseError (some ("while parsing a " ++ (if block then "block" else "flow") ++ " node"))
    (some start) ("expected the node content, but found " ++ tokenText next) next.start

def parseEvent : ParseM Event := do
  match (← get).state with
  | .streamStart =>
    let t ← takeNext
    goTo .implicitDocumentStart
    pure ⟨.streamStart, t.start, t.stop⟩
  | .implicitDocumentStart =>
    if !(← nextIs [.directive, .documentStart, .streamEnd]) then
      modify fun p => { p with tagHandles := defaultTagHandles }
      let t ← nextToken
      pushState .documentEnd
      goTo .blockNode
      pure ⟨.documentStart false, t.start, t.start⟩
    else documentStart
  | .documentStart => documentStart
  | .documentEnd =>
    let t ← nextToken
    goTo .documentStart
    if ← nextIs [.documentEnd] then
      let e ← takeNext
      pure ⟨.documentEnd true, t.start, e.stop⟩
    else pure ⟨.documentEnd false, t.start, t.start⟩
  | .documentContent =>
    if ← nextIs [.directive, .documentStart, .documentEnd, .streamEnd] then
      let t ← nextToken
      popState
      pure (emptyScalar t.start)
    else parseNode true false
  | .blockNode => parseNode true false
  | .blockSequenceFirstEntry =>
    let t ← takeNext
    modify fun p => { p with marks := t.start :: p.marks }
    blockSequenceEntry
  | .blockSequenceEntry => blockSequenceEntry
  | .indentlessSequenceEntry =>
    if ← nextIs [.blockEntry] then
      let t ← takeNext
      if !(← nextIs [.blockEntry, .key, .value, .blockEnd]) then
        pushState .indentlessSequenceEntry
        parseNode true false
      else
        goTo .indentlessSequenceEntry
        pure (emptyScalar t.stop)
    else
      let t ← nextToken
      popState
      pure ⟨.sequenceEnd, t.start, t.start⟩
  | .blockMappingFirstKey =>
    let t ← takeNext
    modify fun p => { p with marks := t.start :: p.marks }
    blockMappingKey
  | .blockMappingKey => blockMappingKey
  | .blockMappingValue =>
    if ← nextIs [.value] then
      let t ← takeNext
      if !(← nextIs [.key, .value, .blockEnd]) then
        pushState .blockMappingKey
        parseNode true true
      else
        goTo .blockMappingKey
        pure (emptyScalar t.stop)
    else
      goTo .blockMappingKey
      pure (emptyScalar (← nextToken).start)
  | .flowSequenceFirstEntry =>
    let t ← takeNext
    modify fun p => { p with marks := t.start :: p.marks }
    flowSequenceEntry true
  | .flowSequenceEntry => flowSequenceEntry false
  | .flowSequenceEntryMappingKey =>
    let t ← takeNext
    if !(← nextIs [.value, .flowEntry, .flowSequenceEnd]) then
      pushState .flowSequenceEntryMappingValue
      parseNode false false
    else
      goTo .flowSequenceEntryMappingValue
      pure (emptyScalar t.stop)
  | .flowSequenceEntryMappingValue =>
    if ← nextIs [.value] then
      let t ← takeNext
      if !(← nextIs [.flowEntry, .flowSequenceEnd]) then
        pushState .flowSequenceEntryMappingEnd
        parseNode false false
      else
        goTo .flowSequenceEntryMappingEnd
        pure (emptyScalar t.stop)
    else
      goTo .flowSequenceEntryMappingEnd
      pure (emptyScalar (← nextToken).start)
  | .flowSequenceEntryMappingEnd =>
    goTo .flowSequenceEntry
    let t ← nextToken
    pure ⟨.mappingEnd, t.start, t.start⟩
  | .flowMappingFirstKey =>
    let t ← takeNext
    modify fun p => { p with marks := t.start :: p.marks }
    flowMappingKey true
  | .flowMappingKey => flowMappingKey false
  | .flowMappingValue =>
    if ← nextIs [.value] then
      let t ← takeNext
      if !(← nextIs [.flowEntry, .flowMappingEnd]) then
        pushState .flowMappingKey
        parseNode false false
      else
        goTo .flowMappingKey
        pure (emptyScalar t.stop)
    else
      goTo .flowMappingKey
      pure (emptyScalar (← nextToken).start)
  | .flowMappingEmptyValue =>
    goTo .flowMappingKey
    pure (emptyScalar (← nextToken).start)
  | .finished =>
    let t ← nextToken
    pure ⟨.streamEnd, t.start, t.stop⟩
where
  documentStart : ParseM Event := do
    let _ ← skipEnds ((← get).scanner.buf.size + 1)
    if !(← nextIs [.streamEnd]) then
      let start := (← nextToken).start
      processDirectives
      if !(← nextIs [.documentStart]) then
        let t ← nextToken
        parseError none none ("expected '<document start>', but found " ++ tokenText t) t.start
      let t ← takeNext
      pushState .documentEnd
      goTo .documentContent
      pure ⟨.documentStart true, start, t.stop⟩
    else
      let t ← takeNext
      goTo .finished
      pure ⟨.streamEnd, t.start, t.stop⟩
  skipEnds : Nat → ParseM Unit
    | 0 => pure ()
    | fuel + 1 => do
      if ← nextIs [.documentEnd] then
        let _ ← takeNext
        skipEnds fuel
  blockSequenceEntry : ParseM Event := do
    if ← nextIs [.blockEntry] then
      let t ← takeNext
      if !(← nextIs [.blockEntry, .blockEnd]) then
        pushState .blockSequenceEntry
        parseNode true false
      else
        goTo .blockSequenceEntry
        pure (emptyScalar t.stop)
    else
      if !(← nextIs [.blockEnd]) then
        let t ← nextToken
        parseError (some "while parsing a block collection") (some (← topMark))
          ("expected <block end>, but found " ++ tokenText t) t.start
      let t ← takeNext
      popState
      popMark
      pure ⟨.sequenceEnd, t.start, t.stop⟩
  blockMappingKey : ParseM Event := do
    if ← nextIs [.key] then
      let t ← takeNext
      if !(← nextIs [.key, .value, .blockEnd]) then
        pushState .blockMappingValue
        parseNode true true
      else
        goTo .blockMappingValue
        pure (emptyScalar t.stop)
    else
      if !(← nextIs [.blockEnd]) then
        let t ← nextToken
        parseError (some "while parsing a block mapping") (some (← topMark))
          ("expected <block end>, but found " ++ tokenText t) t.start
      let t ← takeNext
      popState
      popMark
      pure ⟨.mappingEnd, t.start, t.stop⟩
  flowSequenceEntry (first : Bool) : ParseM Event := do
    if !(← nextIs [.flowSequenceEnd]) then
      if !first then
        if ← nextIs [.flowEntry] then
          let _ ← takeNext
        else
          let t ← nextToken
          parseError (some "while parsing a flow sequence") (some (← topMark))
            ("expected ',' or ']', but got " ++ tokenText t) t.start
      if ← nextIs [.key] then
        let t ← nextToken
        goTo .flowSequenceEntryMappingKey
        return ⟨.mappingStart none none true, t.start, t.stop⟩
      else if !(← nextIs [.flowSequenceEnd]) then
        pushState .flowSequenceEntry
        return ← parseNode false false
    let t ← takeNext
    popState
    popMark
    pure ⟨.sequenceEnd, t.start, t.stop⟩
  flowMappingKey (first : Bool) : ParseM Event := do
    if !(← nextIs [.flowMappingEnd]) then
      if !first then
        if ← nextIs [.flowEntry] then
          let _ ← takeNext
        else
          let t ← nextToken
          parseError (some "while parsing a flow mapping") (some (← topMark))
            ("expected ',' or '\x7d', but got " ++ tokenText t) t.start
      if ← nextIs [.key] then
        let t ← takeNext
        if !(← nextIs [.value, .flowEntry, .flowMappingEnd]) then
          pushState .flowMappingValue
          return ← parseNode false false
        else
          goTo .flowMappingValue
          return emptyScalar t.stop
      else if !(← nextIs [.flowMappingEnd]) then
        pushState .flowMappingEmptyValue
        return ← parseNode false false
    let t ← takeNext
    popState
    popMark
    pure ⟨.mappingEnd, t.start, t.stop⟩

def peekEvent : ParseM Event := do
  match (← get).current with
  | some e => pure e
  | none =>
    let e ← parseEvent
    modify fun p => { p with current := some e }
    pure e

def takeEvent : ParseM Event := do
  let e ← peekEvent
  modify fun p => { p with current := none }
  pure e

end BuildGate.Yaml
