import BuildGate.Shell.Lex

namespace BuildGate.Shell

/-- Tokens still to parse, each with its line. -/
abbrev Tokens := List (Token × Nat)

/-- A parse: a value, or the error message and its line. -/
abbrev Parsed := Except (String × Nat)

def peekTok (ts : Tokens) : Token × Nat := ts.headD (.eof, 0)

def skipNewlines : Tokens → Tokens
  | (.newline, _) :: rest => skipNewlines rest
  | ts => ts

def Token.isWord (t : Token) (kw : String) : Bool :=
  match t with
  | .word w => w.isText kw
  | _ => false

def Token.endsList (t : Token) : Bool :=
  match t with
  | .word w => ["then", "else", "elif", "fi", "do", "done", "esac", "\x7d"].any w.isText
  | .op s => s == ")" || s == ";;"
  | .eof => true
  | _ => false

def unexpectedAs (keywords : Bool) (t : Token × Nat) (expecting : Option String) :
    Except (String × Nat) α :=
  match t.1 with
  | .bad m => .error ("Syntax error: " ++ m, t.2)
  | tok =>
    let found := tok.named keywords ++ " unexpected"
    .error ("Syntax error: " ++ (match expecting with
      | some e => found ++ " (expecting " ++ e ++ ")"
      | none => found), t.2)

def unexpected (t : Token × Nat) (expecting : Option String := none) : Except (String × Nat) α :=
  unexpectedAs true t expecting

def expectWord (kw : String) (ts : Tokens) : Except (String × Nat) Tokens :=
  if (peekTok ts).1.isWord kw then .ok ts.tail
  else unexpected (peekTok ts) (some ("\"" ++ kw ++ "\""))

def assignment? (w : Word) : Option (String × Word) :=
  match w with
  | .text s false :: rest =>
    match s.splitOn "=" with
    | name :: _ :: _ =>
      if isName name then
        let value := String.ofList (s.toList.drop (name.length + 1))
        some (name, (if value.isEmpty then [] else [.text value false]) ++ rest)
      else none
    | _ => none
  | _ => none

def redirOf (fd : Option Nat) (op : String) : Option (Nat × RedirOp) :=
  match op with
  | ">" => some (fd.getD 1, .write)
  | ">|" => some (fd.getD 1, .clobber)
  | ">>" => some (fd.getD 1, .append)
  | "<" => some (fd.getD 0, .read)
  | "<>" => some (fd.getD 0, .readWrite)
  | ">&" => some (fd.getD 1, .dup)
  | "<&" => some (fd.getD 0, .dup)
  | _ => none

def parseRedir (fd : Option Nat) (op : String) (ts : Tokens) : Parsed (Redir × Tokens) :=
  match redirOf fd op with
  | none => unexpected (peekTok ts)
  | some (n, kind) =>
    match ts with
    | (.word w, _) :: rest => .ok (⟨n, kind, w⟩, rest)
    | _ => unexpected (peekTok ts)

def parseRedirs : Nat → Tokens → Parsed (List Redir × Tokens)
  | 0, ts => .ok ([], ts)
  | fuel + 1, ts =>
    match ts with
    | (.redir fd op, _) :: rest => do
      let (r, ts) ← parseRedir fd op rest
      let (rs, ts) ← parseRedirs fuel ts
      pure (r :: rs, ts)
    | (.heredoc fd body, _) :: rest => do
      let (rs, ts) ← parseRedirs fuel rest
      pure (⟨fd.getD 0, .document, body⟩ :: rs, ts)
    | _ => .ok ([], ts)

def parseSimple : Nat → Nat → List (String × Word) → List Word → List Redir → Tokens →
    Parsed (Command × Tokens)
  | 0, line, assigns, words, redirs, ts => .ok (.simple assigns words redirs line, ts)
  | fuel + 1, line, assigns, words, redirs, ts =>
    match ts with
    | (.word w, _) :: rest =>
      match words.isEmpty, assignment? w with
      | true, some a => parseSimple fuel line (assigns ++ [a]) words redirs rest
      | _, _ => parseSimple fuel line assigns (words ++ [w]) redirs rest
    | (.redir fd op, _) :: rest => do
      let (r, ts) ← parseRedir fd op rest
      parseSimple fuel line assigns words (redirs ++ [r]) ts
    | (.heredoc fd body, _) :: rest =>
      parseSimple fuel line assigns words (redirs ++ [⟨fd.getD 0, .document, body⟩]) rest
    | _ =>
      if assigns.isEmpty && words.isEmpty && redirs.isEmpty then unexpected (peekTok ts)
      else .ok (.simple assigns words redirs line, ts)

def seqOf : List Command → Command
  | [c] => c
  | cs => .seq cs

def forWords : Nat → List Word → Tokens → Parsed (List Word × Tokens)
  | 0, acc, ts => .ok (acc, ts)
  | fuel + 1, acc, ts =>
    match ts with
    | (.word w, _) :: rest => forWords fuel (acc ++ [w]) rest
    | (.op ";", _) :: rest => .ok (acc, rest)
    | (.newline, _) :: rest => .ok (acc, rest)
    | _ => unexpected (peekTok ts)

def casePatterns : Nat → Word → List Word → Tokens → Parsed (List Word × Tokens)
  | 0, _, acc, ts => .ok (acc, ts)
  | fuel + 1, last, acc, ts =>
    let (w, rest) : Word × Tokens := match ts with
      | (.word w, _) :: rest => (w, rest)
      | (.eof, _) :: _ => (last, ts)
      | (.bad _, _) :: _ => (last, ts)
      | _ :: rest => (last, rest)
      | [] => (last, [])
    match rest with
    | (.op "|", _) :: more => casePatterns fuel w (acc ++ [w]) more
    | (.op ")", _) :: more => .ok (acc ++ [w], more)
    | _ => unexpectedAs false (peekTok rest) (some "\")\"")

def withRedirs (c : Command) : List Redir → Command
  | [] => c
  | rs => .group c rs

mutual

def parseBody : Nat → List Command → Tokens → Parsed (Command × Tokens)
  | 0, acc, ts => .ok (seqOf acc, ts)
  | fuel + 1, acc, ts => do
    let ts := skipNewlines ts
    let t := (peekTok ts).1
    if (match t with | .eof => true | _ => false) || (!acc.isEmpty && t.endsList) then
      .ok (seqOf acc, ts)
    else
      let (c, ts) ← parseAndOr fuel ts
      match ts with
      | (.op ";", _) :: rest => parseBody fuel (acc ++ [c]) rest
      | (.op "&", _) :: rest => parseBody fuel (acc ++ [.background c]) rest
      | (.newline, _) :: rest => parseBody fuel (acc ++ [c]) rest
      | _ => .ok (seqOf (acc ++ [c]), ts)

def parseAndOr : Nat → Tokens → Parsed (Command × Tokens)
  | 0, ts => unexpected (peekTok ts)
  | fuel + 1, ts => do
    let (p, ts) ← parsePipeline fuel ts
    andOrRest fuel p ts

def andOrRest : Nat → Command → Tokens → Parsed (Command × Tokens)
  | 0, c, ts => .ok (c, ts)
  | fuel + 1, c, ts =>
    match ts with
    | (.op "&&", _) :: rest => do
      let (p, ts) ← parsePipeline fuel (skipNewlines rest)
      andOrRest fuel (.andIf c p) ts
    | (.op "||", _) :: rest => do
      let (p, ts) ← parsePipeline fuel (skipNewlines rest)
      andOrRest fuel (.orIf c p) ts
    | _ => .ok (c, ts)

def parsePipeline : Nat → Tokens → Parsed (Command × Tokens)
  | 0, ts => unexpected (peekTok ts)
  | fuel + 1, ts => do
    let (negate, ts) := if (peekTok ts).1.isWord "!" then (true, ts.tail) else (false, ts)
    let (c, ts) ← parseCommand fuel ts
    let (stages, ts) ← stagesRest fuel [c] ts
    match negate, stages with
    | false, [one] => pure (one, ts)
    | _, _ => pure (.pipeline negate stages, ts)

def stagesRest : Nat → List Command → Tokens → Parsed (List Command × Tokens)
  | 0, acc, ts => .ok (acc, ts)
  | fuel + 1, acc, ts =>
    match ts with
    | (.op "|", _) :: rest => do
      let (c, ts) ← parseCommand fuel (skipNewlines rest)
      stagesRest fuel (acc ++ [c]) ts
    | _ => .ok (acc, ts)

def parseCommand : Nat → Tokens → Parsed (Command × Tokens)
  | 0, ts => unexpected (peekTok ts)
  | fuel + 1, ts =>
    let (t, line) := peekTok ts
    if t.isWord "if" then do
      let (c, ts) ← parseIf fuel ts.tail
      let (rs, ts) ← parseRedirs fuel ts
      pure (withRedirs c rs, ts)
    else if t.isWord "while" || t.isWord "until" then do
      let (cond, ts) ← parseBody fuel [] ts.tail
      let ts ← expectWord "do" ts
      let (b, ts) ← parseBody fuel [] ts
      let ts ← expectWord "done" ts
      let (rs, ts) ← parseRedirs fuel ts
      pure (withRedirs (.loop (t.isWord "until") cond b) rs, ts)
    else if t.isWord "for" then
      match ts.tail with
      | (.word w, l) :: rest =>
        match w.plain? with
        | some name =>
          if !isName name then .error ("Syntax error: Bad for loop variable", l)
          else do
            let rest := skipNewlines rest
            let (items, ts) ←
              if (peekTok rest).1.isWord "in" then do
                let (ws, ts) ← forWords fuel [] rest.tail
                pure (some ws, ts)
              else
                match rest with
                | (.op ";", _) :: more => pure (none, more)
                | _ => pure (none, rest)
            let ts ← expectWord "do" (skipNewlines ts)
            let (b, ts) ← parseBody fuel [] ts
            let ts ← expectWord "done" ts
            let (rs, ts) ← parseRedirs fuel ts
            pure (withRedirs (.forIn name items b) rs, ts)
        | none => .error ("Syntax error: Bad for loop variable", l)
      | (_, l) :: _ => .error ("Syntax error: Bad for loop variable", l)
      | [] => .error ("Syntax error: Bad for loop variable", line)
    else if t.isWord "case" then
      match ts.tail with
      | (.word subject, _) :: rest => do
        let ts ← expectWord "in" (skipNewlines rest)
        let (arms, ts) ← parseArms fuel [.text "in" false] [] ts
        let (rs, ts) ← parseRedirs fuel ts
        pure (withRedirs (.caseOf subject arms) rs, ts)
      | _ => unexpectedAs false (peekTok ts.tail) (some "word")
    else if t.isWord "\x7b" then do
      let (b, ts) ← parseBody fuel [] ts.tail
      let ts ← expectWord "\x7d" ts
      let (rs, ts) ← parseRedirs fuel ts
      pure (.group b rs, ts)
    else
      match t with
      | .op "(" => do
        let (b, ts) ← parseBody fuel [] ts.tail
        match ts with
        | (.op ")", _) :: rest => do
          let (rs, ts) ← parseRedirs fuel rest
          pure (.subshell b rs, ts)
        | _ => unexpected (peekTok ts) (some "\")\"")
      | .word w =>
        if ["then", "else", "elif", "fi", "do", "done", "\x7d", "in", "esac", "!"].any w.isText
        then unexpected (t, line)
        else
          match ts.tail, assignment? w with
          | (.op "(", _) :: more, none =>
            match more with
            | (.op ")", _) :: more =>
              match w.plain? with
              | some name =>
                if isName name && !specialBuiltins.contains name then do
                  let (body, ts) ← parseCommand fuel (skipNewlines more)
                  pure (.funcDef name body, ts)
                else .error ("Syntax error: Bad function name", line)
              | none => .error ("Syntax error: Bad function name", line)
            | _ => unexpected (peekTok more) (some "\")\"")
          | _, _ => parseSimple (ts.length + 1) line [] [] [] ts
      | .redir _ _ => parseSimple (ts.length + 1) line [] [] [] ts
      | .heredoc _ _ => parseSimple (ts.length + 1) line [] [] [] ts
      | _ => unexpected (t, line)

def parseArms : Nat → Word → List (List Word × Option Command) → Tokens →
    Parsed (List (List Word × Option Command) × Tokens)
  | 0, _, acc, ts => .ok (acc, ts)
  | fuel + 1, last, acc, ts =>
    let ts := skipNewlines ts
    if (peekTok ts).1.isWord "esac" then .ok (acc, ts.tail)
    else do
      let ts := match ts with
        | (.op "(", _) :: more => more
        | _ => ts
      let (pats, ts) ← casePatterns (ts.length + 1) last [] ts
      let (body, ts) ←
        if (peekTok (skipNewlines ts)).1.endsList then pure (none, skipNewlines ts)
        else do
          let (b, ts) ← parseBody fuel [] ts
          pure (some b, ts)
      let ts := skipNewlines ts
      match ts with
      | (.op ";;", _) :: more => parseArms fuel (pats.getLastD last) (acc ++ [(pats, body)]) more
      | _ =>
        if (peekTok ts).1.isWord "esac" then .ok (acc ++ [(pats, body)], ts.tail)
        else unexpected (peekTok ts) (some "\";;\"")

def parseIf : Nat → Tokens → Parsed (Command × Tokens)
  | 0, ts => unexpected (peekTok ts)
  | fuel + 1, ts => do
    let (cond, ts) ← parseBody fuel [] ts
    let ts ← expectWord "then" ts
    let (yes, ts) ← parseBody fuel [] ts
    let (t, _) := peekTok ts
    if t.isWord "elif" then do
      let (no, ts) ← parseIf fuel ts.tail
      pure (.ifThen cond yes (some no), ts)
    else if t.isWord "else" then do
      let (no, ts) ← parseBody fuel [] ts.tail
      let ts ← expectWord "fi" ts
      pure (.ifThen cond yes (some no), ts)
    else do
      let ts ← expectWord "fi" ts
      pure (.ifThen cond yes none, ts)

end

def parseLine : Nat → List Command → Tokens → Parsed (Command × Tokens)
  | 0, acc, ts => .ok (seqOf acc, ts)
  | fuel + 1, acc, ts => do
    -- every token read passes through a bounded number of levels of the grammar
    let (c, ts) ← parseAndOr (8 * ts.length + 8) ts
    let next (c : Command) (rest : Tokens) : Parsed (Command × Tokens) :=
      match rest with
      | (.newline, _) :: more => .ok (seqOf (acc ++ [c]), more)
      | (.eof, _) :: _ => .ok (seqOf (acc ++ [c]), rest)
      | [] => .ok (seqOf (acc ++ [c]), rest)
      | _ => parseLine fuel (acc ++ [c]) rest
    match ts with
    | (.op ";", _) :: rest => next c rest
    | (.op "&", _) :: rest => next (.background c) rest
    | (.newline, _) :: rest => .ok (seqOf (acc ++ [c]), rest)
    | (.eof, _) :: _ => .ok (seqOf (acc ++ [c]), ts)
    | [] => .ok (seqOf (acc ++ [c]), ts)
    | _ => unexpected (peekTok ts)

def chunksOf : Nat → Tokens → List Chunk
  | 0, _ => []
  | fuel + 1, ts =>
    match skipNewlines ts with
    | [] => []
    | (.eof, _) :: _ => []
    | (.bad m, l) :: _ => [.bad l ("Syntax error: " ++ m)]
    | ts =>
      match parseLine (ts.length + 1) [] ts with
      | .error (m, l) => [.bad l m]
      | .ok (c, rest) => .run c :: chunksOf fuel rest

def parseScript (script : String) : List Chunk :=
  let ts := tokens script
  chunksOf (ts.length + 1) ts

end BuildGate.Shell
