import BuildGate.Shell.Syntax

namespace BuildGate.Shell

/-- A token of a script. -/
inductive Token where
  | word (w : Word)
  | op (s : String)
  | redir (fd : Option Nat) (op : String)
  | heredoc (fd : Option Nat) (body : Word)
  | newline
  | eof
  | bad (message : String)
  deriving Repr, Inhabited

def reservedWords : List String :=
  ["!", "case", "do", "done", "elif", "else", "esac", "fi", "for", "if", "in", "then", "until",
   "while", "\x7b", "\x7d"]

/-- How a syntax error names a token: an operator, or a reserved word where reserved words are
recognised (`keywords`), in double quotes; any other word as `word`; a redirection as
`redirection`. -/
def Token.named (keywords : Bool) : Token → String
  | .word w =>
    match reservedWords.find? w.isText with
    | some kw => if keywords then "\"" ++ kw ++ "\"" else "word"
    | none => "word"
  | .op s => "\"" ++ s ++ "\""
  | .redir _ _ => "redirection"
  | .heredoc _ _ => "redirection"
  | .newline => "newline"
  | .eof => "end of file"
  | .bad m => m

def isNameStart (c : Char) : Bool := c.isAlpha || c == '_'

def isNameChar (c : Char) : Bool := c.isAlphanum || c == '_'

def isName (s : String) : Bool :=
  match s.toList with
  | c :: rest => isNameStart c && rest.all isNameChar
  | [] => false

def isMeta (c : Char) : Bool :=
  c == ' ' || c == '\t' || c == '\n' || c == ';' || c == '&' || c == '|' || c == '<' ||
    c == '>' || c == '(' || c == ')'

def isSpecialParam (c : Char) : Bool :=
  c == '@' || c == '*' || c == '#' || c == '?' || c == '$' || c == '!' || c == '-'

def addText (w : Word) (s : String) (quoted : Bool) : Word :=
  match w.getLast? with
  | some (.text t q) =>
    if q == quoted then w.dropLast ++ [.text (t ++ s) q]
    else if s.isEmpty && !quoted then w else w ++ [.text s quoted]
  | _ => if s.isEmpty && !quoted then w else w ++ [.text s quoted]

def newlines (cs : List Char) : Nat := (cs.filter (· == '\n')).length

def quoteSpan (close : Char) : Nat → List Char → List Char → Option (List Char × List Char)
  | 0, _, _ => none
  | _ + 1, _, [] => none
  | fuel + 1, acc, c :: rest =>
    if c == close then some (acc.reverse, rest)
    else if c == '\\' then
      match rest with
      | d :: more => quoteSpan close fuel (d :: c :: acc) more
      | [] => none
    else quoteSpan close fuel (c :: acc) rest

def keywordAt (word : String) (cs : List Char) : Bool :=
  word.toList.isPrefixOf cs &&
    match cs.drop word.length with
    | [] => true
    | d :: _ => isMeta d

def bracketSpan (close : Char) :
    Nat → Nat → Nat → Bool → List Char → List Char →
      Except (Option String) (List Char × List Char)
  | 0, _, _, _, _, _ => .error none
  | _ + 1, _, _, _, _, [] => .error none
  | fuel + 1, depth, cases, start, acc, c :: rest =>
    let commands := close == ')'
    if c == close && !(commands && depth == 0 && cases > 0) then
      if depth == 0 then .ok (acc.reverse, rest)
      else bracketSpan close fuel (depth - 1) cases commands (c :: acc) rest
    else if commands && c == '(' then bracketSpan close fuel (depth + 1) cases true (c :: acc) rest
    else if !commands && c == '$' && rest.head? == some '\x7b' then
      bracketSpan close fuel (depth + 1) cases false ('\x7b' :: c :: acc) rest.tail
    else if c == '\\' then
      match rest with
      | d :: more => bracketSpan close fuel depth cases false (d :: c :: acc) more
      | [] => bracketSpan close fuel depth cases false (c :: acc) rest
    else if c == '\'' then
      let inside := rest.takeWhile (· != '\'')
      match rest.drop inside.length with
      | q :: more =>
        bracketSpan close fuel depth cases false (q :: (inside.reverse ++ c :: acc)) more
      | [] => .error (some "Unterminated quoted string")
    else if c == '"' || c == '`' then
      match quoteSpan c (rest.length + 1) [] rest with
      | some (inside, more) =>
        bracketSpan close fuel depth cases false (c :: (inside.reverse ++ c :: acc)) more
      | none =>
        .error (some (if c == '"' then "Unterminated quoted string"
          else "EOF in backquote substitution"))
    else if commands && start && c == '#' then
      let comment := rest.takeWhile (· != '\n')
      bracketSpan close fuel depth cases false (comment.reverse ++ c :: acc)
        (rest.drop comment.length)
    else if commands && start && (keywordAt "case" (c :: rest) || keywordAt "esac" (c :: rest)) then
      let cases := if c == 'c' then cases + 1 else cases - 1
      bracketSpan close fuel depth cases false ((rest.take 3).reverse ++ c :: acc) (rest.drop 3)
    else bracketSpan close fuel depth cases (commands && isMeta c) (c :: acc) rest

def arithSpan : Nat → Nat → List Char → List Char → Option (List Char × List Char)
  | 0, _, _, _ => none
  | _ + 1, _, _, [] => none
  | fuel + 1, depth, acc, c :: rest =>
    if c == '(' then arithSpan fuel (depth + 1) (c :: acc) rest
    else if c == ')' then
      if depth > 0 then arithSpan fuel (depth - 1) (c :: acc) rest
      else
        match rest with
        | ')' :: more => some (acc.reverse, more)
        | _ => arithSpan fuel depth (c :: acc) rest
    else if c == '\\' then
      match rest with
      | d :: more => arithSpan fuel depth (d :: c :: acc) more
      | [] => arithSpan fuel depth (c :: acc) rest
    else arithSpan fuel depth (c :: acc) rest

def backquoteSpan : Nat → List Char → List Char → Option (List Char × List Char)
  | 0, _, _ => none
  | _ + 1, _, [] => none
  | fuel + 1, acc, c :: rest =>
    if c == '`' then some (acc.reverse, rest)
    else if c == '\\' then
      match rest with
      | d :: more =>
        if d == '$' || d == '`' || d == '\\' then backquoteSpan fuel (d :: acc) more
        else backquoteSpan fuel (d :: c :: acc) more
      | [] => backquoteSpan fuel (c :: acc) rest
    else backquoteSpan fuel (c :: acc) rest

/-- The ways a word's characters are read. -/
inductive Mode where
  | bare (stopAtMeta : Bool)
  | dquoted (closing : Bool)
  | braceWord
  | document
  deriving Repr, BEq, Inhabited

def Mode.quoted : Mode → Bool
  | .bare _ => false
  | .dquoted _ => true
  | .braceWord => true
  | .document => true

def isTrimOp (o : String) : Bool := o == "#" || o == "##" || o == "%" || o == "%%"

/-- What the inside of `${...}` holds. -/
inductive BraceForm where
  | plain (name : String)
  | length (name : String)
  | op (name : String) (o : String) (word : List Char)
  | bad
  deriving Repr, Inhabited

def leadName (cs : List Char) : Option (List Char) :=
  match cs with
  | c :: _ =>
    if isNameStart c then some (cs.takeWhile isNameChar)
    else if c.isDigit then some (cs.takeWhile Char.isDigit)
    else none
  | [] => none

def afterName (name : String) (tail : List Char) : BraceForm :=
  let plainOp (c : Char) := c == '-' || c == '=' || c == '+' || c == '?'
  match tail with
  | [] => .plain name
  | [':'] => .plain name
  | ':' :: c :: word => if plainOp c then .op name (String.ofList [':', c]) word else .bad
  | c :: rest =>
    if plainOp c then .op name c.toString rest
    else if c == '#' || c == '%' then
      match rest with
      | d :: more => if d == c then .op name (String.ofList [c, c]) more else .op name c.toString rest
      | [] => .op name c.toString []
    else .bad

def braceForm (inside : List Char) : BraceForm :=
  match leadName inside with
  | some name => afterName (String.ofList name) (inside.drop name.length)
  | none =>
    match inside with
    | [] => .bad
    | '#' :: rest =>
      match leadName rest with
      | some name => if name.length == rest.length then .length (String.ofList name) else .bad
      | none =>
        match rest with
        | [] => .plain "#"
        | [c] => if isSpecialParam c then .length c.toString else .bad
        | _ => afterName "#" rest
    | c :: rest => if isSpecialParam c then afterName c.toString rest else .bad

def dollar (recur : Mode → List Char → Word → Except String (Word × List Char × Nat)) (q : Bool)
    (more : Word → List Char → Nat → Except String (Word × List Char × Nat))
    (acc : Word) (rest : List Char) : Except String (Word × List Char × Nat) :=
  match rest with
  | '\x7b' :: after =>
    match bracketSpan '\x7d' (after.length + 1) 0 0 false [] after with
    | .error (some m) => .error m
    | .error none => .error (if q then "Unterminated quoted string" else "Missing '\x7d'")
    | .ok (inside, after') =>
      let lines := newlines inside
      match braceForm inside with
      | .plain name => more (acc ++ [.param name q]) after' lines
      | .length name => more (acc ++ [.length name q]) after' lines
      | .bad => more (acc ++ [.badSubst q]) after' lines
      | .op name o wordCs => do
        let innerMode : Mode := if q && !isTrimOp o then .braceWord else .bare false
        let (w, _, _) ← recur innerMode wordCs []
        more (acc ++ [.paramOp name o w q]) after' lines
  | '(' :: '(' :: after =>
    match arithSpan (after.length + 1) 0 [] after with
    | none => .error "Missing '))'"
    | some (inside, after') => do
      let (w, _, _) ← recur (.dquoted false) inside []
      more (acc ++ [.arith w q]) after' (newlines inside)
  | '(' :: after =>
    match bracketSpan ')' (after.length + 1) 0 0 true [] after with
    | .error (some m) => .error m
    | .error none => .error "end of file unexpected (expecting \")\")"
    | .ok (inside, after') =>
      more (acc ++ [.subst (String.ofList inside) q]) after' (newlines inside)
  | c :: after =>
    if isNameStart c then
      let name := rest.takeWhile isNameChar
      more (acc ++ [.param (String.ofList name) q]) (rest.drop name.length) 0
    else if c.isDigit || isSpecialParam c then more (acc ++ [.param c.toString q]) after 0
    else more (addText acc "$" q) rest 0
  | [] => more (addText acc "$" q) [] 0

def backquote (q : Bool)
    (more : Word → List Char → Nat → Except String (Word × List Char × Nat))
    (acc : Word) (rest : List Char) : Except String (Word × List Char × Nat) :=
  match backquoteSpan (rest.length + 1) [] rest with
  | none => .error "EOF in backquote substitution"
  | some (inside, after) => more (acc ++ [.subst (String.ofList inside) q]) after (newlines inside)

def bareChar (recur : Mode → List Char → Word → Except String (Word × List Char × Nat))
    (more : Word → List Char → Nat → Except String (Word × List Char × Nat))
    (acc : Word) (c : Char) (rest : List Char) : Except String (Word × List Char × Nat) :=
  if c == '\\' then
    match rest with
    | '\n' :: after => more acc after 1
    | d :: after => more (addText acc d.toString true) after 0
    | [] => more (addText acc "\\" false) [] 0
  else if c == '\'' then
    let inside := rest.takeWhile (· != '\'')
    match rest.drop inside.length with
    | _ :: after => more (addText acc (String.ofList inside) true) after (newlines inside)
    | [] => .error "Unterminated quoted string"
  else if c == '"' then do
    let (w, after, n) ← recur (.dquoted true) rest []
    let w := if w.isEmpty then [.text "" true] else w
    let joined := w.foldl (fun a p =>
      match p with
      | .text s qq => addText a s qq
      | other => a ++ [other]) acc
    more joined after n
  else if c == '$' then dollar recur false more acc rest
  else if c == '`' then backquote false more acc rest
  else more (addText acc c.toString false) rest (if c == '\n' then 1 else 0)

def lexPieces : Nat → Mode → List Char → Word → Except String (Word × List Char × Nat)
  | 0, _, cs, acc => .ok (acc, cs, 0)
  | fuel + 1, mode, cs, acc =>
    let more (w : Word) (rest : List Char) (lines : Nat) :
        Except String (Word × List Char × Nat) := do
      let (w', after, n) ← lexPieces fuel mode rest w
      pure (w', after, lines + n)
    let recur (m : Mode) (rest : List Char) (w : Word) := lexPieces fuel m rest w
    let q := mode.quoted
    match mode, cs with
    | .bare _, [] => .ok (acc, [], 0)
    | .dquoted true, [] => .error "Unterminated quoted string"
    | .dquoted false, [] => .ok (acc, [], 0)
    | .dquoted true, '"' :: rest => .ok (acc, rest, 0)
    | .braceWord, [] => .ok (acc, [], 0)
    | .braceWord, '"' :: rest => more acc rest 0
    | .bare true, c :: rest =>
      if isMeta c then .ok (acc, c :: rest, 0)
      else bareChar recur more acc c rest
    | .bare false, c :: rest => bareChar recur more acc c rest
    | .dquoted _, '\\' :: d :: rest | .braceWord, '\\' :: d :: rest =>
      if d == '\n' then more acc rest 1
      else if d == '$' || d == '`' || d == '"' || d == '\\' then more (addText acc d.toString true) rest 0
      else more (addText acc "\\" true) (d :: rest) 0
    | .dquoted _, '$' :: rest | .braceWord, '$' :: rest => dollar recur q more acc rest
    | .dquoted _, '`' :: rest | .braceWord, '`' :: rest => backquote q more acc rest
    | .dquoted _, c :: rest | .braceWord, c :: rest => more (addText acc c.toString true) rest (if c == '\n' then 1 else 0)
    | .document, [] => .ok (acc, [], 0)
    | .document, '\\' :: d :: rest =>
      if d == '\n' then more acc rest 1
      else if d == '$' || d == '`' || d == '\\' then more (addText acc d.toString true) rest 0
      else more (addText acc "\\" true) (d :: rest) 0
    | .document, '$' :: rest => dollar recur true more acc rest
    | .document, '`' :: rest => backquote true more acc rest
    | .document, c :: rest => more (addText acc c.toString true) rest (if c == '\n' then 1 else 0)

def operators : List String := ["&&", "||", ";;", "&", "|", ";", "(", ")"]

def redirOperators : List String := ["<<-", "<<", "<&", "<>", "<", ">>", ">&", ">|", ">"]

def splitLine : Nat → List Char → List Char → List Char × List Char
  | 0, acc, cs => (acc.reverse, cs)
  | _ + 1, acc, [] => (acc.reverse, [])
  | fuel + 1, acc, c :: rest =>
    if c == '\n' then ((c :: acc).reverse, rest)
    else if c == '\\' then
      match rest with
      | d :: more => splitLine fuel (d :: c :: acc) more
      | [] => splitLine fuel (c :: acc) []
    else if c == '\'' || c == '"' then
      let inside := rest.takeWhile (· != c)
      match rest.drop inside.length with
      | q :: more => splitLine fuel (q :: inside.reverse ++ c :: acc) more
      | [] => ((inside.reverse ++ c :: acc).reverse, [])
    else splitLine fuel (c :: acc) rest

def documentLines : Nat → String → Bool → List Char → List String →
    List String × List Char × Nat
  | 0, _, _, cs, acc => (acc.reverse, cs, acc.length)
  | fuel + 1, delim, strip, cs, acc =>
    if cs.isEmpty then (acc.reverse, [], acc.length)
    else
      let line := cs.takeWhile (· != '\n')
      let after := cs.drop line.length
      let ending := if after.isEmpty then "" else "\n"
      let line := if strip then line.dropWhile (· == '\t') else line
      if String.ofList line == delim then (acc.reverse, after.drop 1, acc.length + 1)
      else documentLines fuel delim strip (after.drop 1) ((String.ofList line ++ ending) :: acc)

def delimiterOf (w : Word) : String × Bool :=
  (String.join (w.map fun
    | .text s _ => s
    | _ => "$"),
   w.any fun
    | .text _ q => q
    | _ => false)

/-- Reads a here-document after its operator (`<<`, or `<<-` with `strip`): its delimiter
word, then the lines after the current one up to the delimiter. The document's text is
expanded like double-quoted text unless the delimiter has quotes. The document, the
characters left (the rest of the line, then what follows the document) and the lines the
document took; nothing when no word follows. -/
def readDocument (strip : Bool) (cs : List Char) : Option (Word × List Char × Nat) :=
  let cs := cs.dropWhile fun c => c == ' ' || c == '\t'
  match lexPieces (cs.length + 1) (.bare true) cs [] with
  | .ok (w, rest, _) =>
    if w.isEmpty then none
    else
      let (delim, quoted) := delimiterOf w
      let (line, after) := splitLine (rest.length + 1) [] rest
      let (lines, after, taken) := documentLines (after.length + 1) delim strip after []
      let text := String.join lines
      let body : Word :=
        if quoted || text.isEmpty then [.text text true]
        else
          match lexPieces (text.length + 1) .document text.toList [] with
          | .ok (b, _, _) => b
          | .error _ => [.text text true]
      some (body, line ++ after, taken)
  | .error _ => none

def tokenize : Nat → List Char → Nat → Nat → List (Token × Nat)
  | 0, _, line, _ => [(.eof, line)]
  | fuel + 1, cs, line, pending =>
    let redirection (fd : Option Nat) (o : String) (rest : List Char) : List (Token × Nat) :=
      if o == "<<" || o == "<<-" then
        match readDocument (o == "<<-") rest with
        | some (body, more, taken) =>
          (.heredoc fd body, line) :: tokenize fuel more line (pending + taken)
        | none => (.redir fd o, line) :: tokenize fuel rest line pending
      else (.redir fd o, line) :: tokenize fuel rest line pending
    match cs with
    | [] => [(.eof, line)]
    | ' ' :: rest => tokenize fuel rest line pending
    | '\t' :: rest => tokenize fuel rest line pending
    | '\\' :: '\n' :: rest => tokenize fuel rest (line + 1) pending
    | '#' :: rest => tokenize fuel (rest.dropWhile (· != '\n')) line pending
    | '\n' :: rest => (.newline, line) :: tokenize fuel rest (line + 1 + pending) 0
    | _ =>
      match operators.find? (fun o => o.toList.isPrefixOf cs) with
      | some o => (.op o, line) :: tokenize fuel (cs.drop o.length) line pending
      | none =>
        match redirOperators.find? (fun o => o.toList.isPrefixOf cs) with
        | some o => redirection none o (cs.drop o.length)
        | none =>
          let digits := cs.takeWhile Char.isDigit
          let after := cs.drop digits.length
          match redirOperators.find? (fun o => o.toList.isPrefixOf after), digits.length == 1 with
          | some o, true =>
            redirection (some ((String.ofList digits).toNat?.getD 0)) o (after.drop o.length)
          | _, _ =>
            match lexPieces (cs.length + 1) (.bare true) cs [] with
            | .error m => [(.bad m, line + newlines cs + pending)]
            | .ok (w, rest, n) =>
              if rest.length < cs.length then
                (.word w, line) :: tokenize fuel rest (line + n) pending
              else [(.bad "Syntax error", line)]

def tokens (script : String) : List (Token × Nat) :=
  tokenize (script.length + 1) script.toList 1 0

end BuildGate.Shell
