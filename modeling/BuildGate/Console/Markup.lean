import BuildGate.Text.CellWidth
import BuildGate.Console.Style
import BuildGate.Console.Emoji
import BuildGate.Console.TagValue
import BuildGate.Text.Literal

namespace BuildGate.Console

def tagStart (c : Char) : Bool := ('a' ≤ c && c ≤ 'z') || c == '#' || c == '/' || c == '@'

def tagAt : List Char → Option (List Char × List Char)
  | '[' :: c :: rest =>
    if tagStart c then
      let body := rest.takeWhile fun d => d != ']' && d != '['
      match rest.drop body.length with
      | ']' :: after => some ('[' :: c :: body ++ [']'], after)
      | _ => none
    else none
  | _ => none

/-- A piece of markup: text, or a tag's inside (between the brackets) with its position. -/
inductive Piece where
  | text (cs : List Char)
  | tag (inside : List Char) (pos : Nat)
  deriving Repr, BEq

def piecesFrom (pos : Nat) (acc : List Char) : Nat → List Char → List Piece
  | 0, _ => [.text acc]
  | _, [] => if acc.isEmpty then [] else [.text acc]
  | fuel + 1, cs@(c :: rest) =>
    let slashes := cs.takeWhile (· == '\\')
    let after := cs.drop slashes.length
    match tagAt after with
    | some (tag, next) =>
      let k := slashes.length
      let literal := List.replicate (k / 2) '\\'
      let flushed := if acc.isEmpty then [] else [Piece.text acc]
      let here := pos + acc.length
      let pos' := here + slashes.length + tag.length
      if k % 2 == 1 then
        let texts := (if literal.isEmpty then [] else [Piece.text literal]) ++ [Piece.text tag]
        flushed ++ texts ++ piecesFrom pos' [] fuel next
      else
        let texts := if literal.isEmpty then [] else [Piece.text literal]
        flushed ++ texts ++ [Piece.tag ((tag.drop 1).dropLast) (here + k)] ++
          piecesFrom pos' [] fuel next
    | none =>
      if slashes.isEmpty then piecesFrom pos (acc ++ [c]) fuel rest
      else piecesFrom pos (acc ++ slashes) fuel after

def pieces (s : String) : List Piece := piecesFrom 0 [] (s.length + 1) s.toList

def unescapeBrackets : List Char → List Char
  | '\\' :: '[' :: rest => '[' :: unescapeBrackets rest
  | c :: rest => c :: unescapeBrackets rest
  | [] => []

def tagName (cs : List Char) : String := styleName (String.ofList cs)

/-- Why markup is refused. -/
inductive MarkupError where
  | unmatched (tag : String) (pos : Nat)
  | nothingToClose (pos : Nat)
  | badHandler (params : String)
  deriving Repr, BEq

def MarkupError.message : MarkupError → String
  | .unmatched tag pos =>
    "closing tag '" ++ tag ++ "' at position " ++ toString pos ++ " doesn't match any open tag"
  | .nothingToClose pos => "closing tag '[/]' at position " ++ toString pos ++ " has nothing to close"
  | .badHandler params => "error parsing " ++ Text.quote params

/-- An open tag: its name, and its parameters when it has `=`. -/
abbrev OpenTag := String × Option (List Char)

def closeTag (t : OpenTag) : Except MarkupError Unit :=
  match t with
  | (name, some params) =>
    if name.startsWith "@" && !params.isEmpty && !literalAccepted params then
      .error (.badHandler (String.ofList params))
    else .ok ()
  | _ => .ok ()

def eraseOpen (name : String) : List OpenTag → Option (OpenTag × List OpenTag)
  | [] => none
  | t :: rest =>
    if t.1 == name then some (t, rest)
    else (eraseOpen name rest).map fun (found, others) => (found, t :: others)

/-- Renders pieces with the open tags, most recent first: the plain text, or why it is
refused. -/
def renderPieces : List OpenTag → List Piece → Except MarkupError (List Char)
  | _, [] => .ok []
  | open_, .text cs :: rest => do
    let more ← renderPieces open_ rest
    pure (replaceEmoji (unescapeBrackets cs) ++ more)
  | open_, .tag inside pos :: rest =>
    let name := inside.takeWhile (· != '=')
    let params := if inside.length > name.length then some (inside.drop (name.length + 1)) else none
    match name with
    | '/' :: closing =>
      let bare := (closing.dropWhile Text.isBlank).reverse.dropWhile Text.isBlank |>.reverse
      if bare.isEmpty then
        match open_ with
        | [] => .error (.nothingToClose pos)
        | t :: others => do
          closeTag t
          renderPieces others rest
      else
        match eraseOpen (tagName bare) open_ with
        | some (t, others) => do
          closeTag t
          renderPieces others rest
        | none => .error (.unmatched ("[" ++ String.ofList inside ++ "]") pos)
    | _ => renderPieces ((tagName name, params) :: open_) rest

/-- The plain text of markup: the tags dropped, the escapes resolved and the emoji codes
replaced. -/
def renderMarkup (s : String) : Except MarkupError String :=
  if !s.toList.contains '[' then .ok (String.ofList (replaceEmoji s.toList))
  else (renderPieces [] (pieces s)).map String.ofList

/-- Escapes the tags of a text: a backslash before each, after doubling the backslashes that
stand before it; a text ending in one backslash gets a second. -/
def escapeFrom : Nat → List Char → List Char
  | 0, cs => cs
  | _, [] => []
  | fuel + 1, cs@(c :: rest) =>
    let slashes := cs.takeWhile (· == '\\')
    let after := cs.drop slashes.length
    match tagAt after with
    | some (tag, next) => slashes ++ slashes ++ ['\\'] ++ tag ++ escapeFrom fuel next
    | none => if slashes.isEmpty then c :: escapeFrom fuel rest else slashes ++ escapeFrom fuel after

def escapeMarkup (s : String) : String :=
  let cs := escapeFrom (s.length + 1) s.toList
  let endsOne := cs.getLast? == some '\\' && (cs.dropLast.getLast? != some '\\')
  String.ofList (if endsOne then cs ++ ['\\'] else cs)

end BuildGate.Console
