import BuildGate.Host.ShellState
import BuildGate.Shell.Pattern

namespace BuildGate.Host

open BuildGate.Shell (Piece Word PatChar hasSpecial patternText patternMatches)

/-- A segment of an expanded word. -/
inductive Seg where
  | lit (s : String) (split : Bool) (active : Bool)
  | brk
  deriving Repr, BEq, Inhabited

/-- The text that joins the positional parameters where they make one text: the first
character of `IFS`, a blank when `IFS` is unset, and nothing when it is empty. -/
def joiner (sh : ShellProc) : String :=
  match sh.var? "IFS" with
  | none => " "
  | some s => (s.toList.head?.map Char.toString).getD ""

def paramSegs (sh : ShellProc) (name : String) (quoted : Bool) : List Seg :=
  if name == "@" || (name == "*" && !quoted) then
    let each := sh.params.map fun p => Seg.lit p (!quoted) (!quoted)
    match each with
    | [] => []
    | first :: rest => first :: rest.flatMap fun s => [Seg.brk, s]
  else if name == "*" then [.lit ((joiner sh).intercalate sh.params) false false]
  else [.lit ((sh.param? name).getD "") (!quoted) (!quoted)]

def isIfsWhite (c : Char) : Bool := c == ' ' || c == '\t' || c == '\n'

/-- The state of splitting into fields: the finished fields, the open one, and whether the
last delimiter was white space that ended a field, which one following character of `IFS`
that is not white space joins. -/
structure Splitting where
  done : List (List PatChar) := []
  cur : Option (List PatChar) := none
  white : Bool := false

def Splitting.keep (st : Splitting) (cs : List PatChar) : Splitting :=
  if cs.isEmpty then st else { st with cur := some (st.cur.getD [] ++ cs), white := false }

def Splitting.close (st : Splitting) : Splitting :=
  match st.cur with
  | some f => { st with done := st.done ++ [f], cur := none }
  | none => st

/-- Splits characters at the characters of `ifs`. White space of `IFS` around another
character of `IFS` belongs to the one delimiter; white space alone delimits too, and white
space at the start delimits nothing. Two other characters of `IFS` in a row have an empty
field between them. -/
def Splitting.split (ifs : List Char) (st : Splitting) (cs : List PatChar) : Splitting :=
  cs.foldl (fun st (c, a) =>
    if ifs.contains c then
      if isIfsWhite c then
        match st.cur with
        | some _ => { st.close with white := true }
        | none => st
      else
        match st.cur with
        | some _ => { st.close with white := false }
        | none =>
          if st.white then { st with white := false }
          else { st with done := st.done ++ [[]] }
    else st.keep [(c, a)]) st

def marked (s : String) (active : Bool) : List PatChar := s.toList.map (·, active)

def fieldsOf (ifs : String) (segs : List Seg) : List (List PatChar) :=
  let st := segs.foldl (fun (st : Splitting) seg =>
    match seg with
    | .brk => { st.close with white := false }
    | .lit s false a =>
      if s.isEmpty then { st with cur := some (st.cur.getD []) } else st.keep (marked s a)
    | .lit s true a =>
      if ifs.isEmpty then st.keep (marked s a)
      else Splitting.split ifs.toList st (marked s a)) {}
  st.done ++ st.cur.toList

def joinSegs (sep : String) (segs : List Seg) : String :=
  String.join (segs.map fun
    | .lit s _ _ => s
    | .brk => sep)

def patternOf (sep : String) (segs : List Seg) : List PatChar :=
  segs.flatMap fun
    | .lit s _ a => marked s a
    | .brk => marked sep false

/-- Where the tildes of a word stand for home directories: nowhere, at the start of the
word, or also after each unquoted colon (in the value of an assignment). -/
inductive TildeAt where
  | nowhere
  | start
  | colons
  deriving BEq, Inhabited

/-- The home directory that `~name` stands for: the value of `HOME` for the empty name, when
it is set and not empty, and the home of the account of that name otherwise. -/
def homeOf (sh : ShellProc) (name : String) : Option String :=
  if name.isEmpty then (sh.var? "HOME").filter (!·.isEmpty) else accounts.lookup name

def bareText (cs : List Char) : Word := if cs.isEmpty then [] else [.text (String.ofList cs) false]

def tildeChars (home : String → Option String) (colons last : Bool) :
    Nat → Bool → List Char → List Char → Word
  | 0, _, acc, rest => bareText (acc.reverse ++ rest)
  | _ + 1, _, acc, [] => bareText acc.reverse
  | fuel + 1, start, acc, c :: rest =>
    let ends (d : Char) := d == '/' || (colons && d == ':')
    let name := rest.takeWhile (!ends ·)
    let after := rest.drop name.length
    let found := if start && c == '~' && (!after.isEmpty || last) then home (String.ofList name)
      else none
    match found with
    | some h =>
      bareText acc.reverse ++ [.text h true] ++ tildeChars home colons last fuel false [] after
    | none => tildeChars home colons last fuel (colons && c == ':') (c :: acc) rest

def tildeWord (home : String → Option String) (at_ : TildeAt) (w : Word) : Word :=
  if at_ == .nowhere then w
  else
    let colons := at_ == .colons
    w.zipIdx.flatMap fun (p, i) =>
      match p with
      | .text s false =>
        if i == 0 || colons then
          tildeChars home colons (i + 1 == w.length) (s.length + 1) (i == 0) [] s.toList
        else [p]
      | _ => [p]

def wordText (w : Word) : String :=
  String.join (w.map fun
    | .text s _ => s
    | _ => "")

def patternParts (p : List PatChar) : List (List PatChar) :=
  let (done, cur) := p.foldl (fun (done, cur) pc =>
    if pc.1 == '/' then (done ++ [cur], []) else (done, cur ++ [pc])) ([], [])
  done ++ [cur]

def matchingNames (t : Fs.Tree) (dir : List String) (comp : List PatChar) : List String :=
  if !t.isDir dir then []
  else
    let names := (t.children (t.realpath dir)).map Raw.ofText
    let names := match comp with
      | ('.', _) :: _ => "." :: ".." :: names
      | _ => names.filter (!·.startsWith ".")
    names.filter (patternMatches comp)

def globPaths (t : Fs.Tree) (cwd : List String) (p : List PatChar) : List String :=
  let parts := patternParts p
  let textOf (ps : List String) : String := "/".intercalate ps
  let dirOf (ps : List String) : List String :=
    if ps.isEmpty then cwd else absoluteFrom cwd (Raw.toText (textOf ps ++ "/"))
  let step (acc : List (List String) × Bool) (part : List PatChar) :
      List (List String) × Bool :=
    let (paths, _) := acc
    if hasSpecial part then
      (paths.flatMap fun ps => (matchingNames t (dirOf ps) part).map fun n => ps ++ [n], false)
    else (paths.map (· ++ [patternText part]), true)
  let (paths, literalTail) := parts.foldl step ([[]], false)
  let found := if literalTail then
      paths.filter fun ps =>
        let cs := absoluteFrom cwd (Raw.toText (textOf ps))
        if ps.getLast? == some "" then t.isDir cs else (t.lstat cs).toBool
    else paths
  (found.map textOf).mergeSort fun a b => compare a b != .gt

/-- The fields a field gives after matching it against paths: the paths when it is a
pattern that matches some, the field's text otherwise. -/
def expandField (t : Fs.Tree) (cwd : List String) (f : List PatChar) : List String :=
  if hasSpecial f then
    match globPaths t cwd f with
    | [] => [patternText f]
    | ms => ms
  else [patternText f]

end BuildGate.Host
