import BuildGate.Text.Classes

namespace BuildGate.Text

def readLines : List Char → List Char
  | [] => []
  | '\r' :: '\n' :: rest => '\n' :: readLines rest
  | '\r' :: rest => '\n' :: readLines rest
  | c :: rest => c :: readLines rest

def isLineBreak (c : Char) : Bool :=
  c == '\n' || c == '\r' || c == '\x0b' || c == '\x0c' || c == '\x1c' || c == '\x1d' ||
    c == '\x1e' || c == '\x85' || c == '\u2028' || c == '\u2029'

def splitLinesRev : List Char → List Char → List String → List String
  | [], cur, acc => if cur.isEmpty then acc else String.ofList cur.reverse :: acc
  | '\r' :: '\n' :: rest, cur, acc => splitLinesRev rest [] (String.ofList cur.reverse :: acc)
  | c :: rest, cur, acc =>
    if isLineBreak c then splitLinesRev rest [] (String.ofList cur.reverse :: acc)
    else splitLinesRev rest (c :: cur) acc

def splitLines (s : String) : List String := (splitLinesRev s.toList [] []).reverse

def isBlankText (s : String) : Bool := s.toList.all isBlank

end BuildGate.Text
