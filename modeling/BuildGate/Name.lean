import BuildGate.Text.Literal
import BuildGate.Text.Pattern

namespace BuildGate

def isNameStart (c : Char) : Bool :=
  ('a' ≤ c && c ≤ 'z') || ('A' ≤ c && c ≤ 'Z') || ('0' ≤ c && c ≤ '9')

def isNameChar (c : Char) : Bool :=
  isNameStart c || c == '_' || c == '.' || c == '-'

/-- Whether a text is a valid step name or run id: a full match of `namePattern`. -/
def isValidName (s : String) : Bool := namePattern.fullmatch s

def nameRule : String :=
  "Use 1-64 chars: letters/digits, plus '._-'. Must start with a letter or digit."

def badStepNameMessage (name : String) : String :=
  "Invalid step name " ++ Text.quote name ++ ". " ++ nameRule

def badRunIdMessage : String :=
  "Invalid run id. " ++ nameRule

/-- Replaces each run of characters that are not name characters by one `_`; `inRun` says
whether the previous character already began such a run. -/
def collapseRuns (inRun : Bool) : List Char → List Char
  | [] => []
  | c :: cs =>
    if isNameChar c then c :: collapseRuns false cs
    else if inRun then collapseRuns true cs
    else '_' :: collapseRuns true cs

def isEdgeChar (c : Char) : Bool := c == '.' || c == '_' || c == '-'

/-- Strips `.`, `_` and `-` from both ends. -/
def stripEdges (cs : List Char) : List Char :=
  ((cs.dropWhile isEdgeChar).reverse.dropWhile isEdgeChar).reverse

/-- A file name made safe: runs of other characters become `_`, the ends lose `._-`, and an
empty result gives `default`. -/
def safeFileName (name : String) (default : String := "item") : String :=
  let cleaned := stripEdges (collapseRuns false name.toList)
  if cleaned.isEmpty then default else String.ofList cleaned

end BuildGate
