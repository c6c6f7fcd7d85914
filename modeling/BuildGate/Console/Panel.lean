import BuildGate.Console.Table
import BuildGate.Console.Markup

namespace BuildGate.Console

def linesText (ls : List (List Char)) : String :=
  String.join (ls.map fun l => String.ofList l ++ "\n")

def crop (width : Nat) (cs : List Char) : List Char :=
  if Text.cellsOf cs > width then (fitPrefix width cs).1 else cs

def printLines (width : Nat) (plain : String) : List (List Char) :=
  (wrapText width .none .fold false (dropControls plain)).map (crop width)

def printMarkup (width : Nat) (markup : String) : Except MarkupError String :=
  (renderMarkup markup).map fun plain => linesText (printLines width plain)

def printPlain (width : Nat) (plain : String) : String :=
  linesText (printLines width plain)

/-- The output of writing a text raw: no markup, no wrapping, tabs expanded and the dropped
control characters dropped. -/
def writeRaw (width : Nat) (s : String) : String :=
  linesText (wrapText width .none .ignore true (dropControls s))

def panel (width : Nat) (title : Option String) (body : List (List Char)) : List (List Char) :=
  let inner := width - 4
  let top := match title with
    | some s =>
      if width ≤ 4 then ['╭'] ++ List.replicate (width - 2) '─' ++ ['╮']
      else
        let label := truncate inner .fold false
          (' ' :: (dropControls s).map (fun c => if c == '\n' then ' ' else c) ++ [' '])
        ['╭', '─'] ++ label ++ List.replicate (inner - Text.cellsOf label) '─' ++ ['─', '╮']
    | none => ['╭'] ++ List.replicate (width - 2) '─' ++ ['╮']
  let lines := body.map fun l => ['│', ' '] ++ setCells inner l ++ [' ', '│']
  [top] ++ lines ++ [['╰'] ++ List.replicate (width - 2) '─' ++ ['╯']]

end BuildGate.Console
