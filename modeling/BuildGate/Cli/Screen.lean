import BuildGate.Cli.Options
import BuildGate.Console.Panel

namespace BuildGate.Cli

open Console

/-- A command as its help shows it. -/
structure CommandHelp where
  path : String
  usage : String
  summary : String
  options : List Opt
  commands : List (String × String) := []
  deriving Repr, Inhabited

def CommandHelp.usageLine (h : CommandHelp) : String := "Usage: " ++ h.path ++ " " ++ h.usage

/-- The help text of an option: its help (markup), then the default shown and whether it is
required (plain text). -/
def Opt.helpText (o : Opt) : String :=
  let help := (renderMarkup o.help).toOption.getD o.help
  let parts := [help] ++ (o.shownDefault.map fun d => "[default: " ++ d ++ "]").toList ++
    (if o.required then ["[required]"] else [])
  " ".intercalate (parts.filter (!·.isEmpty))

def optionsTable (opts : List Opt) : Table :=
  let required := opts.any (·.required)
  let mark (o : Opt) : List String := if required then [if o.required then "*" else ""] else []
  let names (ns : List String) (short : Bool) : String :=
    ",".intercalate (ns.filter fun n => isShortName n == short)
  let rows := opts.map fun o =>
    mark o ++ [names o.names false, names o.names true, names o.negatives false,
      names o.negatives true, o.metavar, o.helpText]
  let plain : Column := {}
  { columns := List.replicate (if required then 7 else 6) plain, rows, showHeader := false,
    boxed := false, padEdge := false }

def commandsTable (cmds : List (String × String)) : Table :=
  let w := cmds.foldl (fun m c => max m c.1.length) 0
  { columns := [{ width := some w, noWrap := true }, { ratio := some 10 }]
    rows := cmds.map fun (n, s) => [n, s]
    showHeader := false, boxed := false, padEdge := false, expand := true }

def framed (width : Nat) (lines : List (List Char)) : List (List Char) :=
  lines.map fun l => ' ' :: setCells (width - 2) l ++ [' ']

def CommandHelp.screen (h : CommandHelp) (width : Nat) : String :=
  let blank := spaces width
  let text (s : String) := wrapText (width - 2) .none .fold false
    (dropControls ((renderMarkup s).toOption.getD s))
  let options := panel width (some "Options") ((optionsTable h.options).render (width - 4))
  let commands :=
    if h.commands.isEmpty then []
    else panel width (some "Commands") ((commandsTable h.commands).render (width - 4))
  linesText ([blank] ++ framed width (text h.usageLine) ++ [blank] ++ framed width (text h.summary) ++
    [blank] ++ options ++ commands) ++ "\n"

def CommandHelp.errorScreen (h : CommandHelp) (width : Nat) (e : UsageError) : String :=
  printPlain width h.usageLine ++ printPlain width ("Try '" ++ h.path ++ " --help' for help.") ++
    linesText (panel width (some "Error") (printLines (width - 4) e.message))

end BuildGate.Cli
