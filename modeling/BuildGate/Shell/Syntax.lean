
namespace BuildGate.Shell

/-- A piece of a word. -/
inductive Piece where
  | text (s : String) (quoted : Bool)
  | param (name : String) (quoted : Bool)
  | paramOp (name : String) (op : String) (word : List Piece) (quoted : Bool)
  | length (name : String) (quoted : Bool)
  | subst (script : String) (quoted : Bool)
  | arith (expr : List Piece) (quoted : Bool)
  | badSubst (quoted : Bool)
  deriving Repr, BEq, Inhabited

/-- A word: its pieces in order. -/
abbrev Word := List Piece

/-- What a redirection does with its file descriptor. -/
inductive RedirOp where
  | write
  | clobber
  | append
  | read
  | readWrite
  | dup
  | document
  deriving Repr, BEq, Inhabited

/-- A redirection: the descriptor it sets, how, and the target word. -/
structure Redir where
  fd : Nat
  op : RedirOp
  target : Word
  deriving Repr, BEq, Inhabited

/-- A command. -/
inductive Command where
  | simple (assigns : List (String × Word)) (words : List Word) (redirs : List Redir)
      (line : Nat)
  | pipeline (negate : Bool) (stages : List Command)
  | andIf (first second : Command)
  | orIf (first second : Command)
  | seq (cmds : List Command)
  | background (cmd : Command)
  | group (body : Command) (redirs : List Redir)
  | subshell (body : Command) (redirs : List Redir)
  | ifThen (cond yes : Command) (no : Option Command)
  | loop (untilLoop : Bool) (cond body : Command)
  | forIn (name : String) (items : Option (List Word)) (body : Command)
  | caseOf (subject : Word) (arms : List (List Word × Option Command))
  | funcDef (name : String) (body : Command)
  deriving Repr, Inhabited

/-- A command line of a script: a command to run, or the syntax error that stops the script
at a line. -/
inductive Chunk where
  | run (cmd : Command)
  | bad (line : Nat) (message : String)
  deriving Repr, Inhabited

def specialBuiltins : List String :=
  [".", ":", "break", "continue", "eval", "exec", "exit", "export", "local", "readonly",
   "return", "set", "shift", "times", "trap", "unset"]

def Word.isText (w : Word) (s : String) : Bool :=
  match w with
  | [.text t false] => t == s
  | _ => false

def Word.plain? (w : Word) : Option String :=
  match w with
  | [.text t false] => some t
  | _ => none

def keptStreams (rs : List Redir) : Bool × Bool :=
  rs.foldl (fun (kept : Bool × Bool) r =>
    let now : Bool :=
      match r.op with
      | .dup =>
        match r.target.plain? with
        | some "1" => kept.1
        | some "2" => kept.2
        | some "-" => false
        | _ => true
      | _ => false
    match r.fd with
    | 1 => (now, kept.2)
    | 2 => (kept.1, now)
    | _ => kept) (true, true)

/-- Whether a command may write to the standard output or error it was started with: not
when its own redirections send both elsewhere. -/
def Command.keepsOutput : Command → Bool
  | .simple _ _ rs _ | .group _ rs | .subshell _ rs =>
    let (out, err) := keptStreams rs
    out || err
  | _ => true

end BuildGate.Shell
