
namespace BuildGate.Shell

/-- A character of a pattern, and whether it is special when it is `*`, `?`, `[` or `]`
(whether it stood unquoted). -/
abbrev PatChar := Char × Bool

/-- Whether a pattern has a special character, so that it must be matched rather than
compared. -/
def hasSpecial (p : List PatChar) : Bool :=
  p.any fun (c, active) => active && (c == '*' || c == '?' || c == '[')

def patternText (p : List PatChar) : String := String.ofList (p.map (·.1))

def inClass (name : String) (c : Char) : Bool :=
  let n := c.toNat
  match name with
  | "alpha" => c.isAlpha
  | "digit" => c.isDigit
  | "alnum" => c.isAlphanum
  | "upper" => c.isUpper
  | "lower" => c.isLower
  | "space" => c == ' ' || (9 ≤ n && n ≤ 13)
  | "blank" => c == ' ' || c == '\t'
  | "punct" => 33 ≤ n && n < 127 && !c.isAlphanum
  | "print" => 32 ≤ n && n < 127
  | "graph" => 33 ≤ n && n < 127
  | "cntrl" => n < 32 || n == 127
  | "xdigit" => c.isDigit || ('a' ≤ c && c ≤ 'f') || ('A' ≤ c && c ≤ 'F')
  | _ => false

def bracketItems (c : Char) : Nat → Bool → Bool → List PatChar → Option (Bool × List PatChar)
  | 0, _, _, _ => none
  | _ + 1, _, _, [] => none
  | fuel + 1, first, found, (a, aq) :: rest =>
    if a == ']' && aq && !first then some (found, rest)
    else
      match a, aq, rest with
      | '[', true, (':', _) :: more =>
        let name := more.takeWhile (·.1 != ':')
        match more.drop name.length with
        | (':', _) :: (']', _) :: after =>
          bracketItems c fuel false (found || inClass (patternText name) c) after
        | _ => bracketItems c fuel false (found || c == '[') rest
      | _, _, ('-', _) :: (b, _) :: more =>
        if b == ']' then bracketItems c fuel false (found || c == a) rest
        else bracketItems c fuel false (found || (a ≤ c && c ≤ b)) more
      | _, _, _ => bracketItems c fuel false (found || c == a) rest

/-- Reads a bracket expression after its `[`: whether `c` is in its set, and the pattern
after it; nothing when no `]` closes it. -/
def bracket (c : Char) (p : List PatChar) : Option (Bool × List PatChar) :=
  let (invert, body) := match p with
    | ('!', true) :: rest => (true, rest)
    | _ => (false, p)
  (bracketItems c (body.length + 1) true false body).map fun (f, r) => (f != invert, r)

def matchFrom : Nat → List PatChar → List Char → Bool
  | 0, _, _ => false
  | _ + 1, [], t => t.isEmpty
  | fuel + 1, ('*', true) :: ps, t =>
    (List.range (t.length + 1)).any fun i => matchFrom fuel ps (t.drop i)
  | fuel + 1, ('?', true) :: ps, t =>
    match t with
    | _ :: rest => matchFrom fuel ps rest
    | [] => false
  | fuel + 1, ('[', true) :: ps, t =>
    match t with
    | [] => false
    | c :: rest =>
      match bracket c ps with
      | some (found, after) => found && matchFrom fuel after rest
      | none => c == '[' && matchFrom fuel ps rest
  | fuel + 1, (p, _) :: ps, t =>
    match t with
    | c :: rest => p == c && matchFrom fuel ps rest
    | [] => false

def patternMatches (p : List PatChar) (t : String) : Bool :=
  matchFrom (p.length + 1) p t.toList

end BuildGate.Shell
