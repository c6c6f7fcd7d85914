import BuildGate.Yaml.Construct

namespace BuildGate.Yaml

def isYamlChar (c : Char) : Bool :=
  c == '\t' || c == '\n' || c == '\r' || (' ' ≤ c && c ≤ '~') || c == '\x85' ||
    ('\xa0' ≤ c && c.toNat ≤ 0xD7FF) || (0xE000 ≤ c.toNat && c.toNat ≤ 0xFFFD) ||
    c.toNat ≥ 0x10000

def firstBadChar (cs : List Char) : Option (Nat × Char) :=
  go 0 cs
where
  go (i : Nat) : List Char → Option (Nat × Char)
    | [] => none
    | c :: rest => if isYamlChar c then go (i + 1) rest else some (i, c)

/-- The value of the single document of a YAML text (nothing for an empty stream), or why it
cannot be read. -/
def load (text : String) : Except YamlError (Option Value) := do
  if let some (i, c) := firstBadChar text.toList then throw (.badCharacter i c.toNat)
  let scanner := Scanner.ofText text
  let composer : Composer := { parser := { scanner } }
  match composeSingle.run composer with
  | .error e => throw e
  | .ok (none, _) => pure none
  | .ok (some root, _) => some <$> construct root (scanner.buf.size + 1)

def loadMessage (text : String) (e : YamlError) : String :=
  e.message (Scanner.ofText text).buf

end BuildGate.Yaml
