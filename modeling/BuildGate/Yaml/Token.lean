import BuildGate.Yaml.Mark

namespace BuildGate.Yaml

/-- What a token is. -/
inductive TokenKind where
  | streamStart
  | streamEnd
  | directive (name : String) (yamlVersion : Option (Nat × Nat)) (tagPair : Option (String × String))
  | documentStart
  | documentEnd
  | blockSequenceStart
  | blockMappingStart
  | blockEnd
  | flowSequenceStart
  | flowMappingStart
  | flowSequenceEnd
  | flowMappingEnd
  | key
  | value
  | blockEntry
  | flowEntry
  | alias (name : String)
  | anchor (name : String)
  | tag (handle : Option String) (suffix : String)
  | scalar (text : String) (plain : Bool) (style : Option Char)
  deriving Repr, Inhabited

def TokenKind.name : TokenKind → String
  | .streamStart => "<stream start>"
  | .streamEnd => "<stream end>"
  | .directive .. => "<directive>"
  | .documentStart => "<document start>"
  | .documentEnd => "<document end>"
  | .blockSequenceStart => "<block sequence start>"
  | .blockMappingStart => "<block mapping start>"
  | .blockEnd => "<block end>"
  | .flowSequenceStart => "["
  | .flowMappingStart => "\x7b"
  | .flowSequenceEnd => "]"
  | .flowMappingEnd => "\x7d"
  | .key => "?"
  | .value => ":"
  | .blockEntry => "-"
  | .flowEntry => ","
  | .alias _ => "<alias>"
  | .anchor _ => "<anchor>"
  | .tag .. => "<tag>"
  | .scalar .. => "<scalar>"

/-- The kinds of token, to ask whether the next token is one of them. -/
inductive TokenClass where
  | streamStart | streamEnd | directive | documentStart | documentEnd
  | blockSequenceStart | blockMappingStart | blockEnd
  | flowSequenceStart | flowMappingStart | flowSequenceEnd | flowMappingEnd
  | key | value | blockEntry | flowEntry | alias | anchor | tag | scalar
  deriving Repr, BEq, DecidableEq

def TokenKind.cls : TokenKind → TokenClass
  | .streamStart => .streamStart
  | .streamEnd => .streamEnd
  | .directive .. => .directive
  | .documentStart => .documentStart
  | .documentEnd => .documentEnd
  | .blockSequenceStart => .blockSequenceStart
  | .blockMappingStart => .blockMappingStart
  | .blockEnd => .blockEnd
  | .flowSequenceStart => .flowSequenceStart
  | .flowMappingStart => .flowMappingStart
  | .flowSequenceEnd => .flowSequenceEnd
  | .flowMappingEnd => .flowMappingEnd
  | .key => .key
  | .value => .value
  | .blockEntry => .blockEntry
  | .flowEntry => .flowEntry
  | .alias _ => .alias
  | .anchor _ => .anchor
  | .tag .. => .tag
  | .scalar .. => .scalar

/-- A token and its marks. -/
structure Token where
  kind : TokenKind
  start : Mark
  stop : Mark
  deriving Repr, Inhabited

end BuildGate.Yaml
