import BuildGate.Name

namespace BuildGate

/-- A reason why a pipeline description cannot become a pipeline. -/
inductive ConfigError where
  | schema (location : String) (detail : String)
  | badEnvName (place : String) (key : String)
  | unresolved (place : String) (name : String)
  | nulByte (place : String)
  | badStepName (index : Nat) (name : String)
  | duplicateStep (index : Nat) (name : String)
  | emptyCommand (index : Nat) (name : String)
  | unreadable (path : String) (reason : String)
  | badYaml (path : String) (detail : String)
  | notMapping (path : String)
  deriving Repr, BEq

def ConfigError.message : ConfigError → String
  | .schema loc detail => "Invalid pipeline schema at " ++ loc ++ ": " ++ detail
  | .badEnvName place key => place ++ ": invalid environment variable name " ++ Text.quote key
  | .unresolved place name => place ++ ": unresolved environment reference $\x7b" ++ name ++ "\x7d"
  | .nulByte place => place ++ ": contains a NUL byte"
  | .badStepName i name => "steps[" ++ toString i ++ "]: " ++ badStepNameMessage name
  | .duplicateStep i name =>
    "steps[" ++ toString i ++ "]: duplicate step name " ++ Text.quote name
  | .emptyCommand i name => "steps[" ++ toString i ++ "] (" ++ name ++ "): command is empty"
  | .unreadable path reason => "Cannot read pipeline file " ++ path ++ ": " ++ reason
  | .badYaml path detail => "Invalid YAML in " ++ path ++ ": " ++ detail
  | .notMapping path => path ++ ": top level must be a mapping"

end BuildGate
