import BuildGate.ConfigError

namespace BuildGate

/-- An error of the operating system: its number, its description and the path it concerns. -/
structure SysError where
  errno : Nat
  text : String
  path : String
  deriving Repr, BEq

namespace SysError

def noEntry (path : String) : SysError := ⟨2, "No such file or directory", path⟩
def denied (path : String) : SysError := ⟨13, "Permission denied", path⟩
def notDir (path : String) : SysError := ⟨20, "Not a directory", path⟩
def isDir (path : String) : SysError := ⟨21, "Is a directory", path⟩
def badFormat (path : String) : SysError := ⟨8, "Exec format error", path⟩
def exists_ (path : String) : SysError := ⟨17, "File exists", path⟩
def loop (path : String) : SysError := ⟨40, "Too many levels of symbolic links", path⟩
def nameTooLong (path : String) : SysError := ⟨36, "File name too long", path⟩

def message (e : SysError) : String :=
  "[Errno " ++ toString e.errno ++ "] " ++ e.text ++ ": " ++ Text.quote e.path

def kind (e : SysError) : String :=
  match e.errno with
  | 2 => "FileNotFoundError"
  | 13 => "PermissionError"
  | 17 => "FileExistsError"
  | 20 => "NotADirectoryError"
  | 21 => "IsADirectoryError"
  | _ => "OSError"

end SysError

/-- Why an operation gives no result. -/
inductive Fault where
  | config (e : ConfigError)
  | invalid (message : String)
  | wrongType (message : String)
  | missingKey (key : String)
  | runtime (message : String)
  | system (e : SysError)
  | badJson (message : String)
  | badUtf8 (message : String)
  | unencodable (message : String)
  | other (kind message : String)
  deriving Repr, BEq

namespace Fault

def message : Fault → String
  | .config e => e.message
  | .invalid m => m
  | .wrongType m => m
  | .missingKey k => Text.quote k
  | .runtime m => m
  | .system e => e.message
  | .badJson m => m
  | .badUtf8 m => m
  | .unencodable m => m
  | .other _ m => m

def kind : Fault → String
  | .config _ => "ConfigurationError"
  | .invalid _ => "ValueError"
  | .wrongType _ => "TypeError"
  | .missingKey _ => "KeyError"
  | .runtime _ => "RuntimeError"
  | .system e => e.kind
  | .badJson _ => "JSONDecodeError"
  | .badUtf8 _ => "UnicodeDecodeError"
  | .unencodable _ => "UnicodeEncodeError"
  | .other k _ => k

end Fault

end BuildGate
