import BuildGate.Fs.Change
import BuildGate.Json.Read
import BuildGate.Json.Write
import BuildGate.Text.Utf8
import BuildGate.Text.Lines

namespace BuildGate

/-- An event log: its file and the run id it stamps on records. -/
structure EventLog where
  path : Path
  runId : Option String := none
  deriving Repr, Inhabited

namespace EventLog

/-- The record of an event. A field may not be named `self` or `event`, which are the
names of the emitter's own parameters. -/
def record (log : EventLog) (event : String) (fields : List (String × Value)) (nowMs : Int) :
    Except Fault Value := do
  if let some (k, _) := fields.find? (fun p => p.1 == "self" || p.1 == "event") then
    throw (.wrongType ("EventLog.emit() got multiple values for argument " ++ Text.quote k))
  let kvs := ("event", Value.str event) :: fields
  let kvs := if kvs.any (·.1 == "ts_ms") then kvs else kvs ++ [("ts_ms", .int nowMs)]
  let kvs := match log.runId with
    | some r => if !r.isEmpty && !kvs.any (·.1 == "run_id") then kvs ++ [("run_id", .str r)] else kvs
    | none => kvs
  pure (Value.object kvs)

def sysFault (path : Path) (r : Except Nat α) : Except Fault α := Fs.atPath path.toText r

/-- Appends bytes to a file, making it when it is missing. -/
def appendBytes (t : Fs.Tree) (path : Path) (bytes : List UInt8) : Except Fault Fs.Tree := do
  let old ← sysFault path (match t.readFile path.parts with
    | .error 2 => .ok []
    | r => r)
  sysFault path (t.writeFile path.parts (old ++ bytes))

/-- Emits an event: appends its record to the log. -/
def emit (log : EventLog) (t : Fs.Tree) (nowMs : Int) (event : String)
    (fields : List (String × Value)) : Except Fault Fs.Tree := do
  let r ← log.record event fields nowMs
  let t ← sysFault log.path.parent (t.makeDirs log.path.parent.parts)
  match Text.encodeStrict (Json.write r ++ "\n") with
  | .ok bytes => appendBytes t log.path bytes
  | .error m => throw (.unencodable m)

/-- The records of the log. -/
def read (log : EventLog) (t : Fs.Tree) : Except Fault (List Value) := do
  if !t.exists_ log.path.parts then return []
  let bytes ← sysFault log.path (t.readFile log.path.parts)
  let text ← match Text.decodeUtf8 bytes with
    | .ok s => pure (String.ofList (Text.readLines s.toList))
    | .error e => throw (.badUtf8 e.message)
  let lines := (Text.splitLines text).filter fun l => !Text.isBlankText l
  lines.mapM Json.readDocument

end EventLog

end BuildGate
