import BuildGate.Fault
import BuildGate.Value.Literal

namespace BuildGate

def Value.asText : Value → Except Fault String
  | .str s => .ok s
  | v => .error (.wrongType ("expected string or bytes-like object, got " ++ Text.quote v.kindName))

/-- A valid step name, or the fault that refuses it. -/
def checkStepName (name : String) : Except Fault String :=
  if isValidName name then .ok name else .error (.invalid (badStepNameMessage name))

/-- A valid run id, or the fault that refuses it. -/
def checkRunId (id : String) : Except Fault String :=
  if isValidName id then .ok id else .error (.invalid badRunIdMessage)

/-- The civil date `(year, month, day)` of a count of days since 1970-01-01. -/
def civilOfDays (days : Nat) : Nat × Nat × Nat :=
  let z := days + 719468
  let era := z / 146097
  let doe := z - era * 146097
  let yoe := (doe - doe / 1460 + doe / 36524 - doe / 146096) / 365
  let doy := doe - (365 * yoe + yoe / 4 - yoe / 100)
  let mp := (5 * doy + 2) / 153
  let d := doy - (153 * mp + 2) / 5 + 1
  let m := if mp < 10 then mp + 3 else mp - 9
  let y := yoe + era * 400 + (if m ≤ 2 then 1 else 0)
  (y, m, d)

/-- The characters of the random part of a run id. -/
def idAlphabet : List Char := "abcdefghijklmnopqrstuvwxyz0123456789".toList

/-- A run id for the UTC time `secs` (seconds since 1970) whose random part is drawn from
`draws`, one number per character. -/
def runIdAt (secs : Nat) (draws : List Nat) : String :=
  let (y, mo, d) := civilOfDays (secs / 86400)
  let t := secs % 86400
  let suffix := (draws.take 4).map fun n => idAlphabet.getD (n % 36) 'a'
  padNat 4 y ++ padNat 2 mo ++ padNat 2 d ++ "_" ++ padNat 2 (t / 3600) ++
    padNat 2 (t % 3600 / 60) ++ padNat 2 (t % 60) ++ "_" ++ String.ofList suffix

def isStampedId (s : String) : Bool :=
  let cs := s.toList
  cs.length == 20 &&
    (cs.take 8).all Char.isDigit && cs[8]? == some '_' &&
    ((cs.drop 9).take 6).all Char.isDigit && cs[15]? == some '_' &&
    (cs.drop 16).all fun c => ('a' ≤ c && c ≤ 'z') || c.isDigit

end BuildGate
