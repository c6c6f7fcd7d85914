import BuildGate.Record
import BuildGate.Number.Text
import BuildGate.Value.Literal
import BuildGate.Text.Utf8

namespace BuildGate

/-- A part of the location of a problem: a field name or a list index. -/
inductive LocPart where
  | key (name : String)
  | index (i : Nat)
  deriving Repr, BEq

def LocPart.text : LocPart → String
  | .key k => k
  | .index i => toString i

/-- A problem found in a record: where, its type, its message and the value at fault. -/
structure Issue where
  loc : List LocPart
  type : String
  message : String
  input : Value

/-- The result of a check: the value read, or the problems. -/
inductive Checked (α : Type) where
  | ok (a : α)
  | bad (issues : List Issue)

namespace Checked

def map (f : α → β) : Checked α → Checked β
  | .ok a => .ok (f a)
  | .bad is => .bad is

def both : Checked α → Checked β → Checked (α × β)
  | .ok a, .ok b => .ok (a, b)
  | .ok _, .bad js => .bad js
  | .bad is, .ok _ => .bad is
  | .bad is, .bad js => .bad (is ++ js)

def under (part : LocPart) : Checked α → Checked α
  | .ok a => .ok a
  | .bad is => .bad (is.map fun i => { i with loc := part :: i.loc })

end Checked

def issue (type message : String) (v : Value) : Checked α := .bad [⟨[], type, message, v⟩]

def checkText : Value → Checked String
  | .str s => .ok s
  | v => issue "string_type" "Input should be a valid string" v

def checkOptText : Value → Checked (Option String)
  | .null => .ok none
  | v => (checkText v).map some

def isWhiteSpace (c : Char) : Bool :=
  Text.isBlank c && !(0x1C ≤ c.toNat && c.toNat ≤ 0x1F)

def trimWhite (cs : List Char) : List Char :=
  ((cs.dropWhile isWhiteSpace).reverse.dropWhile isWhiteSpace).reverse

def allDigits (cs : List Char) : Bool := !cs.isEmpty && cs.all Char.isDigit

def digitsOf (cs : List Char) : Int :=
  (cs.foldl (fun n c => 10 * n + (c.toNat - 48)) 0 : Nat)

def plainInt? : List Char → Option Int
  | '-' :: ds => if allDigits ds then some (-digitsOf ds) else none
  | '+' :: ds => if allDigits ds then some (digitsOf ds) else none
  | ds => if allDigits ds then some (digitsOf ds) else none

def longInt? (cs : List Char) : Option Int :=
  let (neg, cs) := match cs with
    | '-' :: t => (true, if t.head? == some '+' then cs else t)
    | _ => (false, cs)
  let cs := match cs with
    | '+' :: t => if t.head? == some '+' then cs else t
    | _ => cs
  match cs with
  | [] | '_' :: _ => none
  | _ =>
    let ds := cs.filter (· != '_')
    if ds.all Char.isDigit then some (if neg then -digitsOf ds else digitsOf ds) else none

def sizedInt? (len : Nat) (cs : List Char) : Option Int :=
  if len < 19 then plainInt? cs else longInt? cs

def dropUnderscores (cs : List Char) : Option (List Char) :=
  let digit (c : Option Char) : Bool := c.any Char.isDigit
  let before := none :: cs.map some
  let after := (cs.drop 1).map some ++ [none]
  if (cs.zip (before.zip after)).all fun (c, b, a) => c != '_' || (digit b && digit a) then
    some (cs.filter (· != '_'))
  else none

def dropZeroTail (cs : List Char) : Option (List Char) :=
  match cs.span (· != '.') with
  | (whole, '.' :: frac) => if frac.all (· == '0') then some whole else none
  | _ => none

def textInt (s : String) : Except String Int :=
  let t := trimWhite s.toList
  let len := (String.ofList t).utf8ByteSize
  let bad : Except String Int := .error "int_parsing"
  if len > 4300 then .error "int_parsing_size"
  else match sizedInt? len t with
    | some n => .ok n
    | none =>
      match dropZeroTail t, dropUnderscores t with
      | some u, _ => (sizedInt? len u).elim bad .ok
      | none, some u => (sizedInt? len u).elim bad .ok
      | none, none => bad

def isFloatText (cs : List Char) : Bool :=
  let body := match cs with
    | '+' :: t | '-' :: t => t
    | _ => cs
  let (mantissa, expo) := body.span fun c => c != 'e' && c != 'E'
  let (whole, frac) := mantissa.span (· != '.')
  let fracDigits := frac.drop 1
  Number.isWord body ["inf", "infinity", "nan"] ||
    (whole.all Char.isDigit && fracDigits.all Char.isDigit &&
      (!whole.isEmpty || !fracDigits.isEmpty) &&
      match expo with
      | [] => true
      | _ :: e =>
        allDigits (match e with
          | '+' :: t | '-' :: t => t
          | _ => e))

def textFloat? (s : String) : Option Float :=
  let read (cs : List Char) : Option Float :=
    if isFloatText cs then (Number.readFloat (String.ofList cs)).toOption else none
  match read (trimWhite s.toList) with
  | some x => some x
  | none => (dropUnderscores s.toList).bind read

def floatInt (v : Value) (x : Float) : Checked Int :=
  if !Binary64.isFinite x then issue "finite_number" "Input should be a finite number" v
  else match Binary64.toInt? x with
    | none =>
      issue "int_from_float" "Input should be a valid integer, got a number with a fractional part" v
    | some n =>
      if -(Int.pow 2 63) < n && n < Int.pow 2 63 then .ok n
      else
        issue "int_parsing_size"
          "Unable to parse input string as an integer, exceeded maximum size" v

def checkInt : Value → Checked Int
  | .int n => .ok n
  | .bool b => .ok (if b then 1 else 0)
  | v@(.float x) => floatInt v x
  | v@(.str s) =>
    match textInt s with
    | .ok n => .ok n
    | .error "int_parsing_size" =>
      issue "int_parsing_size" "Unable to parse input string as an integer, exceeded maximum size" v
    | .error _ =>
      issue "int_parsing" "Input should be a valid integer, unable to parse string as an integer" v
  | v => issue "int_type" "Input should be a valid integer" v

def checkFloat : Value → Checked Float
  | .float x => .ok x
  | .bool b => .ok (if b then 1.0 else 0.0)
  | v@(.int n) =>
    let x := Binary64.ofDecimal (n < 0) n.natAbs 0
    if Binary64.isFinite x then .ok x else issue "float_type" "Input should be a valid number" v
  | v@(.str s) =>
    match textFloat? s with
    | some x => .ok x
    | none =>
      issue "float_parsing" "Input should be a valid number, unable to parse string as a number" v
  | v => issue "float_type" "Input should be a valid number" v

def wordTruth (s : String) : Option Bool :=
  let l := String.ofList (s.toList.map Char.toLower)
  if ["0", "f", "n", "no", "off", "false"].contains l then some false
  else if ["1", "t", "y", "yes", "on", "true"].contains l then some true
  else none

def intTruth (v : Value) (n : Int) : Checked Bool :=
  if n == 0 then .ok false else if n == 1 then .ok true
  else issue "bool_parsing" "Input should be a valid boolean, unable to interpret input" v

def checkBool : Value → Checked Bool
  | .bool b => .ok b
  | v@(.int n) =>
    if -(Int.pow 2 63) ≤ n && n < Int.pow 2 63 then intTruth v n
    else issue "bool_type" "Input should be a valid boolean" v
  | v@(.float x) =>
    match Binary64.toInt? x with
    | some n =>
      if -(Int.pow 2 63) < n && n < Int.pow 2 63 then intTruth v n
      else issue "bool_type" "Input should be a valid boolean" v
    | none => issue "bool_type" "Input should be a valid boolean" v
  | v@(.str s) =>
    match wordTruth s with
    | some b => .ok b
    | none => issue "bool_parsing" "Input should be a valid boolean, unable to interpret input" v
  | v => issue "bool_type" "Input should be a valid boolean" v

def checkStatus : Value → Checked Status
  | .str "PASS" => .ok .pass
  | .str "FAIL" => .ok .fail
  | v => issue "literal_error" "Input should be 'PASS' or 'FAIL'" v

def checkFailureKind : Value → Checked (Option FailureKind)
  | .null => .ok none
  | .str "launch_failure" => .ok (some .launchFailure)
  | .str "non_zero_exit" => .ok (some .nonZeroExit)
  | v => issue "literal_error" "Input should be 'launch_failure' or 'non_zero_exit'" v

def checkItems (check : Value → Checked α) : Nat → List Value → Checked (List α)
  | _, [] => .ok []
  | i, v :: rest =>
    (((check v).under (.index i)).both (checkItems check (i + 1) rest)).map fun p => p.1 :: p.2

def checkList (check : Value → Checked α) : Value → Checked (List α)
  | .list xs => checkItems check 0 xs
  | v => issue "list_type" "Input should be a valid list" v

def field (entries : List (Value × Value)) (whole : Value) (name : String) (default : Option α)
    (check : Value → Checked α) : Checked α :=
  match Value.lookupEntry entries (.str name) with
  | some v => (check v).under (.key name)
  | none =>
    match default with
    | some d => .ok d
    | none => .bad [⟨[.key name], "missing", "Field required", whole⟩]

/-- A step record. -/
def checkStepRecord : Value → Checked StepRecord
  | whole@(.dict kvs) =>
    ((field kvs whole "schema_version" (some 1) checkInt).both
      ((field kvs whole "name" none checkText).both
      ((field kvs whole "argv" (some []) (checkList checkText)).both
      ((field kvs whole "cwd" (some "") checkText).both
      ((field kvs whole "exit_code" none checkInt).both
      ((field kvs whole "ok" none checkBool).both
      ((field kvs whole "failure_kind" (some none) checkFailureKind).both
      ((field kvs whole "launch_error" (some none) checkOptText).both
      ((field kvs whole "duration_s" (some 0.0) checkFloat).both
      ((field kvs whole "stdout_log" (some none) checkOptText).both
      ((field kvs whole "stderr_log" (some none) checkOptText).both
      ((field kvs whole "stdout_bytes" (some 0) checkInt).both
      (field kvs whole "stderr_bytes" (some 0) checkInt))))))))))))).map
      fun (sv, name, argv, cwd, code, ok, kind, launch, dur, outLog, errLog, outBytes, errBytes) =>
        { schemaVersion := sv, name, argv, cwd, exitCode := code, ok, failureKind := kind,
          launchError := launch, duration := dur, stdoutLog := outLog, stderrLog := errLog,
          stdoutBytes := outBytes, stderrBytes := errBytes }
  | v => issue "model_type" "Input should be a valid dictionary or instance of StepRecord" v

/-- A run record from a mapping. -/
def checkRunRecord (whole : Value) (kvs : List (Value × Value)) : Checked RunRecord :=
  ((field kvs whole "schema_version" (some 1) checkInt).both
    ((field kvs whole "run_id" none checkText).both
    ((field kvs whole "pipeline" none checkText).both
    ((field kvs whole "root" none checkText).both
    ((field kvs whole "status" none checkStatus).both
    ((field kvs whole "first_failure" (some none) checkOptText).both
    ((field kvs whole "duration_s" (some 0.0) checkFloat).both
    ((field kvs whole "steps_total" (some 0) checkInt).both
    ((field kvs whole "not_run" (some []) (checkList checkText)).both
    (field kvs whole "steps" (some []) (checkList checkStepRecord))))))))))).map
    fun (sv, runId, pipeline, root, status, first, dur, total, notRun, steps) =>
      { schemaVersion := sv, runId, pipeline, root, status, firstFailure := first,
        duration := dur, stepsTotal := total, notRun, steps }

def bytePrefix : Nat → List Char → List Char
  | _, [] => []
  | room, c :: rest => if c.utf8Size ≤ room then c :: bytePrefix (room - c.utf8Size) rest else []

def charsFrom (start : Nat) (cs : List Char) : List Char :=
  (cs.foldl (fun (acc : List Char × Nat) c =>
    let (kept, pos) := acc
    (if pos ≥ start then kept ++ [c] else kept, pos + c.utf8Size)) ([], 0)).1

def shortLiteral (v : Value) : String :=
  let s := v.literal
  let total := (Text.encodeUtf8 s).length
  if total ≤ 50 then s
  else String.ofList (bytePrefix 25 s.toList) ++ "..." ++ String.ofList (charsFrom (total - 24) s.toList)

def Issue.text (i : Issue) : String :=
  ".".intercalate (i.loc.map LocPart.text) ++ "\n  " ++ i.message ++ " [type=" ++ i.type ++
    ", input_value=" ++ shortLiteral i.input ++ ", input_type=" ++ i.input.kindName ++ "]"

def issuesMessageFor (model : String) (issues : List Issue) : String :=
  let n := issues.length
  toString n ++ " validation error" ++ (if n == 1 then "" else "s") ++ " for " ++ model ++ "\n" ++
    "\n".intercalate (issues.map Issue.text)

/-- The message of the problems of a run record. -/
def issuesMessage (issues : List Issue) : String := issuesMessageFor "RunReportRecord" issues

/-- Reads a run record: the record, or the message saying why it is not one. -/
def readRunRecord (data : Value) : Except String RunRecord :=
  match data with
  | .dict kvs =>
    match checkRunRecord data kvs with
    | .ok r => .ok r
    | .bad issues => .error (issuesMessage issues)
  | v =>
    .error ("gaterun.artifacts.schemas.RunReportRecord() argument after ** must be a mapping, not " ++
      v.kindName)

end BuildGate
