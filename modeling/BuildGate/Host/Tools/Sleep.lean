import BuildGate.Host.Tools.About

namespace BuildGate.Host

/-- How long an interval is: microseconds, or without end. -/
inductive Interval where
  | micros (n : Nat)
  | forever
  deriving Repr, BEq, Inhabited

def hexValue? (c : Char) : Option Nat :=
  if c.isDigit then some (c.toNat - 48)
  else if 'a' ≤ c && c ≤ 'f' then some (c.toNat - 87)
  else if 'A' ≤ c && c ≤ 'F' then some (c.toNat - 55)
  else none

def exponentOf (more : List Char) : Option (Int × List Char) :=
  let (eneg, body) := match more with
    | '-' :: b => (true, b)
    | '+' :: b => (false, b)
    | _ => (false, more)
  let ds := body.takeWhile Char.isDigit
  if ds.isEmpty then none
  else
    let v : Int := (String.ofList ds).toNat?.getD 0
    some (if eneg then -v else v, body.drop ds.length)

def scaledMicros (digits unit radix : Nat) (power : Int) (huge : Bool) : Interval :=
  if digits == 0 then .micros 0
  else if huge then .forever
  else if power < -20000 then .micros 0
  else if power ≥ 0 then .micros (digits * unit * 1000000 * Nat.pow radix power.toNat)
  else .micros (digits * unit * 1000000 / Nat.pow radix (-power).toNat)

def intervalOf (s : String) : Option Interval :=
  let cs := s.toList.dropWhile fun c => c == ' ' || ('\t' ≤ c && c ≤ '\r')
  let (neg, cs) := match cs with
    | '+' :: r => (false, r)
    | '-' :: r => (true, r)
    | _ => (false, cs)
  let unitOf (rest : List Char) : Option Nat :=
    match rest with
    | [] => some 1 | ['s'] => some 1 | ['m'] => some 60 | ['h'] => some 3600
    | ['d'] => some 86400 | _ => none
  let lower := cs.map Char.toLower
  let infinite := if lower.take 8 == "infinity".toList then some (cs.drop 8)
    else if lower.take 3 == "inf".toList then some (cs.drop 3) else none
  let isHex (c : Char) := (hexValue? c).isSome
  let hexStart := match cs with
    | '0' :: x :: d :: more =>
      (x == 'x' || x == 'X') && (isHex d || (d == '.' && (more.head?.any isHex)))
    | _ => false
  match infinite with
  | some rest => if neg then none else (unitOf rest).map fun _ => .forever
  | none =>
    if hexStart then
      let body := cs.drop 2
      let whole := body.takeWhile isHex
      let rest := body.drop whole.length
      let (frac, rest) := match rest with
        | '.' :: more => (more.takeWhile isHex, more.drop (more.takeWhile isHex).length)
        | _ => ([], rest)
      let (exp, rest) : Int × List Char := match rest with
        | e :: more =>
          if e == 'p' || e == 'P' then (exponentOf more).getD (0, rest) else (0, rest)
        | [] => (0, rest)
      let digits := (whole ++ frac).foldl (fun n c => 16 * n + (hexValue? c).getD 0) 0
      (unitOf rest).bind fun unit =>
        if neg && digits != 0 then none
        else some (scaledMicros digits unit 2 (exp - 4 * frac.length)
          (exp + 4 * whole.length > 16400))
    else
      let whole := cs.takeWhile Char.isDigit
      let rest := cs.drop whole.length
      let (frac, rest) := match rest with
        | '.' :: more => (more.takeWhile Char.isDigit, more.drop (more.takeWhile Char.isDigit).length)
        | _ => ([], rest)
      if whole.isEmpty && frac.isEmpty then none
      else
        let (exp, rest) : Int × List Char := match rest with
          | e :: more =>
            if e == 'e' || e == 'E' then (exponentOf more).getD (0, rest) else (0, rest)
          | [] => (0, rest)
        let digits := (String.ofList (whole ++ frac)).toNat?.getD 0
        (unitOf rest).bind fun unit =>
          if neg && digits != 0 then none
          else some (scaledMicros digits unit 10 (exp - frac.length) (exp > 4940))

def sleepTool (c : ToolCall) : ToolRun :=
  let r := c.options { longs := aboutLongs }
  match askedAbout r.opts, r.bad with
  | some w, _ => aboutRun c "sleep" w
  | none, some m => usageFailure c m 1
  | none, none =>
    if r.operands.isEmpty then usageFailure c "missing operand" 1
    else
      let bad := r.operands.filter fun a => (intervalOf a).isNone
      if !bad.isEmpty then
        failWith (String.join (bad.map fun a =>
          c.name ++ ": invalid time interval " ++ localeQuote c.env a ++ "\n") ++
          "Try '" ++ c.name ++ " --help' for more information.\n") 1
      else
        let parts := r.operands.filterMap intervalOf
        if parts.contains .forever then { endless := true }
        else { wait := parts.foldl (fun n i => match i with
          | .micros m => n + m
          | .forever => n) 0 }

end BuildGate.Host
