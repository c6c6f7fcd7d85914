import BuildGate.Host.Tools.About

namespace BuildGate.Host

/-- An element of a set. -/
inductive TrItem where
  | byte (b : UInt8)
  | range (lo hi : UInt8)
  | cls (name : String)
  | equiv (b : UInt8)
  | repeatByte (b : UInt8) (count : Option Nat)
  deriving Repr, BEq, Inhabited

def trUnescape : Nat → List Char → List (UInt8 × Bool) × List String
  | 0, _ => ([], [])
  | _ + 1, [] => ([], [])
  | fuel + 1, '\\' :: rest =>
    match rest with
    | [] => ([(92, false)], ["warning: an unescaped backslash at end of string is not portable"])
    | d :: more =>
      let octal (ds : List Char) : Nat := ds.foldl (fun v c => v * 8 + (c.toNat - 48)) 0
      let (bs, after, notes) : List UInt8 × List Char × List String :=
        if Shell.isOctal d then
          let ds := (rest.take 3).takeWhile Shell.isOctal
          if ds.length == 3 && octal ds > 255 then
            let two := ds.take 2
            ([(octal two).toUInt8], rest.drop 2,
              ["warning: the ambiguous octal escape \\" ++ String.ofList ds ++
                " is being interpreted as the 2-byte sequence \\0" ++ String.ofList two ++
                ", " ++ (ds.getD 2 '0').toString])
          else ([(octal ds).toUInt8], rest.drop ds.length, [])
        else
          let e : List UInt8 := match d with
            | 'a' => [7] | 'b' => [8] | 'f' => [12] | 'n' => [10] | 'r' => [13] | 't' => [9]
            | 'v' => [11] | other => Shell.charBytes other
          (e, more, [])
      let (tail, later) := trUnescape fuel after
      (bs.map (·, true) ++ tail, notes ++ later)
  | fuel + 1, c :: rest =>
    let (tail, later) := trUnescape fuel rest
    ((Shell.charBytes c).map (·, false) ++ tail, later)

def trClasses : List String :=
  ["alnum", "alpha", "blank", "cntrl", "digit", "graph", "lower", "print", "punct", "space",
   "upper", "xdigit"]

def inTrClass (name : String) (b : UInt8) : Bool :=
  let n := b.toNat
  let upper := 65 ≤ n && n ≤ 90
  let lower := 97 ≤ n && n ≤ 122
  let digit := 48 ≤ n && n ≤ 57
  match name with
  | "alnum" => upper || lower || digit
  | "alpha" => upper || lower
  | "blank" => n == 32 || n == 9
  | "cntrl" => n < 32 || n == 127
  | "digit" => digit
  | "graph" => 33 ≤ n && n ≤ 126
  | "lower" => lower
  | "print" => 32 ≤ n && n ≤ 126
  | "punct" => 33 ≤ n && n ≤ 126 && !(upper || lower || digit)
  | "space" => n == 32 || (9 ≤ n && n ≤ 13)
  | "upper" => upper
  | _ => digit || (65 ≤ n && n ≤ 70) || (97 ≤ n && n ≤ 102)

def trShown (b : UInt8) : String :=
  match b with
  | 7 => "\\a" | 8 => "\\b" | 9 => "\\t" | 10 => "\\n" | 11 => "\\v" | 12 => "\\f"
  | 13 => "\\r" | 92 => "\\\\"
  | _ =>
    if 32 ≤ b && b < 127 then (Char.ofNat b.toNat).toString
    else
      let ds := String.ofList (Nat.toDigits 8 b.toNat)
      "\\" ++ String.ofList (List.replicate (3 - ds.length) '0') ++ ds

def trText (bs : List (UInt8 × Bool)) : String := String.join (bs.map (trShown ·.1))

def repeatCount (ds : List UInt8) : Option Nat :=
  let cs := ds.map fun b => Char.ofNat b.toNat
  if cs.isEmpty then some 0
  else if !cs.all Char.isDigit then none
  else if cs.headD ' ' == '0' then
    if cs.all Shell.isOctal then some (cs.foldl (fun v c => v * 8 + (c.toNat - 48)) 0) else none
  else some (cs.foldl (fun v c => v * 10 + (c.toNat - 48)) 0)

def trItems : Nat → List (UInt8 × Bool) → Except String (List TrItem)
  | 0, _ => .ok []
  | _ + 1, [] => .ok []
  | fuel + 1, bs =>
    let plain (rest : List (UInt8 × Bool)) : Except String (List TrItem) :=
      match bs with
      | (a, _) :: (45, false) :: (z, _) :: after =>
        if a > z then
          .error ("range-endpoints of '" ++ trShown a ++ "-" ++ trShown z ++
            "' are in reverse collating sequence order")
        else do
          let more ← trItems fuel after
          pure (.range a z :: more)
      | (a, _) :: after => do
        let more ← trItems fuel after
        pure (.byte a :: more)
      | [] => let _ := rest; .ok []
    if bs.length < 3 then .ok (bs.map (TrItem.byte ·.1))
    else
      match bs with
      | (91, false) :: (d, false) :: inner =>
        -- `[:name:]` and `[=c=]`
        let closing := if d == 58 || d == 61 then
            (List.range inner.length).find? fun i =>
              match inner.drop i with
              | (x, false) :: (93, false) :: _ => x == d
              | _ => false
          else none
        let repeatTry : Option (Except String (TrItem × List (UInt8 × Bool))) :=
          -- `[c*n]` or `[c*]`
          match inner with
          | (42, false) :: after =>
            let ds := after.takeWhile fun (b, e) => !(b == 93 && !e)
            match after.drop ds.length with
            | (93, false) :: rest =>
              match repeatCount (ds.map (·.1)) with
              | some n => some (.ok (.repeatByte d (if n == 0 then none else some n), rest))
              | none => some (.error ("invalid repeat count " ++
                  localeQuoteC (trText ds) ++ " in [c*n] construct"))
            | _ => none
          | _ => none
        match closing with
        | some i =>
          let body := inner.take i
          let rest := inner.drop (i + 2)
          if body.isEmpty then
            .error (if d == 58 then "missing character class name '[::]'"
              else "missing equivalence class character '[==]'")
          else if d == 58 then
            let name := String.ofList (body.map fun (b, _) => Char.ofNat b.toNat)
            if trClasses.contains name then do
              let more ← trItems fuel rest
              pure (.cls name :: more)
            else
              match repeatTry with
              | some (.ok (item, after)) => do
                let more ← trItems fuel after
                pure (item :: more)
              | some (.error m) => .error m
              | none => .error ("invalid character class " ++ localeQuoteC (trText body))
          else
            match body with
            | [(b, _)] => do
              let more ← trItems fuel rest
              pure (.equiv b :: more)
            | _ =>
              match repeatTry with
              | some (.ok (item, after)) => do
                let more ← trItems fuel after
                pure (item :: more)
              | some (.error m) => .error m
              | none => .error (trText body ++
                  ": equivalence class operand must be a single character")
        | none =>
          match repeatTry with
          | some (.ok (item, after)) => do
            let more ← trItems fuel after
            pure (item :: more)
          | some (.error m) => .error m
          | none => plain bs
      | _ => plain bs
where
  localeQuoteC (s : String) : String := "'" ++ s ++ "'"

def trExpand (items : List TrItem) (fill : Nat) : List UInt8 :=
  items.flatMap fun
    | .byte b => [b]
    | .equiv b => [b]
    | .range lo hi => (List.range (hi.toNat - lo.toNat + 1)).map fun i => (lo.toNat + i).toUInt8
    | .cls name => ((List.range 256).map Nat.toUInt8).filter (inTrClass name)
    | .repeatByte b (some n) => List.replicate n b
    | .repeatByte b none => List.replicate fill b

def trSpec : OptionSpec :=
  { shorts := "cCdst".toList.map (·, .noValue),
    longs := [("complement", 'c', .noValue), ("delete", 'd', .noValue),
      ("squeeze-repeats", 's', .noValue), ("truncate-set1", 't', .noValue)] ++ aboutLongs }

def squeezeRuns (set : List UInt8) (bs : List UInt8) : List UInt8 :=
  (bs.foldl (fun (acc : List UInt8) b =>
    match acc with
    | last :: _ => if last == b && set.contains b then acc else b :: acc
    | [] => [b]) []).reverse

def trTool (c : ToolCall) : ToolRun :=
  let r := c.options trSpec
  match askedAbout r.opts, r.bad with
  | some w, _ => aboutRun c "tr" w
  | none, some m => usageFailure c m 1
  | none, none =>
    let has (k : Char) := r.opts.any (·.1 == k)
    let complement := has 'c' || has 'C'
    let delete := has 'd'
    let squeeze := has 's'
    let truncate := has 't'
    let sets := r.operands
    let n := sets.length
    let minOps := if delete == squeeze then 2 else 1
    let maxOps := if delete && !squeeze then 1 else 2
    let fail (m : String) : ToolRun := failWith (c.name ++ ": " ++ m ++ "\n") 1
    if n < minOps then
      if n == 0 then usageFailure c "missing operand" 1
      else usageFailure c ("missing operand after " ++ localeQuote c.env (sets.getLastD "") ++
        "\n" ++ (if squeeze then "Two strings must be given when both deleting and squeezing repeats."
          else "Two strings must be given when translating.")) 1
    else if maxOps < n then
      usageFailure c ("extra operand " ++ localeQuote c.env (sets.getD maxOps "") ++
        (if n == 2 then "\nOnly one string may be given when deleting without squeezing repeats."
         else "")) 1
    else
      let parse (s : String) : Except String (List TrItem) × List String :=
        let (bs, notes) := trUnescape (s.length + 1) s.toList
        (trItems (bs.length + 1) bs, notes)
      let said (notes : List String) : List UInt8 :=
        textBytes (String.join (notes.map (c.name ++ ": " ++ · ++ "\n")))
      let (p1, notes1) := parse (sets.headD "")
      match p1 with
      | .error m => (fail m).warnFirst (said notes1)
      | .ok items1 =>
      let (p2, notes2) := if n == 2 then parse (sets.getD 1 "") else (.ok [], [])
      let warnings := said (notes1 ++ notes2)
      let stop (m : String) : ToolRun := (fail m).warnFirst warnings
      match p2 with
      | .error m => stop m
      | .ok items2 =>
        let translating := n == 2 && !delete
        let isRepeat : TrItem → Bool := fun | .repeatByte _ none => true | _ => false
        let isCaseClass : TrItem → Bool := fun
          | .cls "upper" => true | .cls "lower" => true | _ => false
        let isClass : TrItem → Bool := fun | .cls _ => true | _ => false
        let isEquiv : TrItem → Bool := fun | .equiv _ => true | _ => false
        let plain1 := trExpand items1 0
        let set1 := if complement then
            ((List.range 256).map Nat.toUInt8).filter (!plain1.contains ·) else plain1
        let fixedLen := (trExpand items2 0).length
        let fill := set1.length - min set1.length fixedLen
        let set2 := trExpand items2 fill
        -- where each element of a set starts, and whether it is a case class
        let starts (items : List TrItem) (fill : Nat) : List (Nat × Bool) :=
          (items.foldl (fun (acc : List (Nat × Bool) × Nat) it =>
            (acc.1 ++ [(acc.2, isCaseClass it)], acc.2 + (trExpand [it] fill).length)) ([], 0)).1
        let misaligned := !complement && items2.any isClass &&
          (starts items2 fill).any fun (p, isCase) =>
            isCase && p ≤ set1.length && !(starts items1 0).contains (p, true)
        let homogeneous := match set2 with
          | b :: _ => set2.all (· == b)
          | [] => true
        let extended := set2.length + (set1.length - min set1.length set2.length)
        if items1.any isRepeat then stop "the [c*] repeat construct may not appear in string1"
        else if (items2.filter isRepeat).length > 1 then
          stop "only one [c*] repeat construct may appear in string2"
        else if translating && items2.any isEquiv then
          stop "[=c=] expressions may not appear in string2 when translating"
        else if translating && items2.any (fun i => isClass i && !isCaseClass i) then
          stop "when translating, the only character classes that may appear in\nstring2 are 'upper' and 'lower'"
        else if translating && misaligned then
          stop "misaligned [:upper:] and/or [:lower:] construct"
        else if translating && set1.length > set2.length && !truncate && set2.isEmpty then
          stop "when not truncating set1, string2 must be non-empty"
        else if translating && complement && items1.any isClass &&
            !(extended == set1.length && homogeneous) then
          stop "when translating with complemented character classes,\nstring2 must map all characters in the domain to one"
        else if !translating && n == 2 && items2.any isRepeat then
          stop "the [c*] construct may appear in string2 only when translating"
        else
          match c.input with
          | .zeros => { ({} : ToolRun).warn warnings with endless := true }
          | .bytes input =>
            let done (out : List UInt8) : ToolRun :=
              { (({} : ToolRun).warn warnings).say out with reading := .whole }
            if translating then
              let set1 := if truncate then set1.take set2.length else set1
              let pairs := set1.zip (set2 ++ List.replicate (set1.length - set2.length)
                (set2.getLastD 0))
              let mapped := input.map fun b =>
                match (pairs.reverse.find? (·.1 == b)) with
                | some (_, t) => t
                | none => b
              done (if squeeze then squeezeRuns set2 mapped else mapped)
            else if delete then
              let kept := input.filter (!set1.contains ·)
              done (if squeeze then squeezeRuns set2 kept else kept)
            else done (squeezeRuns set1 input)

end BuildGate.Host
