import BuildGate.Host.Tools.About

namespace BuildGate.Host

/-- How a key is ordered: the option letters that may follow a key's position. -/
structure KeyOrder where
  blanksStart : Bool := false
  blanksEnd : Bool := false
  dictionary : Bool := false
  printable : Bool := false
  fold : Bool := false
  general : Bool := false
  human : Bool := false
  month : Bool := false
  numeric : Bool := false
  random : Bool := false
  reverse : Bool := false
  version : Bool := false
  deriving Repr, BEq, Inhabited

/-- The order with one more option letter, or nothing when the letter is not one of them;
`b` sets the blanks of the start, the end, or both. -/
def KeyOrder.add (o : KeyOrder) (start stop : Bool) (c : Char) : Option KeyOrder :=
  match c with
  | 'b' => some { o with blanksStart := o.blanksStart || start, blanksEnd := o.blanksEnd || stop }
  | 'd' => some { o with dictionary := true }
  | 'f' => some { o with fold := true }
  | 'g' => some { o with general := true }
  | 'h' => some { o with human := true }
  | 'i' => some { o with printable := true }
  | 'M' => some { o with month := true }
  | 'n' => some { o with numeric := true }
  | 'R' => some { o with random := true }
  | 'r' => some { o with reverse := true }
  | 'V' => some { o with version := true }
  | _ => none

def KeyOrder.plain (o : KeyOrder) : Bool :=
  !(o.blanksStart || o.blanksEnd || o.dictionary || o.printable || o.fold || o.general ||
    o.human || o.month || o.numeric || o.random || o.version)

def KeyOrder.letters (o : KeyOrder) : String :=
  String.ofList ([(o.blanksStart || o.blanksEnd, 'b'), (o.dictionary, 'd'), (o.fold, 'f'),
    (o.general, 'g'), (o.human, 'h'), (o.printable && !o.dictionary, 'i'), (o.month, 'M'),
    (o.numeric, 'n'), (o.random, 'R'), (o.reverse, 'r'), (o.version, 'V')].filterMap
    fun (on, c) => if on then some c else none)

def KeyOrder.clashes (o : KeyOrder) : Bool :=
  let count := [o.numeric, o.general, o.human, o.month,
    o.version || o.random || o.dictionary || o.printable].countP id
  count > 1

/-- A key: where it starts (a field and a character offset, both from zero; none for the
start of the line), where it ends (a field from zero and a character count, zero for the
whole field; none for the end of the line), and how it is ordered. -/
structure SortKey where
  start : Option (Nat × Nat) := none
  stop : Option (Nat × Nat) := none
  order : KeyOrder := {}
  deriving Repr, Inhabited

def isSortBlank (b : UInt8) : Bool := b == 32 || b == 9 || b == 10

def skipField (tab : Option UInt8) (rest : List UInt8) : List UInt8 :=
  match tab with
  | some t =>
    match rest.dropWhile (· != t) with
    | _ :: after => after
    | [] => []
  | none => (rest.dropWhile isSortBlank).dropWhile (!isSortBlank ·)

def skipFields (tab : Option UInt8) : Nat → List UInt8 → List UInt8
  | 0, rest => rest
  | _ + 1, [] => []
  | n + 1, rest => skipFields tab n (skipField tab rest)

def keyStart (tab : Option UInt8) (k : SortKey) (line : List UInt8) : Nat :=
  match k.start with
  | none =>
    if k.order.blanksStart then (line.takeWhile isSortBlank).length else 0
  | some (field, offset) =>
    let rest := skipFields tab field line
    let rest := if k.order.blanksStart then rest.dropWhile isSortBlank else rest
    min line.length (line.length - rest.length + offset)

def skipEndFields (tab : Option UInt8) (pass : Bool) : Nat → List UInt8 → List UInt8
  | 0, rest => rest
  | _ + 1, [] => []
  | n + 1, rest =>
    match tab with
    | some t =>
      let upto := rest.dropWhile (· != t)
      match upto with
      | _ :: after => if n == 0 && !pass then upto else skipEndFields tab pass n after
      | [] => []
    | none => skipEndFields tab pass n (skipField none rest)

def keyStop (tab : Option UInt8) (k : SortKey) (line : List UInt8) : Nat :=
  match k.stop with
  | none => line.length
  | some (field, chars) =>
    let fields := if chars == 0 then field + 1 else field
    let rest := skipEndFields tab (chars != 0) fields line
    if chars == 0 then line.length - rest.length
    else
      let rest := if k.order.blanksEnd then rest.dropWhile isSortBlank else rest
      min line.length (line.length - rest.length + chars)

def keyBytes (tab : Option UInt8) (k : SortKey) (line : List UInt8) : List UInt8 :=
  let b := keyStart tab k line
  let e := max b (keyStop tab k line)
  let text := (line.drop b).take (e - b)
  let isAlnum (c : UInt8) := (48 ≤ c && c ≤ 57) || (65 ≤ c && c ≤ 90) || (97 ≤ c && c ≤ 122)
  let text := if k.order.dictionary then text.filter fun c => isAlnum c || isSortBlank c
    else if k.order.printable then text.filter fun c => 32 ≤ c && c < 127
    else text
  if k.order.fold then text.map fun c => if 97 ≤ c && c ≤ 122 then c - 32 else c else text

def bytesCompare : List UInt8 → List UInt8 → Ordering
  | [], [] => .eq
  | [], _ :: _ => .lt
  | _ :: _, [] => .gt
  | a :: as, b :: bs => if a == b then bytesCompare as bs else compare a b

def isDigitByte (b : UInt8) : Bool := 48 ≤ b && b ≤ 57

def numericKey (key : List UInt8) : Bool × List UInt8 × List UInt8 :=
  let rest := key.dropWhile isSortBlank
  let (neg, rest) := match rest with
    | 45 :: more => (true, more)
    | _ => (false, rest)
  let whole := rest.takeWhile isDigitByte
  let frac := match rest.drop whole.length with
    | 46 :: more => more.takeWhile isDigitByte
    | _ => []
  let whole := whole.dropWhile (· == 48)
  let frac := (frac.reverse.dropWhile (· == 48)).reverse
  (neg && !(whole.isEmpty && frac.isEmpty), whole, frac)

def numericCompare (a b : List UInt8) : Ordering :=
  let (na, wa, fa) := numericKey a
  let (nb, wb, fb) := numericKey b
  let magnitude :=
    if wa.length != wb.length then compare wa.length wb.length
    else (bytesCompare wa wb).then (bytesCompare fa fb)
  match na, nb with
  | false, false => magnitude
  | true, true => magnitude.swap
  | true, false => .lt
  | false, true => .gt

def unitOrder (key : List UInt8) : Int :=
  let rest := key.dropWhile isSortBlank
  let (neg, rest) := match rest with
    | 45 :: more => (true, more)
    | _ => (false, rest)
  let whole := rest.takeWhile isDigitByte
  let rest := rest.drop whole.length
  let (frac, rest) := match rest with
    | 46 :: more => (more.takeWhile isDigitByte, more.drop (more.takeWhile isDigitByte).length)
    | _ => ([], rest)
  let nonzero := (whole ++ frac).any (· != 48)
  let order : Int := match rest.head? with
    | some 75 | some 107 => 1 | some 77 => 2 | some 71 => 3 | some 84 => 4 | some 80 => 5
    | some 69 => 6 | some 90 => 7 | some 89 => 8 | some 82 => 9 | some 81 => 10 | _ => 0
  if nonzero then (if neg then -order else order) else 0

def humanCompare (a b : List UInt8) : Ordering :=
  (compare (unitOrder a) (unitOrder b)).then (numericCompare a b)

def monthOf (key : List UInt8) : Nat :=
  let name := ((key.dropWhile isSortBlank).take 3).map fun c =>
    if 97 ≤ c && c ≤ 122 then c - 32 else c
  let months := ["JAN", "FEB", "MAR", "APR", "MAY", "JUN", "JUL", "AUG", "SEP", "OCT", "NOV",
    "DEC"]
  match (months.zip (List.range 12)).find? (fun (m, _) => m.toUTF8.toList == name) with
  | some (_, i) => i + 1
  | none => 0

/-- A value of floating-point text: not a number, an infinity, or a rational. -/
inductive FloatValue where
  | nan
  | infinite (negative : Bool)
  | finite (num : Int) (den : Nat)
  deriving Repr, Inhabited

def digitsValue (base : Nat) (ds : List Nat) : Nat := ds.foldl (fun v d => v * base + d) 0

def digitIn (base : Nat) (b : UInt8) : Option Nat :=
  let n := b.toNat
  let v := if 48 ≤ n && n ≤ 57 then n - 48
    else if 97 ≤ n && n ≤ 102 then n - 87
    else if 65 ≤ n && n ≤ 70 then n - 55 else 99
  if v < base then some v else none

def readExponent (rest : List UInt8) : Option (Int × List UInt8) :=
  let (neg, body) := match rest with
    | 45 :: more => (true, more)
    | 43 :: more => (false, more)
    | _ => (false, rest)
  let ds := body.takeWhile isDigitByte
  if ds.isEmpty then none
  else
    let v : Int := (digitsValue 10 (ds.map fun d => d.toNat - 48) : Nat)
    some (if neg then -v else v, body.drop ds.length)

def floatLimit : Int := 4940

/-- A rational from a mantissa and a power of a base, or an infinity or zero when the power
is past what the widest floating type holds. -/
def scaled (neg : Bool) (m : Nat) (base : Nat) (power : Int) (digits : Nat) : FloatValue :=
  let top : Int := power * (if base == 2 then 3 else 10) / 10 + digits
  if m == 0 then .finite 0 1
  else if top > floatLimit then .infinite neg
  else if top < -floatLimit - 20 then .finite 0 1
  else
    let sign : Int := if neg then -1 else 1
    if power ≥ 0 then .finite (sign * (m * Nat.pow base power.toNat : Nat)) 1
    else .finite (sign * m) (Nat.pow base (-power).toNat)

def floatValue (key : List UInt8) : Option FloatValue :=
  let rest := key.dropWhile fun b => b == 32 || (9 ≤ b && b ≤ 13)
  let (neg, rest) := match rest with
    | 45 :: more => (true, more)
    | 43 :: more => (false, more)
    | _ => (false, rest)
  let lower := rest.map fun c => if 65 ≤ c && c ≤ 90 then c + 32 else c
  let starts (w : String) := w.toUTF8.toList.isPrefixOf lower
  if starts "inf" then some (.infinite neg)
  else if starts "nan" then some .nan
  else
    let hex := match rest with
      | 48 :: x :: more => if x == 120 || x == 88 then some more else none
      | _ => none
    let decimal : Unit → Option FloatValue := fun _ =>
      let whole := rest.takeWhile isDigitByte
      let after := rest.drop whole.length
      let (frac, after) := match after with
        | 46 :: more => (more.takeWhile isDigitByte, more.drop (more.takeWhile isDigitByte).length)
        | _ => ([], after)
      if whole.isEmpty && frac.isEmpty then none
      else
        let exp : Int := match after with
          | 101 :: more | 69 :: more => ((readExponent more).map (·.1)).getD 0
          | _ => 0
        let ds := (whole ++ frac).map fun d => d.toNat - 48
        let ds := ds.dropWhile (· == 0)
        some (scaled neg (digitsValue 10 ds) 10 (exp - frac.length)
          (ds.length - frac.length))
    match hex with
    | some body =>
      let whole := body.takeWhile (digitIn 16 · |>.isSome)
      let after := body.drop whole.length
      let (frac, after) := match after with
        | 46 :: more =>
          let f := more.takeWhile (digitIn 16 · |>.isSome)
          (f, more.drop f.length)
        | _ => ([], after)
      if whole.isEmpty && frac.isEmpty then some (.finite 0 1)
      else
        let exp : Int := match after with
          | 112 :: more | 80 :: more => ((readExponent more).map (·.1)).getD 0
          | _ => 0
        let ds := (whole ++ frac).filterMap (digitIn 16)
        some (scaled neg (digitsValue 16 ds) 2 (exp - 4 * frac.length) (whole.length + 1))
    | none => decimal ()

def generalCompare (a b : List UInt8) : Ordering :=
  let rank : FloatValue → Nat
    | .nan => 0
    | .infinite true => 1
    | .finite .. => 2
    | .infinite false => 3
  match floatValue a, floatValue b with
  | none, none => .eq
  | none, some _ => .lt
  | some _, none => .gt
  | some (.finite n1 d1), some (.finite n2 d2) => compare (n1 * d2) (n2 * d1)
  | some x, some y => compare (rank x) (rank y)

def isLetterByte (c : UInt8) : Bool := (65 ≤ c && c ≤ 90) || (97 ≤ c && c ≤ 122)

def prefixLength (s : List UInt8) : Nat :=
  let n := s.length
  let at_ (i : Nat) := s.getD i 0
  let rec suffixEnd : Nat → Nat → Nat
    | 0, i => i
    | fuel + 1, i =>
      if i + 1 < n && at_ i == 46 && (isLetterByte (at_ (i + 1)) || at_ (i + 1) == 126) then
        let j := i + 2
        let k := j + ((s.drop j).takeWhile fun c =>
          isLetterByte c || isDigitByte c || c == 126).length
        suffixEnd fuel k
      else i
  let rec go : Nat → Nat → Nat → Nat
    | 0, _, p => p
    | fuel + 1, i, p =>
      if i ≥ n then p
      else
        let i := i + 1
        go fuel (suffixEnd (n + 1) i) i
  go (n + 1) 0 0

def versionWeight (c : Option UInt8) : Int :=
  match c with
  | none => 0
  | some c =>
    if isDigitByte c then 0
    else if isLetterByte c then c.toNat
    else if c == 126 then -1
    else c.toNat + 256

def versionRuns : Nat → List UInt8 → List UInt8 → Int
  | 0, _, _ => 0
  | _ + 1, [], [] => 0
  | fuel + 1, a, b =>
    let nonDigitA := a.head?.any (!isDigitByte ·)
    let nonDigitB := b.head?.any (!isDigitByte ·)
    if nonDigitA || nonDigitB then
      let wa := versionWeight a.head?
      let wb := versionWeight b.head?
      if wa != wb then wa - wb else versionRuns fuel (a.drop 1) (b.drop 1)
    else
      let a := a.dropWhile (· == 48)
      let b := b.dropWhile (· == 48)
      let da := a.takeWhile isDigitByte
      let db := b.takeWhile isDigitByte
      let common := min da.length db.length
      let first := ((da.zip db).find? fun (x, y) => x != y).map fun (x, y) =>
        (x.toNat : Int) - y.toNat
      if da.length > common then 1
      else if db.length > common then -1
      else
        match first with
        | some d => d
        | none => versionRuns fuel (a.drop da.length) (b.drop db.length)

def versionCompare (a b : List UInt8) : Ordering :=
  let run (x y : List UInt8) : Int := versionRuns (x.length + y.length + 1) x y
  let byValue (d : Int) : Ordering := compare d 0
  match a, b with
  | [], [] => .eq
  | [], _ => .lt
  | _, [] => .gt
  | 46 :: ra, 46 :: rb =>
    if ra.isEmpty || rb.isEmpty then compare ra.length rb.length |>.then .eq
    else if ra == [46] then (if rb == [46] then .eq else .lt)
    else if rb == [46] then .gt
    else
      let pa := prefixLength a
      let pb := prefixLength b
      let first := run (a.take pa) (b.take pb)
      if first != 0 || (pa == a.length && pb == b.length) then byValue first
      else byValue (run a b)
  | 46 :: _, _ => .lt
  | _, 46 :: _ => .gt
  | _, _ =>
    let pa := prefixLength a
    let pb := prefixLength b
    let first := run (a.take pa) (b.take pb)
    if first != 0 || (pa == a.length && pb == b.length) then byValue first
    else byValue (run a b)

def KeyOrder.compareKeys (o : KeyOrder) (a b : List UInt8) : Ordering :=
  let c :=
    if o.numeric then numericCompare a b
    else if o.general then generalCompare a b
    else if o.human then humanCompare a b
    else if o.month then compare (monthOf a) (monthOf b)
    else if o.version then versionCompare a b
    else bytesCompare a b
  if o.reverse then c.swap else c

def compareByKeys (tab : Option UInt8) (keys : List SortKey) (a b : List UInt8) : Ordering :=
  keys.foldl (fun acc k =>
    if acc != .eq then acc
    else k.order.compareKeys (keyBytes tab k a) (keyBytes tab k b)) .eq

end BuildGate.Host
