import BuildGate.Host.Tools.SortKey
import BuildGate.Text.CellWidth

namespace BuildGate.Host

def knownLocales : List String := ["C", "POSIX", "C.UTF-8", "C.utf8"]

def askedLocales (env : Env) : List String :=
  let nonEmpty (v : Option String) : Option String := v.filter (!·.isEmpty)
  match nonEmpty (env.get? "LC_ALL") with
  | some l => [l]
  | none =>
    ["LANG", "LC_COLLATE", "LC_CTYPE", "LC_MESSAGES", "LC_NUMERIC", "LC_TIME",
      "LC_MONETARY"].filterMap fun n => nonEmpty (env.get? n)

def collateLocale (env : Env) : Option String :=
  [env.get? "LC_ALL", env.get? "LC_COLLATE", env.get? "LANG"].findSome? fun v =>
    v.filter (!·.isEmpty)

/-- The note on how text is ordered: by bytes in the `C` locale or when the locale asked for
cannot be set (which is said first), and by the rules of any other locale. -/
def orderingNotes (env : Env) : List String :=
  let simple := "text ordering performed using simple byte comparison"
  if (askedLocales env).any (!knownLocales.contains ·) then ["failed to set locale", simple]
  else
    match collateLocale env with
    | some l =>
      if l == "C" || l == "POSIX" then [simple]
      else ["text ordering performed using " ++ localeQuote env l ++ " sorting rules"]
    | none => [simple]

def KeyOrder.numericKind (o : KeyOrder) : Bool := o.numeric || o.general || o.human

def KeyOrder.textual (o : KeyOrder) : Bool :=
  !(o.dictionary || o.printable || o.fold || o.blanksStart || o.blanksEnd || o.numericKind ||
    o.month || o.version || o.random)

/-- The warnings about keys, from the first key, numbered from one: `keys` are the keys
sorted by, `alone` says the global options make the only key, `global` are the options given
outside keys, and `tab` the field separator. -/
def keyWarnings (env : Env) (keys : List SortKey) (alone : Bool) (global : KeyOrder)
    (tab : Option UInt8) (stable unique : Bool) : List String :=
  let step (acc : List String × KeyOrder × Bool × Bool × Bool × Bool) (p : SortKey × Nat) :=
    let (out, unused, basic, general, basicSpan, generalSpan) := acc
    let (k, i) := p
    let o := k.order
    let num := toString (i + 1)
    let zeroWidth := match k.start, k.stop with
      | some (s, _), some (e, _) => e < s
      | _, _ => false
    let startChar := (k.start.map (·.2)).getD 0
    let stopChar := (k.stop.map (·.2)).getD 0
    let lineOffset := match k.stop with
      | some (0, c) => c != 0
      | _ => false
    let implicitSkip := o.numericKind || o.month
    let out := if zeroWidth then out ++ ["key " ++ num ++ " has zero width and will be ignored"]
      else out
    let blanks := !zeroWidth && !alone && tab.isNone && !lineOffset &&
      ((!o.blanksStart && !implicitSkip) || (!o.blanksStart && startChar != 0) ||
        (!o.blanksEnd && stopChar != 0))
    let out := if blanks then
        out ++ ["leading blanks are significant in key " ++ num ++ "; consider also specifying 'b'"]
      else out
    let spans := !alone && o.numericKind &&
      (k.stop.isNone || (k.start.map (·.1 + 1)).getD 1 < (k.stop.map (·.1 + 1)).getD 0)
    let out := if spans then out ++ ["key " ++ num ++ " is numeric and spans multiple fields"]
      else out
    let unused : KeyOrder :=
      { blanksStart := unused.blanksStart && !o.blanksStart,
        blanksEnd := unused.blanksEnd && !o.blanksEnd,
        dictionary := unused.dictionary && !o.dictionary,
        printable := unused.printable && !o.printable,
        fold := unused.fold && !o.fold, general := unused.general && !o.general,
        human := unused.human && !o.human, month := unused.month && !o.month,
        numeric := unused.numeric && !o.numeric, random := unused.random && !o.random,
        reverse := unused.reverse && !o.reverse, version := unused.version && !o.version }
    (out, unused, basic || o.numeric || o.human, general || o.general,
      basicSpan || (spans && !o.general), generalSpan || (spans && o.general))
  let (out, unused, basic, general, basicSpan, generalSpan) :=
    (keys.zip (List.range keys.length)).foldl step ([], global, false, false, false, false)
  let sepNote := if basicSpan || generalSpan then
      match tab with
      | some 46 => some (true, "field separator " ++ localeQuote env "." ++
          " is treated as a decimal point in numbers")
      | some 45 => some (false, "field separator " ++ localeQuote env "-" ++
          " is treated as a minus sign in numbers")
      | some 43 => if generalSpan then some (false, "field separator " ++ localeQuote env "+" ++
          " is treated as a plus sign in numbers") else none
      | _ => none
    else none
  let out := out ++ (sepNote.map (·.2)).toList
  let warned := (sepNote.map (·.1)).getD false
  let out := if (basic || general) && !warned then
      out ++ [(if tab == some 46 then "" else "note ") ++ "numbers use " ++ localeQuote env "." ++
        " as a decimal point in this locale"]
    else out
  let ordered := stable || unique
  let out := if !unused.textual || (unused.reverse && ordered && !keys.isEmpty) then
      let letters := { unused with reverse := unused.reverse && ordered }.letters
      out ++ [if letters.length > 1 then "options '-" ++ letters ++ "' are ignored"
        else "option '-" ++ letters ++ "' is ignored"]
    else out
  if unused.reverse && !ordered && !keys.isEmpty then
    out ++ ["option '-r' only applies to last-resort comparison"]
  else out

def debugWidth (utf8 : Bool) (bs : List UInt8) : Nat :=
  let tabs := bs.count 9
  if utf8 then
    (utf8Codes (bs.length + 1) bs).foldl (fun n code =>
      match code with
      | some c => n + Text.charCells (Char.ofNat c)
      | none => n + 1) tabs
  else bs.foldl (fun n b => if b < 32 || b == 127 then n else n + 1) tabs

def numberLength (bs : List UInt8) : Option Nat :=
  let whole := bs.takeWhile isDigitByte
  match bs.drop whole.length with
  | 46 :: more =>
    let frac := more.takeWhile isDigitByte
    if whole.isEmpty && frac.isEmpty then none else some (whole.length + 1 + frac.length)
  | _ => if whole.isEmpty then none else some whole.length

def exponentLength (bs : List UInt8) : Option Nat :=
  let (sign, rest) := match bs with
    | 43 :: more | 45 :: more => (1, more)
    | _ => (0, bs)
  let ds := rest.takeWhile isDigitByte
  if ds.isEmpty then none else some (sign + ds.length)

def isHexByte (b : UInt8) : Bool := (digitIn 16 b).isSome

def startsWithWord (bs : List UInt8) (word : String) : Bool :=
  let w := word.toUTF8.toList
  (bs.take w.length).map (fun c => if 65 ≤ c && c ≤ 90 then c + 32 else c) == w

def floatLength (bs : List UInt8) : Option Nat :=
  let (sign, rest) := match bs with
    | 43 :: more | 45 :: more => (1, more)
    | _ => (0, bs)
  let body : Option Nat :=
    if startsWithWord rest "infinity" then some 8
    else if startsWithWord rest "inf" then some 3
    else if startsWithWord rest "nan" then
      match rest.drop 3 with
      | 40 :: more =>
        let inside := more.takeWhile fun c => isDigitByte c || isLetterByte c || c == 95
        if (more.drop inside.length).head? == some 41 then some (3 + inside.length + 2)
        else some 3
      | _ => some 3
    else
      let hex := match rest with
        | 48 :: x :: d :: more =>
          (x == 120 || x == 88) && (isHexByte d || (d == 46 && (more.head?.any isHexByte)))
        | _ => false
      let (skip, isDigit, expLetter) : Nat × (UInt8 → Bool) × (UInt8 → Bool) :=
        if hex then (2, isHexByte, fun c => c == 112 || c == 80)
        else (0, isDigitByte, fun c => c == 101 || c == 69)
      let digits := rest.drop skip
      let whole := digits.takeWhile isDigit
      let (mantissa, after) := match digits.drop whole.length with
        | 46 :: more =>
          let frac := more.takeWhile isDigit
          (whole.length + 1 + frac.length, more.drop frac.length)
        | other => (whole.length, other)
      if mantissa == 0 || (mantissa == 1 && whole.isEmpty) then none
      else
        let expo := match after with
          | c :: more => if expLetter c then ((exponentLength more).map (· + 1)).getD 0 else 0
          | [] => 0
        some (skip + mantissa + expo)
  body.map (sign + ·)

def debugSpan (tab : Option UInt8) (key : Option SortKey) (line : List UInt8) : Nat × Nat :=
  match key with
  | none => (0, line.length)
  | some k =>
    let o := k.order
    let beg := if k.start.isSome then keyStart tab k line else 0
    let lim := if k.stop.isSome then keyStop tab k line else line.length
    if (o.blanksStart && k.start.isNone) || o.month || o.numericKind then
      let beg := beg + ((line.drop beg).takeWhile isSortBlank).length
      if lim < beg then (beg, lim)
      else
        let body := (line.take lim).drop beg
        if o.month then (beg, if monthOf body != 0 then beg + 3 else beg)
        else if o.general then (beg, beg + (floatLength body).getD 0)
        else if o.numeric || o.human then
          let sign := if body.head? == some 45 then 1 else 0
          match numberLength (body.drop sign) with
          | some n =>
            let stop := beg + sign + n
            let unit := o.human && ((line.take lim).drop stop).head?.any fun c =>
              "KMGTPEZYRQk".toList.contains (Char.ofNat c.toNat)
            (beg, if unit then stop + 1 else stop)
          | none => (beg, beg)
        else (beg, lim)
    else (beg, lim)

def debugMark (utf8 : Bool) (tab : Option UInt8) (key : Option SortKey) (line : List UInt8) :
    List UInt8 :=
  let (beg, stop) := debugSpan tab key line
  let offset := debugWidth utf8 (line.take beg)
  let width := if stop ≤ beg then 0 else debugWidth utf8 ((line.take stop).drop beg)
  List.replicate offset 32 ++
    (if width == 0 then "^ no match for key".toUTF8.toList else List.replicate width 95) ++ [10]

/-- A line as `--debug` writes it, with the marks of its keys after it: a tab shows as `>`, and
the whole line is marked last unless the sort is stable or unique. -/
def debugLine (utf8 : Bool) (tab : Option UInt8) (keys : List SortKey) (lastResort : Bool)
    (line : List UInt8) : List UInt8 :=
  let shown := line.map fun b => if b == 9 then 62 else b
  let marks := if keys.isEmpty then debugMark utf8 tab none line
    else (keys.flatMap fun k => debugMark utf8 tab (some k) line) ++
      (if lastResort then debugMark utf8 tab none line else [])
  shown ++ [10] ++ marks

end BuildGate.Host
