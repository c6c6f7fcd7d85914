import BuildGate.Text.Utf8
import BuildGate.Text.Raw
import BuildGate.Number.Floating
import BuildGate.Number.Text

namespace BuildGate.Shell

def charBytes (c : Char) : List UInt8 := Text.encodeUtf8 c.toString

def isOctal (c : Char) : Bool := '0' ≤ c && c ≤ '7'

def octalRun : Nat → Nat → List Char → Nat × List Char
  | 0, v, cs => (v, cs)
  | n + 1, v, c :: rest =>
    if isOctal c then octalRun n (v * 8 + (c.toNat - '0'.toNat)) rest else (v, c :: rest)
  | _ + 1, v, [] => (v, [])

def hexDigit (c : Char) : Option Nat :=
  if c.isDigit then some (c.toNat - '0'.toNat)
  else if 'a' ≤ c && c ≤ 'f' then some (c.toNat - 'a'.toNat + 10)
  else if 'A' ≤ c && c ≤ 'F' then some (c.toNat - 'A'.toNat + 10)
  else none

def hexRun : Nat → Nat → Nat → List Char → Nat × Nat × List Char
  | 0, v, k, cs => (v, k, cs)
  | n + 1, v, k, c :: rest =>
    match hexDigit c with
    | some d => hexRun n (v * 16 + d) (k + 1) rest
    | none => (v, k, c :: rest)
  | _ + 1, v, k, [] => (v, k, [])

def formatEscape (cs : List Char) : UInt8 × List Char :=
  match cs with
  | '\\' :: rest => (92, rest)
  | 'a' :: rest => (7, rest)
  | 'b' :: rest => (8, rest)
  | 'e' :: rest => (27, rest)
  | 'f' :: rest => (12, rest)
  | 'n' :: rest => (10, rest)
  | 'r' :: rest => (13, rest)
  | 't' :: rest => (9, rest)
  | 'v' :: rest => (11, rest)
  | c :: _ =>
    if isOctal c then
      let (v, rest) := octalRun 3 0 cs
      ((v % 256).toUInt8, rest)
    else (92, cs)
  | [] => (92, [])

def echoBytes : Nat → List Char → List UInt8 × Bool
  | 0, _ => ([], false)
  | _ + 1, [] => ([], false)
  | _ + 1, '\\' :: 'c' :: _ => ([], true)
  | fuel + 1, '\\' :: rest =>
    let rest := match rest with
      | '0' :: d :: more => if isOctal d then d :: more else rest
      | _ => rest
    let (b, after) := formatEscape rest
    let (bs, stop) := echoBytes fuel after
    (b :: bs, stop)
  | fuel + 1, c :: rest =>
    let (bs, stop) := echoBytes fuel rest
    (c.toNat.toUInt8 :: bs, stop)

def echoOutput (args : List String) : List UInt8 :=
  let (newline, args) := match args with
    | "-n" :: rest => (false, rest)
    | _ => (true, args)
  let rec go : List String → List UInt8
    | [] => if newline then [10] else []
    | [a] =>
      let (bs, stop) := echoBytes (a.length + 1) a.toList
      if stop then bs else bs ++ (if newline then [10] else [])
    | a :: rest =>
      let (bs, stop) := echoBytes (a.length + 1) a.toList
      if stop then bs else bs ++ [32] ++ go rest
  go args

def upperHex (width n : Nat) : String :=
  let ds := (String.ofList (Nat.toDigits 16 n)).toUpper
  String.ofList (List.replicate (width - ds.length) '0') ++ ds

def lowerHex (width n : Nat) : String :=
  let ds := String.ofList (Nat.toDigits 16 n)
  String.ofList (List.replicate (width - ds.length) '0') ++ ds

/-- An escape read after its backslash. -/
structure Escaped where
  bytes : List UInt8
  rest : List Char
  stop : Bool := false

def programEscape (utf8 inArg : Bool) (cs : List Char) : Except String Escaped :=
  match cs with
  | 'x' :: rest =>
    let (v, k, after) := hexRun 2 0 0 rest
    if k == 0 then .error "missing hexadecimal number in escape"
    else .ok ⟨[v.toUInt8], after, false⟩
  | 'u' :: rest | 'U' :: rest =>
    let upper := cs.headD 'u' == 'U'
    let width := if upper then 8 else 4
    let (v, k, after) := hexRun width 0 0 rest
    if k < width then .error "missing hexadecimal number in escape"
    else if (v ≤ 0x9f && v != 0x24 && v != 0x40 && v != 0x60) || (0xd800 ≤ v && v ≤ 0xdfff) then
      .error ("invalid universal character name \\" ++ (if upper then "U" else "u") ++
        lowerHex width v)
    else if v < 0x80 || (utf8 && v ≤ 0x10ffff) then
      .ok ⟨charBytes (Char.ofNat v), after, false⟩
    else
      let text := if v < 0x10000 then "\\u" ++ upperHex 4 v else "\\U" ++ upperHex 8 v
      .ok ⟨text.toUTF8.toList, after, false⟩
  | c :: rest =>
    if isOctal c then
      let digits := if inArg && c == '0' then rest else cs
      let (v, after) := octalRun 3 0 digits
      .ok ⟨[(v % 256).toUInt8], after, false⟩
    else
      match c with
      | '"' => .ok ⟨[34], rest, false⟩
      | '\\' => .ok ⟨[92], rest, false⟩
      | 'a' => .ok ⟨[7], rest, false⟩
      | 'b' => .ok ⟨[8], rest, false⟩
      | 'c' => .ok ⟨[], rest, true⟩
      | 'e' => .ok ⟨[27], rest, false⟩
      | 'f' => .ok ⟨[12], rest, false⟩
      | 'n' => .ok ⟨[10], rest, false⟩
      | 'r' => .ok ⟨[13], rest, false⟩
      | 't' => .ok ⟨[9], rest, false⟩
      | 'v' => .ok ⟨[11], rest, false⟩
      | _ => .ok ⟨92 :: charBytes c, rest, false⟩
  | [] => .ok ⟨[92], [], false⟩

def programEscapes (utf8 : Bool) : Nat → List Char → Except String (List UInt8 × Bool)
  | 0, _ => .ok ([], false)
  | _ + 1, [] => .ok ([], false)
  | fuel + 1, '\\' :: rest => do
    let e ← programEscape utf8 true rest
    if e.stop then pure (e.bytes, true)
    else
      let (bs, stop) ← programEscapes utf8 fuel e.rest
      pure (e.bytes ++ bs, stop)
  | fuel + 1, c :: rest => do
    let (bs, stop) ← programEscapes utf8 fuel rest
    pure (charBytes c ++ bs, stop)

def plainInWord (c : Char) : Bool :=
  c.isAlphanum || "%+,-./:@]_{}".toList.contains c

def plainInDoubleQuotes (c : Char) : Bool :=
  plainInWord c || c == ' ' || c == '\'' || c == '#' || c == '~'

def printable (utf8 : Bool) (c : Char) : Bool :=
  let n := c.toNat
  if n < 0x80 then 0x20 ≤ n && n < 0x7f else utf8 && n ≥ 0xa0

def dollarQuoted (cs : List Char) : String :=
  "$'" ++ String.join (cs.flatMap fun c =>
    (charBytes c).map fun b =>
      match b with
      | 7 => "\\a" | 8 => "\\b" | 9 => "\\t" | 10 => "\\n" | 11 => "\\v" | 12 => "\\f"
      | 13 => "\\r"
      | _ =>
        let ds := String.ofList (Nat.toDigits 8 b.toNat)
        "\\" ++ String.ofList (List.replicate (3 - ds.length) '0') ++ ds) ++ "'"

/-- A text quoted so that the shell reads it back as one word: as it is when nothing in it is
special (unless `always`, when it is in single quotes all the same), in double quotes when it
has single quotes and nothing else that double quotes would change, and otherwise in single
quotes, each single quote written `'\''` and each run of characters that cannot be printed
written in `$'...'`. A brace alone is special, as `#` and `~` are at the start. -/
def quoteForShell (utf8 : Bool) (s : String) (always : Bool := false) : String :=
  let cs := s.toList
  let special (i : Nat) (c : Char) : Bool :=
    !(plainInWord c || (i > 0 && (c == '#' || c == '~')) || (c.toNat ≥ 0x80 && printable utf8 c))
      || ((c == '\x7b' || c == '\x7d') && cs.length == 1)
  if cs.isEmpty then "''"
  else if !((List.range cs.length).zip cs).any (fun (i, c) => special i c) then
    if always then "'" ++ s ++ "'" else s
  else if cs.contains '\'' && cs.all (fun c => plainInDoubleQuotes c || (c.toNat ≥ 0x80 && printable utf8 c)) then
    "\"" ++ s ++ "\""
  else
    let runs := cs.splitBy fun a b => printable utf8 a == printable utf8 b
    String.join (runs.map fun run =>
      if run.all (printable utf8) then
        "'" ++ String.join (run.map fun c => if c == '\'' then "'\\''" else c.toString) ++ "'"
      else dollarQuoted run)

/-- The flags, width and precision of a `printf` directive. -/
structure Spec where
  left : Bool := false
  plus : Bool := false
  space : Bool := false
  alt : Bool := false
  zero : Bool := false
  width : Nat := 0
  precision : Option Nat := none
  deriving Repr, Inhabited

/-- A field padded to the width: on the right when left-aligned, else on the left with
`fill`. -/
def pad (sp : Spec) (fill : UInt8) (body : List UInt8) : List UInt8 :=
  let n := sp.width - body.length
  if sp.left then body ++ List.replicate n 32 else List.replicate n fill ++ body

def asciiBytes (s : String) : List UInt8 := s.toList.map fun c => c.toNat.toUInt8

def digitsIn (base : Nat) (upper : Bool) (n : Nat) : String :=
  let s := String.ofList (Nat.toDigits base n)
  if upper then s.toUpper else s

def layNumber (sp : Spec) (sign : String) (digits : String) : List UInt8 :=
  let ds := match sp.precision with
    | some 0 => if digits == "0" then "" else digits
    | some p => String.ofList (List.replicate (p - digits.length) '0') ++ digits
    | none => digits
  let body := sign ++ ds
  if sp.zero && !sp.left && sp.precision.isNone then
    asciiBytes (sign ++ String.ofList (List.replicate (sp.width - body.length) '0') ++ ds)
  else pad sp 32 (asciiBytes body)

/-- How a numeric argument fell short of a number. -/
inductive NumberFault where
  | notNumeric
  | trailing
  | range
  deriving Repr, BEq, Inhabited

/-- A name quoted for a message: `‘x’` in a UTF-8 locale, `'x'` otherwise. Inside the
quotes a backslash and the closing quote are escaped with a backslash, the control characters
that have a C escape (`\n`, `\t`, ...) are written so, and every other character that cannot
be printed is written as three octal digits for each of its bytes. -/
def quoteName (utf8 : Bool) (s : String) : String :=
  let close := if utf8 then '’' else '\''
  let inside := s.toList.map fun c =>
    match c.toNat with
    | 7 => "\\a" | 8 => "\\b" | 9 => "\\t" | 10 => "\\n" | 11 => "\\v" | 12 => "\\f"
    | 13 => "\\r"
    | _ =>
      if c == '\\' then "\\\\"
      else if c == close then "\\" ++ c.toString
      else if printable utf8 c then c.toString
      else String.join ((charBytes c).map fun b =>
        let ds := String.ofList (Nat.toDigits 8 b.toNat)
        "\\" ++ String.ofList (List.replicate (3 - ds.length) '0') ++ ds)
  (if utf8 then "‘" else "'") ++ String.join inside ++ close.toString

/-- Which `printf` reads a format: the shell's, or the program's (in a UTF-8 locale or not). -/
inductive Dialect where
  | shell
  | program (utf8 : Bool)
  deriving Repr, BEq, Inhabited

/-- The bytes a dialect writes for a text: the shell's texts are raw, the program's are
written in UTF-8. -/
def Dialect.textBytes (d : Dialect) (s : String) : List UInt8 :=
  match d with
  | .shell => Raw.bytes s
  | .program _ => Text.encodeUtf8 s

def Dialect.warning (d : Dialect) (arg : String) : NumberFault → String
  | .notNumeric =>
    match d with
    | .shell => arg ++ ": expected numeric value"
    | .program _ => quoteName (d == .program true) arg ++ ": expected a numeric value"
  | .trailing =>
    match d with
    | .shell => arg ++ ": not completely converted"
    | .program _ => quoteName (d == .program true) arg ++ ": value not completely converted"
  | .range =>
    match d with
    | .shell => arg ++ ": Numerical result out of range"
    | .program _ => quoteName (d == .program true) arg ++ ": Numerical result out of range"

/-- An integer read from an argument: its value, the text after it, and whether it was out of
range. -/
structure IntRead where
  value : Int
  tail : Option NumberFault := none
  overflow : Bool := false
  note : Option String := none

def isNumberBlank (c : Char) : Bool :=
  c == ' ' || c == '\t' || c == '\n' || c == '\x0b' || c == '\x0c' || c == '\r'

def readInteger (signed : Bool) (s : String) : IntRead :=
  let cs := s.toList.dropWhile isNumberBlank
  let (neg, cs) := match cs with
    | '-' :: r => (true, r)
    | '+' :: r => (false, r)
    | _ => (false, cs)
  let (base, cs) := match cs with
    | '0' :: 'x' :: r@(d :: _) => if (hexDigit d).isSome then (16, r) else (8, cs)
    | '0' :: 'X' :: r@(d :: _) => if (hexDigit d).isSome then (16, r) else (8, cs)
    | '0' :: _ => (8, cs)
    | _ => (10, cs)
  let ds := cs.takeWhile fun c => (Number.digitValue c).any (· < base)
  let v : Nat := ds.foldl (fun acc c => acc * base + (Number.digitValue c).getD 0) 0
  let rest := cs.drop ds.length
  if ds.isEmpty then { value := 0, tail := if s.isEmpty then none else some .notNumeric }
  else
    let tail := if rest.isEmpty then none else some NumberFault.trailing
    let limit : Nat := if signed then 9223372036854775807 else 18446744073709551615
    if signed then
      if neg then
        if v > limit + 1 then { value := -(limit + 1 : Int), tail, overflow := true }
        else { value := -(v : Int), tail }
      else if v > limit then { value := limit, tail, overflow := true }
      else { value := v, tail }
    else
      if v > limit then { value := limit, tail, overflow := true }
      else if neg && v != 0 then { value := ((18446744073709551616 - v : Nat) : Int), tail }
      else { value := v, tail }

/-- The fault a dialect reports for an integer: the shell reports text after the number
before a range error, the program the other way round. -/
def Dialect.fault (d : Dialect) (r : IntRead) : Option NumberFault :=
  match d with
  | .shell => if r.tail.isSome then r.tail else if r.overflow then some .range else none
  | .program _ => if r.overflow then some .range else r.tail

/-- A numeric argument as a dialect reads it: a leading quote makes the code of the character
after it (its first byte for the shell and outside a UTF-8 locale; the program warns about
characters after it); otherwise `readInteger`. The shell reads a quote alone as 0. -/
def Dialect.integer (d : Dialect) (signed : Bool) (s : String) : IntRead :=
  match s.toList with
  | [q] =>
    if (q == '\'' || q == '"') && d == Dialect.shell then { value := 0 } else readInteger signed s
  | q :: c :: more =>
    if q == '\'' || q == '"' then
      match d with
      | .shell => { value := c.toNat % 256 }
      | .program utf8 =>
        let bs := charBytes c ++ Text.encodeUtf8 (String.ofList more)
        let (v, after) := if utf8 then ((c.toNat : Int), Text.encodeUtf8 (String.ofList more))
          else (((bs.headD 0).toNat : Int), bs.drop 1)
        let note := if after.isEmpty then none
          else some ("warning: " ++ Text.decodeLossy after ++
            ": character(s) following character constant have been ignored")
        { value := v, note }
    else readInteger signed s
  | _ => readInteger signed s

/-- A floating argument as a dialect reads it: the shell's into binary64 as `strtod` reads,
the program's into the extended type as `strtold` reads (`Number.readCNumber`); a leading quote
makes the code of the character after it, as `Dialect.integer` reads it. The value, a note about
the argument, and how it fell short: the shell reports text after the number before a range
error, the program the other way round. -/
def Dialect.float (d : Dialect) (s : String) : Number.CFloat × Option String × Option NumberFault :=
  let quoted := match s.toList with
    | q :: _ :: _ => q == '\'' || q == '"'
    | [q] => (q == '\'' || q == '"') && d == Dialect.shell
    | _ => false
  if quoted then
    let r := d.integer true s
    (.finite (r.value < 0) r.value.natAbs 0, r.note, none)
  else
    match Number.readCNumber s.toList with
    | none => (.finite false 0 0, none, if s.isEmpty then none else some .notNumeric)
    | some (n, rest) =>
      let format := match d with
        | .shell => Number.FloatFormat.double
        | .program _ => Number.FloatFormat.extended
      let (x, range) := n.round format
      let trailing := !rest.isEmpty
      let fault := match d with
        | .shell => if trailing then some .trailing else if range then some .range else none
        | .program _ => if range then some .range else if trailing then some .trailing else none
      (x, none, fault)

def floatField (sp : Spec) (conv : Char) (x : Number.CFloat) : List UInt8 :=
  let p := sp.precision.getD 6
  let s := match conv with
    | 'e' | 'E' => x.scientific p sp.alt
    | 'g' | 'G' => x.general p sp.alt
    | 'a' | 'A' => x.hexExtended sp.precision sp.alt
    | _ =>
      let t := x.fixed p
      if sp.alt && p == 0 && x.isFinite then t ++ "." else t
  let s := if conv.isUpper then s.toUpper else s
  let (sign, body) := if s.startsWith "-" then ("-", (s.drop 1).toString) else
    (if sp.plus then "+" else if sp.space then " " else "", s)
  let (lead, body) := if (conv == 'a' || conv == 'A') && x.isFinite then
      ((body.take 2).toString, (body.drop 2).toString)
    else ("", body)
  if sp.zero && !sp.left && x.isFinite then
    let used := sign.length + lead.length + body.length
    asciiBytes (sign ++ lead ++ String.ofList (List.replicate (sp.width - used) '0') ++ body)
  else pad sp 32 (asciiBytes (sign ++ lead ++ body))

def readFlags : Nat → Spec → List Char → Spec × List Char
  | 0, sp, cs => (sp, cs)
  | fuel + 1, sp, c :: rest =>
    match c with
    | '-' => readFlags fuel { sp with left := true } rest
    | '+' => readFlags fuel { sp with plus := true } rest
    | ' ' => readFlags fuel { sp with space := true } rest
    | '#' => readFlags fuel { sp with alt := true } rest
    | '0' => readFlags fuel { sp with zero := true } rest
    | _ => (sp, c :: rest)
  | _ + 1, sp, [] => (sp, [])

/-- What one pass over a format gives. -/
structure Pass where
  out : List UInt8 := []
  rest : List String := []
  used : Bool := false
  stopped : Bool := false
  warnings : List (Nat × String) := []
  failed : Bool := false
  fatal : Option String := none

def Pass.warn (acc : Pass) (d : Dialect) (arg : String) : Option NumberFault → Pass
  | some f =>
    { acc with warnings := acc.warnings ++ [(acc.out.length, d.warning arg f)], failed := true }
  | none => acc

def Dialect.badDirective (d : Dialect) (text : String) : String :=
  match d with
  | .shell => text ++ ": invalid directive"
  | .program _ => text ++ ": invalid conversion specification"

def flagsRefused (sp : Spec) (conv : Char) : Bool :=
  (sp.alt && "cdisu".toList.contains conv) || (sp.zero && "cs".toList.contains conv) ||
    (sp.precision.isSome && conv == 'c')

def applyDirective (d : Dialect) (sp : Spec) (conv : Char) (arg : Option String) (acc : Pass) :
    Pass :=
  let text := arg.getD ""
  match conv with
  | 's' =>
    let bs := d.textBytes text
    let bs := match sp.precision with
      | some p => bs.take p
      | none => bs
    { acc with out := acc.out ++ pad sp 32 bs }
  | 'q' => { acc with out := acc.out ++ (quoteForShell (d == .program true) text).toUTF8.toList }
  | 'b' =>
    let r : Except String (List UInt8 × Bool) := match d with
      | .shell => .ok (echoBytes (text.length + 1) text.toList)
      | .program utf8 => programEscapes utf8 (text.length + 1) text.toList
    match r with
    | .error m => { acc with fatal := some m }
    | .ok (bs, stop) =>
      let bs := match sp.precision with
        | some p => bs.take p
        | none => bs
      { acc with out := acc.out ++ pad sp 32 bs, stopped := stop }
  | 'c' =>
    let b := (d.textBytes text).headD 0
    { acc with out := acc.out ++ pad sp 32 [b] }
  | 'd' | 'i' =>
    let r : IntRead := match arg with
      | some a => d.integer true a
      | none => { value := 0 }
    let acc := { acc with warnings := acc.warnings ++ r.note.toList.map (acc.out.length, ·) }
    let acc := acc.warn d text (d.fault r)
    let v := r.value
    let sign := if v < 0 then "-" else if sp.plus then "+" else if sp.space then " " else ""
    { acc with out := acc.out ++ layNumber sp sign (toString v.natAbs) }
  | 'o' | 'u' | 'x' | 'X' =>
    let r : IntRead := match arg with
      | some a => d.integer false a
      | none => { value := 0 }
    let acc := { acc with warnings := acc.warnings ++ r.note.toList.map (acc.out.length, ·) }
    let acc := acc.warn d text (d.fault r)
    let n := r.value.toNat
    -- `#` makes the first octal digit a zero: by one more digit of precision when a precision
    -- is given, else by a leading zero
    let sp := match conv, sp.alt, sp.precision with
      | 'o', true, some p =>
        { sp with precision := some (max p ((digitsIn 8 false n).length + (if n == 0 then 0 else 1))) }
      | _, _, _ => sp
    let (ds, pre) := match conv with
      | 'o' => (digitsIn 8 false n, if sp.alt && n != 0 && sp.precision.isNone then "0" else "")
      | 'x' => (digitsIn 16 false n, if sp.alt && n != 0 then "0x" else "")
      | 'X' => (digitsIn 16 true n, if sp.alt && n != 0 then "0X" else "")
      | _ => (toString n, "")
    { acc with out := acc.out ++ layNumber sp pre ds }
  | _ =>
    let (x, note, fault) := match arg with
      | some a => d.float a
      | none => (.finite false 0 0, none, none)
    let acc := { acc with warnings := acc.warnings ++ note.toList.map (acc.out.length, ·) }
    let acc := acc.warn d text fault
    { acc with out := acc.out ++ floatField sp conv x }

def Dialect.conversions : Dialect → List Char
  | .shell => "sbcdiouxXfFeEgG".toList
  | .program _ => "sbcdiouxXfFeEgGaAq".toList

def starArg (d : Dialect) (args : List String) : Int × List String × Bool :=
  match args with
  | a :: rest => ((d.integer true a).value, rest, true)
  | [] => (0, [], false)

def formatPass (d : Dialect) : Nat → List Char → List String → Pass → Pass
  | 0, _, _, acc => acc
  | _ + 1, [], args, acc => { acc with rest := args }
  | fuel + 1, '\\' :: rest, args, acc =>
    match d with
    | .shell =>
      let (b, after) := formatEscape rest
      formatPass d fuel after args { acc with out := acc.out ++ [b] }
    | .program utf8 =>
      match programEscape utf8 false rest with
      | .error m => { acc with fatal := some m, rest := args }
      | .ok e =>
        if e.stop then { acc with stopped := true, rest := args }
        else formatPass d fuel e.rest args { acc with out := acc.out ++ e.bytes }
  | fuel + 1, '%' :: '%' :: rest, args, acc =>
    formatPass d fuel rest args { acc with out := acc.out ++ [37] }
  | fuel + 1, '%' :: rest, args, acc =>
    let (sp, cs) := readFlags (rest.length + 1) {} rest
    let (sp, cs, args, used1) := match cs with
      | '*' :: more =>
        -- a negative width aligns the field on the left
        let (w, args', took) := starArg d args
        ({ sp with width := w.natAbs, left := sp.left || w < 0 }, more, args', took)
      | _ =>
        let ds := cs.takeWhile Char.isDigit
        ({ sp with width := (String.ofList ds).toNat?.getD 0 }, cs.drop ds.length, args, false)
    let (sp, cs, args, used2) := match cs with
      | '.' :: '*' :: more =>
        -- a negative precision counts as none
        let (p, args', took) := starArg d args
        ({ sp with precision := if p < 0 then none else some p.toNat }, more, args', took)
      | '.' :: more =>
        let ds := more.takeWhile Char.isDigit
        ({ sp with precision := some ((String.ofList ds).toNat?.getD 0) }, more.drop ds.length, args, false)
      | _ => (sp, cs, args, false)
    let used := acc.used || used1 || used2
    -- the program skips length modifiers
    let cs := match d with
      | .program _ => cs.dropWhile fun c => "lLhjtz".toList.contains c
      | .shell => cs
    match cs with
    | conv :: after =>
      let refused := match d with
        | .program _ => flagsRefused sp conv
        | .shell => false
      if d.conversions.contains conv && !refused then
        let (arg, args', took) := match args with
          | a :: more => (some a, more, true)
          | [] => (none, [], false)
        let acc := applyDirective d sp conv arg { acc with used := used || took }
        if acc.fatal.isSome || acc.stopped then { acc with rest := args' }
        else formatPass d fuel after args' acc
      else
        { acc with fatal := some (d.badDirective
            ("%" ++ String.ofList (rest.take (rest.length - after.length)))), rest := args, used }
    | [] =>
      let m := match d with
        | .shell => "missing format character"
        | .program _ => d.badDirective ("%" ++ String.ofList rest)
      { acc with fatal := some m, rest := args, used }
  | fuel + 1, c :: rest, args, acc =>
    formatPass d fuel rest args { acc with out := acc.out ++ d.textBytes c.toString }

/-- What `printf` gives: its output, its messages (each with the number of bytes of output
written before it), its exit status, and the error that stopped it, if one did. -/
structure Printed where
  out : List UInt8
  warnings : List (Nat × String)
  status : Nat
  fatal : Option String := none

def printfRun (d : Dialect) (fmt : String) : Nat → List String → Printed → Printed
  | 0, _, acc => acc
  | fuel + 1, args, acc =>
    let p := formatPass d (fmt.length + 1) fmt.toList args {}
    let acc := { acc with out := acc.out ++ p.out,
                          warnings := acc.warnings ++ p.warnings.map fun (k, w) => (acc.out.length + k, w),
                          status := if p.failed then 1 else acc.status }
    match p.fatal with
    | some m => { acc with fatal := some m, status := 1 }
    | none =>
      if p.stopped then acc
      else if p.rest.isEmpty then acc
      else if !p.used then
        match d with
        | .shell => acc
        | .program utf8 =>
          { acc with warnings := acc.warnings ++ [(acc.out.length,
              "warning: ignoring excess arguments, starting with " ++ quoteName utf8 (p.rest.headD ""))] }
      else printfRun d fmt fuel p.rest acc

def printf (d : Dialect) (fmt : String) (args : List String) : Printed :=
  printfRun d fmt (args.length + 1) args ⟨[], [], 0, none⟩

end BuildGate.Shell
