import BuildGate.Console.Wrap

namespace BuildGate.Console

/-- A column of a table. -/
structure Column where
  header : String := ""
  align : Align := .left
  width : Option Nat := none
  noWrap : Bool := false
  ratio : Option Nat := none
  deriving Repr, Inhabited

/-- A table: columns, rows of plain cell text, and how it is drawn. -/
structure Table where
  title : Option String := none
  columns : List Column
  rows : List (List String)
  showHeader : Bool := true
  boxed : Bool := true
  padEdge : Bool := true
  expand : Bool := false
  deriving Repr, Inhabited

/-- A range of widths: the narrowest and the widest. -/
abbrev Measure := Nat × Nat

def Measure.normalize (m : Measure) : Measure :=
  let lo := min m.1 m.2
  (lo, max lo m.2)

def Measure.cap (w : Nat) (m : Measure) : Measure := (min m.1 w, min m.2 w)

def isLineEnd (c : Char) : Bool :=
  c == '\n' || c == '\x1c' || c == '\x1d' || c == '\x1e' || c == '\x85' || c == '\u2028' ||
    c == '\u2029'

def splitNonEmpty (sep : Char → Bool) (cs : List Char) : List (List Char) :=
  (cs.splitBy fun a b => sep a == sep b).filter fun part => part.any (!sep ·)

def measureText (cs : List Char) : Measure :=
  let widest := (splitNonEmpty isLineEnd cs).foldl (fun m l => max m (Text.cellsOf l)) 0
  let words := splitNonEmpty isBlank cs
  let narrow := if words.isEmpty then widest else words.foldl (fun m w => max m (Text.cellsOf w)) 0
  (narrow, widest)

def measureIn (w : Nat) (cs : List Char) : Measure :=
  if w < 1 then (0, 0)
  else
    let m := (measureText cs).normalize.cap w
    if m.2 < 1 then (0, 0) else m.normalize

def measureCell (w pad : Nat) (cs : List Char) : Measure :=
  if w < 1 then (0, 0)
  else
    let inner : Measure :=
      if w < pad + 1 then (w, w)
      else
        let t := measureIn w cs
        Measure.cap w (t.1 + pad, t.2 + pad)
    let m := inner.normalize.cap w
    if m.2 < 1 then (0, 0) else m.normalize

def Table.padding (t : Table) (n i : Nat) : Nat × Nat :=
  ((if t.padEdge || i > 0 then 1 else 0), (if t.padEdge || i + 1 < n then 1 else 0))

def Table.columnCells (t : Table) (i : Nat) (c : Column) : List String :=
  (if t.showHeader then [c.header] else []) ++ t.rows.map fun r => r.getD i ""

def Table.measureColumn (t : Table) (w i : Nat) (c : Column) : Measure :=
  if w < 1 then (0, 0)
  else
    match c.width with
    | some fixed => Measure.cap w (fixed + 2, fixed + 2)
    | none =>
      let (l, r) := t.padding t.columns.length i
      let ms := (t.columnCells i c).map fun s => measureCell w (l + r) s.toList
      let lo := if ms.isEmpty then 1 else ms.foldl (fun m x => max m x.1) 0
      let hi := if ms.isEmpty then w else ms.foldl (fun m x => max m x.2) 0
      Measure.cap w (lo, hi)

def ceilDiv (a b : Nat) : Nat := (a + b - 1) / b

def roundHalfEven (a b : Nat) : Nat :=
  let q := a / b
  let r := a % b
  if 2 * r > b then q + 1 else if 2 * r < b then q else if q % 2 == 0 then q else q + 1

def ratioDistribute (total : Nat) (ratios minimums : List Nat) : List Nat :=
  let ratios := (ratios.zip minimums).map fun (r, m) => if m == 0 then 0 else r
  let rec go : Nat → Nat → List (Nat × Nat) → List Nat
    | _, _, [] => []
    | left, sumRatios, (r, m) :: rest =>
      let share := if sumRatios > 0 then max m (ceilDiv (r * left) sumRatios) else left
      share :: go (left - share) (sumRatios - r) rest
  go total (ratios.foldl (· + ·) 0) (ratios.zip minimums)

def ratioReduce (total : Nat) (ratios maximums values : List Nat) : List Nat :=
  let ratios := (ratios.zip maximums).map fun (r, m) => if m == 0 then 0 else r
  let sumRatios := ratios.foldl (· + ·) 0
  if sumRatios == 0 then values
  else
    let rec go : Nat → Nat → List (Nat × Nat × Nat) → List Nat
      | _, _, [] => []
      | left, sumR, (r, m, v) :: rest =>
        if r != 0 && sumR > 0 then
          let cut := min m (roundHalfEven (r * left) sumR)
          (v - cut) :: go (left - cut) (sumR - r) rest
        else v :: go left sumR rest
    go total sumRatios (ratios.zip (maximums.zip values))

def widestWrappable (widths : List Nat) (wrap : List Bool) : Nat :=
  ((widths.zip wrap).filter (·.2)).foldl (fun m x => max m x.1) 0

def collapseWidths (space : Nat) (wrap : List Bool) : Nat → List Nat → List Nat
  | 0, widths => widths
  | fuel + 1, widths =>
    let total := widths.foldl (· + ·) 0
    if total == 0 || total ≤ space || !wrap.any id then widths
    else
      let excess := total - space
      let top := widestWrappable widths wrap
      let second := (widths.zip wrap).foldl
        (fun m x => max m (if x.2 && x.1 != top then x.1 else 0)) 0
      let ratios := (widths.zip wrap).map fun x => if x.2 && x.1 == top then 1 else 0
      if ratios.all (· == 0) || top == second then widths
      else
        let cut := min excess (top - second)
        collapseWidths space wrap fuel
          (ratioReduce excess ratios (widths.map fun _ => cut) widths)

def Table.columnWidths (t : Table) (space : Nat) : List Nat :=
  let cols := t.columns.zipIdx
  let ranges := cols.map fun (c, i) => t.measureColumn space i c
  let widths := ranges.map fun m => if m.2 == 0 then 1 else m.2
  let widths :=
    if t.expand && t.columns.any (·.ratio.isSome) then
      let fixed := (t.columns.zip ranges).map fun (c, m) => if c.ratio.isSome then 0 else m.2
      let flex := t.columns.filter (·.ratio.isSome)
      let shares := ratioDistribute (space - fixed.foldl (· + ·) 0)
        (flex.map fun c => c.ratio.getD 0) (flex.map fun c => c.width.getD 1 + 2)
      let (ws, _) := (t.columns.zip (widths.zip fixed)).foldl
        (fun (acc : List Nat × List Nat) (c, w, f) =>
          let (out, rest) := acc
          if c.ratio.isSome then (out ++ [f + rest.headD 0], rest.drop 1) else (out ++ [w], rest))
        ([], shares)
      ws
    else widths
  let total := widths.foldl (· + ·) 0
  let widths :=
    if total > space then
      let wrap := t.columns.map fun c => c.width.isNone && !c.noWrap
      let ws := collapseWidths space wrap (total + 1) widths
      let sum := ws.foldl (· + ·) 0
      let ws := if sum > space then ratioReduce (sum - space) (ws.map fun _ => 1) ws ws else ws
      (cols.zip ws).map fun ((c, i), w) => (t.measureColumn w i c).2
    else widths
  let total := widths.foldl (· + ·) 0
  if total < space && t.expand then
    let pads := ratioDistribute (space - total) widths (widths.map fun _ => 1)
    (widths.zip pads).map fun (w, p) => w + p
  else widths

def Table.cellLines (t : Table) (w i : Nat) (c : Column) (text : String) : List (List Char) :=
  let (l, r) := t.padding t.columns.length i
  let inner := w - l - r
  let lines := wrapText inner c.align .ellipsis c.noWrap (dropControls text)
  lines.map fun line => spaces l ++ setCells inner line ++ spaces r

def Table.rowLines (t : Table) (widths : List Nat) (cells : List String) : List (List (List Char)) :=
  let parts := ((t.columns.zip widths).zipIdx).map fun ((c, w), i) =>
    (w, t.cellLines w i c (cells.getD i ""))
  let height := parts.foldl (fun m p => max m p.2.length) 0
  (List.range height).map fun k => parts.map fun (w, ls) => ls.getD k (spaces w)

def boxRule (widths : List Nat) (left line joint right : Char) : List Char :=
  [left] ++ joint.toString.toList.intercalate (widths.map fun w => List.replicate w line) ++
    [right]

def Table.render (t : Table) (width : Nat) : List (List Char) :=
  let n := t.columns.length
  let border := if t.boxed then 2 + (n - 1) else 0
  let widths := t.columnWidths (width - border)
  let tableWidth := widths.foldl (· + ·) 0 + border
  let title := match t.title with
    | some s => wrapText tableWidth .center .fold false (dropControls s)
    | none => []
  let row (edge inner : Char) (cells : List String) : List (List Char) :=
    (t.rowLines widths cells).map fun parts =>
      if t.boxed then [edge] ++ inner.toString.toList.intercalate parts ++ [edge]
      else parts.flatten
  let header := if t.showHeader then row '┃' '┃' (t.columns.map (·.header)) else []
  let body := t.rows.flatMap (row '│' '│')
  if t.boxed then
    title ++ [boxRule widths '┏' '━' '┳' '┓'] ++ header ++
      (if t.showHeader then [boxRule widths '┡' '━' '╇' '┩'] else []) ++ body ++
      [boxRule widths '└' '─' '┴' '┘']
  else title ++ header ++ body

end BuildGate.Console
