import BuildGate.Env.Refs
import Mathlib.Data.List.TakeWhile
import Mathlib.Data.Nat.Init

namespace BuildGate

/-- A piece of a value, as a scan for references reads it. -/
inductive RefPiece where
  | dollar
  | ref (name : List Char)
  | char (c : Char)
  deriving Repr, DecidableEq

namespace RefPiece

def refName? : RefPiece → Option String
  | ref n => some (String.ofList n)
  | _ => none

/-- What a piece becomes in a scope, once every reference is known to resolve. -/
def output (scope : Env) : RefPiece → List Char
  | dollar => ['$']
  | ref n => ((scope.get? (String.ofList n)).getD "").toList
  | char c => [c]

end RefPiece

def IsRefName (n : List Char) : Prop :=
  ∃ c cs, n = c :: cs ∧ isRefStart c = true ∧ ∀ d ∈ cs, isRefChar d = true

def StartsWithRef (cs : List Char) : Prop :=
  ∃ n rest, IsRefName n ∧ cs = '$' :: '\x7b' :: (n ++ '\x7d' :: rest)

/-- Reading `cs` once from left to right gives the pieces `ps`: at each position `$$` first,
then a complete reference, then one character. -/
inductive RefScan : List Char → List RefPiece → Prop
  | nil : RefScan [] []
  | dollar {rest ps} : RefScan rest ps → RefScan ('$' :: '$' :: rest) (.dollar :: ps)
  | ref {n rest ps} : IsRefName n → RefScan rest ps →
      RefScan ('$' :: '\x7b' :: (n ++ '\x7d' :: rest)) (.ref n :: ps)
  | char {c rest ps} : ¬(c = '$' ∧ rest.head? = some '$') → ¬StartsWithRef (c :: rest) →
      RefScan rest ps → RefScan (c :: rest) (.char c :: ps)

def firstUnresolved (scope : Env) (ps : List RefPiece) : Option String :=
  (ps.filterMap RefPiece.refName?).find? fun n => (scope.get? n).isNone

def expandPieces (scope : Env) (place : String) : List RefPiece → Except ConfigError (List Char)
  | [] => .ok []
  | .ref n :: ps =>
    match scope.get? (String.ofList n) with
    | some v => (v.toList ++ ·) <$> expandPieces scope place ps
    | none => .error (.unresolved place (String.ofList n))
  | p :: ps => (p.output scope ++ ·) <$> expandPieces scope place ps

theorem isRefChar_of_isRefStart {c : Char} (h : isRefStart c = true) : isRefChar c = true := by
  simp [isRefChar, h]

theorem IsRefName.all_isRefChar {n : List Char} (h : IsRefName n) : ∀ d ∈ n, isRefChar d = true := by
  obtain ⟨c, cs, rfl, hc, hcs⟩ := h
  intro d hd
  rcases List.mem_cons.mp hd with rfl | hd
  · exact isRefChar_of_isRefStart hc
  · exact hcs d hd

theorem IsRefName.ne_nil {n : List Char} (h : IsRefName n) : n ≠ [] := by
  obtain ⟨c, cs, rfl, -⟩ := h
  exact List.cons_ne_nil c cs

theorem isRefChar_close : isRefChar '\x7d' = false := by decide

theorem refName_append_close {n : List Char} (h : IsRefName n) (rest : List Char) :
    refName (n ++ '\x7d' :: rest) = n := by
  obtain ⟨c, cs, rfl, hc, hcs⟩ := h
  have hall := IsRefName.all_isRefChar ⟨c, cs, rfl, hc, hcs⟩
  simp only [refName, List.cons_append, hc, if_true]
  rw [← List.cons_append, List.takeWhile_append_of_pos hall]
  simp [isRefChar_close]

theorem isRefName_refName {cs : List Char} (h : refName cs ≠ []) : IsRefName (refName cs) := by
  cases cs with
  | nil => exact absurd rfl h
  | cons c rest =>
    by_cases hc : isRefStart c = true
    · simp only [refName, hc, if_true, List.takeWhile_cons_of_pos (isRefChar_of_isRefStart hc)]
      exact ⟨c, _, rfl, hc, fun d hd => List.mem_takeWhile_imp hd⟩
    · simp [refName, hc] at h

theorem refName_append_drop (cs : List Char) : refName cs ++ cs.drop (refName cs).length = cs := by
  cases cs with
  | nil => rfl
  | cons c rest =>
    by_cases hc : isRefStart c = true
    · simp only [refName, hc, if_true]
      have ht := List.prefix_iff_eq_take.mp (List.takeWhile_prefix (l := c :: rest) isRefChar)
      calc (c :: rest).takeWhile isRefChar ++
            (c :: rest).drop ((c :: rest).takeWhile isRefChar).length
          = (c :: rest).take ((c :: rest).takeWhile isRefChar).length ++
            (c :: rest).drop ((c :: rest).takeWhile isRefChar).length := by rw [← ht]
        _ = c :: rest := List.take_append_drop _ _
    · simp [refName, hc]

theorem ref_append_inj {n m rest rest' : List Char} (hn : IsRefName n) (hm : IsRefName m)
    (h : n ++ '\x7d' :: rest = m ++ '\x7d' :: rest') : n = m ∧ rest = rest' := by
  have hnm : n = m := by
    rw [← refName_append_close hn rest, ← refName_append_close hm rest', h]
  subst hnm
  exact ⟨rfl, (List.cons.inj (List.append_cancel_left h)).2⟩

theorem not_close_of_not_startsWithRef {rest : List Char}
    (h : ¬StartsWithRef ('$' :: '\x7b' :: rest)) (hne : refName rest ≠ []) :
    ∀ after, rest.drop (refName rest).length ≠ '\x7d' :: after := by
  intro after hafter
  apply h
  refine ⟨refName rest, after, isRefName_refName hne, ?_⟩
  rw [← hafter, refName_append_drop]

theorem refScan_exists (cs : List Char) : ∃ ps, RefScan cs ps := by
  induction h : cs.length using Nat.strong_induction_on generalizing cs with
  | _ len ih =>
    subst h
    cases cs with
    | nil => exact ⟨[], .nil⟩
    | cons c rest =>
      by_cases hdd : c = '$' ∧ rest.head? = some '$'
      · obtain ⟨rfl, hhead⟩ := hdd
        obtain ⟨after, rfl⟩ : ∃ after, rest = '$' :: after := by
          cases rest with
          | nil => cases hhead
          | cons d after => exact ⟨after, by simpa using hhead⟩
        obtain ⟨ps, hps⟩ := ih after.length (by simp only [List.length_cons]; omega) after rfl
        exact ⟨_, .dollar hps⟩
      by_cases href : StartsWithRef (c :: rest)
      · obtain ⟨n, after, hn, heq⟩ := href
        obtain ⟨ps, hps⟩ := ih after.length
          (by rw [heq]; simp only [List.length_cons, List.length_append]; omega) after rfl
        rw [heq]
        exact ⟨_, RefScan.ref hn hps⟩
      · obtain ⟨ps, hps⟩ := ih rest.length (by simp) rest rfl
        exact ⟨_, .char hdd href hps⟩

namespace RefScan

/-- What a scan can be, read off the text it scans. -/
theorem inv {cs : List Char} {qs : List RefPiece} (h : RefScan cs qs) :
    (cs = [] ∧ qs = []) ∨
      (∃ rest qs', cs = '$' :: '$' :: rest ∧ qs = .dollar :: qs' ∧ RefScan rest qs') ∨
      (∃ n rest qs', IsRefName n ∧ cs = '$' :: '\x7b' :: (n ++ '\x7d' :: rest) ∧
        qs = .ref n :: qs' ∧ RefScan rest qs') ∨
      (∃ c rest qs', ¬(c = '$' ∧ rest.head? = some '$') ∧ ¬StartsWithRef (c :: rest) ∧
        cs = c :: rest ∧ qs = .char c :: qs' ∧ RefScan rest qs') := by
  cases h with
  | nil => exact .inl ⟨rfl, rfl⟩
  | dollar h => exact .inr (.inl ⟨_, _, rfl, rfl, h⟩)
  | ref hn h => exact .inr (.inr (.inl ⟨_, _, _, hn, rfl, rfl, h⟩))
  | char hd hr h => exact .inr (.inr (.inr ⟨_, _, _, hd, hr, rfl, rfl, h⟩))

/-- A text has one scan. -/
theorem unique {cs : List Char} {ps qs : List RefPiece} (h₁ : RefScan cs ps) (h₂ : RefScan cs qs) :
    qs = ps := by
  induction h₁ generalizing qs with
  | nil =>
    rcases h₂.inv with ⟨-, rfl⟩ | ⟨_, _, h, -⟩ | ⟨_, _, _, -, h, -⟩ | ⟨_, _, _, -, -, h, -⟩
    · rfl
    all_goals cases h
  | @dollar rest ps _ ih =>
    rcases h₂.inv with ⟨h, -⟩ | ⟨rest', qs', h, rfl, h'⟩ | ⟨_, _, _, -, h, -⟩ |
        ⟨c, rest', _, hd, -, h, -⟩
    · cases h
    · simp only [List.cons.injEq, true_and] at h
      subst h
      rw [ih h']
    · simp only [List.cons.injEq] at h
      exact absurd h.2.1 (by decide)
    · simp only [List.cons.injEq] at h
      obtain ⟨rfl, rfl⟩ := h
      exact absurd ⟨rfl, rfl⟩ hd
  | @ref n rest ps hn _ ih =>
    rcases h₂.inv with ⟨h, -⟩ | ⟨_, _, h, -⟩ | ⟨m, rest', qs', hm, h, rfl, h'⟩ |
        ⟨c, rest', _, -, hr, h, -⟩
    · cases h
    · simp only [List.cons.injEq] at h
      exact absurd h.2.1 (by decide)
    · simp only [List.cons.injEq, true_and] at h
      obtain ⟨rfl, rfl⟩ := ref_append_inj hn hm h
      rw [ih h']
    · exact absurd ⟨n, rest, hn, h.symm⟩ hr
  | @char c rest ps hd hr _ ih =>
    rcases h₂.inv with ⟨h, -⟩ | ⟨rest', _, h, -⟩ | ⟨m, rest', _, hm, h, -⟩ |
        ⟨c', rest', qs', -, -, h, rfl, h'⟩
    · cases h
    · simp only [List.cons.injEq] at h
      obtain ⟨rfl, rfl⟩ := h
      exact absurd ⟨rfl, rfl⟩ hd
    · exact absurd ⟨m, rest', hm, h⟩ hr
    · simp only [List.cons.injEq] at h
      obtain ⟨rfl, rfl⟩ := h
      rw [ih h']

theorem expandChars_eq {cs : List Char} {ps : List RefPiece} (h : RefScan cs ps) (scope : Env)
    (place : String) : expandChars scope place cs = expandPieces scope place ps := by
  induction h with
  | nil => rw [expandChars.eq_1]; rfl
  | dollar _ ih => rw [expandChars.eq_2, ih]; rfl
  | @ref n rest ps hn _ ih =>
    rw [expandChars.eq_3]
    split
    next after hdrop =>
      rw [refName_append_close hn, List.drop_left] at hdrop
      obtain rfl := (List.cons.inj hdrop).2
      have hne : (refName (n ++ '\x7d' :: rest)).isEmpty = false := by
        rw [refName_append_close hn]
        cases n with
        | nil => exact absurd rfl hn.ne_nil
        | cons => rfl
      rw [if_neg (by simp [hne]), refName_append_close hn]
      simp only [expandPieces]
      split <;> simp_all
    next hnot =>
      rw [refName_append_close hn, List.drop_left] at hnot
      exact absurd rfl (hnot rest)
  | @char c rest ps hd hr _ ih =>
    by_cases hb : c = '$' ∧ rest.head? = some '\x7b'
    · obtain ⟨rfl, hhead⟩ := hb
      obtain ⟨rest', rfl⟩ : ∃ rest', rest = '\x7b' :: rest' := by
        cases rest with
        | nil => cases hhead
        | cons d rest' => exact ⟨rest', by simpa using hhead⟩
      rw [expandChars.eq_3]
      split
      next after hdrop =>
        -- a brace after the longest name would make a complete reference
        by_cases hempty : (refName rest').isEmpty = true
        · rw [if_pos hempty, ih]
          rfl
        · have hne : refName rest' ≠ [] := fun h0 => hempty (by rw [h0]; rfl)
          exact absurd hdrop (not_close_of_not_startsWithRef hr hne after)
      next => rw [ih]; rfl
    · rw [expandChars.eq_4 _ _ _ _ (fun r hc hr' => hd ⟨hc, by simp [hr']⟩)
        (fun r hc hr' => hb ⟨hc, by simp [hr']⟩), ih]
      rfl

end RefScan

section Pieces

variable (scope : Env) (place : String)

@[simp] theorem firstUnresolved_nil : firstUnresolved scope [] = none := rfl

theorem firstUnresolved_cons (p : RefPiece) (ps : List RefPiece) :
    firstUnresolved scope (p :: ps) =
      match p.refName? with
      | some n => if (scope.get? n).isNone then some n else firstUnresolved scope ps
      | none => firstUnresolved scope ps := by
  cases p with
  | ref n =>
    by_cases hn : (scope.get? (String.ofList n)).isNone = true <;>
      simp [firstUnresolved, RefPiece.refName?, hn]
  | dollar => simp [firstUnresolved, RefPiece.refName?]
  | char c => simp [firstUnresolved, RefPiece.refName?]

theorem expandPieces_eq (ps : List RefPiece) :
    expandPieces scope place ps =
      match firstUnresolved scope ps with
      | some n => .error (.unresolved place n)
      | none => .ok (ps.flatMap (·.output scope)) := by
  induction ps with
  | nil => rfl
  | cons p ps ih =>
    -- a piece in front either fails here or prefixes what the rest expands to
    have hmap : ∀ out : List Char, (out ++ ·) <$> expandPieces scope place ps =
        match firstUnresolved scope ps with
        | some n => .error (.unresolved place n)
        | none => .ok (out ++ ps.flatMap (·.output scope)) := by
      intro out
      rw [ih]
      cases firstUnresolved scope ps <;> rfl
    rw [firstUnresolved_cons]
    cases p with
    | dollar => exact hmap ['$']
    | char c => exact hmap [c]
    | ref n =>
      simp only [expandPieces, RefPiece.refName?]
      cases hv : scope.get? (String.ofList n) with
      | none => rfl
      | some v =>
        simp only [Option.isNone_some, Bool.false_eq_true, if_false, hmap, List.flatMap_cons,
          RefPiece.output, hv, Option.getD_some]

theorem expandPieces_congr {scope' : Env} {ps : List RefPiece}
    (h : ∀ n ∈ ps.filterMap RefPiece.refName?, scope'.get? n = scope.get? n) :
    expandPieces scope' place ps = expandPieces scope place ps := by
  induction ps with
  | nil => rfl
  | cons p ps ih =>
    cases p with
    | dollar => simp only [expandPieces, RefPiece.output, ih (by simpa [RefPiece.refName?] using h)]
    | char c => simp only [expandPieces, RefPiece.output, ih (by simpa [RefPiece.refName?] using h)]
    | ref n =>
      have hn : scope'.get? (String.ofList n) = scope.get? (String.ofList n) :=
        h _ (by simp [RefPiece.refName?])
      have hrest : ∀ m ∈ ps.filterMap RefPiece.refName?, scope'.get? m = scope.get? m :=
        fun m hm => h m (by simp [RefPiece.refName?, hm])
      simp only [expandPieces, hn, ih hrest]

end Pieces

/-- `expandRefs` reads the value's one scan: `$$` first, then a complete reference with the
longest name, then a character as it is, at each position from the left. It fails with the
first reference, in that order, to a variable outside the scope; otherwise the value becomes
its pieces' texts in order, each reference its variable's value as it is. Its result depends
only on the variables the scan refers to. -/
theorem expandRefs_reads_scan (scope : Env) (value place : String) :
    ∃ ps, RefScan value.toList ps ∧ (∀ qs, RefScan value.toList qs → qs = ps) ∧
      expandRefs scope value place =
        (match firstUnresolved scope ps with
          | some n => .error (.unresolved place n)
          | none => .ok (String.ofList (ps.flatMap (·.output scope)))) ∧
      ∀ scope' : Env, (∀ n ∈ ps.filterMap RefPiece.refName?, scope'.get? n = scope.get? n) →
        expandRefs scope' value place = expandRefs scope value place := by
  obtain ⟨ps, hps⟩ := refScan_exists value.toList
  refine ⟨ps, hps, fun qs hqs => hps.unique hqs, ?_, fun scope' hsame => ?_⟩
  · rw [expandRefs, hps.expandChars_eq, expandPieces_eq]
    cases firstUnresolved scope ps <;> rfl
  · rw [expandRefs, expandRefs, hps.expandChars_eq, hps.expandChars_eq,
      expandPieces_congr scope place hsame]

def dollarQuote (c : Char) : List Char := if c = '$' then ['$', '$'] else [c]

def quoteDollars (s : String) : String := String.ofList (s.toList.flatMap dollarQuote)

theorem expandChars_quoted_append (scope : Env) (place : String) (s t : List Char) :
    expandChars scope place (s.flatMap dollarQuote ++ t) =
      (s ++ ·) <$> expandChars scope place t := by
  induction s with
  | nil => simp
  | cons c s ih =>
    by_cases hc : c = '$'
    · subst hc
      rw [List.flatMap_cons, dollarQuote, if_pos rfl, List.append_assoc, List.cons_append,
        List.cons_append, List.nil_append, expandChars.eq_2, ih, Functor.map_map]
      rfl
    · -- neither `$$` nor a reference starts at a character other than `$`
      rw [List.flatMap_cons, dollarQuote, if_neg hc, List.append_assoc, List.singleton_append,
        expandChars.eq_4 _ _ _ _ (fun _ h _ => hc h) (fun _ h _ => hc h), ih, Functor.map_map]
      rfl

/-- A quoted text in front of any value expands to itself, and the value after it expands as it
would alone: to the same text or with the same error. So a quoted text expands to itself, in
every scope. -/
theorem expandRefs_quoteDollars_append (scope : Env) (s t place : String) :
    expandRefs scope (quoteDollars s ++ t) place = (s ++ ·) <$> expandRefs scope t place ∧
      expandRefs scope (quoteDollars s) place = .ok s := by
  have hlist := expandChars_quoted_append scope place s.toList
  constructor
  · rw [expandRefs, expandRefs, quoteDollars, String.toList_append, String.toList_ofList, hlist,
      Functor.map_map, Functor.map_map]
    congr 1
    funext cs
    simp [String.ofList_append]
  · have hnil := hlist []
    rw [List.append_nil, expandChars.eq_1] at hnil
    rw [expandRefs, quoteDollars, String.toList_ofList, hnil]
    simp [Functor.map, Except.map]

end BuildGate
