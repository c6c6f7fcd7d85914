import Mathlib
import BuildGate.Ids
import BuildGate.Proofs.Preflight

namespace BuildGate

theorem isNameStart_eq_isAlphanum (c : Char) : isNameStart c = c.isAlphanum := by
  rw [Bool.eq_iff_iff]
  simp only [isNameStart, Char.isAlphanum, Char.isAlpha, Char.isUpper, Char.isLower, Char.isDigit,
    Bool.or_eq_true, Bool.and_eq_true, decide_eq_true_eq, Char.le_def, ge_iff_le,
    UInt32.le_iff_toNat_le]
  exact or_congr_left or_comm

theorem isNameChar_iff (c : Char) :
    isNameChar c = true ↔ c.isAlphanum ∨ c = '_' ∨ c = '.' ∨ c = '-' := by
  simp only [isNameChar, isNameStart_eq_isAlphanum, Bool.or_eq_true, beq_iff_eq, or_assoc]

theorem isAlphanum_of_not_isEdgeChar {c : Char} (h : isNameChar c = true)
    (he : isEdgeChar c = false) : c.isAlphanum := by
  rcases (isNameChar_iff c).mp h with h | rfl | rfl | rfl
  · exact h
  all_goals cases he

/-- The rule for step names and run ids: 1 to 64 characters, the first an ASCII letter or
digit, each other one an ASCII letter or digit or one of `_`, `.` and `-`. -/
structure NameRule (s : String) : Prop where
  length_pos : 0 < s.length
  length_le : s.length ≤ 64
  head_alnum : ∀ c ∈ s.toList.head?, c.isAlphanum
  tail_chars : ∀ c ∈ s.toList.tail, c.isAlphanum ∨ c = '_' ∨ c = '.' ∨ c = '-'

theorem isValidName_iff_nameRule {s : String} : isValidName s = true ↔ NameRule s := by
  have hlen : s.toList.length = s.length := String.length_toList
  rw [isValidName, fullmatch_namePattern_iff]
  constructor
  · rintro ⟨c, cs, hcs, hc, hl, hall⟩
    rw [hcs, List.length_cons] at hlen
    refine ⟨by omega, by omega, by simpa [hcs, isNameStart_eq_isAlphanum] using hc, ?_⟩
    rw [hcs, List.tail_cons]
    exact fun x hx => (isNameChar_iff x).mp (List.all_eq_true.mp hall x hx)
  · intro h
    cases hcs : s.toList with
    | nil =>
      have := h.length_pos
      rw [← hlen, hcs] at this
      cases this
    | cons c cs =>
      rw [hcs, List.length_cons] at hlen
      have hc : c.isAlphanum := h.head_alnum c (by simp [hcs])
      have htail := h.tail_chars
      rw [hcs, List.tail_cons] at htail
      refine ⟨c, cs, rfl, by rwa [isNameStart_eq_isAlphanum], by have := h.length_le; omega, ?_⟩
      exact List.all_eq_true.mpr fun x hx => (isNameChar_iff x).mpr (htail x hx)

theorem NameRule.slash_not_mem {s : String} (h : NameRule s) : '/' ∉ s.toList := by
  intro hmem
  cases hcs : s.toList with
  | nil => rw [hcs] at hmem; cases hmem
  | cons c cs =>
    rw [hcs] at hmem
    rcases List.mem_cons.mp hmem with rfl | hmem
    · have := h.head_alnum '/' (by simp [hcs])
      cases this
    · have := h.tail_chars '/' (by simp [hcs, hmem])
      simp at this

theorem NameRule.not_dots {s : String} (h : NameRule s) : s ≠ "." ∧ s ≠ ".." := by
  constructor <;> rintro rfl <;> exact absurd (h.head_alnum '.' rfl) (by decide)

theorem NameRule.ofString_eq {s : String} (h : NameRule s) : Path.ofString s = ⟨"", [s]⟩ := by
  rw [Path.ofString_of_not_mem h.slash_not_mem]
  have hne : s ≠ "" := by
    rintro rfl
    exact absurd h.length_pos (by decide)
  have hsplit : s.toList.splitOn '/' = [s.toList] :=
    List.splitOn_eq_singleton h.slash_not_mem
  simp [Path.components, hsplit, hne, h.not_dots.1]

/-- Checking a step name or a run id: each accepts exactly the texts that follow `NameRule`,
returning them as they are, and refuses every other text with its own message (for a step name
the message quotes the name). What they accept is one component of a path, neither `.` nor
`..`: a run id names one directory below the artifacts directory. -/
theorem nameChecks_accept_nameRule (s : String) :
    (checkStepName s = .ok s ↔ NameRule s) ∧
      (checkStepName s = .error (.invalid (badStepNameMessage s)) ↔ ¬NameRule s) ∧
      (checkRunId s = .ok s ↔ NameRule s) ∧
      (checkRunId s = .error (.invalid badRunIdMessage) ↔ ¬NameRule s) ∧
      (NameRule s → Path.ofString s = ⟨"", [s]⟩ ∧ s ≠ "." ∧ s ≠ "..") := by
  refine ⟨?_, ?_, ?_, ?_, fun h => ⟨h.ofString_eq, h.not_dots⟩⟩ <;>
    simp only [checkStepName, checkRunId] <;> by_cases hs : isValidName s = true <;>
    simp [hs, ← isValidName_iff_nameRule]

theorem not_nameRule_of_invalid {s : String} (h : isValidName s = false) : ¬NameRule s :=
  fun hs => absurd (isValidName_iff_nameRule.mpr hs) (by rw [h]; decide)

/-- At the bounds of the rule: 64 characters pass and 65 do not, and neither a line break at the
end, which `$` alone lets through, nor a letter outside ASCII gets a name past the checks. -/
theorem nameChecks_at_bounds :
    checkStepName (String.ofList (List.replicate 64 'a')) =
        .ok (String.ofList (List.replicate 64 'a')) ∧
      checkStepName (String.ofList (List.replicate 65 'a')) =
        .error (.invalid (badStepNameMessage (String.ofList (List.replicate 65 'a')))) ∧
      checkStepName "a\n" = .error (.invalid (badStepNameMessage "a\n")) ∧
      checkRunId "a\n" = .error (.invalid badRunIdMessage) ∧
      checkRunId "é1" = .error (.invalid badRunIdMessage) :=
  ⟨(nameChecks_accept_nameRule _).1.mpr (isValidName_iff_nameRule.mp (by decide +kernel)),
    (nameChecks_accept_nameRule _).2.1.mpr (not_nameRule_of_invalid (by decide +kernel)),
    (nameChecks_accept_nameRule _).2.1.mpr (not_nameRule_of_invalid (by decide +kernel)),
    (nameChecks_accept_nameRule _).2.2.2.1.mpr (not_nameRule_of_invalid (by decide +kernel)),
    (nameChecks_accept_nameRule _).2.2.2.1.mpr (not_nameRule_of_invalid (by decide +kernel))⟩

def bothUnsafe (a b : Char) : Bool := !isNameChar a && !isNameChar b

/-- A maximal run as a safe file name has it: a name character stays, a run of other characters
becomes one `_`. -/
def runImage (g : List Char) : List Char := if g.all isNameChar then g else ['_']

def runsReplaced (cs : List Char) : List Char := (cs.splitBy bothUnsafe).flatMap runImage

/-- `c` is `cs` with the characters `e` holds of stripped from both ends: `cs` is `c` between
two stretches of such characters, and `c` neither starts nor ends with one. -/
structure StripsTo (e : Char → Bool) (cs c : List Char) : Prop where
  split : ∃ pre suf, cs = pre ++ c ++ suf ∧ (∀ x ∈ pre, e x) ∧ ∀ x ∈ suf, e x
  head : ∀ x ∈ c.head?, e x = false
  last : ∀ x ∈ c.getLast?, e x = false

theorem splitBy_cons_of_isNameChar {c : Char} (hc : isNameChar c = true) (cs : List Char) :
    (c :: cs).splitBy bothUnsafe = [c] :: cs.splitBy bothUnsafe := by
  have happ : ([c] ++ cs).splitBy bothUnsafe = [c].splitBy bothUnsafe ++ cs.splitBy bothUnsafe :=
    List.splitBy_append (by simp [bothUnsafe, hc])
  rw [List.singleton_append] at happ
  rw [happ, List.splitBy_of_isChain (by simp) (by simp)]
  rfl

theorem splitBy_cons_of_not_isNameChar {c : Char} (hc : isNameChar c = false) (cs : List Char) :
    (c :: cs).splitBy bothUnsafe =
      (c :: cs.takeWhile (!isNameChar ·)) ::
        (cs.dropWhile (!isNameChar ·)).splitBy bothUnsafe := by
  have hrun : ∀ x ∈ c :: cs.takeWhile (!isNameChar ·), isNameChar x = false := by
    intro x hx
    rcases List.mem_cons.mp hx with rfl | hx
    · exact hc
    · simpa using List.mem_takeWhile_imp hx
  have hchain : (c :: cs.takeWhile (!isNameChar ·)).IsChain fun x y => bothUnsafe x y := by
    refine (List.pairwise_of_forall_mem_list fun x hx y hy => ?_).isChain
    simp [bothUnsafe, hrun x hx, hrun y hy]
  have hedge : ∀ x ∈ (c :: cs.takeWhile (!isNameChar ·)).getLast?,
      ∀ y ∈ (cs.dropWhile (!isNameChar ·)).head?, bothUnsafe x y = false := by
    intro x _ y hy
    have hy' := List.head?_dropWhile_not (!isNameChar ·) cs
    rw [hy] at hy'
    simp only [Bool.not_eq_false'] at hy'
    simp [bothUnsafe, hy']
  have hcs : c :: cs = (c :: cs.takeWhile (!isNameChar ·)) ++ cs.dropWhile (!isNameChar ·) := by
    rw [List.cons_append, List.takeWhile_append_dropWhile]
  rw [hcs, List.splitBy_append hedge, List.splitBy_of_isChain (by simp) hchain,
    List.singleton_append]

theorem collapseRuns_eq_runsReplaced (cs : List Char) :
    collapseRuns false cs = runsReplaced cs ∧
      collapseRuns true cs = runsReplaced (cs.dropWhile (!isNameChar ·)) := by
  induction cs with
  | nil => exact ⟨rfl, rfl⟩
  | cons c cs ih =>
    by_cases hc : isNameChar c = true
    · -- a name character ends any run and stays
      have hrhs : runsReplaced (c :: cs) = c :: runsReplaced cs := by
        rw [runsReplaced, splitBy_cons_of_isNameChar hc, List.flatMap_cons, runImage,
          if_pos (by simp [hc])]
        rfl
      have hfalse : collapseRuns false (c :: cs) = runsReplaced (c :: cs) := by
        rw [collapseRuns, if_pos hc, ih.1, hrhs]
      refine ⟨hfalse, ?_⟩
      rw [List.dropWhile_cons_of_neg (by simpa using hc), ← hfalse, collapseRuns, collapseRuns,
        if_pos hc, if_pos hc]
    · -- another character opens a run, or continues the one that is open
      have hc' : isNameChar c = false := by simpa using hc
      have hrhs : runsReplaced (c :: cs) = '_' :: runsReplaced (cs.dropWhile (!isNameChar ·)) := by
        rw [runsReplaced, splitBy_cons_of_not_isNameChar hc', List.flatMap_cons, runImage,
          if_neg (by simp [hc'])]
        rfl
      refine ⟨?_, ?_⟩
      · rw [collapseRuns, if_neg hc, if_neg (by decide), ih.2, hrhs]
      · rw [collapseRuns, if_neg hc, if_pos rfl, ih.2,
          List.dropWhile_cons_of_pos (by simpa using hc)]

theorem isNameChar_of_mem_collapseRuns {inRun : Bool} {cs : List Char} {c : Char}
    (h : c ∈ collapseRuns inRun cs) : isNameChar c = true := by
  induction cs generalizing inRun with
  | nil => cases h
  | cons d cs ih =>
    unfold collapseRuns at h
    split at h
    · next hd =>
      rcases List.mem_cons.mp h with rfl | h
      · exact hd
      · exact ih h
    · split at h
      · exact ih h
      · rcases List.mem_cons.mp h with rfl | h
        · rfl
        · exact ih h

theorem collapseRuns_of_forall {cs : List Char} (h : ∀ c ∈ cs, isNameChar c = true) :
    collapseRuns false cs = cs := by
  induction cs with
  | nil => rfl
  | cons c cs ih =>
    rw [collapseRuns, if_pos (h c List.mem_cons_self),
      ih fun x hx => h x (List.mem_cons_of_mem c hx)]

theorem dropWhile_of_head {e : Char → Bool} {cs : List Char}
    (h : ∀ x ∈ cs.head?, e x = false) : cs.dropWhile e = cs := by
  cases cs with
  | nil => rfl
  | cons c cs => exact List.dropWhile_cons_of_neg (by simpa using h c rfl)

theorem stripsTo_stripEdges (cs : List Char) : StripsTo isEdgeChar cs (stripEdges cs) := by
  -- the front stretch is what `dropWhile` skips, the back one what it skips of the reverse
  have hback : cs.dropWhile isEdgeChar =
      stripEdges cs ++ ((cs.dropWhile isEdgeChar).reverse.takeWhile isEdgeChar).reverse := by
    rw [stripEdges, ← List.reverse_append, List.takeWhile_append_dropWhile, List.reverse_reverse]
  refine ⟨⟨cs.takeWhile isEdgeChar,
    ((cs.dropWhile isEdgeChar).reverse.takeWhile isEdgeChar).reverse, ?_,
    fun x hx => List.mem_takeWhile_imp hx,
    fun x hx => List.mem_takeWhile_imp (List.mem_reverse.mp hx)⟩, ?_, ?_⟩
  · rw [List.append_assoc, ← hback, List.takeWhile_append_dropWhile]
  · intro x hx
    have hmid : (cs.dropWhile isEdgeChar).head? = some x := by
      rw [hback, List.head?_append, Option.mem_def.mp hx]
      rfl
    have := List.head?_dropWhile_not isEdgeChar cs
    rw [hmid] at this
    exact this
  · intro x hx
    rw [stripEdges, List.getLast?_reverse] at hx
    have := List.head?_dropWhile_not isEdgeChar (cs.dropWhile isEdgeChar).reverse
    rw [Option.mem_def.mp hx] at this
    exact this

theorem StripsTo.eq_stripEdges {cs c : List Char} (h : StripsTo isEdgeChar cs c) :
    c = stripEdges cs := by
  obtain ⟨pre, suf, rfl, hpre, hsuf⟩ := h.split
  have hfront : (pre ++ c ++ suf).dropWhile isEdgeChar = (c ++ suf).dropWhile isEdgeChar := by
    rw [List.append_assoc, List.dropWhile_append_of_pos hpre]
  rcases List.eq_nil_or_concat c with rfl | ⟨c', x, rfl⟩
  · -- nothing is left between the stripped ends
    rw [stripEdges, hfront, List.nil_append, List.dropWhile_eq_nil_iff.mpr hsuf]
    rfl
  · rw [List.concat_eq_append] at h hfront ⊢
    have hhead : ((c' ++ [x]) ++ suf).dropWhile isEdgeChar = (c' ++ [x]) ++ suf :=
      dropWhile_of_head (by simpa [List.head?_append] using h.head)
    have hlast : isEdgeChar x = false := h.last x (by simp)
    rw [stripEdges, hfront, hhead, List.reverse_append, List.dropWhile_append_of_pos
      (by simpa using hsuf), List.reverse_concat', List.dropWhile_cons_of_neg (by simp [hlast]),
      List.reverse_cons, List.reverse_reverse]

theorem stripsTo_iff {cs c : List Char} : StripsTo isEdgeChar cs c ↔ c = stripEdges cs :=
  ⟨StripsTo.eq_stripEdges, fun h => h ▸ stripsTo_stripEdges cs⟩

/-- What is left of a text made safe: characters of names only, the first and the last an ASCII
letter or digit. -/
structure SafeStem (c : List Char) : Prop where
  chars : ∀ x ∈ c, x.isAlphanum ∨ x = '_' ∨ x = '.' ∨ x = '-'
  head_alnum : ∀ x ∈ c.head?, x.isAlphanum
  last_alnum : ∀ x ∈ c.getLast?, x.isAlphanum

theorem safeStem_stripEdges {cs : List Char} (h : ∀ x ∈ cs, isNameChar x = true) :
    SafeStem (stripEdges cs) := by
  have hstrip := stripsTo_stripEdges cs
  have hname : ∀ x ∈ stripEdges cs, isNameChar x = true :=
    fun x hx => h x (mem_of_mem_stripEdges hx)
  refine ⟨fun x hx => (isNameChar_iff x).mp (hname x hx), fun x hx => ?_, fun x hx => ?_⟩
  · exact isAlphanum_of_not_isEdgeChar (hname x (List.mem_of_mem_head? hx)) (hstrip.head x hx)
  · exact isAlphanum_of_not_isEdgeChar (hname x (List.mem_of_mem_getLast? hx)) (hstrip.last x hx)

namespace SafeStem

variable {c : List Char}

theorem forall_isNameChar (h : SafeStem c) : ∀ x ∈ c, isNameChar x = true :=
  fun x hx => (isNameChar_iff x).mpr (h.chars x hx)

theorem slash_not_mem (h : SafeStem c) : '/' ∉ c := fun hx => by
  simpa using h.chars '/' hx

theorem nul_not_mem (h : SafeStem c) : '\x00' ∉ c := fun hx => by
  simpa using h.chars '\x00' hx

theorem not_dots (h : SafeStem c) : String.ofList c ≠ "." ∧ String.ofList c ≠ ".." := by
  constructor <;> intro hdots <;> rw [← String.toList_inj, String.toList_ofList] at hdots <;>
    exact absurd (h.head_alnum '.' (by simp [hdots])) (by decide)

theorem stripEdges_eq (h : SafeStem c) : stripEdges c = c := by
  have hedge : ∀ x, x.isAlphanum → isEdgeChar x = false := by
    intro x hx
    cases hedge : isEdgeChar x
    · rfl
    · simp only [isEdgeChar, Bool.or_eq_true, beq_iff_eq] at hedge
      rcases hedge with (rfl | rfl) | rfl <;> cases hx
  refine (StripsTo.eq_stripEdges ⟨⟨[], [], by simp, by simp, by simp⟩, ?_, ?_⟩).symm
  · exact fun x hx => hedge x (h.head_alnum x hx)
  · exact fun x hx => hedge x (h.last_alnum x hx)

theorem safeFileName_ofList (h : SafeStem c) (hne : c ≠ []) (d : String) :
    safeFileName (String.ofList c) d = String.ofList c := by
  rw [safeFileName, String.toList_ofList, collapseRuns_of_forall h.forall_isNameChar,
    h.stripEdges_eq]
  simp [hne]

end SafeStem

theorem safeFileName_eq_runsReplaced (x d : String) :
    safeFileName x d = if stripEdges (runsReplaced x.toList) = [] then d
      else String.ofList (stripEdges (runsReplaced x.toList)) := by
  rw [safeFileName, (collapseRuns_eq_runsReplaced x.toList).1]
  simp only [List.isEmpty_iff]

theorem safeStem_runsReplaced (x : String) : SafeStem (stripEdges (runsReplaced x.toList)) := by
  rw [← (collapseRuns_eq_runsReplaced x.toList).1]
  exact safeStem_stripEdges fun _ hx => isNameChar_of_mem_collapseRuns hx

theorem safeFileName_safeFileName (x : String) {d : String} (hd : safeFileName d d = d) :
    safeFileName (safeFileName x d) d = safeFileName x d := by
  rw [safeFileName_eq_runsReplaced x d]
  split
  · exact hd
  · next hne => exact (safeStem_runsReplaced x).safeFileName_ofList hne d

/-- Making a file name safe: cut into its maximal runs, each run of characters outside the name
characters becomes one `_`, and stripping `.`, `_` and `-` from both ends leaves one text `c`.
The safe name is `c`, or the default when `c` is empty. The text `c` is made of name characters,
starts and ends with a letter or digit, so it is neither `.` nor `..` and holds no `/` or NUL;
making it safe again gives it back, for any default that is its own safe name. -/
theorem safeFileName_cleans (x d : String) :
    ∃ c, StripsTo isEdgeChar (runsReplaced x.toList) c ∧
      (∀ c', StripsTo isEdgeChar (runsReplaced x.toList) c' → c' = c) ∧
      safeFileName x d = (if c = [] then d else String.ofList c) ∧
      (SafeStem c ∧ String.ofList c ≠ "." ∧ String.ofList c ≠ ".." ∧ '/' ∉ c ∧
        '\x00' ∉ c) ∧
      (safeFileName d d = d → safeFileName (safeFileName x d) d = safeFileName x d) := by
  have hstem := safeStem_runsReplaced x
  exact ⟨_, stripsTo_stripEdges _, fun _ h => h.eq_stripEdges, safeFileName_eq_runsReplaced x d,
    ⟨hstem, hstem.not_dots.1, hstem.not_dots.2, hstem.slash_not_mem, hstem.nul_not_mem⟩,
    safeFileName_safeFileName x⟩

example : safeFileName "../a  b!" = "a_b" := by decide

end BuildGate
