import BuildGate.Console.Panel
import Mathlib.Data.List.TakeWhile

namespace BuildGate.Console

/-- Whether a piece of markup is text. -/
def Piece.isText : Piece → Bool
  | .text _ => true
  | .tag _ _ => false

section Lists

variable {α : Type}

theorem drop_takeWhile_length (p : α → Bool) (l : List α) :
    l.drop (l.takeWhile p).length = l.dropWhile p := by
  induction l with
  | nil => rfl
  | cons a l ih => by_cases h : p a <;> simp [h, ih]

end Lists

theorem tagAt_eq_some {cs tag next : List Char} (h : tagAt cs = some (tag, next)) :
    cs = tag ++ next ∧ ∃ c body, tag = '[' :: c :: body ++ [']'] ∧ tagStart c = true ∧
      ∀ d ∈ body, (d != ']' && d != '[') = true := by
  unfold tagAt at h
  split at h
  next c rest =>
    split at h
    next hc =>
      dsimp only at h
      rw [drop_takeWhile_length] at h
      split at h
      next after hdrop =>
        cases h
        refine ⟨?_, c, _, rfl, hc, fun d hd => ?_⟩
        · have hsplit := @List.takeWhile_append_dropWhile _ (fun d => d != ']' && d != '[') rest
          rw [hdrop] at hsplit
          conv => lhs; rw [← hsplit]
          simp
        · have := List.mem_takeWhile_imp hd
          exact this
      next => cases h
    next => cases h
  next => cases h

/-- A tag stays the tag at the head of a text whatever follows it. -/
theorem tagAt_append {cs tag next : List Char} (h : tagAt cs = some (tag, next)) (ys : List Char) :
    tagAt (tag ++ ys) = some (tag, ys) := by
  obtain ⟨-, c, body, rfl, hc, hbody⟩ := tagAt_eq_some h
  have htake : (body ++ ']' :: ys).takeWhile (fun d => d != ']' && d != '[') = body := by
    rw [List.takeWhile_append_of_pos hbody, List.takeWhile_cons_of_neg (by decide)]
    simp
  simp [tagAt, hc, htake]

/-- Only `[` opens a tag. -/
theorem tagAt_cons_of_ne {c : Char} (hc : c ≠ '[') (rest : List Char) : tagAt (c :: rest) = none := by
  unfold tagAt
  split
  next c' rest' h => exact absurd (List.cons.inj h).1 hc
  next => rfl

theorem tagAt_bracket_eq_none {c : Char} {rest : List Char} :
    tagAt ('[' :: c :: rest) = none ↔
      tagStart c = false ∨ rest.find? (fun d => !(d != ']' && d != '[')) ≠ some ']' := by
  rw [List.find?_eq_head?_dropWhile_not]
  simp only [tagAt, Bool.not_not]
  rw [drop_takeWhile_length]
  cases hc : tagStart c with
  | false => simp
  | true =>
    simp only [if_true, Bool.true_eq_false, false_or]
    cases hd : rest.dropWhile (fun d => d != ']' && d != '[') with
    | nil => simp
    | cons d after => by_cases h : d = ']' <;> simp [h]

theorem takeWhile_slashes_append {sl after : List Char} (hsl : ∀ b ∈ sl, b = '\\')
    (hafter : after.head? ≠ some '\\') : (sl ++ after).takeWhile (· == '\\') = sl := by
  rw [List.takeWhile_append_of_pos (by simpa using hsl)]
  cases after with
  | nil => simp
  | cons d after =>
    have hd : d ≠ '\\' := by simpa using hafter
    simp [hd]

theorem filter_dropWhile_slashes (l : List Char) :
    (l.dropWhile (· == '\\')).filter (· != '\\') = l.filter (· != '\\') := by
  induction l with
  | nil => rfl
  | cons a l ih => by_cases h : a = '\\' <;> simp [h, ih]

theorem eq_slash_of_mem_takeWhile {l : List Char} {b : Char} (h : b ∈ l.takeWhile (· == '\\')) :
    b = '\\' := by
  simpa using List.mem_takeWhile_imp h

theorem filter_drop_slashes (l : List Char) :
    (l.drop (l.takeWhile (· == '\\')).length).filter (· != '\\') = l.filter (· != '\\') := by
  rw [drop_takeWhile_length, filter_dropWhile_slashes]

theorem filter_takeWhile_slashes (l : List Char) :
    (l.takeWhile (· == '\\')).filter (· != '\\') = [] :=
  List.filter_eq_nil_iff.mpr fun b hb => by simp [eq_slash_of_mem_takeWhile hb]

theorem escapeFrom_filter (f : Nat) (cs : List Char) :
    (escapeFrom f cs).filter (· != '\\') = cs.filter (· != '\\') := by
  fun_induction escapeFrom f cs with
  | case1 cs => rfl
  | case2 => rfl
  | case3 fuel c rest slashes after tag next htag ih =>
    have hsl : slashes.filter (· != '\\') = [] := filter_takeWhile_slashes _
    have hrest : (c :: rest).filter (· != '\\') = after.filter (· != '\\') :=
      (filter_drop_slashes _).symm
    rw [hrest, (tagAt_eq_some htag).1]
    simp [hsl, ih]
  | case4 fuel c rest slashes after hnone hempty ih =>
    have hc : c ≠ '\\' := by simpa [slashes] using hempty
    simp [hc, ih]
  | case5 fuel c rest slashes after hnone hempty ih =>
    have hsl : slashes.filter (· != '\\') = [] := filter_takeWhile_slashes _
    have hrest : (c :: rest).filter (· != '\\') = after.filter (· != '\\') :=
      (filter_drop_slashes _).symm
    rw [hrest]
    simp [hsl, ih]

theorem find?_escapeFrom {P : Char → Bool} (hP : P '\\' = false) (f : Nat) (cs : List Char) :
    (escapeFrom f cs).find? P = cs.find? P := by
  -- the search skips backslashes, and escaping adds nothing else
  have hskip : ∀ l : List Char, (l.filter (· != '\\')).find? P = l.find? P := by
    intro l
    induction l with
    | nil => rfl
    | cons a l ih => by_cases h : a = '\\' <;> simp [h, hP, ih, List.find?_cons]
  rw [← hskip, escapeFrom_filter, hskip]

theorem escapeFrom_cons_of_none {c : Char} {rest : List Char} (hc : c ≠ '\\')
    (h : tagAt (c :: rest) = none) (f : Nat) :
    escapeFrom (f + 1) (c :: rest) = c :: escapeFrom f rest := by
  have hsl : (c :: rest).takeWhile (· == '\\') = [] := by simp [hc]
  rw [escapeFrom.eq_3, hsl]
  simp [h]

theorem escapeFrom_head_slash {c : Char} {rest : List Char} (h : c = '\\' ∨ (tagAt (c :: rest)).isSome)
    (f : Nat) : ∃ t, escapeFrom (f + 1) (c :: rest) = '\\' :: t := by
  rw [escapeFrom.eq_3]
  by_cases hc : c = '\\'
  · subst hc
    split <;> simp
  · have hsl : (c :: rest).takeWhile (· == '\\') = [] := by simp [hc]
    obtain ⟨⟨tag, next⟩, htag⟩ := Option.isSome_iff_exists.mp (h.resolve_left hc)
    simp [hsl, htag]

theorem tagAt_cons_escapeFrom {c : Char} {rest bs : List Char} {f : Nat} (hf : rest.length < f)
    (hbs : ∀ b ∈ bs, b = '\\') (h : tagAt (c :: rest) = none) :
    tagAt (c :: (escapeFrom f rest ++ bs)) = none := by
  by_cases hc : c = '['
  · subst hc
    have hslash : ∀ t, tagAt ('[' :: '\\' :: t) = none := fun t =>
      tagAt_bracket_eq_none.mpr (.inl (by decide))
    cases rest with
    | nil =>
      have hnil : escapeFrom f [] = [] := by cases f <;> rfl
      rw [hnil, List.nil_append]
      cases bs with
      | nil => rfl
      | cons b bs => rw [hbs b (by simp)]; exact hslash bs
    | cons e r =>
      obtain ⟨f, rfl⟩ : ∃ f', f = f' + 1 := ⟨f - 1, by simp at hf; omega⟩
      by_cases he : e = '\\' ∨ (tagAt (e :: r)).isSome
      · obtain ⟨t, ht⟩ := escapeFrom_head_slash he f
        rw [ht, List.cons_append]
        exact hslash _
      · have he' : e ≠ '\\' ∧ tagAt (e :: r) = none := by simpa using he
        rw [escapeFrom_cons_of_none he'.1 he'.2, List.cons_append]
        have hP : (fun d => !(d != ']' && d != '[')) '\\' = false := by decide
        have hbs' : bs.find? (fun d => !(d != ']' && d != '[')) = none :=
          List.find?_eq_none.mpr fun b hb => by rw [hbs b hb]; decide
        have hfind : (escapeFrom f r ++ bs).find? (fun d => !(d != ']' && d != '[')) =
            r.find? (fun d => !(d != ']' && d != '[')) := by
          rw [List.find?_append, find?_escapeFrom hP, hbs', Option.or_none]
        rw [tagAt_bracket_eq_none, hfind]
        exact tagAt_bracket_eq_none.mp h
  · exact tagAt_cons_of_ne hc _

theorem piecesFrom_nil_isText (pos : Nat) (acc : List Char) (fuel : Nat) :
    (piecesFrom pos acc fuel []).all Piece.isText = true := by
  cases fuel with
  | zero => rfl
  | succ fuel => by_cases h : acc.isEmpty <;> simp [piecesFrom, h, Piece.isText]

theorem piecesFrom_slashes_isText {bs : List Char} (hbs : ∀ b ∈ bs, b = '\\') (pos : Nat)
    (acc : List Char) (fuel : Nat) : (piecesFrom pos acc fuel bs).all Piece.isText = true := by
  cases fuel with
  | zero => rfl
  | succ fuel =>
    cases bs with
    | nil => exact piecesFrom_nil_isText pos acc (fuel + 1)
    | cons b bs' =>
      have hall : (b :: bs').takeWhile (· == '\\') = b :: bs' :=
        List.takeWhile_eq_self_iff.mpr fun x hx => by simp [hbs x hx]
      rw [piecesFrom.eq_3, hall, List.drop_length]
      simpa [tagAt] using piecesFrom_nil_isText pos (acc ++ b :: bs') fuel

/-- A character that is no backslash and opens no tag joins the pending text. -/
theorem piecesFrom_cons_of_none {c : Char} {rest : List Char} (hc : c ≠ '\\')
    (h : tagAt (c :: rest) = none) (pos : Nat) (acc : List Char) (fuel : Nat) :
    piecesFrom pos acc (fuel + 1) (c :: rest) = piecesFrom pos (acc ++ [c]) fuel rest := by
  have hsl : (c :: rest).takeWhile (· == '\\') = [] := by simp [hc]
  rw [piecesFrom.eq_3, hsl]
  simp [h]

theorem piecesFrom_slashes_append {sl after : List Char} (hsl : ∀ b ∈ sl, b = '\\') (hne : sl ≠ [])
    (hafter : after.head? ≠ some '\\') (h : tagAt after = none) (pos : Nat) (acc : List Char)
    (fuel : Nat) : piecesFrom pos acc (fuel + 1) (sl ++ after) = piecesFrom pos (acc ++ sl) fuel after := by
  obtain ⟨b, sl', rfl⟩ := List.exists_cons_of_ne_nil hne
  rw [List.cons_append, piecesFrom.eq_3, ← List.cons_append, takeWhile_slashes_append hsl hafter,
    List.drop_left, h]
  simp

theorem piecesFrom_odd_tag_isText {sl tag rest : List Char} (hsl : ∀ b ∈ sl, b = '\\')
    (hodd : sl.length % 2 = 1) (htag : tagAt (tag ++ rest) = some (tag, rest)) (pos : Nat)
    (acc : List Char) (fuel : Nat) (hrest : ∀ pos', (piecesFrom pos' [] fuel rest).all Piece.isText = true) :
    (piecesFrom pos acc (fuel + 1) (sl ++ (tag ++ rest))).all Piece.isText = true := by
  obtain ⟨b, sl', rfl⟩ := List.exists_cons_of_ne_nil (by rintro rfl; simp at hodd : sl ≠ [])
  have hhead : (tag ++ rest).head? ≠ some '\\' := by
    obtain ⟨-, c, body, htag', -⟩ := tagAt_eq_some htag
    simp [htag']
  rw [List.cons_append, piecesFrom.eq_3, ← List.cons_append, takeWhile_slashes_append hsl hhead,
    List.drop_left, htag]
  dsimp only
  rw [if_pos (by rw [hodd]; rfl)]
  simp only [List.all_append, Bool.and_eq_true]
  refine ⟨⟨?_, ?_⟩, hrest _⟩ <;> split <;> simp [Piece.isText]

theorem head?_drop_slashes (l : List Char) :
    (l.drop (l.takeWhile (· == '\\')).length).head? ≠ some '\\' := by
  rw [drop_takeWhile_length]
  intro h
  have := List.head?_dropWhile_not (· == '\\') l
  rw [h] at this
  simp at this

/-- Escaped text is read as text only, whatever text is pending before it and whatever
backslashes follow it: each tag of the text comes after an odd run of backslashes, and
escaping makes no new tag. -/
theorem piecesFrom_escapeFrom_isText {f : Nat} {cs bs : List Char} (hf : cs.length < f)
    (hbs : ∀ b ∈ bs, b = '\\') (pos : Nat) (acc : List Char) (fuel : Nat) :
    (piecesFrom pos acc fuel (escapeFrom f cs ++ bs)).all Piece.isText = true := by
  fun_induction escapeFrom f cs generalizing pos acc fuel with
  | case1 cs => simp at hf
  | case2 t ht => exact piecesFrom_slashes_isText hbs pos acc fuel
  | case3 f c rest slashes after tag next htag ih =>
    cases fuel with
    | zero => rfl
    | succ fuel =>
      have hafter : after.length ≤ rest.length + 1 := by simp [after]
      have hnext : next.length < f := by
        obtain ⟨hsplit, c', body, htag', -⟩ := tagAt_eq_some htag
        have hlen : after.length = tag.length + next.length := by rw [hsplit, List.length_append]
        have htaglen : 0 < tag.length := by simp [htag']
        simp at hf
        omega
      have hsl : ∀ b ∈ slashes ++ slashes ++ ['\\'], b = '\\' := by
        simp only [List.mem_append, List.mem_singleton]
        rintro b ((hb | hb) | rfl) <;> first | rfl | exact eq_slash_of_mem_takeWhile hb
      have hodd : (slashes ++ slashes ++ ['\\']).length % 2 = 1 := by simp; omega
      simpa [List.append_assoc] using piecesFrom_odd_tag_isText hsl hodd
        (tagAt_append htag (escapeFrom f next ++ bs)) pos acc fuel
        (fun pos' => ih (by omega) pos' [] fuel)
  | case4 f c rest slashes after hnone hempty ih =>
    cases fuel with
    | zero => rfl
    | succ fuel =>
      have hsl : slashes = [] := List.isEmpty_iff.mp hempty
      have hc : c ≠ '\\' := by simpa [slashes] using hsl
      have hnone' : tagAt (c :: rest) = none := by simpa [after, hsl] using hnone
      have hrest : rest.length < f := by simpa using hf
      rw [List.cons_append, piecesFrom_cons_of_none hc (tagAt_cons_escapeFrom hrest hbs hnone')]
      exact ih hrest pos (acc ++ [c]) fuel
  | case5 f c rest slashes after hnone hempty ih =>
    cases fuel with
    | zero => rfl
    | succ fuel =>
      have hne : slashes ≠ [] := fun h => hempty (List.isEmpty_iff.mpr h)
      have hsl : ∀ b ∈ slashes, b = '\\' := fun b hb => eq_slash_of_mem_takeWhile hb
      have hlen : after.length < f := by
        have : 0 < slashes.length := List.length_pos_iff.mpr hne
        simp [after] at hf ⊢
        omega
      have hhead : after.head? ≠ some '\\' := head?_drop_slashes (c :: rest)
      obtain ⟨d, r, hdr⟩ | hnil : (∃ d r, after = d :: r) ∨ after = [] := by
        cases after with
        | nil => exact .inr rfl
        | cons d r => exact .inl ⟨d, r, rfl⟩
      · -- the text goes on after the backslashes, and escaping keeps its head
        obtain ⟨f, rfl⟩ : ∃ f', f = f' + 1 := ⟨f - 1, by rw [hdr] at hlen; simp at hlen; omega⟩
        have hd : d ≠ '\\' := by simpa [hdr] using hhead
        have hnone' : tagAt (d :: r) = none := hdr ▸ hnone
        have hr : r.length < f := by rw [hdr] at hlen; simpa using hlen
        have hE : escapeFrom (f + 1) after = d :: escapeFrom f r := by
          rw [hdr, escapeFrom_cons_of_none hd hnone']
        have hEhead : (escapeFrom (f + 1) after ++ bs).head? ≠ some '\\' := by simp [hE, hd]
        have hEtag : tagAt (escapeFrom (f + 1) after ++ bs) = none := by
          rw [hE, List.cons_append]
          exact tagAt_cons_escapeFrom hr hbs hnone'
        rw [List.append_assoc, piecesFrom_slashes_append hsl hne hEhead hEtag]
        exact ih hlen pos (acc ++ slashes) fuel
      · -- only backslashes are left
        have hnil' : escapeFrom f after = [] := by rw [hnil]; cases f <;> rfl
        rw [hnil', List.append_nil]
        refine piecesFrom_slashes_isText ?_ pos acc (fuel + 1)
        simp only [List.mem_append]
        rintro b (hb | hb)
        · exact hsl b hb
        · exact hbs b hb

/-- An escaped text is its characters escaped, then at most one more backslash. -/
theorem escapeMarkup_toList (s : String) : ∃ bs, (∀ b ∈ bs, b = '\\') ∧
    (escapeMarkup s).toList = escapeFrom (s.length + 1) s.toList ++ bs := by
  unfold escapeMarkup
  dsimp only
  split
  · exact ⟨['\\'], by simp, by simp⟩
  · exact ⟨[], by simp, by simp⟩

/-- Characters that are neither backslashes nor `[` join the pending text. -/
theorem piecesFrom_plain_append {plain : List Char} (hplain : ∀ c ∈ plain, c ≠ '\\' ∧ c ≠ '[')
    (rest : List Char) (pos : Nat) (acc : List Char) (fuel : Nat) :
    piecesFrom pos acc (fuel + plain.length) (plain ++ rest) =
      piecesFrom pos (acc ++ plain) fuel rest := by
  induction plain generalizing acc with
  | nil => simp
  | cons c plain ih =>
    have hc := hplain c (by simp)
    rw [List.length_cons, ← Nat.add_assoc, List.cons_append,
      piecesFrom_cons_of_none hc.1 (tagAt_cons_of_ne hc.2 _),
      ih (fun d hd => hplain d (by simp [hd]))]
    simp

/-- A tag with no backslash before it is read as a tag, after the pending text. -/
theorem piecesFrom_tag {tag rest : List Char} (htag : tagAt (tag ++ rest) = some (tag, rest))
    (pos : Nat) (acc : List Char) (fuel : Nat) :
    piecesFrom pos acc (fuel + 1) (tag ++ rest) =
      (if acc.isEmpty then [] else [.text acc]) ++
        .tag ((tag.drop 1).dropLast) (pos + acc.length) ::
          piecesFrom (pos + acc.length + tag.length) [] fuel rest := by
  obtain ⟨-, c, body, htag', -⟩ := tagAt_eq_some htag
  have hcons : tag ++ rest = '[' :: (c :: body ++ [']'] ++ rest) := by simp [htag']
  have hsl : (tag ++ rest).takeWhile (· == '\\') = [] := by simp [hcons]
  rw [hcons, piecesFrom.eq_3, ← hcons, hsl, List.length_nil, List.drop_zero, htag]
  simp

/-- Text pieces render, whatever tags are open. -/
theorem renderPieces_of_isText (opens : List OpenTag) {ps : List Piece}
    (h : ps.all Piece.isText = true) : ∃ out, renderPieces opens ps = .ok out := by
  induction ps with
  | nil => exact ⟨[], rfl⟩
  | cons q ps ih =>
    simp only [List.all_cons, Bool.and_eq_true] at h
    cases q with
    | text cs =>
      obtain ⟨out, hout⟩ := ih h.2
      exact ⟨_, by simp [renderPieces, hout]; rfl⟩
    | tag inside pos => simp [Piece.isText] at h

/-- Markup renders when its pieces do. -/
theorem renderMarkup_eq_ok_of_pieces {s : String} (h : ∃ out, renderPieces [] (pieces s) = .ok out) :
    ∃ plain, renderMarkup s = .ok plain := by
  unfold renderMarkup
  split
  · exact ⟨_, rfl⟩
  · obtain ⟨out, hout⟩ := h
    exact ⟨String.ofList out, by rw [hout]; rfl⟩

theorem replaceCodesFrom_of_colon_not_mem {cs : List Char} (h : ':' ∉ cs) (fuel : Nat) :
    replaceCodesFrom fuel cs = cs := by
  induction fuel generalizing cs with
  | zero => rfl
  | succ fuel ih =>
    cases cs with
    | nil => rfl
    | cons c rest =>
      have hc : c ≠ ':' := fun hc => h (by simp [hc])
      simp only [replaceCodesFrom, beq_iff_eq, hc, if_false]
      rw [ih fun hr => h (List.mem_cons_of_mem c hr)]

theorem unescapeBrackets_cons_of_ne {c : Char} (hc : c ≠ '\\') (rest : List Char) :
    unescapeBrackets (c :: rest) = c :: unescapeBrackets rest := by
  rw [unescapeBrackets.eq_def]
  split
  · next heq => exact absurd (List.cons.inj heq).1 hc
  · next heq => rw [(List.cons.inj heq).1, (List.cons.inj heq).2]
  · cases ‹c :: rest = []›

theorem unescapeBrackets_of_slash_not_mem {cs : List Char} (h : '\\' ∉ cs) : unescapeBrackets cs = cs := by
  induction cs with
  | nil => rfl
  | cons c rest ih =>
    rw [unescapeBrackets_cons_of_ne fun hc => h (by simp [hc]),
      ih fun hr => h (List.mem_cons_of_mem c hr)]

/-- A text with no backslash, bracket or colon renders as itself. -/
theorem renderText_of_plain {cs : List Char} (h : ∀ c ∈ cs, c ≠ '\\' ∧ c ≠ '[' ∧ c ≠ ':') :
    replaceEmoji (unescapeBrackets cs) = cs := by
  rw [unescapeBrackets_of_slash_not_mem fun hc => (h _ hc).1 rfl, replaceEmoji,
    replaceCodesFrom_of_colon_not_mem fun hc => (h _ hc).2.2 rfl]

theorem piecesFrom_nil_succ (pos : Nat) (acc : List Char) (fuel : Nat) :
    piecesFrom pos acc (fuel + 1) [] = if acc.isEmpty then [] else [.text acc] := rfl

end BuildGate.Console
