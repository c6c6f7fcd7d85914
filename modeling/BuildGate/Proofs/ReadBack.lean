import BuildGate.Proofs.Numerals
import BuildGate.Proofs.Written

namespace BuildGate

open Text

namespace Text

/-- The characters a held text stands for: its code points, an unpaired half as itself. -/
def rawChars (cs : List Char) : List Char := (points cs).map Char.ofNat

theorem rawChars_append {a : List Char} (ha : Valid a) (b : List Char) :
    rawChars (a ++ b) = rawChars a ++ rawChars b := by
  obtain ⟨ps, hps, rfl⟩ := ha
  simp [rawChars, points_flatMap_pointChars hps, Valid.points_eq hps rfl]

theorem flatMap_pointChars_toNat {cs : List Char} (h : ∀ c ∈ cs, c ≠ halfMark) :
    (cs.map Char.toNat).flatMap pointChars = cs := by
  induction cs with
  | nil => rfl
  | cons c cs ih =>
    rw [List.map_cons, List.flatMap_cons, pointChars_toNat (h c List.mem_cons_self),
      ih fun d hd => h d (List.mem_cons_of_mem _ hd)]
    rfl

theorem rawChars_of_ne_halfMark {cs : List Char} (h : ∀ c ∈ cs, c ≠ halfMark) :
    rawChars cs = cs := by
  rw [rawChars, Valid.points_eq (fun p hp => ?_) (flatMap_pointChars_toNat h).symm, List.map_map]
  · conv_rhs => rw [← List.map_id cs]
    exact List.map_congr_left fun c _ => Char.ofNat_toNat c
  · obtain ⟨c, -, rfl⟩ := List.mem_map.mp hp
    exact scalar_toNat c

theorem rawChars_of_ascii {cs : List Char} (h : ∀ c ∈ cs, c.toNat < 128) : rawChars cs = cs :=
  rawChars_of_ne_halfMark fun c hc heq => by
    have := h c hc
    rw [heq, halfMark_toNat] at this
    omega

end Text

namespace Json

def shortEscapes : List (Char × Char) :=
  [('"', '"'), ('\\', '\\'), ('n', '\n'), ('r', '\r'), ('t', '\t'), ('b', '\x08'), ('f', '\x0c')]

theorem escapeChar_cases (c : Char) :
    (∃ e, (e, c) ∈ shortEscapes ∧ escapeChar c = ['\\', e]) ∨
      (c.toNat < 0x20 ∧ escapeChar c = '\\' :: 'u' :: hexDigits 4 c.toNat) ∨
      (c ≠ '"' ∧ c ≠ '\\' ∧ 0x1F < c.toNat ∧ escapeChar c = [c]) := by
  unfold escapeChar
  split_ifs with h1 h2 h3 h4 h5 h6 h7 h8
  · exact .inl ⟨'"', by simp [shortEscapes, beq_iff_eq.mp h1], rfl⟩
  · exact .inl ⟨'\\', by simp [shortEscapes, beq_iff_eq.mp h2], rfl⟩
  · exact .inl ⟨'n', by simp [shortEscapes, beq_iff_eq.mp h3], rfl⟩
  · exact .inl ⟨'r', by simp [shortEscapes, beq_iff_eq.mp h4], rfl⟩
  · exact .inl ⟨'t', by simp [shortEscapes, beq_iff_eq.mp h5], rfl⟩
  · exact .inl ⟨'b', by simp [shortEscapes, beq_iff_eq.mp h6], rfl⟩
  · exact .inl ⟨'f', by simp [shortEscapes, beq_iff_eq.mp h7], rfl⟩
  · exact .inr (.inl ⟨h8, rfl⟩)
  · refine .inr (.inr ⟨fun h => h1 (by simp [h]), fun h => h2 (by simp [h]), by omega, rfl⟩)

theorem escapeChar_single {c d : Char} (h : escapeChar c = [d]) : d = c := by
  unfold escapeChar at h
  split_ifs at h <;> simp_all [Text.hexDigits]

theorem rawChars_escapePoint {p : Nat} (hp : Scalar p) :
    rawChars (escapePoint p) = escapeChar (Char.ofNat p) := by
  unfold escapePoint
  rw [if_neg (by simp [hp.2])]
  split
  next d hd =>
    rw [hd, escapeChar_single hd, rawChars]
    have := points_pointChars_append hp []
    rw [List.append_nil, show points [] = [] from rfl] at this
    rw [this]
    rfl
  next e hne =>
    rcases escapeChar_eq_or (Char.ofNat p) with h | h
    · exact absurd h (hne _)
    · exact rawChars_of_ascii h

def escapedText (ps : List Nat) : List Char := ps.flatMap fun p => escapeChar (Char.ofNat p)

theorem rawChars_flatMap {α : Type} {f : α → List Char} {as : List α}
    (h : ∀ a ∈ as, Valid (f a)) : rawChars (as.flatMap f) = as.flatMap (rawChars ∘ f) := by
  induction as with
  | nil => rfl
  | cons a as ih =>
    rw [List.flatMap_cons, rawChars_append (h a List.mem_cons_self),
      ih fun b hb => h b (List.mem_cons_of_mem _ hb)]
    rfl

theorem rawChars_quoteString {s : String} (hs : Valid s.toList) :
    rawChars (quoteString s).toList = '"' :: escapedText (points s.toList) ++ ['"'] := by
  have hq : ∀ c ∈ ['"'], c.toNat < 128 := by simp
  have hbody : Valid ((points s.toList).flatMap escapePoint) :=
    valid_flatMap fun p hp => valid_escapePoint (hs.scalar_points p hp)
  have hlist : (quoteString s).toList =
      ['"'] ++ ((points s.toList).flatMap escapePoint ++ ['"']) := by
    rw [quoteString, String.toList_ofList]
    rfl
  rw [hlist, rawChars_append (valid_of_ascii hq), rawChars_of_ascii hq, rawChars_append hbody,
    rawChars_of_ascii hq, rawChars_flatMap fun p hp => valid_escapePoint (hs.scalar_points p hp)]
  have hescaped : (points s.toList).flatMap (rawChars ∘ escapePoint) =
      escapedText (points s.toList) :=
    List.flatMap_congr fun p hp => rawChars_escapePoint (hs.scalar_points p hp)
  rw [hescaped]
  rfl

theorem hexValue_hexDigit : ∀ k < 16, hexValue (hexDigit k) = some k := by decide

theorem hex4_hexDigits (pre rest : List Char) {n : Nat} (hn : n < 0x10000) :
    hex4 (pre ++ hexDigits 4 n ++ rest).toArray pre.length = some n := by
  have hfour : hexDigits 4 n = [hexDigit (n / 16 / 16 / 16 % 16), hexDigit (n / 16 / 16 % 16),
      hexDigit (n / 16 % 16), hexDigit (n % 16)] := by
    simp [hexDigits]
  rw [hfour]
  simp [hex4, hexValue_hexDigit _ (Nat.mod_lt _ (by omega : 16 > 0))]
  omega

theorem scanString_shortEscape {e d : Char} (h : (e, d) ∈ shortEscapes) (pre rest : List Char)
    (b : Nat) (acc : List Nat) :
    scanString (pre ++ ['\\', e] ++ rest).toArray b pre.length acc =
      scanString (pre ++ ['\\', e] ++ rest).toArray b (pre.length + 2) (d.toNat :: acc) := by
  have hi : pre.length < (pre ++ ['\\', e] ++ rest).toArray.size := by simp
  have hi1 : pre.length + 1 < (pre ++ ['\\', e] ++ rest).toArray.size := by simp
  have hc : (pre ++ ['\\', e] ++ rest).toArray[pre.length] = '\\' :=
    getElem_eq_of_getElem? (by simp) hi
  have he : (pre ++ ['\\', e] ++ rest).toArray[pre.length + 1] = e :=
    getElem_eq_of_getElem? (by rw [List.append_assoc, getElem?_after]; rfl) hi1
  rw [scanString, dif_pos hi]
  simp only [hc, he, dif_pos hi1]
  simp only [shortEscapes, List.mem_cons, Prod.mk.injEq, List.not_mem_nil, or_false] at h
  rcases h with ⟨rfl, rfl⟩ | ⟨rfl, rfl⟩ | ⟨rfl, rfl⟩ | ⟨rfl, rfl⟩ | ⟨rfl, rfl⟩ | ⟨rfl, rfl⟩ |
    ⟨rfl, rfl⟩ <;> rfl

theorem scanString_unicode (pre rest : List Char) {n : Nat} (hn : n < 0x20) (hrest : rest ≠ [])
    (b : Nat) (acc : List Nat) :
    scanString (pre ++ '\\' :: 'u' :: hexDigits 4 n ++ rest).toArray b pre.length acc =
      scanString (pre ++ '\\' :: 'u' :: hexDigits 4 n ++ rest).toArray b (pre.length + 6)
        (n :: acc) := by
  have hlen : (hexDigits 4 n).length = 4 := by simp [hexDigits]
  have hsize : (pre ++ '\\' :: 'u' :: hexDigits 4 n ++ rest).toArray.size =
      pre.length + 6 + rest.length := by
    simp [hlen]
    omega
  have hrest' : 0 < rest.length := List.length_pos_iff.mpr hrest
  have hi : pre.length < (pre ++ '\\' :: 'u' :: hexDigits 4 n ++ rest).toArray.size := by omega
  have hi1 : pre.length + 1 < (pre ++ '\\' :: 'u' :: hexDigits 4 n ++ rest).toArray.size := by
    omega
  have hc : (pre ++ '\\' :: 'u' :: hexDigits 4 n ++ rest).toArray[pre.length] = '\\' :=
    getElem_eq_of_getElem? (by simp) hi
  have hu : (pre ++ '\\' :: 'u' :: hexDigits 4 n ++ rest).toArray[pre.length + 1] = 'u' :=
    getElem_eq_of_getElem? (by rw [List.append_assoc, getElem?_after]; rfl) hi1
  have hhex : hex4 (pre ++ '\\' :: 'u' :: hexDigits 4 n ++ rest).toArray (pre.length + 2) =
      some n := by
    have := hex4_hexDigits (pre ++ ['\\', 'u']) rest (n := n) (by omega)
    simpa using this
  rw [scanString, dif_pos hi]
  simp only [hc, hu, hhex, hsize]
  simp [show ¬(55296 ≤ n) by omega, show ¬(pre.length + 6 + rest.length ≤ pre.length + 6) by omega]
  intro h
  omega

theorem scanString_plain (pre rest : List Char) {c : Char} (h1 : c ≠ '"') (h2 : c ≠ '\\')
    (h3 : 0x1F < c.toNat) (b : Nat) (acc : List Nat) :
    scanString (pre ++ [c] ++ rest).toArray b pre.length acc =
      scanString (pre ++ [c] ++ rest).toArray b (pre.length + 1) (c.toNat :: acc) := by
  have hi : pre.length < (pre ++ [c] ++ rest).toArray.size := by simp
  have hc : (pre ++ [c] ++ rest).toArray[pre.length] = c := getElem_eq_of_getElem? (by simp) hi
  rw [scanString, dif_pos hi]
  simp only [hc]
  simp [h1, h2]
  omega

theorem scanString_escapeChar {p : Nat} (hp : Scalar p) (pre rest : List Char) (hrest : rest ≠ [])
    (b : Nat) (acc : List Nat) :
    scanString (pre ++ escapeChar (Char.ofNat p) ++ rest).toArray b pre.length acc =
      scanString (pre ++ escapeChar (Char.ofNat p) ++ rest).toArray b
        (pre ++ escapeChar (Char.ofNat p)).length (p :: acc) := by
  have hc : (Char.ofNat p).toNat = p := toNat_charOfNat hp.isValidChar
  rcases escapeChar_cases (Char.ofNat p) with ⟨e, he, hesc⟩ | ⟨hlt, hesc⟩ | ⟨h1, h2, h3, hesc⟩ <;>
    rw [hesc]
  · rw [scanString_shortEscape he, hc]
    simp
  · rw [scanString_unicode pre rest hlt hrest, hc]
    simp [hexDigits]
  · rw [scanString_plain pre rest h1 h2 h3, hc]
    simp

theorem scanString_escaped {ps : List Nat} (hps : ∀ p ∈ ps, Scalar p) (pre post : List Char)
    (b : Nat) (acc : List Nat) :
    scanString (pre ++ escapedText ps ++ '"' :: post).toArray b pre.length acc =
      .ok (ofPoints (acc.reverse ++ ps), pre.length + (escapedText ps).length + 1) := by
  induction ps generalizing pre acc with
  | nil =>
    have hi : pre.length < (pre ++ escapedText [] ++ '"' :: post).toArray.size := by simp
    have hc : (pre ++ escapedText [] ++ '"' :: post).toArray[pre.length] = '"' :=
      getElem_eq_of_getElem? (by simp [escapedText]) hi
    rw [scanString, dif_pos hi]
    simp [escapedText]
  | cons p ps ih =>
    have hp := hps p List.mem_cons_self
    have hsplit : pre ++ escapedText (p :: ps) ++ '"' :: post =
        pre ++ escapeChar (Char.ofNat p) ++ (escapedText ps ++ '"' :: post) := by
      simp [escapedText]
    rw [hsplit, scanString_escapeChar hp pre _ (by simp), ← List.append_assoc,
      ih (fun q hq => hps q (List.mem_cons_of_mem _ hq))]
    simp [escapedText]
    omega

/-- Characters the reader skips between tokens. -/
def Blanks (cs : List Char) : Prop := ∀ c ∈ cs, Json.isBlank c = true

theorem ascii_of_blanks {cs : List Char} (h : Blanks cs) : ∀ c ∈ cs, c.toNat < 128 := by
  intro c hc
  have := h c hc
  simp only [Json.isBlank, Bool.or_eq_true, beq_iff_eq] at this
  rcases this with ((rfl | rfl) | rfl) | rfl <;> decide

theorem blanks_lineBreak (indent : Option Nat) (depth : Nat) :
    Blanks (lineBreak indent depth).toList := by
  intro c hc
  cases indent with
  | none => simp [lineBreak] at hc
  | some n =>
    simp only [lineBreak, String.toList_append, String.toList_ofList, List.mem_append,
      List.mem_replicate] at hc
    rcases hc with hc | ⟨-, rfl⟩
    · have hnl : "\n".toList = ['\n'] := by simp
      rw [hnl, List.mem_singleton] at hc
      rw [hc]
      rfl
    · rfl

theorem itemSep_toList (indent : Option Nat) :
    ∃ tail, (itemSep indent).toList = ',' :: tail ∧ Blanks tail := by
  cases indent with
  | none => exact ⟨[' '], by simp [itemSep], by simp [Blanks, Json.isBlank]⟩
  | some n => exact ⟨[], by simp [itemSep], by simp [Blanks]⟩

theorem Blanks.append {a b : List Char} (ha : Blanks a) (hb : Blanks b) : Blanks (a ++ b) :=
  fun c hc => (List.mem_append.mp hc).elim (ha c) (hb c)

theorem skipBlank_blanks (pre bl post : List Char) (hbl : Blanks bl)
    (hpost : ∀ c ∈ post.head?, Json.isBlank c = false) :
    skipBlank (pre ++ bl ++ post).toArray pre.length = pre.length + bl.length := by
  induction bl generalizing pre with
  | nil =>
    rw [skipBlank]
    split
    next hi =>
      cases post with
      | nil => simp at hi
      | cons c rest =>
        have hc : (pre ++ [] ++ c :: rest).toArray[pre.length] = c :=
          getElem_eq_of_getElem? (by simp) hi
        rw [hc, if_neg (by simp [hpost c rfl])]
        simp
    next => simp
  | cons d bl ih =>
    have hi : pre.length < (pre ++ d :: bl ++ post).toArray.size := by simp
    have hc : (pre ++ d :: bl ++ post).toArray[pre.length] = d :=
      getElem_eq_of_getElem? (by simp) hi
    rw [skipBlank, dif_pos hi, hc, if_pos (hbl d List.mem_cons_self)]
    have := ih (pre ++ [d]) fun c hc => hbl c (List.mem_cons_of_mem _ hc)
    simp only [List.append_assoc, List.singleton_append, List.length_append,
      List.length_singleton] at this
    simp only [List.append_assoc, List.length_cons]
    omega

theorem skipBlank_comma (a : List Char) {sep : List Char} (rest : List Char) (hsep : Blanks sep)
    (hrest : ∀ c ∈ rest.head?, Json.isBlank c = false) :
    skipBlank (a ++ ',' :: (sep ++ rest)).toArray a.length = a.length ∧
      (a ++ ',' :: (sep ++ rest)).toArray[a.length]? = some ',' ∧
      skipBlank (a ++ ',' :: (sep ++ rest)).toArray (a.length + 1) = a.length + 1 + sep.length := by
  have hat := skipBlank_blanks a [] (',' :: (sep ++ rest)) (by simp [Blanks])
    (by simp [Json.isBlank])
  have hafter := skipBlank_blanks (a ++ [',']) sep rest hsep hrest
  simp only [List.append_nil, List.length_nil, Nat.add_zero] at hat
  simp only [List.append_assoc, List.cons_append, List.nil_append, List.length_append,
    List.length_singleton] at hafter
  exact ⟨hat, getElem?_at a _, hafter⟩

theorem hasWord_at (pre post : List Char) (w : String) :
    hasWord (pre ++ w.toList ++ post).toArray pre.length w = true := by
  unfold hasWord
  simp [← String.length_toList]

theorem hasWord_of_ne {s : Array Char} {i k : Nat} {w : String} {c : Char} (hk : k < w.length)
    (hs : s[i + k]? = some c) (hc : w.toList[k]? ≠ some c) : hasWord s i w = false := by
  unfold hasWord
  rw [beq_eq_false_iff_ne]
  intro h
  apply hc
  have h' := congrArg (·[k]?) h
  simp only [Array.toList_extract, List.extract_eq_take_drop, List.getElem?_take,
    List.getElem?_drop] at h'
  rw [← h', if_pos (by omega)]
  simpa using hs

theorem putEntry_fresh (pref : List (String × Value)) {k : String} (hk : k ∉ pref.map (·.1))
    (v : Value) :
    Value.putEntry (pref.map fun p => (Value.str p.1, p.2)) (.str k) v =
      (pref.map fun p => (Value.str p.1, p.2)) ++ [(.str k, v)] := by
  unfold Value.putEntry
  rw [if_neg]
  simp only [List.any_map, Bool.not_eq_true, List.any_eq_false, Function.comp_apply]
  intro p hp
  have hne : p.1 ≠ k := fun h => hk (List.mem_map.mpr ⟨p, hp, h⟩)
  simp [Value.sameKey, hne]

theorem readValue_null (pre post : List Char) (fuel : Nat) :
    readValue (pre ++ "null".toList ++ post).toArray pre.length (fuel + 1) =
      .ok (.null, pre.length + 4) := by
  have hc : (pre ++ "null".toList ++ post).toArray[pre.length]? = some 'n' := by
    rw [List.append_assoc, getElem?_at]
    rfl
  simp only [readValue, hc, hasWord_at]
  rfl

theorem readValue_true (pre post : List Char) (fuel : Nat) :
    readValue (pre ++ "true".toList ++ post).toArray pre.length (fuel + 1) =
      .ok (.bool true, pre.length + 4) := by
  have hc : (pre ++ "true".toList ++ post).toArray[pre.length]? = some 't' := by
    rw [List.append_assoc, getElem?_at]
    rfl
  simp only [readValue, hc, hasWord_at]
  rfl

theorem readValue_false (pre post : List Char) (fuel : Nat) :
    readValue (pre ++ "false".toList ++ post).toArray pre.length (fuel + 1) =
      .ok (.bool false, pre.length + 5) := by
  have hc : (pre ++ "false".toList ++ post).toArray[pre.length]? = some 'f' := by
    rw [List.append_assoc, getElem?_at]
    rfl
  simp only [readValue, hc, hasWord_at]
  rfl

theorem readValue_infinity (pre post : List Char) (fuel : Nat) :
    readValue (pre ++ "Infinity".toList ++ post).toArray pre.length (fuel + 1) =
      .ok (.float Binary64.infinity, pre.length + 8) := by
  have hc : (pre ++ "Infinity".toList ++ post).toArray[pre.length]? = some 'I' := by
    rw [List.append_assoc, getElem?_at]
    rfl
  simp only [readValue, hc, hasWord_at]
  rfl

theorem readValue_neg_infinity (pre post : List Char) (fuel : Nat) :
    readValue (pre ++ "-Infinity".toList ++ post).toArray pre.length (fuel + 1) =
      .ok (.float (-Binary64.infinity), pre.length + 9) := by
  have hc : (pre ++ "-Infinity".toList ++ post).toArray[pre.length]? = some '-' := by
    rw [List.append_assoc, getElem?_at]
    rfl
  simp only [readValue, hc, hasWord_at]
  rfl

theorem digit_ne {c : Char} (h : c.isDigit = true) :
    c ≠ '"' ∧ c ≠ '\x7b' ∧ c ≠ '[' ∧ c ≠ 'n' ∧ c ≠ 't' ∧ c ≠ 'f' ∧ c ≠ 'N' ∧ c ≠ 'I' ∧ c ≠ '-' := by
  refine ⟨?_, ?_, ?_, ?_, ?_, ?_, ?_, ?_, ?_⟩ <;> (rintro rfl; exact absurd h (by decide))

theorem length_toString_le {z : Int} (h : Value.isLongInt z = false) :
    (toString z.natAbs).length ≤ maxIntDigits := by
  simp only [Value.isLongInt, decide_eq_false_iff_not, Nat.not_le] at h
  have hK : 1 ≤ Value.intTextLimit := by decide
  rw [show maxIntDigits = Value.intTextLimit from rfl, Nat.toString_eq_ofList_toDigits,
    String.length_ofList]
  -- the limit is kept abstract, so that no power of it is ever computed
  generalize Value.intTextLimit = K at h hK ⊢
  rw [Nat.pow_eq] at h
  rcases Nat.eq_zero_or_pos z.natAbs with h0 | hpos
  · rw [h0]
    simpa using hK
  · have hlt := lt_of_le_of_lt (Binary64.decimalLength_bounds hpos).1 h
    have := (Nat.pow_lt_pow_iff_right (by norm_num)).mp hlt
    have hpos' := Binary64.decimalLength_pos z.natAbs
    unfold Binary64.decimalLength at this hpos'
    omega

theorem scanned_eq_ok {i j : Nat} {v : Value}
    (hshort : ∀ z, v = .int z → Value.isLongInt z = false) :
    (match some (v, j) with
      | some (.int z, j) =>
        let digits := (toString z.natAbs).length
        if digits > maxIntDigits then .error ⟨.tooManyDigits digits, i⟩ else .ok (.int z, j)
      | some r => .ok r
      | none => .error ⟨.expectingValue, i⟩ : Except ReadError (Value × Nat)) = .ok (v, j) := by
  cases v with
  | int z => exact if_neg (not_lt.mpr (length_toString_le (hshort z rfl)))
  | _ => rfl

theorem readValue_numeral {n : Numeral} (hn : n.WellFormed) (pre post : List Char)
    (hpost : EndsNumber post) (fuel : Nat)
    (hshort : ∀ z, n.value = .int z → Value.isLongInt z = false) :
    readValue (pre ++ n.text ++ post).toArray pre.length (fuel + 1) =
      .ok (n.value, pre.length + n.text.length) := by
  obtain ⟨h1, h2, h3, h4, h5, h6, h7, h8, h9⟩ := digit_ne (Numeral.lead_isDigit hn)
  have hscan := Numeral.scanNumber_text hn pre post hpost
  rw [List.append_assoc] at hscan
  cases hneg : n.neg
  · have hc : (pre ++ n.text ++ post).toArray[pre.length]? = some n.lead := by
      rw [List.append_assoc, getElem?_at]
      simp [Numeral.text, Numeral.signText, hneg]
    simp only [readValue, hc]
    simp [h4, h5, h6, h7, h8, h9, hscan]
    exact scanned_eq_ok hshort
  · have hc : (pre ++ n.text ++ post).toArray[pre.length]? = some '-' := by
      rw [List.append_assoc, getElem?_at]
      simp [Numeral.text, Numeral.signText, hneg]
    have hword : hasWord (pre ++ n.text ++ post).toArray pre.length "-Infinity" = false := by
      refine hasWord_of_ne (k := 1) (c := n.lead) (by decide) ?_ (by simpa using h8.symm)
      rw [List.append_assoc, getElem?_after]
      simp [Numeral.text, Numeral.signText, hneg]
    rw [List.append_assoc] at hword
    simp only [readValue, hc]
    simp [hword, hscan]
    exact scanned_eq_ok hshort

/-- A character a value's text may start with: an ASCII character that is no blank and no
closing bracket. -/
def Opens (c : Char) : Prop := Json.isBlank c = false ∧ c ≠ ']' ∧ c ≠ '\x7d' ∧ c.toNat < 128

theorem opens_of_isDigit {c : Char} (h : c.isDigit = true) : Opens c := by
  have := toNat_of_isDigit h
  refine ⟨?_, fun h' => ?_, fun h' => ?_, by omega⟩
  · simp only [Json.isBlank, Bool.or_eq_false_iff, beq_eq_false_iff_ne]
    refine ⟨⟨⟨?_, ?_⟩, ?_⟩, ?_⟩ <;> (rintro rfl; revert this; decide)
  · subst h'
    revert this
    decide
  · subst h'
    revert this
    decide

theorem endsNumber_cons {c : Char} (h : c.isDigit = false ∧ c ≠ '.' ∧ c ≠ 'e' ∧ c ≠ 'E')
    (rest : List Char) : EndsNumber (c :: rest) := by
  intro d hd
  cases hd
  exact h

theorem endsNumber_blanks {bl : List Char} (hbl : Blanks bl) {c : Char}
    (hc : c.isDigit = false ∧ c ≠ '.' ∧ c ≠ 'e' ∧ c ≠ 'E') (rest : List Char) :
    EndsNumber (bl ++ c :: rest) := by
  cases bl with
  | nil => exact endsNumber_cons hc rest
  | cons b bl =>
    refine endsNumber_cons ?_ _
    have hb := hbl b List.mem_cons_self
    simp only [Json.isBlank, Bool.or_eq_true, beq_iff_eq] at hb
    rcases hb with ((rfl | rfl) | rfl) | rfl <;> decide

/-- A value whose text, written at any depth and indentation, starts with a character that opens
it and is read back as the value, whatever follows that cannot continue a numeral, given fuel
above twice the length of what is left to read. -/
structure ReadsBack (v : Value) : Prop where
  head : ∀ indent depth, ∃ c rest, rawChars (writeAt indent depth v).toList = c :: rest ∧ Opens c
  reads : ∀ indent depth (pre post : List Char) (fuel : Nat), EndsNumber post →
    2 * ((rawChars (writeAt indent depth v).toList).length + post.length) < fuel →
    readValue (pre ++ rawChars (writeAt indent depth v).toList ++ post).toArray pre.length fuel =
      .ok (v, pre.length + (rawChars (writeAt indent depth v).toList).length)

theorem ReadsBack.of_text {v : Value} (cs : List Char) (htext : ∀ indent depth,
      rawChars (writeAt indent depth v).toList = cs)
    (hhead : ∃ c rest, cs = c :: rest ∧ Opens c)
    (hread : ∀ (pre post : List Char) (fuel : Nat), EndsNumber post →
      2 * (cs.length + post.length) < fuel + 1 →
      readValue (pre ++ cs ++ post).toArray pre.length (fuel + 1) = .ok (v, pre.length + cs.length)) :
    ReadsBack v := by
  refine ⟨fun indent depth => htext indent depth ▸ hhead, fun indent depth pre post fuel hpost hfuel => ?_⟩
  rw [htext] at hfuel ⊢
  obtain ⟨f, rfl⟩ : ∃ f, fuel = f + 1 := ⟨fuel - 1, by omega⟩
  exact hread pre post f hpost hfuel

theorem readsBack_null : ReadsBack .null :=
  .of_text "null".toList (fun _ _ => rawChars_of_ascii (by simp [writeAt]))
    ⟨'n', _, rfl, by decide, by decide, by decide, by decide⟩
    fun pre post fuel _ _ => readValue_null pre post fuel

theorem readsBack_bool (b : Bool) : ReadsBack (.bool b) := by
  cases b
  · exact .of_text "false".toList (fun _ _ => rawChars_of_ascii (by simp [writeAt]))
      ⟨'f', _, rfl, by decide, by decide, by decide, by decide⟩
      fun pre post fuel _ _ => readValue_false pre post fuel
  · exact .of_text "true".toList (fun _ _ => rawChars_of_ascii (by simp [writeAt]))
      ⟨'t', _, rfl, by decide, by decide, by decide, by decide⟩
      fun pre post fuel _ _ => readValue_true pre post fuel

theorem Numeral.head_text {n : Numeral} (hn : n.WellFormed) :
    ∃ c rest, n.text = c :: rest ∧ Opens c := by
  cases hneg : n.neg
  · exact ⟨n.lead, n.whole ++ n.fracText ++ n.expoText,
      by simp [Numeral.text, Numeral.signText, hneg], opens_of_isDigit (Numeral.lead_isDigit hn)⟩
  · exact ⟨'-', n.lead :: n.whole ++ n.fracText ++ n.expoText,
      by simp [Numeral.text, Numeral.signText, hneg], by decide, by decide, by decide, by decide⟩

theorem readsBack_int {z : Int} (h : Value.isLongInt z = false) : ReadsBack (.int z) := by
  obtain ⟨n, hn, htext, hval⟩ := intText_numeral z
  refine .of_text n.text (fun _ _ => ?_) (Numeral.head_text hn) fun pre post fuel hpost _ => ?_
  · rw [htext]
    exact rawChars_of_ascii (ascii_intText z)
  · rw [readValue_numeral hn pre post hpost fuel fun z' hz' => ?_, hval]
    rw [hval, Value.int.injEq] at hz'
    exact hz' ▸ h

theorem readsBack_float {x : Float} (h : Binary64.shape x ≠ .nan) : ReadsBack (.float x) := by
  have hraw : ∀ indent depth, rawChars (writeAt indent depth (.float x)).toList =
      (floatText x).toList := fun _ _ => rawChars_of_ascii (ascii_floatText x)
  cases hx : Binary64.shape x with
  | nan => exact absurd hx h
  | infinite neg =>
    have htext : floatText x = if neg then "-Infinity" else "Infinity" := by
      simp [floatText, hx]
    cases neg
    · refine .of_text "Infinity".toList (fun i d => by rw [hraw, htext]; rfl)
        ⟨'I', _, rfl, by decide, by decide, by decide, by decide⟩ fun pre post fuel _ _ => ?_
      rw [readValue_infinity, Binary64.infinity_eq hx]
      rfl
    · refine .of_text "-Infinity".toList (fun i d => by rw [hraw, htext]; rfl)
        ⟨'-', _, rfl, by decide, by decide, by decide, by decide⟩ fun pre post fuel _ _ => ?_
      rw [readValue_neg_infinity, Binary64.neg_infinity_eq hx]
      rfl
  | finite neg m e =>
    obtain ⟨n, hn, htext, hval⟩ := floatText_numeral hx
    refine .of_text n.text (fun i d => by rw [hraw, htext]) (Numeral.head_text hn)
      fun pre post fuel hpost _ => ?_
    have hshort : ∀ z, n.value = .int z → Value.isLongInt z = false := by
      intro z hz
      rw [hval] at hz
      cases hz
    rw [readValue_numeral hn pre post hpost fuel hshort, hval]

theorem ofPoints_points {s : String} (hs : Valid s.toList) : ofPoints (points s.toList) = s := by
  obtain ⟨ps, hps, hcs⟩ := hs
  rw [ofPoints, Valid.points_eq hps hcs, ← hcs, String.ofList_toList]

theorem readsBack_str {s : String} (hs : Valid s.toList) : ReadsBack (.str s) := by
  have hraw : ∀ indent depth, rawChars (writeAt indent depth (.str s)).toList =
      '"' :: escapedText (points s.toList) ++ ['"'] := fun _ _ => rawChars_quoteString hs
  refine .of_text _ hraw ⟨'"', _, rfl, by decide, by decide, by decide, by decide⟩ fun pre post fuel _ _ => ?_
  have hc : (pre ++ ('"' :: escapedText (points s.toList) ++ ['"']) ++ post).toArray[pre.length]? =
      some '"' := by
    rw [List.append_assoc, getElem?_at]
    rfl
  have hscan := scanString_escaped hs.scalar_points (pre ++ ['"']) post pre.length []
  simp only [List.append_assoc, List.cons_append, List.nil_append, List.length_append,
    List.length_singleton] at hscan
  simp only [readValue, hc]
  simp only [List.append_assoc, List.cons_append, List.nil_append]
  rw [hscan]
  simp only [Except.map, List.reverse_nil, List.nil_append, ofPoints_points hs, Except.ok.injEq,
    Prod.mk.injEq, true_and, List.length_cons, List.length_append, List.length_nil]
  omega

theorem rawChars_ascii_append {a : List Char} (ha : ∀ c ∈ a, c.toNat < 128) (b : List Char) :
    rawChars (a ++ b) = a ++ rawChars b := by
  rw [rawChars_append (valid_of_ascii ha), rawChars_of_ascii ha]

theorem ascii_itemSep (indent : Option Nat) : ∀ c ∈ (itemSep indent).toList, c.toNat < 128 := by
  cases indent <;> simp [itemSep]

theorem rawChars_writeItems_cons {indent : Option Nat} {depth : Nat} {x y : Value}
    {ys : List Value} (hx : Valid (writeAt indent depth x).toList) :
    rawChars (writeItems indent depth (x :: y :: ys)).toList =
      rawChars (writeAt indent depth x).toList ++ ((itemSep indent).toList ++
        ((lineBreak indent depth).toList ++ rawChars (writeItems indent depth (y :: ys)).toList)) := by
  simp only [writeItems, String.toList_append, List.append_assoc]
  rw [rawChars_append hx, rawChars_ascii_append (ascii_itemSep indent),
    rawChars_ascii_append (ascii_of_blanks (blanks_lineBreak indent depth))]

theorem head_writeItems {indent : Option Nat} {depth : Nat} {y : Value} {ys : List Value}
    (hys : ∀ z ∈ y :: ys, ReadsBack z) (hvalid : ∀ z ∈ y :: ys, Valid (writeAt indent depth z).toList) :
    ∃ c rest, rawChars (writeItems indent depth (y :: ys)).toList = c :: rest ∧ Opens c := by
  obtain ⟨c, rest, hc, hopen⟩ := (hys y List.mem_cons_self).head indent depth
  cases ys with
  | nil => exact ⟨c, rest, by simp only [writeItems]; exact hc, hopen⟩
  | cons z zs =>
    exact ⟨c, _, by rw [rawChars_writeItems_cons (hvalid y List.mem_cons_self), hc]; rfl, hopen⟩

theorem readArray_items {indent : Option Nat} {depth : Nat} {xs : List Value}
    (hxs : ∀ x ∈ xs, ReadsBack x) (hvalid : ∀ x ∈ xs, Valid (writeAt indent depth x).toList)
    (hne : xs ≠ []) (pre close post : List Char) (hclose : Blanks close) (acc : List Value)
    (first : Bool) (fuel : Nat)
    (hfuel : 2 * ((rawChars (writeItems indent depth xs).toList).length + close.length +
      post.length) + 3 < fuel) :
    readArray (pre ++ rawChars (writeItems indent depth xs).toList ++ close ++ ']' :: post).toArray
        pre.length acc first fuel =
      .ok (.list (acc.reverse ++ xs),
        pre.length + (rawChars (writeItems indent depth xs).toList).length + close.length + 1) := by
  induction xs generalizing pre acc first fuel with
  | nil => exact absurd rfl hne
  | cons x xs ih =>
    obtain ⟨g, rfl⟩ : ∃ g, fuel = g + 1 := ⟨fuel - 1, by omega⟩
    have hx := hxs x List.mem_cons_self
    obtain ⟨c, rest, hcx, hopen⟩ := hx.head indent depth
    cases xs with
    | nil =>
      have hitems : rawChars (writeItems indent depth [x]).toList =
          rawChars (writeAt indent depth x).toList := by
        simp only [writeItems]
      simp only [hitems] at hfuel ⊢
      have hc : (pre ++ rawChars (writeAt indent depth x).toList ++ close ++ ']' :: post).toArray[
          pre.length]? = some c := by
        rw [List.append_assoc, List.append_assoc, getElem?_at, hcx]
        rfl
      have hfuel' : 2 * ((rawChars (writeAt indent depth x).toList).length +
          (close ++ ']' :: post).length) < g := by
        simp only [List.length_append, List.length_cons]
        omega
      have hread := hx.reads indent depth pre (close ++ ']' :: post) g
        (endsNumber_blanks hclose (by decide) post) hfuel'
      rw [← List.append_assoc] at hread
      have hskip := skipBlank_blanks (pre ++ rawChars (writeAt indent depth x).toList) close
        (']' :: post) hclose (by simp [Json.isBlank])
      have hend : (pre ++ rawChars (writeAt indent depth x).toList ++ close ++ ']' :: post).toArray[
          (pre ++ rawChars (writeAt indent depth x).toList ++ close).length]? = some ']' := by
        rw [getElem?_at]
        rfl
      simp only [List.length_append] at hskip hend
      rw [readArray, if_neg (by rw [hc]; simp [hopen.2.1])]
      simp only [hread, bind, Except.bind, hskip, hend]
      simp
      rfl
    | cons y ys =>
      obtain ⟨tail, hsep, hblank⟩ := itemSep_toList indent
      obtain ⟨d, more, hd, hdopen⟩ := head_writeItems (fun z hz => hxs z (List.mem_cons_of_mem _ hz))
        (fun z hz => hvalid z (List.mem_cons_of_mem _ hz))
      rw [rawChars_writeItems_cons (hvalid x List.mem_cons_self), hsep] at hfuel ⊢
      set rx := rawChars (writeAt indent depth x).toList
      set lb := (lineBreak indent depth).toList
      set items := rawChars (writeItems indent depth (y :: ys)).toList
      have hc : (pre ++ (rx ++ (',' :: tail ++ (lb ++ items))) ++ close ++ ']' :: post).toArray[
          pre.length]? = some c := by
        simp only [List.append_assoc, getElem?_at, hcx, rx]
        rfl
      have hfuel' : 2 * (rx.length + (',' :: tail ++ (lb ++ items) ++ close ++ ']' :: post).length)
          < g := by
        simp only [List.length_append, List.length_cons] at hfuel ⊢
        omega
      have hread : readValue (pre ++ (rx ++ ',' :: (tail ++ (lb ++ (items ++ (close ++
          ']' :: post)))))).toArray pre.length g = .ok (x, pre.length + rx.length) := by
        have := hx.reads indent depth pre (',' :: tail ++ (lb ++ items) ++ close ++ ']' :: post) g
          (endsNumber_cons (by decide) _) hfuel'
        simpa only [List.append_assoc, List.cons_append] using this
      have hsep : Blanks (tail ++ lb) := hblank.append (blanks_lineBreak indent depth)
      obtain ⟨hcomma, hcommaAt, hnext⟩ := skipBlank_comma (pre ++ rx) (items ++ close ++ ']' :: post)
        hsep (by
          simp only [hd, List.cons_append, List.head?_cons, Option.mem_def, Option.some.injEq,
            forall_eq']
          exact hdopen.1)
      simp only [List.append_assoc, List.length_append] at hcomma hcommaAt hnext
      rw [show pre.length + rx.length + 1 + (tail.length + lb.length) =
        pre.length + (rx.length + (tail.length + lb.length + 1)) by omega] at hnext
      have hih := ih (fun z hz => hxs z (List.mem_cons_of_mem _ hz))
        (fun z hz => hvalid z (List.mem_cons_of_mem _ hz)) (by simp)
        (pre ++ rx ++ ',' :: (tail ++ lb)) (x :: acc) false g (by
          simp only [List.length_append, List.length_cons] at hfuel ⊢
          have : 0 < rx.length := by simp [rx, hcx]
          omega)
      simp only [List.append_assoc, List.cons_append, List.length_append,
        List.length_cons] at hih hc ⊢
      rw [readArray, if_neg (by rw [hc]; simp [hopen.2.1])]
      simp only [hread, bind, Except.bind, hcomma, hcommaAt, hnext, hih]
      simp only [bne_self_eq_false, Bool.false_eq_true, ↓reduceIte, List.reverse_cons,
        List.append_assoc, List.cons_append, List.nil_append]
      rw [if_neg (by decide)]
      simp only [Except.ok.injEq, Prod.mk.injEq, true_and]
      omega

theorem rawChars_writeAt_list {indent : Option Nat} {depth : Nat} {x : Value} {xs : List Value}
    (hitems : Valid (writeItems indent (depth + 1) (x :: xs)).toList) :
    rawChars (writeAt indent depth (.list (x :: xs))).toList =
      '[' :: ((lineBreak indent (depth + 1)).toList ++
        (rawChars (writeItems indent (depth + 1) (x :: xs)).toList ++
          ((lineBreak indent depth).toList ++ [']']))) := by
  simp only [writeAt, String.toList_append, List.append_assoc]
  rw [rawChars_ascii_append (a := "[".toList) (by simp),
    rawChars_ascii_append (ascii_of_blanks (blanks_lineBreak _ _)), rawChars_append hitems,
    rawChars_ascii_append (ascii_of_blanks (blanks_lineBreak _ _)),
    rawChars_of_ascii (show ∀ c ∈ "]".toList, c.toNat < 128 by simp)]
  rfl

theorem readsBack_nil : ReadsBack (.list []) := by
  have htext : ∀ indent depth, rawChars (writeAt indent depth (.list [])).toList = ['[', ']'] := by
    intro indent depth
    rw [show writeAt indent depth (.list []) = "[]" by simp [writeAt]]
    exact rawChars_of_ascii (by simp)
  refine .of_text ['[', ']'] htext ⟨'[', _, rfl, by decide, by decide, by decide, by decide⟩
    fun pre post fuel _ hfuel => ?_
  obtain ⟨g, rfl⟩ : ∃ g, fuel = g + 1 := ⟨fuel - 1, by simp at hfuel; omega⟩
  have hc : (pre ++ ['[', ']'] ++ post).toArray[pre.length]? = some '[' := by
    rw [List.append_assoc, getElem?_at]
    rfl
  have hskip : skipBlank (pre ++ ['[', ']'] ++ post).toArray (pre.length + 1) = pre.length + 1 := by
    have := skipBlank_blanks (pre ++ ['[']) [] (']' :: post) (by simp [Blanks])
      (by simp [Json.isBlank])
    simpa using this
  have hend : (pre ++ ['[', ']'] ++ post).toArray[pre.length + 1]? = some ']' := by
    rw [List.append_assoc, getElem?_after]
    rfl
  simp only [readValue, hc, hskip, readArray, hend]
  simp

theorem readsBack_list {xs : List Value} (hxs : ∀ x ∈ xs, ReadsBack x)
    (hvalid : ∀ x ∈ xs, ∀ indent depth, Valid (writeAt indent depth x).toList) :
    ReadsBack (.list xs) := by
  cases xs with
  | nil => exact readsBack_nil
  | cons x xs =>
    have hitems : ∀ indent depth, Valid (writeItems indent depth (x :: xs)).toList :=
      fun indent => valid_writeItems fun y hy => hvalid y hy indent
    refine ⟨fun indent depth => ⟨'[', _, rawChars_writeAt_list (hitems indent (depth + 1)),
      by decide, by decide, by decide, by decide⟩, fun indent depth pre post fuel hpost hfuel => ?_⟩
    rw [rawChars_writeAt_list (hitems indent (depth + 1))] at hfuel ⊢
    obtain ⟨d, more, hd, hdopen⟩ := head_writeItems hxs fun y hy => hvalid y hy indent (depth + 1)
    obtain ⟨g, rfl⟩ : ∃ g, fuel = g + 1 := ⟨fuel - 1, by omega⟩
    have hread := readArray_items hxs (fun y hy => hvalid y hy indent (depth + 1)) (by simp)
      (pre ++ '[' :: (lineBreak indent (depth + 1)).toList) (lineBreak indent depth).toList post
      (blanks_lineBreak indent depth) [] true g (by
        simp only [List.length_append, List.length_cons, List.length_nil] at hfuel ⊢
        omega)
    set open1 := (lineBreak indent (depth + 1)).toList
    set items := rawChars (writeItems indent (depth + 1) (x :: xs)).toList
    set close := (lineBreak indent depth).toList
    have hc : (pre ++ '[' :: (open1 ++ (items ++ (close ++ [']']))) ++ post).toArray[
        pre.length]? = some '[' := by
      rw [List.append_assoc, getElem?_at]
      rfl
    have hskip : skipBlank (pre ++ '[' :: (open1 ++ (items ++ (close ++ [']']))) ++ post).toArray
        (pre.length + 1) = pre.length + 1 + open1.length := by
      have := skipBlank_blanks (pre ++ ['[']) open1 (items ++ close ++ ']' :: post)
        (blanks_lineBreak indent (depth + 1))
        (by simp only [hd, List.cons_append, List.head?_cons, Option.mem_def, Option.some.injEq,
          forall_eq']; exact hdopen.1)
      simpa only [List.append_assoc, List.cons_append, List.nil_append, List.length_append,
        List.length_singleton] using this
    simp only [List.append_assoc, List.cons_append, List.nil_append, List.length_append,
      List.length_cons] at hread hc hskip ⊢
    simp only [readValue, hc, hskip]
    rw [show pre.length + 1 + open1.length = pre.length + (open1.length + 1) by omega, hread]
    simp only [List.reverse_nil, List.nil_append, List.length_nil, Except.ok.injEq, Prod.mk.injEq,
      true_and]
    omega

def memberChars (k : String) (value : List Char) : List Char :=
  '"' :: (escapedText (points k.toList) ++ '"' :: ':' :: ' ' :: value)

theorem length_memberChars (k : String) (value : List Char) :
    (memberChars k value).length = (escapedText (points k.toList)).length + value.length + 4 := by
  simp [memberChars]
  omega

theorem rawChars_member {k : String} (hk : Valid k.toList) (rest : List Char) :
    rawChars ((quoteString k).toList ++ (": ".toList ++ rest)) = memberChars k (rawChars rest) := by
  rw [rawChars_append (valid_quoteString hk), rawChars_quoteString hk,
    rawChars_ascii_append (a := ": ".toList) (by simp)]
  simp [memberChars]

theorem rawChars_writeEntries_single {indent : Option Nat} {depth : Nat} {k : String} {v : Value}
    (hk : Valid k.toList) :
    rawChars (writeEntries indent depth [(.str k, v)]).toList =
      memberChars k (rawChars (writeAt indent depth v).toList) := by
  simp only [writeEntries, keyText, String.toList_append, List.append_assoc]
  exact rawChars_member hk _

theorem rawChars_writeEntries_cons {indent : Option Nat} {depth : Nat} {k : String} {v : Value}
    {kvs : List (Value × Value)} (hk : Valid k.toList) (hv : Valid (writeAt indent depth v).toList)
    (hkvs : kvs ≠ []) :
    rawChars (writeEntries indent depth ((.str k, v) :: kvs)).toList =
      memberChars k (rawChars (writeAt indent depth v).toList ++ ((itemSep indent).toList ++
        ((lineBreak indent depth).toList ++ rawChars (writeEntries indent depth kvs).toList))) := by
  obtain ⟨kv, kvs, rfl⟩ := List.exists_cons_of_ne_nil hkvs
  simp only [writeEntries, keyText, String.toList_append, List.append_assoc]
  rw [rawChars_member hk, rawChars_append hv, rawChars_ascii_append (ascii_itemSep indent),
    rawChars_ascii_append (ascii_of_blanks (blanks_lineBreak indent depth))]

theorem readObject_member {k : String} (hk : Valid k.toList) {v : Value} (hv : ReadsBack v)
    (indent : Option Nat) (depth : Nat) (pre after : List Char) (hafter : EndsNumber after)
    (acc : List (Value × Value)) (first : Bool) (g : Nat)
    (hfuel : 2 * ((rawChars (writeAt indent depth v).toList).length + after.length) < g) :
    readObject (pre ++ memberChars k (rawChars (writeAt indent depth v).toList) ++ after).toArray
        pre.length acc first (g + 1) =
      let s := (pre ++ memberChars k (rawChars (writeAt indent depth v).toList) ++ after).toArray
      let j := skipBlank s (pre.length + (memberChars k (rawChars (writeAt indent depth v).toList)).length)
      if s[j]? == some '\x7d' then .ok (.dict (Value.putEntry acc (.str k) v), j + 1)
      else if s[j]? != some ',' then .error ⟨.expectingComma, j⟩
      else readObject s (skipBlank s (j + 1)) (Value.putEntry acc (.str k) v) false g := by
  dsimp only
  rw [length_memberChars]
  generalize hS : (pre ++ memberChars k (rawChars (writeAt indent depth v).toList) ++ after).toArray = s
  have hs : s = (pre ++ '"' :: (escapedText (points k.toList) ++ '"' :: ':' :: ' ' ::
      (rawChars (writeAt indent depth v).toList ++ after))).toArray := by
    simp [← hS, memberChars]
  have hscan : scanString s pre.length (pre.length + 1) [] =
      .ok (k, pre.length + ((escapedText (points k.toList)).length + 2)) := by
    have := scanString_escaped hk.scalar_points (pre ++ ['"'])
      (':' :: ' ' :: (rawChars (writeAt indent depth v).toList ++ after)) pre.length []
    simp only [List.append_assoc, List.cons_append, List.nil_append, List.length_append,
      List.length_singleton, List.reverse_nil, ofPoints_points hk] at this
    rw [hs, this]
    congr 2
    omega
  have hread : readValue s (pre.length + ((escapedText (points k.toList)).length + 4)) g =
      .ok (v, pre.length + ((escapedText (points k.toList)).length +
        (4 + (rawChars (writeAt indent depth v).toList).length))) := by
    have := hv.reads indent depth (pre ++ '"' :: (escapedText (points k.toList) ++ ['"', ':', ' ']))
      after g hafter hfuel
    simpa only [hs, List.append_assoc, List.cons_append, List.nil_append, List.length_append,
      List.length_cons, List.length_nil, Nat.add_assoc, Nat.reduceAdd] using this
  obtain ⟨c, rest, hcv, hopen⟩ := hv.head indent depth
  generalize escapedText (points k.toList) = E at hs hscan hread ⊢
  generalize rawChars (writeAt indent depth v).toList = rv at hs hread hcv ⊢
  subst hs
  have hc : (pre ++ '"' :: (E ++ '"' :: ':' :: ' ' :: (rv ++ after))).toArray[pre.length]? =
      some '"' := by
    rw [getElem?_at]
    rfl
  have hcolonSkip : skipBlank (pre ++ '"' :: (E ++ '"' :: ':' :: ' ' :: (rv ++ after))).toArray
      (pre.length + (E.length + 2)) = pre.length + (E.length + 2) := by
    have := skipBlank_blanks (pre ++ '"' :: (E ++ ['"'])) [] (':' :: ' ' :: (rv ++ after))
      (by simp [Blanks]) (by simp [Json.isBlank])
    simpa only [List.append_assoc, List.cons_append, List.nil_append, List.length_append,
      List.length_cons, List.length_nil, Nat.add_assoc, Nat.reduceAdd] using this
  have hcolon : (pre ++ '"' :: (E ++ '"' :: ':' :: ' ' :: (rv ++ after))).toArray[
      pre.length + (E.length + 2)]? = some ':' := by
    have := getElem?_at (pre ++ '"' :: (E ++ ['"'])) (':' :: ' ' :: (rv ++ after))
    simpa only [List.append_assoc, List.cons_append, List.nil_append, List.length_append,
      List.length_cons, List.length_nil, Nat.add_assoc, Nat.reduceAdd, List.head?_cons] using this
  have hvalueSkip : skipBlank (pre ++ '"' :: (E ++ '"' :: ':' :: ' ' :: (rv ++ after))).toArray
      (pre.length + (E.length + 2) + 1) = pre.length + (E.length + 4) := by
    have := skipBlank_blanks (pre ++ '"' :: (E ++ ['"', ':'])) [' '] (rv ++ after)
      (by simp [Blanks, Json.isBlank])
      (by simp only [hcv, List.cons_append, List.head?_cons, Option.mem_def, Option.some.injEq,
        forall_eq']; exact hopen.1)
    simpa only [List.append_assoc, List.cons_append, List.nil_append, List.length_append,
      List.length_cons, List.length_nil, Nat.add_assoc, Nat.reduceAdd] using this
  rw [readObject]
  simp only [hc, hscan, hcolonSkip, hcolon, hvalueSkip, hread, bind, Except.bind]
  rw [if_neg (by simp), if_neg (by simp), if_neg (by simp),
    show E.length + (4 + rv.length) = E.length + rv.length + 4 by omega]
  rfl

theorem memberChars_append (k : String) (a b : List Char) :
    memberChars k (a ++ b) = memberChars k a ++ b := by
  simp [memberChars]

theorem head_writeEntries {indent : Option Nat} {depth : Nat} {kv : String × Value}
    {kvs : List (String × Value)} (hk : Valid kv.1.toList)
    (hv : Valid (writeAt indent depth kv.2).toList) :
    ∃ rest, rawChars (writeEntries indent depth ((kv :: kvs).map fun p => (.str p.1, p.2))).toList =
      '"' :: rest := by
  cases kvs with
  | nil => exact ⟨_, rawChars_writeEntries_single hk⟩
  | cons kv' kvs => exact ⟨_, rawChars_writeEntries_cons hk hv (by simp)⟩

theorem readObject_entries {indent : Option Nat} {depth : Nat} {kvs : List (String × Value)}
    (hkeys : ∀ kv ∈ kvs, Valid kv.1.toList) (hvs : ∀ kv ∈ kvs, ReadsBack kv.2)
    (hvalid : ∀ kv ∈ kvs, Valid (writeAt indent depth kv.2).toList) (hne : kvs ≠ [])
    (pre close post : List Char) (hclose : Blanks close) (done : List (String × Value))
    (hnodup : ((done ++ kvs).map (·.1)).Nodup) (first : Bool) (fuel : Nat)
    (hfuel : 2 * ((rawChars (writeEntries indent depth
      (kvs.map fun p => (.str p.1, p.2))).toList).length + close.length + post.length) + 3 < fuel) :
    readObject (pre ++ rawChars (writeEntries indent depth
        (kvs.map fun p => (.str p.1, p.2))).toList ++ close ++ '\x7d' :: post).toArray
        pre.length (done.map fun p => (.str p.1, p.2)) first fuel =
      .ok (Value.object (done ++ kvs), pre.length + (rawChars (writeEntries indent depth
        (kvs.map fun p => (.str p.1, p.2))).toList).length + close.length + 1) := by
  induction kvs generalizing pre done first fuel with
  | nil => exact absurd rfl hne
  | cons kv kvs ih =>
    obtain ⟨k, v⟩ := kv
    obtain ⟨g, rfl⟩ : ∃ g, fuel = g + 1 := ⟨fuel - 1, by omega⟩
    have hk : Valid k.toList := hkeys (k, v) List.mem_cons_self
    have hv : ReadsBack v := hvs (k, v) List.mem_cons_self
    have hvv : Valid (writeAt indent depth v).toList := hvalid (k, v) List.mem_cons_self
    have hput : Value.putEntry (done.map fun p => (.str p.1, p.2)) (.str k) v =
        (done ++ [(k, v)]).map fun p => (.str p.1, p.2) := by
      have hfresh : k ∉ done.map (·.1) := by
        intro h
        rw [List.map_append, List.nodup_append] at hnodup
        exact hnodup.2.2 k h k (by simp) rfl
      rw [putEntry_fresh done hfresh v, List.map_append]
      rfl
    cases kvs with
    | nil =>
      simp only [List.map_cons, List.map_nil, rawChars_writeEntries_single hk] at hfuel ⊢
      have hstep := readObject_member hk hv indent depth pre (close ++ '\x7d' :: post)
        (endsNumber_blanks hclose (by decide) post) (done.map fun p => (.str p.1, p.2)) first g
        (by
          rw [length_memberChars] at hfuel
          simp only [List.length_append, List.length_cons]
          omega)
      have hskip := skipBlank_blanks (pre ++ memberChars k (rawChars (writeAt indent depth v).toList))
        close ('\x7d' :: post) hclose (by simp [Json.isBlank])
      have hend := getElem?_at (pre ++ memberChars k (rawChars (writeAt indent depth v).toList) ++
        close) ('\x7d' :: post)
      simp only [List.append_assoc, List.length_append, List.head?_cons,
        Nat.add_assoc] at hstep hskip hend ⊢
      rw [hstep]
      simp only [hskip, hend, hput]
      rw [if_pos (by decide)]
      rfl
    | cons kv' kvs =>
      obtain ⟨tail, hsep, hblank⟩ := itemSep_toList indent
      obtain ⟨more, hmore⟩ : ∃ rest, rawChars (writeEntries indent depth
          ((kv' :: kvs).map fun p => (Value.str p.1, p.2))).toList = '"' :: rest :=
        head_writeEntries (hkeys kv' (by simp)) (hvalid kv' (by simp))
      have hmap : ((k, v) :: kv' :: kvs).map (fun p => (Value.str p.1, p.2)) =
          (.str k, v) :: (kv' :: kvs).map fun p => (Value.str p.1, p.2) := rfl
      rw [hmap, rawChars_writeEntries_cons hk hvv (by simp), hsep,
        memberChars_append] at hfuel ⊢
      have hih := ih (fun p hp => hkeys p (List.mem_cons_of_mem _ hp))
        (fun p hp => hvs p (List.mem_cons_of_mem _ hp))
        (fun p hp => hvalid p (List.mem_cons_of_mem _ hp)) (by simp)
        (pre ++ memberChars k (rawChars (writeAt indent depth v).toList) ++
          ',' :: (tail ++ (lineBreak indent depth).toList)) (done ++ [(k, v)])
        (by simpa using hnodup) false g (by
          simp only [List.length_append, List.length_cons, length_memberChars] at hfuel ⊢
          omega)
      have hstep := readObject_member hk hv indent depth pre
        (',' :: (tail ++ ((lineBreak indent depth).toList ++ (rawChars (writeEntries indent depth
          (List.map (fun p => (Value.str p.1, p.2)) (kv' :: kvs))).toList ++
            (close ++ '\x7d' :: post)))))
        (endsNumber_cons (by decide) _) (done.map fun p => (.str p.1, p.2)) first g (by
          simp only [List.length_append, List.length_cons, length_memberChars] at hfuel ⊢
          omega)
      set rv := rawChars (writeAt indent depth v).toList
      set lb := (lineBreak indent depth).toList
      set entries := rawChars (writeEntries indent depth
        (List.map (fun p => (Value.str p.1, p.2)) (kv' :: kvs))).toList
      have hsep : Blanks (tail ++ lb) := hblank.append (blanks_lineBreak indent depth)
      obtain ⟨hcommaSkip, hcomma, hnext⟩ := skipBlank_comma (pre ++ memberChars k rv)
        (entries ++ (close ++ '\x7d' :: post)) hsep (by simp [hmore, Json.isBlank])
      simp only [List.append_assoc, List.cons_append, List.nil_append, List.length_append,
        List.length_cons, Nat.add_assoc] at hstep hcommaSkip hcomma hnext hih ⊢
      rw [hstep]
      simp only [hcommaSkip, hcomma, hput]
      rw [if_neg (by decide), if_neg (by decide), Nat.add_assoc, hnext,
        show (memberChars k rv).length + (1 + (tail.length + lb.length)) =
          (memberChars k rv).length + (tail.length + (lb.length + 1)) by omega, hih]
      congr 2
      omega

theorem rawChars_writeAt_object {indent : Option Nat} {depth : Nat} {kv : String × Value}
    {kvs : List (String × Value)} (hentries : Valid (writeEntries indent (depth + 1)
      ((kv :: kvs).map fun p => (.str p.1, p.2))).toList) :
    rawChars (writeAt indent depth (Value.object (kv :: kvs))).toList =
      '\x7b' :: ((lineBreak indent (depth + 1)).toList ++
        (rawChars (writeEntries indent (depth + 1)
          ((kv :: kvs).map fun p => (.str p.1, p.2))).toList ++
          ((lineBreak indent depth).toList ++ ['\x7d']))) := by
  have hw : writeAt indent depth (Value.object (kv :: kvs)) =
      "\x7b" ++ lineBreak indent (depth + 1) ++
        writeEntries indent (depth + 1) ((kv :: kvs).map fun p => (.str p.1, p.2)) ++
        lineBreak indent depth ++ "\x7d" := rfl
  simp only [hw, String.toList_append, List.append_assoc]
  rw [rawChars_ascii_append (a := "\x7b".toList) (by simp),
    rawChars_ascii_append (ascii_of_blanks (blanks_lineBreak _ _)), rawChars_append hentries,
    rawChars_ascii_append (ascii_of_blanks (blanks_lineBreak _ _)),
    rawChars_of_ascii (show ∀ c ∈ "\x7d".toList, c.toNat < 128 by simp)]
  rfl

theorem readsBack_emptyObject : ReadsBack (Value.object []) := by
  have htext : ∀ indent depth, rawChars (writeAt indent depth (Value.object [])).toList =
      ['\x7b', '\x7d'] := by
    intro indent depth
    rw [show writeAt indent depth (Value.object []) = "\x7b\x7d" from rfl]
    exact rawChars_of_ascii (by simp)
  refine .of_text ['\x7b', '\x7d'] htext ⟨'\x7b', _, rfl, by decide, by decide, by decide, by decide⟩
    fun pre post fuel _ hfuel => ?_
  obtain ⟨g, rfl⟩ : ∃ g, fuel = g + 1 := ⟨fuel - 1, by simp at hfuel; omega⟩
  have hc : (pre ++ ['\x7b', '\x7d'] ++ post).toArray[pre.length]? = some '\x7b' := by
    rw [List.append_assoc, getElem?_at]
    rfl
  have hskip : skipBlank (pre ++ ['\x7b', '\x7d'] ++ post).toArray (pre.length + 1) =
      pre.length + 1 := by
    have := skipBlank_blanks (pre ++ ['\x7b']) [] ('\x7d' :: post) (by simp [Blanks])
      (by simp [Json.isBlank])
    simpa using this
  have hend : (pre ++ ['\x7b', '\x7d'] ++ post).toArray[pre.length + 1]? = some '\x7d' := by
    rw [List.append_assoc, getElem?_after]
    rfl
  simp only [readValue, hc, hskip, readObject, hend]
  simp [Value.object]

theorem readsBack_object {kvs : List (String × Value)} (hkeys : ∀ kv ∈ kvs, Valid kv.1.toList)
    (hnodup : (kvs.map (·.1)).Nodup) (hvs : ∀ kv ∈ kvs, ReadsBack kv.2)
    (hvalid : ∀ kv ∈ kvs, ∀ indent depth, Valid (writeAt indent depth kv.2).toList) :
    ReadsBack (Value.object kvs) := by
  cases kvs with
  | nil => exact readsBack_emptyObject
  | cons kv kvs =>
    have hentries : ∀ indent depth, Valid (writeEntries indent depth
        ((kv :: kvs).map fun p => (Value.str p.1, p.2))).toList :=
      fun indent => valid_writeEntries hkeys fun p hp => hvalid p hp indent
    refine ⟨fun indent depth => ⟨'\x7b', _, rawChars_writeAt_object (hentries indent (depth + 1)),
      by decide, by decide, by decide, by decide⟩, fun indent depth pre post fuel hpost hfuel => ?_⟩
    rw [rawChars_writeAt_object (hentries indent (depth + 1))] at hfuel ⊢
    obtain ⟨more, hmore⟩ : ∃ rest, rawChars (writeEntries indent (depth + 1)
        ((kv :: kvs).map fun p => (Value.str p.1, p.2))).toList = '"' :: rest :=
      head_writeEntries (hkeys kv List.mem_cons_self) (hvalid kv List.mem_cons_self indent (depth + 1))
    obtain ⟨g, rfl⟩ : ∃ g, fuel = g + 1 := ⟨fuel - 1, by omega⟩
    have hread := readObject_entries hkeys hvs (fun p hp => hvalid p hp indent (depth + 1))
      (by simp) (pre ++ '\x7b' :: (lineBreak indent (depth + 1)).toList)
      (lineBreak indent depth).toList post (blanks_lineBreak indent depth) [] (by simpa using hnodup)
      true g (by
        simp only [List.length_append, List.length_cons, List.length_nil] at hfuel ⊢
        omega)
    set open1 := (lineBreak indent (depth + 1)).toList
    set entries := rawChars (writeEntries indent (depth + 1)
      ((kv :: kvs).map fun p => (Value.str p.1, p.2))).toList
    set close := (lineBreak indent depth).toList
    have hc : (pre ++ '\x7b' :: (open1 ++ (entries ++ (close ++ ['\x7d']))) ++ post).toArray[
        pre.length]? = some '\x7b' := by
      rw [List.append_assoc, getElem?_at]
      rfl
    have hskip : skipBlank (pre ++ '\x7b' :: (open1 ++ (entries ++ (close ++ ['\x7d']))) ++
        post).toArray (pre.length + 1) = pre.length + 1 + open1.length := by
      have := skipBlank_blanks (pre ++ ['\x7b']) open1 (entries ++ close ++ '\x7d' :: post)
        (blanks_lineBreak indent (depth + 1)) (by simp [hmore, Json.isBlank])
      simpa only [List.append_assoc, List.cons_append, List.nil_append, List.length_append,
        List.length_singleton] using this
    simp only [List.append_assoc, List.cons_append, List.nil_append, List.length_append,
      List.length_cons, List.map_nil] at hread hc hskip ⊢
    simp only [readValue, hc, hskip]
    rw [show pre.length + 1 + open1.length = pre.length + (open1.length + 1) by omega, hread]
    simp only [List.length_nil, Except.ok.injEq, Prod.mk.injEq, true_and]
    omega

theorem ne_return_of_isDigit {c : Char} (h : c.isDigit = true) : c ≠ '\r' := by
  rintro rfl
  exact absurd h (by decide)

theorem Numeral.return_not_mem {n : Numeral} (hn : n.WellFormed) : '\r' ∉ n.text := by
  have hsign : '\r' ∉ n.signText := by
    unfold Numeral.signText
    split <;> simp
  have hfrac : '\r' ∉ n.fracText := by
    unfold Numeral.fracText
    split
    · simp
    · next f hf =>
      simp only [List.mem_cons, not_or]
      exact ⟨by decide, fun h => ne_return_of_isDigit ((hn.frac f hf).2 _ h) rfl⟩
  have hexpo : '\r' ∉ n.expoText := by
    unfold Numeral.expoText
    split
    · simp
    · next eneg ds hx =>
      simp only [List.mem_cons, not_or]
      refine ⟨by decide, by split <;> decide, fun h => ?_⟩
      exact ne_return_of_isDigit ((hn.expo eneg ds hx).2 _ h) rfl
  simp only [Numeral.text, List.mem_append, List.mem_cons, not_or]
  exact ⟨⟨⟨hsign, fun h => ne_return_of_isDigit (Numeral.lead_isDigit hn) h.symm,
    fun h => ne_return_of_isDigit (hn.whole _ h) rfl⟩, hfrac⟩, hexpo⟩

theorem hexDigit_ne_return : ∀ k < 16, hexDigit k ≠ '\r' := by decide

theorem return_not_mem_escapeChar (c : Char) : '\r' ∉ escapeChar c := by
  rcases escapeChar_cases c with ⟨e, he, hesc⟩ | ⟨-, hesc⟩ | ⟨-, -, h3, hesc⟩ <;> rw [hesc]
  · simp only [shortEscapes, List.mem_cons, Prod.mk.injEq, List.not_mem_nil, or_false] at he
    rcases he with ⟨rfl, -⟩ | ⟨rfl, -⟩ | ⟨rfl, -⟩ | ⟨rfl, -⟩ | ⟨rfl, -⟩ | ⟨rfl, -⟩ | ⟨rfl, -⟩ <;>
      decide
  · intro h
    rcases List.mem_cons.mp h with h | h
    · exact absurd h (by decide)
    rcases List.mem_cons.mp h with h | h
    · exact absurd h (by decide)
    obtain ⟨k, hk, he⟩ := mem_hexDigits h
    exact hexDigit_ne_return k hk he.symm
  · simp only [List.mem_singleton]
    rintro rfl
    exact absurd h3 (by decide)

theorem return_not_mem_escapedText (ps : List Nat) : '\r' ∉ escapedText ps := by
  simp only [escapedText, List.mem_flatMap, not_exists, not_and]
  exact fun p _ => return_not_mem_escapeChar _

theorem return_not_mem_lineBreak (indent : Option Nat) (depth : Nat) :
    '\r' ∉ (lineBreak indent depth).toList := by
  cases indent with
  | none => simp [lineBreak]
  | some n =>
    simp only [lineBreak, String.toList_append, String.toList_ofList, List.mem_append,
      List.mem_replicate, not_or, not_and]
    exact ⟨by decide, fun _ => by decide⟩

theorem return_not_mem_itemSep (indent : Option Nat) : '\r' ∉ (itemSep indent).toList := by
  cases indent <;> simp [itemSep]

theorem return_not_mem_writeItems {indent : Option Nat} {depth : Nat} {xs : List Value}
    (hvalid : ∀ x ∈ xs, Valid (writeAt indent depth x).toList)
    (hxs : ∀ x ∈ xs, '\r' ∉ rawChars (writeAt indent depth x).toList) :
    '\r' ∉ rawChars (writeItems indent depth xs).toList := by
  induction xs with
  | nil => simp [writeItems, rawChars, points]
  | cons x xs ih =>
    have hx := hxs x List.mem_cons_self
    have hrest := ih (fun y hy => hvalid y (List.mem_cons_of_mem _ hy))
      fun y hy => hxs y (List.mem_cons_of_mem _ hy)
    cases xs with
    | nil => simpa only [writeItems] using hx
    | cons y ys =>
      rw [rawChars_writeItems_cons (hvalid x List.mem_cons_self)]
      simp only [List.mem_append, not_or]
      exact ⟨hx, return_not_mem_itemSep indent, return_not_mem_lineBreak indent depth, hrest⟩

theorem return_not_mem_writeEntries {indent : Option Nat} {depth : Nat}
    {kvs : List (String × Value)} (hkeys : ∀ kv ∈ kvs, Valid kv.1.toList)
    (hvalid : ∀ kv ∈ kvs, Valid (writeAt indent depth kv.2).toList)
    (hvs : ∀ kv ∈ kvs, '\r' ∉ rawChars (writeAt indent depth kv.2).toList) :
    '\r' ∉ rawChars (writeEntries indent depth (kvs.map fun p => (.str p.1, p.2))).toList := by
  induction kvs with
  | nil => simp [writeEntries, rawChars, points]
  | cons kv kvs ih =>
    obtain ⟨k, v⟩ := kv
    have hk : Valid k.toList := hkeys (k, v) List.mem_cons_self
    have hv : '\r' ∉ rawChars (writeAt indent depth v).toList := hvs (k, v) List.mem_cons_self
    have hrest := ih (fun p hp => hkeys p (List.mem_cons_of_mem _ hp))
      (fun p hp => hvalid p (List.mem_cons_of_mem _ hp)) fun p hp => hvs p (List.mem_cons_of_mem _ hp)
    have hmember : ∀ rest, '\r' ∉ rest → '\r' ∉ memberChars k rest := fun rest h => by
      simp only [memberChars, List.mem_cons, List.mem_append, not_or]
      exact ⟨by decide, return_not_mem_escapedText _, by decide, by decide, by decide, h⟩
    cases kvs with
    | nil =>
      have hsingle : rawChars (writeEntries indent depth [(.str k, v)]).toList =
          memberChars k (rawChars (writeAt indent depth v).toList) := rawChars_writeEntries_single hk
      exact hsingle ▸ hmember _ hv
    | cons kv' kvs =>
      have hmap : ((k, v) :: kv' :: kvs).map (fun p => (Value.str p.1, p.2)) =
          (.str k, v) :: (kv' :: kvs).map fun p => (Value.str p.1, p.2) := rfl
      rw [hmap, rawChars_writeEntries_cons hk (hvalid (k, v) List.mem_cons_self) (by simp)]
      refine hmember _ ?_
      simp only [List.mem_append, not_or]
      exact ⟨hv, return_not_mem_itemSep indent, return_not_mem_lineBreak indent depth, hrest⟩

end Json

/-- A value that reads back as itself from its JSON text: its texts and keys hold Unicode scalar
values, its integers are short enough to become text, no float is a NaN, and every collection is
a list or an object with distinct text keys. -/
inductive Value.Readable : Value → Prop
  | null : Readable .null
  | bool (b : Bool) : Readable (.bool b)
  | int {z : Int} : Value.isLongInt z = false → Readable (.int z)
  | float {x : Float} : Binary64.shape x ≠ .nan → Readable (.float x)
  | str {s : String} : Valid s.toList → Readable (.str s)
  | list {xs : List Value} : (∀ x ∈ xs, Readable x) → Readable (.list xs)
  | object {kvs : List (String × Value)} : (∀ kv ∈ kvs, Valid kv.1.toList) →
      (kvs.map (·.1)).Nodup → (∀ kv ∈ kvs, Readable kv.2) → Readable (Value.object kvs)

namespace Value.Readable

open Json

variable {v : Value}

theorem validTexts (h : v.Readable) : v.ValidTexts := by
  induction h with
  | null => exact .null
  | bool b => exact .bool b
  | int _ => exact .int _
  | float _ => exact .float _
  | str hs => exact .str hs
  | list _ ih => exact .list ih
  | object hk _ _ ih => exact .object hk ih

theorem readsBack (h : v.Readable) : ReadsBack v := by
  induction h with
  | null => exact readsBack_null
  | bool b => exact readsBack_bool b
  | int hz => exact readsBack_int hz
  | float hx => exact readsBack_float hx
  | str hs => exact readsBack_str hs
  | list hxs ih => exact readsBack_list ih fun x hx => (hxs x hx).validTexts.writeAt
  | object hk hnd hvs ih =>
    exact readsBack_object hk hnd ih fun kv hkv => (hvs kv hkv).validTexts.writeAt

/-- The JSON text of a readable value holds no carriage return. -/
theorem return_not_mem (h : v.Readable) (indent : Option Nat) (depth : Nat) :
    '\r' ∉ rawChars (writeAt indent depth v).toList := by
  induction h generalizing depth with
  | null => simp [writeAt, rawChars_of_ascii]
  | bool b => cases b <;> simp [writeAt, rawChars_of_ascii]
  | @int z _ =>
    obtain ⟨n, hn, htext, -⟩ := intText_numeral z
    rw [show writeAt indent depth (.int z) = toString z from rfl,
      rawChars_of_ascii (ascii_intText z), ← htext]
    exact Numeral.return_not_mem hn
  | @float x hx =>
    rw [show writeAt indent depth (.float x) = floatText x from rfl,
      rawChars_of_ascii (ascii_floatText x)]
    cases hs : Binary64.shape x with
    | nan => exact absurd hs hx
    | infinite neg => cases neg <;> simp [floatText, hs]
    | finite neg m e =>
      obtain ⟨n, hn, htext, -⟩ := floatText_numeral hs
      rw [← htext]
      exact Numeral.return_not_mem hn
  | str hs =>
    rw [show writeAt indent depth (.str _) = quoteString _ from rfl, rawChars_quoteString hs]
    simp only [List.cons_append, List.mem_cons, List.mem_append, not_or]
    exact ⟨by decide, return_not_mem_escapedText _, by simp⟩
  | @list xs hxs ih =>
    cases xs with
    | nil => simp [writeAt, rawChars_of_ascii]
    | cons x xs =>
      have hvalid := fun y hy => (hxs y hy).validTexts.writeAt indent (depth + 1)
      rw [rawChars_writeAt_list (valid_writeItems (fun y hy => (hxs y hy).validTexts.writeAt indent)
        (depth + 1))]
      simp only [List.mem_cons, List.mem_append, not_or]
      exact ⟨by decide, return_not_mem_lineBreak _ _,
        return_not_mem_writeItems hvalid fun y hy => ih y hy (depth + 1),
        return_not_mem_lineBreak _ _, by simp⟩
  | @object kvs hk _ hvs ih =>
    cases kvs with
    | nil =>
      rw [show writeAt indent depth (Value.object []) = "\x7b\x7d" from rfl]
      simp [rawChars_of_ascii]
    | cons kv kvs =>
      have hvalid := fun p hp => (hvs p hp).validTexts.writeAt indent (depth + 1)
      rw [rawChars_writeAt_object (valid_writeEntries hk
        (fun p hp => (hvs p hp).validTexts.writeAt indent) (depth + 1))]
      simp only [List.mem_cons, List.mem_append, not_or]
      exact ⟨by decide, return_not_mem_lineBreak _ _,
        return_not_mem_writeEntries hk hvalid fun p hp => ih p hp (depth + 1),
        return_not_mem_lineBreak _ _, by simp⟩

end Value.Readable

/-- The indented JSON text of a value with valid texts, with its final line break, as code
points: those of the value's text, then the line break. -/
theorem Json.rawChars_writeIndented {v : Value} (h : v.ValidTexts) (n : Nat) :
    rawChars (Json.writeIndented n v ++ "\n").toList =
      rawChars (Json.writeAt (some n) 0 v).toList ++ ['\n'] := by
  rw [String.toList_append, show Json.writeIndented n v = Json.writeAt (some n) 0 v from rfl,
    rawChars_append (h.writeAt (some n) 0),
    rawChars_of_ascii (show ∀ c ∈ "\n".toList, c.toNat < 128 by simp)]
  rfl

/-- The indented JSON text of a readable value, with its final line break, taken as the stream of
its code points, is read back as the value. -/
theorem Json.read_writeIndented {v : Value} (h : v.Readable) (n : Nat) :
    Json.read (String.ofList (rawChars (Json.writeIndented n v ++ "\n").toList)) = .ok v := by
  obtain ⟨c, rest, hc, hopen⟩ := h.readsBack.head (some n) 0
  rw [Json.rawChars_writeIndented h.validTexts n]
  generalize hR : rawChars (Json.writeAt (some n) 0 v).toList = R at hc
  have hread := h.readsBack.reads (some n) 0 [] ['\n'] (2 * (R ++ ['\n']).toArray.size + 2)
    (endsNumber_cons (by decide) []) (by simp [hR])
  simp only [hR, List.nil_append, List.length_nil, Nat.zero_add, List.size_toArray,
    List.length_append, List.length_singleton] at hread
  have hfirst : (R ++ ['\n']).toArray[0]? = some c := by
    rw [hc]
    rfl
  have hbom : c ≠ '\ufeff' := fun h => by
    have := hopen.2.2.2
    rw [h] at this
    exact absurd this (by decide)
  have hstart : skipBlank (R ++ ['\n']).toArray 0 = 0 := by
    have := skipBlank_blanks [] [] (R ++ ['\n']) (by simp [Blanks])
      (by simp only [hc, List.cons_append, List.head?_cons, Option.mem_def, Option.some.injEq,
        forall_eq']; exact hopen.1)
    simpa using this
  have hend : skipBlank (R ++ ['\n']).toArray R.length = R.length + 1 := by
    have := skipBlank_blanks R ['\n'] [] (by simp [Blanks, isBlank]) (by simp)
    simpa using this
  unfold Json.read
  simp only [String.toList_ofList, List.size_toArray, List.length_append, List.length_singleton,
    hfirst, hstart, hread, hend, bind, Except.bind]
  simp [hbom]
  rfl

end BuildGate
