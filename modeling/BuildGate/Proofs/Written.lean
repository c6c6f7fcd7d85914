import BuildGate.Json.Write
import BuildGate.Text.Utf8
import BuildGate.Proofs.Utf8
import BuildGate.Number.Decimal
import BuildGate.Path

namespace BuildGate.Text

/-- A Unicode scalar value: a code point below `0x110000` that is no surrogate half. -/
def Scalar (p : Nat) : Prop := p < 0x110000 ∧ isHalfCode p = false

/-- Characters that hold a text of Unicode scalar values. -/
def Valid (cs : List Char) : Prop :=
  ∃ ps : List Nat, (∀ p ∈ ps, Scalar p) ∧ cs = ps.flatMap pointChars

theorem scalar_toNat (c : Char) : Scalar c.toNat := by
  have hv := toNat_valid c
  refine ⟨by omega, ?_⟩
  simp only [isHalfCode, Bool.and_eq_false_iff, decide_eq_false_iff_not, Nat.not_le,
    Nat.not_lt]
  omega

theorem Scalar.isValidChar {p : Nat} (hp : Scalar p) : p.isValidChar := by
  have h := hp.2
  simp only [isHalfCode, Bool.and_eq_false_iff, decide_eq_false_iff_not, Nat.not_le,
    Nat.not_lt] at h
  have hlt := hp.1
  simp only [Nat.isValidChar]
  omega

theorem halfMark_toNat : halfMark.toNat = 0xFFFF := rfl

/-- A character other than the mark is held as itself. -/
theorem pointChars_toNat {c : Char} (hc : c ≠ halfMark) : pointChars c.toNat = [c] := by
  have hne : c.toNat ≠ halfMark.toNat := fun h => hc (Char.toNat_inj.mp h)
  simp [pointChars, (scalar_toNat c).2, hne]

/-- Reading the code points of a held scalar value, whatever follows it, gives that value
first. -/
theorem points_pointChars_append {p : Nat} (hp : Scalar p) (cs : List Char) :
    points (pointChars p ++ cs) = p :: points cs := by
  have hc : (Char.ofNat p).toNat = p := toNat_charOfNat hp.isValidChar
  unfold pointChars
  rw [if_neg (by simp [hp.2])]
  split
  next hmark =>
    have hp' : p = halfMark.toNat := by simpa using hmark
    simp [points, hp']
  next hmark =>
    have hne : (Char.ofNat p == halfMark) = false := by
      rw [beq_eq_false_iff_ne]
      intro h
      apply hmark
      rw [← hc, h]
      simp
    cases cs with
    | nil => simp [points, hc]
    | cons d more => simp [points, hne, hc]

theorem points_flatMap_pointChars {ps : List Nat} (hps : ∀ p ∈ ps, Scalar p) (cs : List Char) :
    points (ps.flatMap pointChars ++ cs) = ps ++ points cs := by
  induction ps with
  | nil => rfl
  | cons p ps ih =>
    rw [List.flatMap_cons, List.append_assoc,
      points_pointChars_append (hps p List.mem_cons_self),
      ih fun q hq => hps q (List.mem_cons_of_mem _ hq)]
    rfl

theorem valid_nil : Valid [] := ⟨[], by simp, rfl⟩

theorem Valid.append {as bs : List Char} (ha : Valid as) (hb : Valid bs) : Valid (as ++ bs) := by
  obtain ⟨ps, hps, rfl⟩ := ha
  obtain ⟨qs, hqs, rfl⟩ := hb
  refine ⟨ps ++ qs, fun p hp => ?_, by simp⟩
  rcases List.mem_append.mp hp with hp | hp
  · exact hps p hp
  · exact hqs p hp

theorem Valid.string_append {a b : String} (ha : Valid a.toList) (hb : Valid b.toList) :
    Valid (a ++ b).toList := by
  rw [String.toList_append]
  exact ha.append hb

theorem valid_flatMap {α : Type} {f : α → List Char} {as : List α}
    (h : ∀ a ∈ as, Valid (f a)) : Valid (as.flatMap f) := by
  induction as with
  | nil => exact valid_nil
  | cons a as ih =>
    rw [List.flatMap_cons]
    exact (h a List.mem_cons_self).append (ih fun b hb => h b (List.mem_cons_of_mem _ hb))

theorem valid_pointChars {p : Nat} (hp : Scalar p) : Valid (pointChars p) :=
  ⟨[p], by simpa using hp, by simp⟩

theorem valid_of_ne_halfMark {cs : List Char} (h : ∀ c ∈ cs, c ≠ halfMark) : Valid cs := by
  refine ⟨cs.map Char.toNat, fun p hp => ?_, ?_⟩
  · obtain ⟨c, -, rfl⟩ := List.mem_map.mp hp
    exact scalar_toNat c
  · induction cs with
    | nil => rfl
    | cons c cs ih =>
      rw [List.map_cons, List.flatMap_cons, pointChars_toNat (h c List.mem_cons_self),
        ← ih fun d hd => h d (List.mem_cons_of_mem _ hd)]
      rfl

theorem valid_of_ascii {cs : List Char} (h : ∀ c ∈ cs, c.toNat < 128) : Valid cs :=
  valid_of_ne_halfMark fun c hc heq => by
    have := h c hc
    rw [heq, halfMark_toNat] at this
    omega

theorem Valid.points_eq {cs : List Char} {ps : List Nat} (hps : ∀ p ∈ ps, Scalar p)
    (hcs : cs = ps.flatMap pointChars) : points cs = ps := by
  have h := points_flatMap_pointChars hps []
  rwa [List.append_nil, ← hcs, show points [] = [] from rfl, List.append_nil] at h

/-- The code points of a valid text are scalar values. -/
theorem Valid.scalar_points {cs : List Char} (h : Valid cs) : ∀ p ∈ points cs, Scalar p := by
  obtain ⟨ps, hps, hcs⟩ := h
  rwa [Valid.points_eq hps hcs]

/-- A valid text holds no unpaired half. -/
theorem Valid.holdsHalf_eq_false {s : String} (h : Valid s.toList) : holdsHalf s = false := by
  rw [holdsHalf, List.any_eq_false]
  intro p hp
  simp [(h.scalar_points p hp).2]

theorem encodeStrict_eq_ok {s : String} (h : Valid s.toList) :
    encodeStrict s = .ok (encodeUtf8 (String.ofList ((points s.toList).map Char.ofNat))) := by
  have hnone : (points s.toList).findIdx? isHalfCode = none := by
    rw [List.findIdx?_eq_none_iff]
    exact fun p hp => (h.scalar_points p hp).2
  simp only [encodeStrict, hnone]

/-- Whether characters hold a text of Unicode scalar values, computed. -/
def isValid (cs : List Char) : Bool :=
  (points cs).all (fun p => decide (p < 0x110000) && !isHalfCode p) &&
    (points cs).flatMap pointChars == cs

theorem isValid_iff {cs : List Char} : isValid cs = true ↔ Valid cs := by
  constructor
  · intro h
    simp only [isValid, Bool.and_eq_true, List.all_eq_true, beq_iff_eq] at h
    refine ⟨points cs, fun p hp => ?_, h.2.symm⟩
    have := h.1 p hp
    simp only [decide_eq_true_eq, Bool.not_eq_true'] at this
    exact this
  · rintro ⟨ps, hps, rfl⟩
    rw [isValid, Valid.points_eq hps rfl]
    simp only [Bool.and_eq_true, List.all_eq_true, beq_self_eq_true, and_true]
    intro p hp
    simp [(hps p hp).1, (hps p hp).2]

theorem valid_intercalate {sep : List Char} {ls : List (List Char)} (hsep : Valid sep)
    (h : ∀ l ∈ ls, Valid l) : Valid (sep.intercalate ls) := by
  induction ls with
  | nil => exact valid_nil
  | cons a ls ih =>
    have ha := h a List.mem_cons_self
    have hls := ih fun l hl => h l (List.mem_cons_of_mem _ hl)
    cases ls with
    | nil => simpa using ha
    | cons b ls =>
      rw [List.intercalate_cons_cons]
      exact (ha.append hsep).append hls

theorem mem_intercalate_of_mem {sep : List Char} {ls : List (List Char)} {l : List Char}
    (hl : l ∈ ls) {c : Char} (hc : c ∈ l) : c ∈ sep.intercalate ls := by
  induction ls with
  | nil => simp at hl
  | cons a ls ih =>
    cases ls with
    | nil =>
      rw [List.mem_singleton.mp hl] at hc
      simpa using hc
    | cons b ls =>
      rw [List.intercalate_cons_cons]
      rcases List.mem_cons.mp hl with rfl | hl
      · exact List.mem_append_left _ (List.mem_append_left _ hc)
      · exact List.mem_append_right _ (ih hl)

end BuildGate.Text

namespace BuildGate.Path

open Text

/-- Whether the root and the components of a path hold Unicode scalar values. -/
def textsValid (p : Path) : Bool :=
  isValid p.root.toList && p.parts.all fun c => isValid c.toList

theorem textsValid_iff {p : Path} :
    p.textsValid = true ↔ Valid p.root.toList ∧ ∀ c ∈ p.parts, Valid c.toList := by
  simp [textsValid, isValid_iff]

theorem valid_toText {p : Path} (h : p.textsValid = true) : Valid p.toText.toList := by
  obtain ⟨hroot, hparts⟩ := textsValid_iff.mp h
  unfold toText
  split
  · exact valid_of_ascii (by simp)
  · rw [String.toList_append, String.toList_intercalate]
    refine hroot.append (valid_intercalate (valid_of_ascii (by simp)) fun l hl => ?_)
    obtain ⟨c, hc, rfl⟩ := List.mem_map.mp hl
    exact hparts c hc

theorem textsValid_join {p q : Path} (hp : p.textsValid = true) (hq : q.textsValid = true) :
    (p.join q).textsValid = true := by
  unfold join
  split
  · exact hq
  · obtain ⟨hroot, hparts⟩ := textsValid_iff.mp hp
    obtain ⟨-, hqparts⟩ := textsValid_iff.mp hq
    refine textsValid_iff.mpr ⟨hroot, fun c hc => ?_⟩
    rcases List.mem_append.mp hc with hc | hc
    · exact hparts c hc
    · exact hqparts c hc

theorem textsValid_relativeTo {p : Path} (h : p.textsValid = true) (base : Path) :
    (p.relativeTo base).textsValid = true := by
  obtain ⟨-, hparts⟩ := textsValid_iff.mp h
  exact textsValid_iff.mpr ⟨valid_nil, fun c hc => hparts c (List.mem_of_mem_drop hc)⟩

theorem mem_of_mem_components {s part : String} (hp : part ∈ components s) {c : Char}
    (hc : c ∈ part.toList) : c ∈ s.toList := by
  simp only [components, List.mem_filter, List.mem_map] at hp
  obtain ⟨⟨l, hl, rfl⟩, -⟩ := hp
  rw [String.toList_ofList] at hc
  have hs : ['/'].intercalate (s.toList.splitOn '/') = s.toList := List.intercalate_splitOn '/'
  rw [← hs]
  exact mem_intercalate_of_mem hl hc

/-- The path of an ASCII text has ASCII components. -/
theorem textsValid_ofString {s : String} (h : ∀ c ∈ s.toList, c.toNat < 128) :
    (ofString s).textsValid = true := by
  refine textsValid_iff.mpr ⟨valid_of_ascii ?_, fun part hp => valid_of_ascii fun c hc => ?_⟩
  · simp only [ofString]
    split
    · simp
    · split <;> simp
  · have hc' := mem_of_mem_components hp hc
    rw [String.toList_ofList] at hc'
    exact h c (List.mem_of_mem_drop hc')

end BuildGate.Path

namespace BuildGate.Json

open Text

theorem mem_hexDigits {w n : Nat} {c : Char} (h : c ∈ hexDigits w n) :
    ∃ k < 16, c = hexDigit k := by
  induction w generalizing n with
  | zero => simp [hexDigits] at h
  | succ w ih =>
    rcases List.mem_append.mp h with h | h
    · exact ih h
    · exact ⟨n % 16, Nat.mod_lt _ (by omega), List.mem_singleton.mp h⟩

theorem hexDigit_toNat_lt {k : Nat} (hk : k < 16) : (hexDigit k).toNat < 128 := by
  unfold hexDigit
  split <;> rw [toNat_charOfNat (Or.inl (by omega))] <;> omega

/-- A character is written as itself or as an ASCII escape. -/
theorem escapeChar_eq_or (c : Char) :
    escapeChar c = [c] ∨ ∀ d ∈ escapeChar c, d.toNat < 128 := by
  unfold escapeChar
  repeat' split
  all_goals first
    | exact Or.inl rfl
    | refine Or.inr fun d hd => ?_
  all_goals
    simp only [List.mem_cons, List.not_mem_nil, or_false] at hd
    first
      | (rcases hd with rfl | rfl) <;> simp
      | rcases hd with rfl | rfl | hd
        · simp
        · simp
        · obtain ⟨k, hk, rfl⟩ := mem_hexDigits hd
          exact hexDigit_toNat_lt hk

theorem valid_escapePoint {p : Nat} (hp : Scalar p) : Valid (escapePoint p) := by
  unfold escapePoint
  rw [if_neg (by simp [hp.2])]
  split
  next => exact valid_pointChars hp
  next e hsingle =>
    rcases escapeChar_eq_or (Char.ofNat p) with he | he
    · rw [he] at hsingle
      exact absurd rfl (hsingle _)
    · exact valid_of_ascii he

/-- Quoting a valid text gives a valid text. -/
theorem valid_quoteString {s : String} (h : Valid s.toList) : Valid (quoteString s).toList := by
  rw [quoteString, String.toList_ofList, List.cons_append]
  have hq : Valid ['"'] := valid_of_ascii (by simp)
  exact hq.append ((valid_flatMap fun p hp => valid_escapePoint (h.scalar_points p hp)).append hq)

theorem ascii_toDigits {n : Nat} : ∀ c ∈ Nat.toDigits 10 n, c.toNat < 128 := by
  intro c hc
  have hd := Nat.isDigit_of_mem_toDigits (by omega) (by omega) hc
  simp only [Char.isDigit, Bool.and_eq_true, decide_eq_true_eq] at hd
  have h9 : c.toNat ≤ '9'.toNat := hd.2
  simp at h9
  omega

theorem ascii_intText (n : Int) : ∀ c ∈ (toString n).toList, c.toNat < 128 := by
  intro c hc
  cases n with
  | ofNat m =>
    rw [show toString (Int.ofNat m) = Nat.repr m from rfl, Nat.toList_repr] at hc
    exact ascii_toDigits c hc
  | negSucc m =>
    rw [show toString (Int.negSucc m) = "-" ++ Nat.repr (m + 1) from rfl, String.toList_append,
      Nat.toList_repr] at hc
    rcases List.mem_append.mp hc with hc | hc
    · simp at hc
      rw [hc]
      decide
    · exact ascii_toDigits c hc

theorem valid_intText (n : Int) : Valid (toString n).toList := valid_of_ascii (ascii_intText n)

theorem ascii_writeDigits (d : Decimal.Digits) :
    ∀ c ∈ (Decimal.Style.numeral.writeDigits d).toList, c.toNat < 128 := by
  have hds := @ascii_toDigits d.digits
  unfold Decimal.Style.writeDigits
  simp only [String.toList_ofList]
  split
  · split
    · simp only [String.toList_append, Decimal.zeros, String.toList_ofList,
        List.forall_mem_append]
      refine ⟨⟨by simp, ?_⟩, hds⟩
      simp
    · split
      · simp only [String.toList_append, Decimal.zeros, String.toList_ofList,
          List.forall_mem_append]
        refine ⟨⟨hds, by simp⟩, by simp [Decimal.Style.numeral]⟩
      · simp only [String.toList_ofList, List.forall_mem_append, List.forall_mem_cons]
        exact ⟨fun c hc => hds c (List.mem_of_mem_take hc), by simp,
          fun c hc => hds c (List.mem_of_mem_drop hc)⟩
  · simp only [String.toList_append, String.toList_ofList, List.forall_mem_append]
    refine ⟨⟨⟨?_, by simp [Decimal.Style.numeral]⟩, ?_⟩, ?_⟩
    · split
      · next c rest _ heq =>
        rw [heq] at hds
        simp only [String.toList_ofList, List.forall_mem_cons] at hds ⊢
        exact ⟨hds.1, by simp, hds.2⟩
      · next cs _ heq => simpa [heq] using hds
    · split
      · simp
      · split <;> simp
    · refine ⟨fun c hc => ?_, ascii_toDigits⟩
      rw [(List.mem_replicate.mp hc).2]
      simp

theorem ascii_floatText (x : Float) : ∀ c ∈ (floatText x).toList, c.toNat < 128 := by
  unfold floatText
  split
  · simp
  · split <;> simp
  · unfold Decimal.numeral Decimal.Style.write
    split
    · simp [Decimal.Style.numeral]
    · split <;> simp [Decimal.Style.numeral]
    · split <;> split <;> simp only [String.toList_append, List.forall_mem_append]
      all_goals first
        | exact ⟨⟨by simp, by simp⟩, by simp [Decimal.Style.numeral]⟩
        | exact ⟨by simp, ascii_writeDigits _⟩

end BuildGate.Json

namespace BuildGate

open Text Json

/-- A value whose texts, keys included, hold Unicode scalar values. -/
inductive Value.ValidTexts : Value → Prop
  | null : ValidTexts .null
  | bool (b : Bool) : ValidTexts (.bool b)
  | int (n : Int) : ValidTexts (.int n)
  | float (x : Float) : ValidTexts (.float x)
  | str {s : String} : Text.Valid s.toList → ValidTexts (.str s)
  | list {xs : List Value} : (∀ x ∈ xs, ValidTexts x) → ValidTexts (.list xs)
  | object {kvs : List (String × Value)} : (∀ kv ∈ kvs, Text.Valid kv.1.toList) →
      (∀ kv ∈ kvs, ValidTexts kv.2) → ValidTexts (.object kvs)

theorem valid_lineBreak (indent : Option Nat) (depth : Nat) :
    Valid (lineBreak indent depth).toList := by
  apply valid_of_ascii
  cases indent with
  | none => simp [lineBreak]
  | some n =>
    intro c hc
    simp only [lineBreak, String.toList_append, String.toList_ofList, List.mem_append,
      List.mem_replicate] at hc
    rcases hc with hc | ⟨-, rfl⟩
    · have hnl : "\n".toList = ['\n'] := by simp
      rw [hnl, List.mem_singleton] at hc
      rw [hc]
      decide
    · decide

theorem valid_itemSep (indent : Option Nat) : Valid (itemSep indent).toList := by
  apply valid_of_ascii
  cases indent <;> simp [itemSep]

theorem valid_writeItems {indent : Option Nat} {xs : List Value}
    (h : ∀ x ∈ xs, ∀ d, Valid (writeAt indent d x).toList) (depth : Nat) :
    Valid (writeItems indent depth xs).toList := by
  induction xs with
  | nil => exact valid_nil
  | cons x xs ih =>
    have hx := h x List.mem_cons_self depth
    have hxs := ih fun y hy => h y (List.mem_cons_of_mem _ hy)
    cases xs with
    | nil => simpa only [writeItems] using hx
    | cons y ys =>
      simp only [writeItems] at hxs ⊢
      exact ((hx.string_append (valid_itemSep indent)).string_append
        (valid_lineBreak indent depth)).string_append hxs

theorem valid_writeEntries {indent : Option Nat} {kvs : List (String × Value)}
    (hk : ∀ kv ∈ kvs, Valid kv.1.toList)
    (h : ∀ kv ∈ kvs, ∀ d, Valid (writeAt indent d kv.2).toList) (depth : Nat) :
    Valid (writeEntries indent depth (kvs.map fun p => (.str p.1, p.2))).toList := by
  induction kvs with
  | nil => exact valid_nil
  | cons kv kvs ih =>
    have hkey : Valid (quoteString (keyText (.str kv.1)) ++ ": ").toList :=
      (valid_quoteString (hk kv List.mem_cons_self)).string_append (valid_of_ascii (by simp))
    have hv := h kv List.mem_cons_self depth
    have hkvs := ih (fun p hp => hk p (List.mem_cons_of_mem _ hp))
      (fun p hp => h p (List.mem_cons_of_mem _ hp))
    cases kvs with
    | nil => simpa only [List.map, writeEntries] using hkey.string_append hv
    | cons kv' kvs =>
      simp only [List.map, writeEntries] at hkvs ⊢
      exact (((hkey.string_append hv).string_append (valid_itemSep indent)).string_append
        (valid_lineBreak indent depth)).string_append hkvs

/-- A value whose texts are valid is written as a valid text, at any depth and indentation. -/
theorem Value.ValidTexts.writeAt {v : Value} (h : v.ValidTexts) (indent : Option Nat)
    (depth : Nat) : Valid (Json.writeAt indent depth v).toList := by
  induction h generalizing depth with
  | null => exact valid_of_ascii (by simp [Json.writeAt])
  | bool b => cases b <;> exact valid_of_ascii (by simp [Json.writeAt])
  | int n => exact valid_intText n
  | float x => exact valid_of_ascii (ascii_floatText x)
  | str hs => exact valid_quoteString hs
  | @list xs _ ih =>
    cases xs with
    | nil => exact valid_of_ascii (by simp [Json.writeAt])
    | cons x xs =>
      have hopen : Valid "[".toList := valid_of_ascii (by simp)
      have hclose : Valid "]".toList := valid_of_ascii (by simp)
      simp only [Json.writeAt]
      have hitems := valid_writeItems ih (depth + 1)
      exact (((hopen.string_append (valid_lineBreak indent (depth + 1))).string_append
        hitems).string_append (valid_lineBreak indent depth)).string_append hclose
  | @object kvs hk _ ih =>
    cases kvs with
    | nil => exact valid_of_ascii (by simp [Value.object, Json.writeAt])
    | cons kv kvs =>
      have hopen : Valid "\x7b".toList := valid_of_ascii (by simp)
      have hclose : Valid "\x7d".toList := valid_of_ascii (by simp)
      have hentries := valid_writeEntries hk ih (depth + 1)
      simp only [Value.object, List.map] at hentries ⊢
      simp only [Json.writeAt]
      exact (((hopen.string_append (valid_lineBreak indent (depth + 1))).string_append
        hentries).string_append (valid_lineBreak indent depth)).string_append hclose

/-- The indented JSON text of a value whose texts are valid, with its final line break, has a
UTF-8 encoding: that of its code points. -/
theorem Value.ValidTexts.encodeStrict_json {v : Value} (h : v.ValidTexts) (n : Nat) :
    encodeStrict (Json.writeIndented n v ++ "\n") =
      .ok (encodeUtf8 (String.ofList
        ((points (Json.writeIndented n v ++ "\n").toList).map Char.ofNat))) :=
  encodeStrict_eq_ok ((h.writeAt (some n) 0).string_append (valid_of_ascii (by simp)))

end BuildGate
