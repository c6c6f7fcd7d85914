import BuildGate.Proofs.Shortest
import BuildGate.Json.Read
import BuildGate.Json.Write

namespace BuildGate.Binary64

open Decimal

/-- A decimal in the rounding interval of a finite nonzero value `±m · 2^e` lies between
`2^-1075` and `2^1024`, so its size in digits is inside the range `ofDecimal` reads. -/
theorem Interval.bounds {x : Float} {neg : Bool} {m : Nat} {e : Int}
    (hx : shape x = .finite neg m e) (hm : 0 < m) {q : ℚ} (hq : (Interval.of m e).Contains q) :
    (2 : ℚ) ^ (-1075 : Int) ≤ q ∧ q ≤ 2 ^ (1024 : Int) := by
  obtain ⟨hm53, he1, he2, -, -⟩ := shape_finite hx
  obtain ⟨hlow, -, hhigh⟩ := Interval.of_scaled (e := e) hm
  have hle : ((Interval.of m e).low : ℚ) / (Interval.of m e).den ≤ q ∧
      q ≤ ((Interval.of m e).high : ℚ) / (Interval.of m e).den := by
    unfold Interval.Contains at hq
    split at hq
    · exact hq
    · exact ⟨hq.1.le, hq.2.le⟩
  rw [hlow, hhigh] at hle
  have hm1 : (1 : ℚ) ≤ m := by exact_mod_cast hm
  have hm53q : (m : ℚ) + 1 ≤ 2 ^ 53 := by exact_mod_cast hm53
  have hpos : (0 : ℚ) < 2 ^ e := by positivity
  constructor
  · calc (2 : ℚ) ^ (-1075 : Int) = 1 / 2 * 2 ^ (-1074 : Int) := by
          rw [show (-1075 : Int) = -1 + -1074 by norm_num, zpow_add₀ two_ne_zero]
          norm_num
      _ ≤ 1 / 2 * 2 ^ e := by gcongr; norm_num
      _ ≤ (m - if m = 2 ^ 52 ∧ -1074 < e then 1 / 4 else 1 / 2) * 2 ^ e := by
        gcongr
        split_ifs <;> linarith
      _ ≤ q := hle.1
  · calc q ≤ (m + 1 / 2) * 2 ^ e := hle.2
      _ ≤ 2 ^ (53 : Int) * 2 ^ (971 : Int) := by
        gcongr
        · norm_num; linarith
        · norm_num
      _ = 2 ^ (1024 : Int) := by rw [← zpow_add₀ two_ne_zero]; norm_num

theorem ofDecimal_of_contains {x : Float} {neg : Bool} {m : Nat} {e : Int}
    (hx : shape x = .finite neg m e) (hm : 0 < m) {N : Nat} {E : Int} (hN : 0 < N)
    (hq : (Interval.of m e).Contains (N * 10 ^ E)) : ofDecimal neg N E = x := by
  obtain ⟨hlo, hhi⟩ := Interval.bounds hx hm hq
  obtain ⟨h1, h2⟩ := decimalLength_bounds hN
  have hL := decimalLength_pos N
  set L := decimalLength N
  have hNq : (0 : ℚ) < N := by exact_mod_cast hN
  have hE : (0 : ℚ) < 10 ^ E := by positivity
  have hbelow : (10 : ℚ) ^ ((L : Int) - 1 + E) ≤ N * 10 ^ E := by
    rw [zpow_add₀ (by norm_num), show (L : Int) - 1 = ((L - 1 : Nat) : Int) by omega, zpow_natCast]
    gcongr
    exact_mod_cast h1
  have habove : (N : ℚ) * 10 ^ E < 10 ^ ((L : Int) + E) := by
    rw [zpow_add₀ (by norm_num), zpow_natCast]
    gcongr
    exact_mod_cast h2
  have hsize1 : ¬((L : Int) + E > 310) := by
    intro h
    have h310 : (10 : ℚ) ^ (310 : Int) ≤ 10 ^ ((L : Int) - 1 + E) :=
      zpow_le_zpow_right₀ (by norm_num) (by omega)
    have : (2 : ℚ) ^ (1024 : Int) < 10 ^ (310 : Int) := by
      have : 2 ^ 1024 < 10 ^ 310 := by decide +kernel
      exact_mod_cast this
    exact absurd (h310.trans (hbelow.trans hhi)) (not_le.mpr this)
  have hsize2 : ¬((L : Int) + E < -330) := by
    intro h
    have h331 : (10 : ℚ) ^ ((L : Int) + E) ≤ 10 ^ (-331 : Int) :=
      zpow_le_zpow_right₀ (by norm_num) (by omega)
    have : (10 : ℚ) ^ (-331 : Int) < 2 ^ (-1075 : Int) := by
      have : 2 ^ 1075 < 10 ^ 331 := by decide +kernel
      rw [zpow_neg, zpow_neg]
      apply inv_strictAnti₀ (by positivity)
      exact_mod_cast this
    exact absurd (hlo.trans_lt (habove.trans_le h331)) (not_lt.mpr this.le)
  unfold ofDecimal
  rw [if_neg (by simp; omega), if_neg hsize1, if_neg hsize2]
  split
  next hE0 =>
    apply ofBits_nearestBits hx hm Nat.one_pos
    convert hq using 1
    simp only [Nat.pow_eq]
    push_cast
    rw [div_one, ← zpow_natCast, Int.toNat_of_nonneg hE0]
  next hE0 =>
    apply ofBits_nearestBits hx hm (by simp only [Nat.pow_eq]; positivity)
    convert hq using 1
    simp only [Nat.pow_eq]
    push_cast
    rw [← zpow_natCast, Int.toNat_of_nonneg (by omega), zpow_neg, div_eq_mul_inv, inv_inv]

theorem toBits_of_infinite {x : Float} {neg : Bool} (h : shape x = .infinite neg) :
    x.toBits.toNat = signBit neg + 2047 * 2 ^ 52 := by
  have hb := UInt64.toNat_lt x.toBits
  unfold shape at h
  unfold signBit
  simp only [Nat.pow_eq, beq_iff_eq] at h ⊢
  generalize x.toBits.toNat = b at h hb ⊢
  split_ifs at h with hfield hfrac
  cases h
  norm_num at hb ⊢
  split_ifs <;> omega

/-- The value whose shape is positive infinity is `infinity`. -/
theorem infinity_eq {x : Float} (h : shape x = .infinite false) : infinity = x := by
  have hbits := toBits_of_infinite h
  rw [← Float.ofBits_toBits x, ← @UInt64.ofNat_toNat x.toBits, hbits]
  rfl

/-- The value whose shape is negative infinity is `-infinity`. -/
theorem neg_infinity_eq {x : Float} (h : shape x = .infinite true) : -infinity = x := by
  have hbits := toBits_of_infinite h
  have hneg : (-infinity).toBits = 0xFFF0000000000000 := by decide
  rw [← Float.ofBits_toBits x, ← @UInt64.ofNat_toNat x.toBits, hbits, ← Float.ofBits_toBits (-infinity),
    hneg]
  rfl

end BuildGate.Binary64

namespace BuildGate.Json

theorem toNat_of_isDigit {c : Char} (h : c.isDigit = true) : 48 ≤ c.toNat ∧ c.toNat ≤ 57 := by
  simp only [Char.isDigit, Bool.and_eq_true, decide_eq_true_eq, UInt32.le_iff_toNat_le] at h
  exact ⟨h.1, h.2⟩

theorem ofDigitChars_lt {l : List Char} (h : ∀ c ∈ l, c.isDigit = true) :
    Nat.ofDigitChars 10 l 0 < 10 ^ l.length := by
  induction l with
  | nil => simp [Nat.ofDigitChars]
  | cons c l ih =>
    have hc9 : c.toNat - '0'.toNat ≤ 9 := by
      have := toNat_of_isDigit (h c (by simp))
      have h0 : '0'.toNat = 48 := rfl
      omega
    have hl := ih fun c hc => h c (by simp [hc])
    have : Nat.ofDigitChars 10 (c :: l) 0 = Nat.ofDigitChars 10 l (c.toNat - '0'.toNat) := by
      simp [Nat.ofDigitChars]
    rw [this, Nat.ofDigitChars_eq_ofDigitChars_zero, List.length_cons, pow_succ]
    nlinarith

theorem getElem?_after (pre rest : List Char) (k : Nat) :
    (pre ++ rest).toArray[pre.length + k]? = rest[k]? := by
  rw [List.getElem?_toArray, List.getElem?_append_right (by omega), Nat.add_sub_cancel_left]

theorem getElem?_at (pre rest : List Char) : (pre ++ rest).toArray[pre.length]? = rest.head? := by
  cases rest <;> simp

theorem getElem_eq_of_getElem? {s : Array Char} {i : Nat} {c : Char} (h : s[i]? = some c)
    (hi : i < s.size) : s[i] = c := by
  rw [Array.getElem?_eq_getElem hi] at h
  exact Option.some.inj h

theorem digitsEnd_after (pre ds post : List Char) (hds : ∀ c ∈ ds, c.isDigit = true)
    (hpost : ∀ c ∈ post.head?, c.isDigit = false) :
    digitsEnd (pre ++ ds ++ post).toArray pre.length = pre.length + ds.length := by
  induction ds generalizing pre with
  | nil =>
    rw [digitsEnd]
    split
    next hi =>
      cases post with
      | nil => simp at hi
      | cons c rest =>
        have hc : (pre ++ [] ++ c :: rest).toArray[pre.length] = c :=
          getElem_eq_of_getElem? (by simp) hi
        rw [hc, if_neg (by simp [hpost c rfl])]
        simp
    next => simp
  | cons d ds ih =>
    have hd : d.isDigit = true := hds d (by simp)
    have hi : pre.length < (pre ++ d :: ds ++ post).toArray.size := by simp
    rw [digitsEnd, dif_pos hi]
    have hc : (pre ++ d :: ds ++ post).toArray[pre.length] = d :=
      getElem_eq_of_getElem? (by simp) hi
    rw [hc, if_pos hd]
    have := ih (pre ++ [d]) (fun c hc => hds c (by simp [hc]))
    simp only [List.append_assoc, List.singleton_append, List.length_append,
      List.length_singleton] at this
    simp only [List.append_assoc, List.length_cons]
    omega

theorem digitsValue_after (pre ds post : List Char) :
    digitsValue (pre ++ ds ++ post).toArray pre.length (pre ++ ds).length =
      Nat.ofDigitChars 10 ds 0 := by
  unfold digitsValue
  rw [Nat.ofDigitChars_eq_foldl]
  congr 1
  simp

/-- No character that could continue a numeral: no digit, point or exponent mark. -/
def EndsNumber (post : List Char) : Prop :=
  ∀ c ∈ post.head?, c.isDigit = false ∧ c ≠ '.' ∧ c ≠ 'e' ∧ c ≠ 'E'

structure Numeral where
  neg : Bool
  lead : Char
  whole : List Char
  frac : Option (List Char)
  expo : Option (Bool × List Char)

namespace Numeral

def signText (n : Numeral) : List Char := if n.neg then ['-'] else []

def fracText (n : Numeral) : List Char :=
  match n.frac with
  | none => []
  | some f => '.' :: f

def expoText (n : Numeral) : List Char :=
  match n.expo with
  | none => []
  | some (eneg, ds) => 'e' :: (if eneg then '-' else '+') :: ds

def text (n : Numeral) : List Char :=
  n.signText ++ n.lead :: n.whole ++ n.fracText ++ n.expoText

structure WellFormed (n : Numeral) : Prop where
  lead : ('1' ≤ n.lead ∧ n.lead ≤ '9') ∨ (n.lead = '0' ∧ n.whole = [])
  whole : ∀ c ∈ n.whole, c.isDigit = true
  frac : ∀ f, n.frac = some f → f ≠ [] ∧ ∀ c ∈ f, c.isDigit = true
  expo : ∀ eneg ds, n.expo = some (eneg, ds) → ds ≠ [] ∧ ∀ c ∈ ds, c.isDigit = true

def significand (n : Numeral) : Nat :=
  Nat.ofDigitChars 10 (n.lead :: n.whole) 0 * 10 ^ (n.frac.getD []).length +
    Nat.ofDigitChars 10 (n.frac.getD []) 0

def exponent (n : Numeral) : Int :=
  (match n.expo with
    | none => 0
    | some (eneg, ds) => if eneg then -(Nat.ofDigitChars 10 ds 0 : Int) else Nat.ofDigitChars 10 ds 0) -
    (n.frac.getD []).length

def value (n : Numeral) : Value :=
  if n.frac.isNone && n.expo.isNone then
    .int (if n.neg then -(Nat.ofDigitChars 10 (n.lead :: n.whole) 0 : Int)
      else Nat.ofDigitChars 10 (n.lead :: n.whole) 0)
  else .float (Binary64.ofDecimal n.neg n.significand n.exponent)

variable {n : Numeral} {S : Array Char}

theorem lead_isDigit (hn : n.WellFormed) : n.lead.isDigit = true := by
  rcases hn.lead with ⟨h1, h9⟩ | ⟨h0, -⟩
  · simp only [Char.isDigit, Bool.and_eq_true, decide_eq_true_eq]
    exact ⟨le_trans (by decide) h1, h9⟩
  · rw [h0]; rfl

theorem wholeEnd_eq (hn : n.WellFormed) {A rest : List Char}
    (hS : S = (A ++ n.lead :: n.whole ++ rest).toArray)
    (hrest : ∀ c ∈ rest.head?, c.isDigit = false) :
    wholeEnd S A.length = some (A ++ n.lead :: n.whole).length := by
  have hlead : S[A.length]? = some n.lead := by simp [hS]
  rw [wholeEnd, hlead, Option.bind_eq_bind, Option.bind_some]
  rcases hn.lead with ⟨h1, h9⟩ | ⟨h0, hw⟩
  · rw [if_pos (by simp [h1, h9])]
    have := digitsEnd_after (A ++ [n.lead]) n.whole rest hn.whole hrest
    simp only [List.append_assoc, List.singleton_append, List.length_append,
      List.length_singleton] at this
    rw [hS, List.append_assoc, this]
    simp only [List.length_append, List.length_cons, Option.some.injEq]
    omega
  · rw [h0, hw, if_neg (by decide), if_pos (by decide)]
    simp

theorem fracEnd_eq (hn : n.WellFormed) {B rest : List Char}
    (hS : S = (B ++ n.fracText ++ rest).toArray)
    (hrest : ∀ c ∈ rest.head?, c.isDigit = false ∧ c ≠ '.') :
    fracEnd S B.length = ((B ++ n.fracText).length, n.frac.isSome) := by
  unfold fracEnd
  cases hf : n.frac with
  | none =>
    have hat : S[B.length]? = rest.head? := by
      rw [hS, show n.fracText = [] by simp [fracText, hf], List.append_nil, getElem?_at]
    rw [if_neg]
    · simp [fracText, hf]
    · cases hr : rest.head? with
      | none => simp [hat, hr]
      | some c => simp [hat, hr, (hrest c hr).2]
  | some f =>
    obtain ⟨hne, hdig⟩ := hn.frac f hf
    obtain ⟨f₀, fs, rfl⟩ := List.exists_cons_of_ne_nil hne
    have h0 : S[B.length]? = some '.' := by simp [hS, fracText, hf]
    have h1 : S[B.length + 1]? = some f₀ := by
      rw [hS, List.append_assoc, getElem?_after]
      simp [fracText, hf]
    rw [if_pos (by simp [h0, h1, hdig f₀ (by simp)])]
    have := digitsEnd_after (B ++ ['.']) (f₀ :: fs) rest hdig (fun c hc => (hrest c hc).1)
    simp only [List.append_assoc, List.length_append, List.length_singleton, List.cons_append,
      List.nil_append] at this
    rw [hS, List.append_assoc]
    simp only [fracText, hf, List.cons_append, Option.isSome_some]
    rw [this]
    simp only [List.length_append, List.length_cons, Prod.mk.injEq, and_true]
    omega

theorem expoEnd_eq (hn : n.WellFormed) {C post : List Char}
    (hS : S = (C ++ n.expoText ++ post).toArray) (hpost : EndsNumber post) :
    expoEnd S C.length = ((C ++ n.expoText).length, n.expo.isSome) ∧
      ∀ eneg ds, n.expo = some (eneg, ds) → expoStart S C.length = C.length + 2 := by
  cases he : n.expo with
  | none =>
    have hat : S[C.length]? = post.head? := by
      rw [hS, show n.expoText = [] by simp [expoText, he], List.append_nil, getElem?_at]
    refine ⟨?_, fun _ _ h => by cases h⟩
    unfold expoEnd
    rw [if_neg]
    · simp [expoText, he]
    · cases hr : post.head? with
      | none => simp [hat, hr]
      | some c =>
        obtain ⟨-, -, he', hE⟩ := hpost c hr
        simp [hat, hr, he', hE]
  | some p =>
    obtain ⟨eneg, ds⟩ := p
    obtain ⟨hne, hdig⟩ := hn.expo eneg ds he
    have h0 : S[C.length]? = some 'e' := by simp [hS, expoText, he]
    have h1 : S[C.length + 1]? = some (if eneg then '-' else '+') := by
      rw [hS, List.append_assoc, getElem?_after]
      simp [expoText, he]
    have hstart : expoStart S C.length = C.length + 2 := by
      unfold expoStart
      rw [if_pos (by cases eneg <;> simp [h1])]
    have := digitsEnd_after (C ++ ['e', if eneg then '-' else '+']) ds post hdig
      (fun c hc => (hpost c hc).1)
    simp only [List.append_assoc, List.length_append, List.length_cons, List.length_nil,
      List.cons_append, List.nil_append] at this
    refine ⟨?_, fun _ _ _ => hstart⟩
    unfold expoEnd
    rw [if_pos (by simp [h0]), hstart]
    have hd : digitsEnd S (C.length + 2) = C.length + 2 + ds.length := by
      rw [hS, List.append_assoc]
      simpa [expoText, he] using this
    obtain ⟨d₀, ds', rfl⟩ := List.exists_cons_of_ne_nil hne
    rw [hd, if_pos (by simp)]
    simp only [expoText, he, List.length_append, List.length_cons, Option.isSome_some,
      Prod.mk.injEq, and_true]
    omega

theorem head_expoText {post : List Char} (hpost : EndsNumber post) :
    ∀ c ∈ (n.expoText ++ post).head?, c.isDigit = false ∧ c ≠ '.' := by
  intro c hc
  cases he : n.expo with
  | none =>
    simp only [expoText, he, List.nil_append] at hc
    exact ⟨(hpost c hc).1, (hpost c hc).2.1⟩
  | some p =>
    simp only [expoText, he, List.cons_append, List.head?_cons, Option.mem_def,
      Option.some.injEq] at hc
    subst hc
    decide

theorem head_fracText {post : List Char} (hpost : EndsNumber post) :
    ∀ c ∈ (n.fracText ++ n.expoText ++ post).head?, c.isDigit = false := by
  intro c hc
  cases hf : n.frac with
  | none =>
    simp only [fracText, hf, List.nil_append] at hc
    exact (head_expoText hpost c hc).1
  | some f =>
    simp only [fracText, hf, List.cons_append, List.head?_cons, Option.mem_def,
      Option.some.injEq] at hc
    subst hc
    decide

theorem scanNumber_text (hn : n.WellFormed) (pre post : List Char) (hpost : EndsNumber post) :
    scanNumber (pre ++ n.text ++ post).toArray pre.length =
      some (n.value, pre.length + n.text.length) := by
  set A := pre ++ n.signText with hA
  set B := A ++ n.lead :: n.whole with hB
  set C := B ++ n.fracText with hC
  set D := C ++ n.expoText with hD
  set S := (pre ++ n.text ++ post).toArray with hS
  have hL : pre ++ n.text ++ post = D ++ post := by simp [A, B, C, D, text]
  have hsign : (S[pre.length]? == some '-') = n.neg := by
    have hd := lead_isDigit hn
    cases hneg : n.neg
    · have : n.lead ≠ '-' := fun h => by rw [h] at hd; exact absurd hd (by decide)
      simp [S, text, signText, hneg, this]
    · simp [S, text, signText, hneg]
  have hj : (if n.neg = true then pre.length + 1 else pre.length) = A.length := by
    cases hneg : n.neg <;> simp [A, signText, hneg]
  have hw : wholeEnd S A.length = some B.length := by
    have hS' : S = (A ++ n.lead :: n.whole ++ (n.fracText ++ n.expoText ++ post)).toArray := by
      simp [S, hL, D, C, B]
    exact wholeEnd_eq hn hS' (head_fracText hpost)
  have hf : fracEnd S B.length = (C.length, n.frac.isSome) := by
    have hS' : S = (B ++ n.fracText ++ (n.expoText ++ post)).toArray := by simp [S, hL, D, C]
    exact fracEnd_eq hn hS' (head_expoText hpost)
  have hS' : S = (C ++ n.expoText ++ post).toArray := by simp [S, hL, D]
  obtain ⟨he, hstart⟩ := expoEnd_eq hn hS' hpost
  have hv1 : digitsValue S A.length B.length = Nat.ofDigitChars 10 (n.lead :: n.whole) 0 := by
    have := digitsValue_after A (n.lead :: n.whole) (n.fracText ++ n.expoText ++ post)
    simpa [S, hL, D, C, B] using this
  have hlen : C.length + n.expoText.length = pre.length + n.text.length := by
    simp [A, B, C, text]
    omega
  rw [scanNumber]
  simp only [hsign, hj, hw, hf, he, hv1, Option.bind_eq_bind, Option.bind_some]
  have hfrac : ∀ f, n.frac = some f → C.length - (B.length + 1) = f.length ∧
      digitsValue S (B.length + 1) C.length = Nat.ofDigitChars 10 f 0 := by
    intro f hfr
    have hCf : C = B ++ ['.'] ++ f := by simp [C, fracText, hfr]
    refine ⟨by simp [hCf]; omega, ?_⟩
    have := digitsValue_after (B ++ ['.']) f (n.expoText ++ post)
    simpa [S, hL, D, hCf] using this
  have hexpo : ∀ eneg ds, n.expo = some (eneg, ds) →
      (S[C.length + 1]? == some '-') = eneg ∧
      digitsValue S (expoStart S C.length) (C.length + n.expoText.length) =
        Nat.ofDigitChars 10 ds 0 := by
    intro eneg ds hex
    have hDe : C ++ n.expoText = C ++ ['e', if eneg then '-' else '+'] ++ ds := by
      simp [expoText, hex]
    refine ⟨?_, ?_⟩
    · rw [hS', List.append_assoc, getElem?_after]
      cases eneg <;> simp [expoText, hex]
    · rw [hstart eneg ds hex, ← List.length_append, hDe]
      have := digitsValue_after (C ++ ['e', if eneg then '-' else '+']) ds post
      simpa [hS', hDe] using this
  cases hfr : n.frac with
  | none =>
    cases hex : n.expo with
    | none => simpa [value, hfr, hex, expoText] using hlen
    | some p =>
      obtain ⟨eneg, ds⟩ := p
      obtain ⟨hsg, hev⟩ := hexpo eneg ds hex
      simp [value, significand, exponent, hfr, hex, hsg, hev]
      exact hlen
  | some f =>
    obtain ⟨hfd, hfv⟩ := hfrac f hfr
    cases hex : n.expo with
    | none =>
      simp [value, significand, exponent, hfr, hex, hfd, hfv]
      exact hlen
    | some p =>
      obtain ⟨eneg, ds⟩ := p
      obtain ⟨hsg, hev⟩ := hexpo eneg ds hex
      simp [value, significand, exponent, hfr, hex, hsg, hev, hfd, hfv]
      exact hlen

end Numeral

theorem toDigits_lead (k : Nat) : ∃ d ds, Nat.toDigits 10 k = d :: ds ∧
    (('1' ≤ d ∧ d ≤ '9') ∨ (d = '0' ∧ ds = [])) := by
  obtain ⟨d, ds, hds⟩ := List.exists_cons_of_ne_nil (Nat.toDigits_ne_nil (n := k) (b := 10))
  refine ⟨d, ds, hds, ?_⟩
  have hd := toNat_of_isDigit
    (Nat.isDigit_of_mem_toDigits (by decide) (by decide) (hds ▸ List.mem_cons_self))
  by_cases h0 : d = '0'
  · right
    refine ⟨h0, ?_⟩
    rcases Nat.eq_zero_or_pos k with hk | hk
    · subst hk
      have : Nat.toDigits 10 0 = ['0'] := by decide
      rw [this] at hds
      exact (List.cons.inj hds).2.symm
    · -- a positive number's digits do not start with zero: its value would fall short
      exfalso
      have hval : k = Nat.ofDigitChars 10 ds 0 := by
        have := Nat.ofDigitChars_ten_toDigits (n := k)
        rw [hds, h0] at this
        simpa [Nat.ofDigitChars] using this.symm
      have hlt := ofDigitChars_lt (l := ds) fun c hc =>
        Nat.isDigit_of_mem_toDigits (b := 10) (n := k) (by decide) (by decide) (by simp [hds, hc])
      have hlen : Binary64.decimalLength k = ds.length + 1 := by
        simp [Binary64.decimalLength, hds]
      have := (Binary64.decimalLength_bounds hk).1
      rw [hlen, Nat.add_sub_cancel] at this
      omega
  · left
    have h48 : d.toNat ≠ 48 := fun h => h0 (by rw [← Char.ofNat_toNat d, h])
    simp only [Char.le_def, UInt32.le_iff_toNat_le]
    exact ⟨show 49 ≤ d.toNat by omega, show d.toNat ≤ 57 from hd.2⟩

theorem natText_numeral (neg : Bool) (k : Nat) : ∃ n : Numeral, n.WellFormed ∧ n.neg = neg ∧
    n.text = (if neg then ['-'] else []) ++ Nat.toDigits 10 k ∧ n.frac = none ∧ n.expo = none ∧
    Nat.ofDigitChars 10 (n.lead :: n.whole) 0 = k := by
  obtain ⟨d, ds, hds, hlead⟩ := toDigits_lead k
  have hdig : ∀ c ∈ ds, c.isDigit = true := fun c hc =>
    Nat.isDigit_of_mem_toDigits (b := 10) (n := k) (by decide) (by decide) (by simp [hds, hc])
  refine ⟨⟨neg, d, ds, none, none⟩, ⟨hlead, hdig, by simp, by simp⟩, rfl, ?_, rfl, rfl, ?_⟩
  · simp [Numeral.text, Numeral.signText, Numeral.fracText, Numeral.expoText, hds]
  · rw [← hds, Nat.ofDigitChars_ten_toDigits]

/-- An integer is written as a numeral that stands for it. -/
theorem intText_numeral (z : Int) :
    ∃ n : Numeral, n.WellFormed ∧ n.text = (toString z).toList ∧ n.value = .int z := by
  cases z with
  | ofNat k =>
    obtain ⟨n, hn, hneg, htext, hfrac, hexpo, hval⟩ := natText_numeral false k
    have hs : toString (Int.ofNat k) = Nat.repr k := rfl
    refine ⟨n, hn, by rw [htext, hs, Nat.toList_repr]; rfl, ?_⟩
    simp [Numeral.value, hneg, hfrac, hexpo, hval]
  | negSucc k =>
    obtain ⟨n, hn, hneg, htext, hfrac, hexpo, hval⟩ := natText_numeral true (k + 1)
    have hs : toString (Int.negSucc k) = "-" ++ Nat.repr (k + 1) := rfl
    refine ⟨n, hn, by rw [htext, hs, String.toList_append, Nat.toList_repr]; rfl, ?_⟩
    simp [Numeral.value, hneg, hfrac, hexpo, hval, Int.negSucc_eq]

namespace Numeral

theorem significand_eq (n : Numeral) :
    n.significand = Nat.ofDigitChars 10 (n.lead :: n.whole ++ n.frac.getD []) 0 := by
  rw [significand, Nat.ofDigitChars_append]
  conv_rhs => rw [Nat.ofDigitChars_eq_ofDigitChars_zero]
  rw [Nat.mul_comm]

theorem value_of_fractional {n : Numeral} (h : n.frac.isSome ∨ n.expo.isSome) :
    n.value = .float (Binary64.ofDecimal n.neg n.significand n.exponent) := by
  unfold value
  rw [if_neg]
  intro hc
  simp only [Bool.and_eq_true, Option.isNone_iff_eq_none] at hc
  rcases h with h | h
  · simp [hc.1] at h
  · simp [hc.2] at h

/-- A numeral with a point or an exponent that spells the decimal `d`. -/
structure Spells (n : Numeral) (d : Decimal.Digits) : Prop where
  wellFormed : n.WellFormed
  fractional : n.frac.isSome ∨ n.expo.isSome
  pos : 0 < n.significand
  value : (n.significand : ℚ) * 10 ^ n.exponent = d.value

theorem spells_of {n : Numeral} {d : Decimal.Digits} (hd : 0 < d.digits) (hn : n.WellFormed)
    (hfr : n.frac.isSome ∨ n.expo.isSome) (k : Nat) (hsig : n.significand = d.digits * 10 ^ k)
    (hexp : n.exponent = d.point - Binary64.decimalLength d.digits - k) : n.Spells d := by
  refine ⟨hn, hfr, by rw [hsig]; positivity, ?_⟩
  calc (n.significand : ℚ) * 10 ^ n.exponent
      = d.digits * (10 ^ (k : Int) * 10 ^ (d.point - Binary64.decimalLength d.digits - k)) := by
        rw [hsig, hexp, zpow_natCast]
        push_cast
        ring
    _ = d.value := by
        rw [← zpow_add₀ (by norm_num), Decimal.Digits.value]
        congr 2
        omega

end Numeral

section Writer

open Decimal

variable {d : Digits} {c₀ : Char} {cs : List Char}

theorem digits_of_toDigits (hD : Nat.toDigits 10 d.digits = c₀ :: cs) :
    c₀.isDigit = true ∧ ∀ c ∈ cs, c.isDigit = true := by
  have h := fun c (hc : c ∈ Nat.toDigits 10 d.digits) =>
    Nat.isDigit_of_mem_toDigits (b := 10) (n := d.digits) (by decide) (by decide) hc
  rw [hD] at h
  exact ⟨h c₀ List.mem_cons_self, fun c hc => h c (List.mem_cons_of_mem _ hc)⟩

theorem lead_of_toDigits (hd : 0 < d.digits) (hD : Nat.toDigits 10 d.digits = c₀ :: cs) :
    '1' ≤ c₀ ∧ c₀ ≤ '9' := by
  obtain ⟨c, cs', hD', hlead⟩ := toDigits_lead d.digits
  rw [hD] at hD'
  obtain ⟨rfl, rfl⟩ := List.cons.inj hD'
  rcases hlead with h | ⟨h0, hnil⟩
  · exact h
  · -- a lone zero spells zero
    subst h0 hnil
    have := Nat.ofDigitChars_ten_toDigits (n := d.digits)
    rw [hD] at this
    simp [Nat.ofDigitChars] at this
    omega

theorem value_of_toDigits (hD : Nat.toDigits 10 d.digits = c₀ :: cs) :
    Nat.ofDigitChars 10 (c₀ :: cs) 0 = d.digits := by
  rw [← hD, Nat.ofDigitChars_ten_toDigits]

theorem length_of_toDigits (hD : Nat.toDigits 10 d.digits = c₀ :: cs) :
    Binary64.decimalLength d.digits = cs.length + 1 := by
  simp [Binary64.decimalLength, hD]

theorem isDigit_of_mem_replicate {c : Char} {z : Nat} (h : c ∈ List.replicate z '0') :
    c.isDigit = true := by
  rw [(List.mem_replicate.mp h).2]
  rfl

theorem spells_belowOne (neg : Bool) (hd : 0 < d.digits) (hD : Nat.toDigits 10 d.digits = c₀ :: cs)
    (hp : d.point ≤ 0) : ∃ n : Numeral, n.Spells d ∧ n.neg = neg ∧
      n.text = (if neg then ['-'] else []) ++
        ('0' :: '.' :: List.replicate (-d.point).toNat '0' ++ c₀ :: cs) := by
  obtain ⟨h0, hcs⟩ := digits_of_toDigits hD
  have hlen := length_of_toDigits hD
  refine ⟨⟨neg, '0', [], some (List.replicate (-d.point).toNat '0' ++ c₀ :: cs), none⟩,
    Numeral.spells_of hd ⟨Or.inr ⟨rfl, rfl⟩, by simp, ?_, by simp⟩ (by simp) 0 ?_ ?_, rfl, ?_⟩
  · rintro f ⟨⟩
    refine ⟨by simp, fun c hc => ?_⟩
    simp only [List.mem_append, List.mem_cons] at hc
    rcases hc with hc | rfl | hc
    · exact isDigit_of_mem_replicate hc
    · exact h0
    · exact hcs c hc
  · rw [Numeral.significand_eq]
    show Nat.ofDigitChars 10 ('0' :: (List.replicate (-d.point).toNat '0' ++ c₀ :: cs)) 0 = _
    rw [Nat.ofDigitChars_cons, Nat.ofDigitChars_append]
    simp [value_of_toDigits hD]
  · simp [Numeral.exponent, hlen]
    omega
  · simp [Numeral.text, Numeral.signText, Numeral.fracText, Numeral.expoText]

theorem spells_whole (neg : Bool) (hd : 0 < d.digits) (hD : Nat.toDigits 10 d.digits = c₀ :: cs)
    (hp : 0 < d.point) (hL : (cs.length + 1 : Int) ≤ d.point) : ∃ n : Numeral, n.Spells d ∧
      n.neg = neg ∧ n.text = (if neg then ['-'] else []) ++
        (c₀ :: cs ++ List.replicate (d.point.toNat - (cs.length + 1)) '0' ++ ['.', '0']) := by
  obtain ⟨h0, hcs⟩ := digits_of_toDigits hD
  have hlen := length_of_toDigits hD
  set z := d.point.toNat - (cs.length + 1)
  refine ⟨⟨neg, c₀, cs ++ List.replicate z '0', some ['0'], none⟩,
    Numeral.spells_of hd ⟨Or.inl (lead_of_toDigits hd hD), ?_, ?_, by simp⟩ (by simp) (z + 1) ?_ ?_,
    rfl, ?_⟩
  · intro c hc
    rcases List.mem_append.mp hc with hc | hc
    · exact hcs c hc
    · exact isDigit_of_mem_replicate hc
  · rintro f ⟨⟩
    exact ⟨by simp, by simp⟩
  · rw [Numeral.significand_eq]
    show Nat.ofDigitChars 10 (c₀ :: (cs ++ List.replicate z '0') ++ ['0']) 0 = _
    rw [Nat.ofDigitChars_append, ← List.cons_append, Nat.ofDigitChars_append, value_of_toDigits hD,
      Nat.ofDigitChars_replicate_zero, Nat.ofDigitChars_cons, Nat.ofDigitChars_nil, Nat.sub_self,
      Nat.add_zero]
    ring
  · simp [Numeral.exponent, hlen]
    omega
  · simp [Numeral.text, Numeral.signText, Numeral.fracText, Numeral.expoText]

theorem spells_point (neg : Bool) (hd : 0 < d.digits) (hD : Nat.toDigits 10 d.digits = c₀ :: cs)
    {q : Nat} (hq : d.point = q + 1) (hL : q < cs.length) : ∃ n : Numeral, n.Spells d ∧
      n.neg = neg ∧ n.text = (if neg then ['-'] else []) ++
        (c₀ :: cs.take q ++ '.' :: cs.drop q) := by
  obtain ⟨h0, hcs⟩ := digits_of_toDigits hD
  have hlen := length_of_toDigits hD
  refine ⟨⟨neg, c₀, cs.take q, some (cs.drop q), none⟩,
    Numeral.spells_of hd ⟨Or.inl (lead_of_toDigits hd hD), fun c hc => hcs c (List.mem_of_mem_take hc),
      ?_, by simp⟩ (by simp) 0 ?_ ?_, rfl, ?_⟩
  · rintro f ⟨⟩
    exact ⟨by simp; omega, fun c hc => hcs c (List.mem_of_mem_drop hc)⟩
  · rw [Numeral.significand_eq]
    show Nat.ofDigitChars 10 (c₀ :: cs.take q ++ cs.drop q) 0 = _
    rw [List.cons_append, List.take_append_drop, value_of_toDigits hD]
    simp
  · simp [Numeral.exponent, hlen, hq]
    omega
  · simp [Numeral.text, Numeral.signText, Numeral.fracText, Numeral.expoText]

theorem spells_scientific (neg : Bool) (hd : 0 < d.digits)
    (hD : Nat.toDigits 10 d.digits = c₀ :: cs) : ∃ n : Numeral, n.Spells d ∧ n.neg = neg ∧
      n.text = (if neg then ['-'] else []) ++
        (c₀ :: (if cs.isEmpty then [] else '.' :: cs) ++ 'e' ::
          (if d.point - 1 < 0 then '-' else '+') ::
          (List.replicate (2 - (Nat.toDigits 10 (d.point - 1).natAbs).length) '0' ++
            Nat.toDigits 10 (d.point - 1).natAbs)) := by
  obtain ⟨h0, hcs⟩ := digits_of_toDigits hD
  have hlen := length_of_toDigits hD
  set mag := Nat.toDigits 10 (d.point - 1).natAbs
  have hmag : ∀ c ∈ mag, c.isDigit = true := fun c hc =>
    Nat.isDigit_of_mem_toDigits (by decide) (by decide) hc
  refine ⟨⟨neg, c₀, [], if cs.isEmpty then none else some cs,
      some (decide (d.point - 1 < 0), List.replicate (2 - mag.length) '0' ++ mag)⟩,
    Numeral.spells_of hd ⟨Or.inl (lead_of_toDigits hd hD), by simp, ?_, ?_⟩ (by simp) 0 ?_ ?_,
    rfl, ?_⟩
  · intro f hf
    cases hcs' : cs.isEmpty
    · simp only [hcs', Bool.false_eq_true, ↓reduceIte, Option.some.injEq] at hf
      subst hf
      exact ⟨by simpa using hcs', hcs⟩
    · simp [hcs'] at hf
  · rintro eneg ds ⟨⟩
    refine ⟨by simp [mag, Nat.toDigits_ne_nil], fun c hc => ?_⟩
    rcases List.mem_append.mp hc with hc | hc
    · exact isDigit_of_mem_replicate hc
    · exact hmag c hc
  · have hfr : (if cs.isEmpty then none else some cs).getD [] = cs := by
      cases hcs' : cs.isEmpty
      · simp
      · simpa using hcs'
    rw [Numeral.significand_eq]
    show Nat.ofDigitChars 10 (c₀ :: (if cs.isEmpty then none else some cs).getD []) 0 = _
    rw [hfr, value_of_toDigits hD]
    simp
  · have hfr : ((if cs.isEmpty then none else some cs).getD []).length = cs.length := by
      cases hcs' : cs.isEmpty
      · simp
      · simp [List.isEmpty_iff.mp hcs']
    simp only [Numeral.exponent, hfr, Nat.ofDigitChars_append, Nat.ofDigitChars_replicate_zero,
      Nat.mul_zero, mag]
    rw [Nat.ofDigitChars_ten_toDigits, hlen]
    split_ifs with hneg <;> simp at hneg <;> omega
  · cases hcs' : cs.isEmpty <;>
      simp [Numeral.text, Numeral.signText, Numeral.fracText, Numeral.expoText]

theorem writeDigits_spells (neg : Bool) (hd : 0 < d.digits) : ∃ n : Numeral, n.Spells d ∧
    n.neg = neg ∧ n.text = (if neg then ['-'] else []) ++ (Style.numeral.writeDigits d).toList := by
  obtain ⟨c₀, cs, hD⟩ := List.exists_cons_of_ne_nil (Nat.toDigits_ne_nil (n := d.digits) (b := 10))
  suffices h : ∀ w, Style.numeral.writeDigits d = w → ∃ n : Numeral, n.Spells d ∧ n.neg = neg ∧
      n.text = (if neg then ['-'] else []) ++ w.toList from h _ rfl
  intro w hw
  unfold Style.writeDigits at hw
  simp only [Style.numeral, hD, String.length_ofList, List.length_cons] at hw
  by_cases hrange : -3 ≤ d.point ∧ d.point ≤ 16
  · rw [if_pos (by
      simp only [Bool.and_eq_true]
      exact ⟨decide_eq_true hrange.1, decide_eq_true hrange.2⟩)] at hw
    by_cases hp : d.point ≤ 0
    · rw [if_pos hp] at hw
      subst hw
      obtain ⟨n, hn, hneg, htext⟩ := spells_belowOne neg hd hD hp
      exact ⟨n, hn, hneg, by rw [htext]; simp [zeros]⟩
    rw [if_neg hp] at hw
    by_cases hL : ((cs.length + 1 : Nat) : Int) ≤ d.point
    · rw [if_pos hL] at hw
      subst hw
      obtain ⟨n, hn, hneg, htext⟩ := spells_whole neg hd hD (by omega) (by simpa using hL)
      exact ⟨n, hn, hneg, by rw [htext]; simp [zeros]⟩
    · rw [if_neg hL] at hw
      subst hw
      obtain ⟨n, hn, hneg, htext⟩ :=
        spells_point neg hd hD (q := d.point.toNat - 1) (by omega) (by omega)
      refine ⟨n, hn, hneg, ?_⟩
      rw [htext, show d.point.toNat = d.point.toNat - 1 + 1 by omega]
      simp
  · rw [if_neg (by
      simp only [Bool.and_eq_true]
      exact fun h => hrange ⟨of_decide_eq_true h.1, of_decide_eq_true h.2⟩)] at hw
    subst hw
    obtain ⟨n, hn, hneg, htext⟩ := spells_scientific neg hd hD
    refine ⟨n, hn, hneg, ?_⟩
    rw [htext]
    cases cs <;> by_cases hx : d.point - 1 < 0 <;> simp [hx]

theorem ofBits_signBit {x : Float} {neg : Bool} {e : Int} (hx : Binary64.shape x = .finite neg 0 e) :
    Float.ofBits (Binary64.signBit neg).toUInt64 = x := by
  obtain ⟨-, -, -, -, hbits⟩ := Binary64.shape_finite hx
  rw [if_pos (by norm_num), Nat.add_zero] at hbits
  rw [Nat.toUInt64_eq, ← hbits, UInt64.ofNat_toNat, Float.ofBits_toBits]

/-- A finite binary64 value is written as a numeral that stands for it: `0.0` or `-0.0` for a
zero, and otherwise its shortest digits, which read back as the value. -/
theorem floatText_numeral {x : Float} {neg : Bool} {m : Nat} {e : Int}
    (hx : Binary64.shape x = .finite neg m e) :
    ∃ n : Numeral, n.WellFormed ∧ n.text = (floatText x).toList ∧ n.value = .float x := by
  obtain ⟨hm53, he, -⟩ := Binary64.shape_finite hx
  have hsign : ∀ s : String, ((if neg then "-" else "") ++ s).toList =
      (if neg then ['-'] else []) ++ s.toList := by
    intro s
    cases neg <;> simp
  unfold floatText numeral Style.write
  rw [hx]
  simp only
  rcases Nat.eq_zero_or_pos m with rfl | hm
  · -- a zero keeps its sign
    refine ⟨⟨neg, '0', [], some ['0'], none⟩, ⟨Or.inr ⟨rfl, rfl⟩, by simp, ?_, by simp⟩, ?_, ?_⟩
    · rintro f ⟨⟩
      exact ⟨by simp, by simp⟩
    · simp only [beq_self_eq_true, ↓reduceIte, Style.numeral, String.append_assoc, hsign]
      simp [Numeral.text, Numeral.signText, Numeral.fracText, Numeral.expoText]
    · have hs : Numeral.significand ⟨neg, '0', [], some ['0'], none⟩ = 0 := rfl
      rw [Numeral.value_of_fractional (Or.inl rfl), hs, Binary64.ofDecimal,
        if_pos (beq_self_eq_true 0)]
      exact congrArg Value.float (ofBits_signBit hx)
  · obtain ⟨hpos, hcont⟩ := shortest_contains hm hm53 he
    obtain ⟨n, hn, hneg, htext⟩ := writeDigits_spells neg hpos
    refine ⟨n, hn.wellFormed, ?_, ?_⟩
    · rw [if_neg (by simp; omega), hsign, htext]
    · rw [Numeral.value_of_fractional hn.fractional, hneg,
        Binary64.ofDecimal_of_contains hx hm hn.pos (hn.value ▸ hcont)]

end Writer

end BuildGate.Json
