import BuildGate.Proofs.Rounding

namespace BuildGate.Binary64

theorem decimalLength_eq {n L : Nat} (hL : 0 < L) (h1 : 10 ^ (L - 1) ≤ n) (h2 : n < 10 ^ L) :
    decimalLength n = L := by
  unfold decimalLength
  apply le_antisymm
  · exact (Nat.length_toDigits_le_iff (by decide) hL).mpr h2
  · by_contra hlt
    have hpos := Nat.length_toDigits_pos (b := 10) (n := n)
    have := (Nat.length_toDigits_le_iff (b := 10) (n := n) (by decide) (k := L - 1) (by omega)).mp
      (by omega)
    omega

theorem decimalLength_bounds {n : Nat} (hn : 0 < n) :
    10 ^ (decimalLength n - 1) ≤ n ∧ n < 10 ^ decimalLength n := by
  unfold decimalLength
  have hpos := Nat.length_toDigits_pos (b := 10) (n := n)
  refine ⟨?_, (Nat.length_toDigits_le_iff (by decide) hpos).mp le_rfl⟩
  rcases Nat.lt_or_ge 1 (Nat.toDigits 10 n).length with h | h
  · by_contra hlt
    have := (Nat.length_toDigits_le_iff (b := 10) (n := n) (by decide)
      (k := (Nat.toDigits 10 n).length - 1) (by omega)).mpr (Nat.lt_of_not_le hlt)
    omega
  · rw [show (Nat.toDigits 10 n).length - 1 = 0 by omega, pow_zero]; exact hn

theorem decimalLength_pos (n : Nat) : 0 < decimalLength n := Nat.length_toDigits_pos

theorem decimalLength_mul_pow {s : Nat} (hs : 0 < s) (z : Nat) :
    decimalLength (s * 10 ^ z) = decimalLength s + z := by
  obtain ⟨h1, h2⟩ := decimalLength_bounds hs
  have hL := decimalLength_pos s
  apply decimalLength_eq (by omega)
  · rw [show decimalLength s + z - 1 = decimalLength s - 1 + z by omega, pow_add]
    exact Nat.mul_le_mul_right _ h1
  · rw [pow_add]
    exact Nat.mul_lt_mul_of_pos_right h2 (by positivity)

end BuildGate.Binary64

namespace BuildGate.Decimal

open Binary64

theorem stripZeros_mul_pow (k : Nat) : ∃ z, k = stripZeros k * 10 ^ z := by
  unfold stripZeros
  set D := Nat.toDigits 10 k
  have hsplit := List.takeWhile_append_dropWhile (p := (· == '0')) (l := D.reverse)
  have hzeros : D.reverse.takeWhile (· == '0') =
      List.replicate (D.reverse.takeWhile (· == '0')).length '0' := by
    apply List.eq_replicate_iff.mpr
    refine ⟨rfl, fun c hc => ?_⟩
    simpa using List.mem_takeWhile_imp hc
  refine ⟨(D.reverse.takeWhile (· == '0')).length, ?_⟩
  have hD : D = (D.reverse.dropWhile (· == '0')).reverse ++
      List.replicate (D.reverse.takeWhile (· == '0')).length '0' := by
    conv_lhs => rw [← List.reverse_reverse D, ← hsplit, hzeros]
    simp
  have hk : k = Nat.ofDigitChars 10 D 0 := Nat.ofDigitChars_ten_toDigits.symm
  rw [hk]
  conv_lhs => rw [hD]
  rw [Nat.ofDigitChars_append, Nat.ofDigitChars_replicate_zero, Nat.ofDigitChars_eq_foldl,
    mul_comm]
  rfl

/-- The value `0.d₁…dₙ × 10^point` of decimal digits, that is `digits · 10^(point - n)`. -/
def Digits.value (d : Digits) : ℚ := d.digits * 10 ^ (d.point - decimalLength d.digits)

theorem Digits.ofGrid_spec {k : Nat} (hk : 0 < k) (g : Int) :
    0 < (ofGrid k g).digits ∧ (ofGrid k g).value = k * 10 ^ g := by
  obtain ⟨z, hz⟩ := stripZeros_mul_pow k
  have hs : 0 < stripZeros k := by
    rcases Nat.eq_zero_or_pos (stripZeros k) with h | h
    · rw [h, zero_mul] at hz; omega
    · exact h
  have hlen : decimalLength k = decimalLength (stripZeros k) + z := by
    conv_lhs => rw [hz]
    exact decimalLength_mul_pow hs z
  refine ⟨hs, ?_⟩
  unfold ofGrid value
  simp only
  rw [hlen, show g + ((decimalLength (stripZeros k) + z : Nat) : Int) -
      (decimalLength (stripZeros k) : Int) = g + z by push_cast; ring,
    zpow_add₀ (by norm_num), zpow_natCast]
  conv_rhs => rw [hz]
  push_cast
  ring

theorem gridScale_ratio (g : Int) :
    ((gridScale g).1 : ℚ) / (gridScale g).2 = 10 ^ g ∧ 0 < (gridScale g).1 ∧ 0 < (gridScale g).2 := by
  unfold gridScale
  split
  next hg =>
    refine ⟨?_, by simp only [Nat.pow_eq]; positivity, by simp⟩
    simp only [Nat.pow_eq, Nat.cast_pow, Nat.cast_ofNat, Nat.cast_one, div_one]
    rw [← zpow_natCast, Int.toNat_of_nonneg hg]
  next hg =>
    refine ⟨?_, by simp, by simp only [Nat.pow_eq]; positivity⟩
    simp only [Nat.pow_eq, Nat.cast_pow, Nat.cast_ofNat, Nat.cast_one]
    rw [← zpow_natCast, Int.toNat_of_nonneg (by omega), zpow_neg, one_div, inv_inv]

theorem Interval.holds_iff {i : Interval} (hden : 0 < i.den) (g : Int) (k : Nat) :
    i.holds g k = true ↔ i.Contains (k * 10 ^ g) := by
  obtain ⟨hr, ha, hb⟩ := gridScale_ratio g
  unfold holds Contains
  generalize gridScale g = p at hr ha hb
  obtain ⟨a, b⟩ := p
  simp only at hr ha hb ⊢
  have hdq : (0 : ℚ) < i.den := by exact_mod_cast hden
  have hbq : (0 : ℚ) < b := by exact_mod_cast hb
  have hx : (k : ℚ) * 10 ^ g = (k * a : Nat) / b := by
    rw [← hr]; push_cast; ring
  rw [hx]
  split
  · simp only [Bool.and_eq_true, decide_eq_true_eq]
    rw [div_le_div_iff₀ hdq hbq, div_le_div_iff₀ hbq hdq]
    norm_cast
  · simp only [Bool.and_eq_true, decide_eq_true_eq]
    rw [div_lt_div_iff₀ hdq hbq, div_lt_div_iff₀ hbq hdq]
    norm_cast

theorem Interval.holds_of_pick {i : Interval} {g : Int} {k : Nat} (h : i.pick g = some k) :
    i.holds g k = true := by
  unfold pick at h
  generalize gridScale g = p at h
  obtain ⟨a, b⟩ := p
  simp only at h
  split at h
  next h0 h1 =>
    split_ifs at h <;> cases h <;> assumption
  next h0 _ => cases h; exact h0
  next _ h1 => cases h; exact h1
  next => cases h

theorem Interval.pow_decade_le {i : Interval} (hden : 0 < i.den)
    (h : (10 : ℚ) ^ (-340 : Int) ≤ i.mid / i.den) : (10 : ℚ) ^ i.decade ≤ i.mid / i.den := by
  have hdq : (0 : ℚ) < i.den := by exact_mod_cast hden
  unfold decade
  simp only [Nat.pow_eq]
  set n := i.mid * 10 ^ 340 / i.den
  have hn : 0 < n := by
    apply Nat.div_pos _ hden
    have : (i.den : ℚ) ≤ i.mid * 10 ^ 340 := by
      rw [zpow_neg, le_div_iff₀ hdq] at h
      have : (10 : ℚ) ^ (340 : Int) = 10 ^ 340 := by norm_num
      rw [this] at h
      field_simp at h
      linarith
    exact_mod_cast this
  obtain ⟨h1, -⟩ := decimalLength_bounds hn
  have hL := decimalLength_pos n
  have h2 : (n : ℚ) ≤ i.mid * 10 ^ 340 / i.den := by
    have := Nat.cast_div_le (α := ℚ) (m := i.mid * 10 ^ 340) (n := i.den)
    push_cast at this
    exact this
  have h3 : (10 : ℚ) ^ (decimalLength n - 1) ≤ i.mid * 10 ^ 340 / i.den :=
    le_trans (by exact_mod_cast h1) h2
  have h4 : (10 : ℚ) ^ ((decimalLength n : Int) - 341) = 10 ^ (decimalLength n - 1) / 10 ^ 340 := by
    rw [show (decimalLength n : Int) - 341 = ((decimalLength n - 1 : Nat) : Int) - 340 by omega,
      zpow_sub₀ (by norm_num), zpow_natCast]
    norm_num
  rw [h4, div_le_iff₀ (by positivity)]
  calc (10 : ℚ) ^ (decimalLength n - 1) ≤ i.mid * 10 ^ 340 / i.den := h3
    _ = i.mid / i.den * 10 ^ 340 := by ring

theorem Interval.nearest_eq (i : Interval) (g : Int) :
    i.nearest g = roundHalfEven (i.mid * (gridScale g).2) (i.den * (gridScale g).1) := by
  unfold Interval.nearest
  generalize gridScale g = p
  obtain ⟨a, b⟩ := p
  rfl

variable {m : Nat} {e : Int}

theorem Interval.of_mid_ge (hm : 0 < m) (he : -1074 ≤ e) :
    (10 : ℚ) ^ (-340 : Int) ≤ (of m e).mid / (of m e).den := by
  obtain ⟨-, hmid, -⟩ := Interval.of_scaled (e := e) hm
  rw [hmid]
  have hm1 : (1 : ℚ) ≤ m := by exact_mod_cast hm
  have h2 : (2 : ℚ) ^ (-1074 : Int) ≤ 2 ^ e := zpow_le_zpow_right₀ (by norm_num) he
  have h3 : (10 : ℚ) ^ (-340 : Int) ≤ 2 ^ (-1074 : Int) := by
    rw [zpow_neg, zpow_neg]
    apply inv_anti₀ (by positivity)
    have : 2 ^ 1074 ≤ 10 ^ 340 := by decide +kernel
    exact_mod_cast this
  calc (10 : ℚ) ^ (-340 : Int) ≤ 2 ^ e := h3.trans h2
    _ ≤ m * 2 ^ e := le_mul_of_one_le_left (by positivity) hm1

theorem Interval.contains_fallback (hm : 0 < m) (hm53 : m < 2 ^ 53) (he : -1074 ≤ e) :
    (of m e).Contains (roundHalfEven ((of m e).mid * (gridScale ((of m e).decade - 16)).2)
      ((of m e).den * (gridScale ((of m e).decade - 16)).1) * 10 ^ ((of m e).decade - 16)) := by
  obtain ⟨hlow, hmid, hhigh⟩ := Interval.of_scaled (e := e) hm
  have hden := Interval.of_den_pos (m := m) (e := e)
  have hdec := Interval.pow_decade_le hden (Interval.of_mid_ge hm he)
  set i := of m e with hi
  set g := i.decade - 16 with hg
  obtain ⟨hr, ha, hb⟩ := gridScale_ratio g
  rw [hmid] at hdec
  set v : ℚ := m * 2 ^ e with hv
  set k := roundHalfEven (i.mid * (gridScale g).2) (i.den * (gridScale g).1)
  have hk := abs_roundHalfEven_sub_le (A := i.mid * (gridScale g).2) (B := i.den * (gridScale g).1)
    (by positivity)
  have hratio : ((i.mid * (gridScale g).2 : Nat) : ℚ) / (i.den * (gridScale g).1 : Nat) =
      v / 10 ^ g := by
    rw [← hmid, ← hr]; push_cast; field_simp
  rw [hratio] at hk
  have hpos : (0 : ℚ) < 10 ^ g := by positivity
  have hk' : |(k : ℚ) * 10 ^ g - v| ≤ 10 ^ g / 2 := by
    have : (k : ℚ) * 10 ^ g - v = (k - v / 10 ^ g) * 10 ^ g := by field_simp
    rw [this, abs_mul, abs_of_pos hpos]
    calc |(k : ℚ) - v / 10 ^ g| * 10 ^ g ≤ 1 / 2 * 10 ^ g := mul_le_mul_of_nonneg_right hk hpos.le
      _ = 10 ^ g / 2 := by ring
  have hstep : 10 ^ g * 10 ^ 16 ≤ v := by
    rw [hg, zpow_sub₀ (by norm_num)]
    have : (10 : ℚ) ^ (16 : Int) = 10 ^ 16 := by norm_num
    rw [this, div_mul_cancel₀ _ (by positivity)]
    exact hdec
  have hgrid : ∀ t : ℚ, v < 10 ^ 16 * t → 10 ^ g < t := fun t ht =>
    lt_of_mul_lt_mul_right (by linarith) (by positivity : (0 : ℚ) ≤ 10 ^ 16)
  have h2e : (0 : ℚ) < 2 ^ e := by positivity
  have hm53q : (m : ℚ) < 2 ^ 53 := by exact_mod_cast hm53
  have hhalf : 10 ^ g / 2 < (1 / 2 : ℚ) * 2 ^ e := by
    have := hgrid (2 ^ e) (mul_lt_mul_of_pos_right (hm53q.trans (by norm_num)) h2e)
    linarith
  have hlow' : 10 ^ g / 2 < (if m = 2 ^ 52 ∧ -1074 < e then 1 / 4 else 1 / 2 : ℚ) * 2 ^ e := by
    split_ifs with h
    · have hm' : (m : ℚ) = 2 ^ 52 := by exact_mod_cast h.1
      have := hgrid (2 ^ e / 2) (by rw [hv, hm']; linarith)
      linarith
    · exact hhalf
  rw [abs_le] at hk'
  have h1 : ((i.low : ℚ) / i.den) < k * 10 ^ g := by
    rw [hlow]; rw [sub_mul]; linarith
  have h2 : (k : ℚ) * 10 ^ g < i.high / i.den := by
    rw [hhigh]; rw [add_mul]; linarith
  unfold Contains
  split
  · exact ⟨h1.le, h2.le⟩
  · exact ⟨h1, h2⟩

/-- The digits `shortest` writes for a finite nonzero value stand for a rational of its rounding
interval. -/
theorem shortest_contains (hm : 0 < m) (hm53 : m < 2 ^ 53) (he : -1074 ≤ e) :
    0 < (shortest m e).digits ∧ (Interval.of m e).Contains (shortest m e).value := by
  have grid : ∀ (k : Nat) (g : Int), (Interval.of m e).Contains (k * 10 ^ g) →
      0 < (Digits.ofGrid k g).digits ∧ (Interval.of m e).Contains (Digits.ofGrid k g).value := by
    intro k g hc
    have hk : 0 < k := by
      have := hc.pos hm
      rcases Nat.eq_zero_or_pos k with h | h
      · simp [h] at this
      · exact h
    obtain ⟨hpos, hval⟩ := Digits.ofGrid_spec hk g
    exact ⟨hpos, hval ▸ hc⟩
  rw [shortest]
  cases hs : (Interval.of m e).search with
  | some ds =>
    rw [Interval.search] at hs
    obtain ⟨n, -, hn⟩ := List.exists_of_findSome?_eq_some hs
    obtain ⟨k, hk, rfl⟩ := Option.map_eq_some_iff.mp hn
    exact grid k _ ((Interval.holds_iff Interval.of_den_pos _ k).mp (Interval.holds_of_pick hk))
  | none =>
    rw [Option.getD_none, Interval.fallback, Interval.nearest_eq]
    exact grid _ _ (Interval.contains_fallback hm hm53 he)

end BuildGate.Decimal
