import Mathlib
import BuildGate.Number.Decimal

namespace BuildGate.Binary64

theorem roundHalfEven_eq {A B r : Nat} (hB : 0 < B)
    (hlo : 2 * r * B < 2 * A + B ∨ (2 * r * B = 2 * A + B ∧ r % 2 = 0))
    (hhi : 2 * A < (2 * r + 1) * B ∨ (2 * A = (2 * r + 1) * B ∧ r % 2 = 0)) :
    roundHalfEven A B = r := by
  have hdiv := Nat.div_add_mod A B
  have hmod := Nat.mod_lt A hB
  set n := A / B
  set ρ := A % B
  -- `A / B` lies within half a unit of `r`, so its quotient is `r` or `r - 1`
  have hnr : n ≤ r := by
    have : 2 * n * B ≤ (2 * r + 1) * B := by rcases hhi with h | h <;> nlinarith
    have := Nat.le_of_mul_le_mul_right this hB
    omega
  have hrn : r ≤ n + 1 := by
    have : 2 * r * B < (2 * n + 3) * B := by rcases hlo with h | h <;> nlinarith
    have := Nat.lt_of_mul_lt_mul_right this
    omega
  unfold roundHalfEven
  simp only [Bool.or_eq_true, decide_eq_true_eq, Bool.and_eq_true, beq_iff_eq]
  rcases (show r = n ∨ r = n + 1 by omega) with rfl | rfl
  · have : 2 * ρ < B ∨ (2 * ρ = B ∧ n % 2 = 0) := by
      rcases hhi with h | h
      · left; nlinarith
      · right; exact ⟨by nlinarith, h.2⟩
    split_ifs <;> omega
  · have : B < 2 * ρ ∨ (2 * ρ = B ∧ (n + 1) % 2 = 0) := by
      rcases hlo with h | h
      · left; nlinarith
      · right; exact ⟨by nlinarith, h.2⟩
    split_ifs <;> omega

def NearHalfEven (r : Nat) (y : ℚ) : Prop :=
  ((r : ℚ) - 1 / 2 < y ∨ ((r : ℚ) - 1 / 2 = y ∧ r % 2 = 0)) ∧
    (y < r + 1 / 2 ∨ (y = r + 1 / 2 ∧ r % 2 = 0))

theorem roundHalfEven_of_near {A B r : Nat} (hB : 0 < B) (h : NearHalfEven r ((A : ℚ) / B)) :
    roundHalfEven A B = r := by
  have hBq : (0 : ℚ) < B := by exact_mod_cast hB
  obtain ⟨hlo, hhi⟩ := h
  apply roundHalfEven_eq hB
  · rcases hlo with h | ⟨h, hr⟩
    · left
      rw [lt_div_iff₀ hBq] at h
      exact_mod_cast (by linarith : (2 * r * B : ℚ) < 2 * A + B)
    · right
      rw [eq_div_iff hBq.ne'] at h
      exact ⟨by exact_mod_cast (by linarith : (2 * r * B : ℚ) = 2 * A + B), hr⟩
  · rcases hhi with h | ⟨h, hr⟩
    · left
      rw [div_lt_iff₀ hBq] at h
      exact_mod_cast (by linarith : (2 * A : ℚ) < (2 * r + 1) * B)
    · right
      rw [div_eq_iff hBq.ne'] at h
      exact ⟨by exact_mod_cast (by linarith : (2 * A : ℚ) = (2 * r + 1) * B), hr⟩

/-- Rounding half to even is off by half a unit at most. -/
theorem abs_roundHalfEven_sub_le {A B : Nat} (hB : 0 < B) :
    |(roundHalfEven A B : ℚ) - A / B| ≤ 1 / 2 := by
  have hBq : (0 : ℚ) < B := by exact_mod_cast hB
  have hA : (A : ℚ) / B = (A / B : Nat) + (A % B : Nat) / B := by
    have : (A : ℚ) = B * (A / B : Nat) + (A % B : Nat) := by exact_mod_cast (Nat.div_add_mod A B).symm
    rw [this]; field_simp
  have hr : ((A % B : Nat) : ℚ) < B := by exact_mod_cast Nat.mod_lt A hB
  unfold roundHalfEven
  simp only [Bool.or_eq_true, decide_eq_true_eq, Bool.and_eq_true, beq_iff_eq]
  rw [hA, abs_le]
  split_ifs with hup
  · have h2 : (B : ℚ) ≤ 2 * (A % B : Nat) := by
      rcases hup with h | h
      · exact_mod_cast h.le
      · exact_mod_cast h.1.symm.le
    have : ((A % B : Nat) : ℚ) / B ≤ 1 := by rw [div_le_one hBq]; exact hr.le
    have : (1 : ℚ) / 2 ≤ (A % B : Nat) / B := by rw [le_div_iff₀ hBq]; linarith
    push_cast
    constructor <;> linarith
  · have h2 : 2 * ((A % B : Nat) : ℚ) ≤ B := by
      have : 2 * (A % B) ≤ B := by omega
      exact_mod_cast this
    have : ((A % B : Nat) : ℚ) / B ≤ 1 / 2 := by rw [div_le_iff₀ hBq]; linarith
    have : (0 : ℚ) ≤ (A % B : Nat) / B := by positivity
    constructor <;> linarith

theorem scaled_ratio (num den : Nat) (E : Int) :
    ((if 0 ≤ E then num else num * 2 ^ (-E).toNat : Nat) : ℚ) /
        (if 0 ≤ E then den * 2 ^ E.toNat else den : Nat) = (num : ℚ) / den / 2 ^ E := by
  split
  next hE =>
    have : (2 : ℚ) ^ E = 2 ^ E.toNat := by
      rw [← zpow_natCast, Int.toNat_of_nonneg hE]
    push_cast
    rw [this, div_div]
  next hE =>
    have : (2 : ℚ) ^ E = (2 ^ (-E).toNat)⁻¹ := by
      rw [← zpow_natCast, Int.toNat_of_nonneg (by omega), zpow_neg, inv_inv]
    push_cast
    rw [this, div_inv_eq_mul, mul_div_right_comm]

theorem scaled_lt_iff {num den : Nat} (hden : 0 < den) (E : Int) (K : Nat) :
    (if 0 ≤ E then decide (num / (den * 2 ^ E.toNat) < K)
      else decide (num * 2 ^ (-E).toNat / den < K)) = decide ((num : ℚ) / den / 2 ^ E < K) := by
  have hr := scaled_ratio num den E
  split
  next hE =>
    rw [if_pos hE, if_pos hE] at hr
    have hB : 0 < den * 2 ^ E.toNat := by positivity
    rw [← hr, decide_eq_decide, Nat.div_lt_iff_lt_mul hB, div_lt_iff₀ (by exact_mod_cast hB)]
    norm_cast
  next hE =>
    rw [if_neg hE, if_neg hE] at hr
    rw [← hr, decide_eq_decide, Nat.div_lt_iff_lt_mul hden, div_lt_iff₀ (by exact_mod_cast hden)]
    norm_cast

theorem two_mul_scaled_le {q : ℚ} (hq : 0 < q) {E E' : Int} (h : E < E') :
    2 * (q / 2 ^ E') ≤ q / 2 ^ E := by
  have hpow : (2 : ℚ) ≤ 2 ^ (E' - E) := by
    simpa using zpow_le_zpow_right₀ (a := (2 : ℚ)) (by norm_num) (show (1 : Int) ≤ E' - E by omega)
  have heq : q / 2 ^ E = q / 2 ^ E' * 2 ^ (E' - E) := by
    rw [zpow_sub₀ two_ne_zero]; field_simp
  rw [heq]
  have : 0 < q / 2 ^ E' := by positivity
  nlinarith

theorem exponent_unique {q : ℚ} (hq : 0 < q) {E E' : Int} (h1 : 2 ^ 52 ≤ q / 2 ^ E)
    (h2 : q / 2 ^ E < 2 ^ 53) (h1' : 2 ^ 52 ≤ q / 2 ^ E') (h2' : q / 2 ^ E' < 2 ^ 53) :
    E = E' := by
  rcases lt_trichotomy E E' with h | h | h
  · have := two_mul_scaled_le hq h; linarith
  · exact h
  · have := two_mul_scaled_le hq h; linarith

theorem pow_log2_le {n : Nat} (hn : 0 < n) : (2 : ℚ) ^ n.log2 ≤ n := by
  exact_mod_cast Nat.log2_self_le hn.ne'

theorem lt_pow_log2 (n : Nat) : (n : ℚ) < 2 ^ (n.log2 + 1) := by
  exact_mod_cast Nat.lt_log2_self

theorem scaled_first_guess {num den : Nat} (hnum : 0 < num) (hden : 0 < den) :
    2 ^ 51 < (num : ℚ) / den / 2 ^ ((num.log2 : Int) - den.log2 - 52) ∧
      (num : ℚ) / den / 2 ^ ((num.log2 : Int) - den.log2 - 52) < 2 ^ 53 := by
  have hy : (num : ℚ) / den / 2 ^ ((num.log2 : Int) - den.log2 - 52) =
      num / 2 ^ num.log2 * (2 ^ den.log2 / den) * 2 ^ 52 := by
    rw [zpow_sub₀ two_ne_zero, zpow_sub₀ two_ne_zero]
    simp only [zpow_natCast]
    field_simp
  have h1 := pow_log2_le hnum
  have h2 := lt_pow_log2 num
  have h3 := pow_log2_le hden
  have h4 := lt_pow_log2 den
  -- `num / 2^log2 num` lies in `[1, 2)` and `2^log2 den / den` in `(1/2, 1]`
  have hu : 1 ≤ (num : ℚ) / 2 ^ num.log2 := by rw [le_div_iff₀ (by positivity)]; linarith
  have hu' : (num : ℚ) / 2 ^ num.log2 < 2 := by
    rw [div_lt_iff₀ (by positivity)]; rw [pow_succ] at h2; linarith
  have hden' : (0 : ℚ) < den := by exact_mod_cast hden
  have hw : (2 : ℚ) ^ den.log2 / den ≤ 1 := by rw [div_le_one hden']; exact h3
  have hw' : 1 / 2 < (2 : ℚ) ^ den.log2 / den := by
    rw [lt_div_iff₀ hden']; rw [pow_succ] at h4; linarith
  rw [hy]
  constructor
  · have : (1 : ℚ) / 2 < num / 2 ^ num.log2 * (2 ^ den.log2 / den) := by nlinarith
    norm_num at this ⊢
    nlinarith
  · have : (num : ℚ) / 2 ^ num.log2 * (2 ^ den.log2 / den) < 2 := by nlinarith
    norm_num at this ⊢
    nlinarith

theorem scaleExponent_eq {num den : Nat} (hden : 0 < den) :
    scaleExponent num den =
      max (if (num : ℚ) / den / 2 ^ ((num.log2 : Int) - den.log2 - 52) < 2 ^ 52
        then (num.log2 : Int) - den.log2 - 52 - 1 else (num.log2 : Int) - den.log2 - 52) (-1074) := by
  unfold scaleExponent
  simp only [Nat.pow_eq]
  rw [scaled_lt_iff hden]
  norm_num

theorem scaleExponent_eq_max {num den : Nat} (hnum : 0 < num) (hden : 0 < den) :
    ∃ e : Int, scaleExponent num den = max e (-1074) ∧
      2 ^ 52 ≤ (num : ℚ) / den / 2 ^ e ∧ (num : ℚ) / den / 2 ^ e < 2 ^ 53 := by
  obtain ⟨g1, g2⟩ := scaled_first_guess hnum hden
  rw [scaleExponent_eq hden]
  split
  next hl =>
    have hhalf : (num : ℚ) / den / 2 ^ ((num.log2 : Int) - den.log2 - 52 - 1) =
        2 * ((num : ℚ) / den / 2 ^ ((num.log2 : Int) - den.log2 - 52)) := by
      rw [zpow_sub_one₀ two_ne_zero]; field_simp
    refine ⟨_, rfl, ?_, ?_⟩ <;> rw [hhalf] <;> linarith
  next hl => exact ⟨_, rfl, not_lt.mp hl, g2⟩

theorem roundScaled_eq {num den r : Nat} (hden : 0 < den) (E : Int)
    (h : NearHalfEven r ((num : ℚ) / den / 2 ^ E)) :
    (if 0 ≤ E then roundHalfEven num (den * 2 ^ E.toNat)
      else roundHalfEven (num * 2 ^ (-E).toNat) den) = r := by
  have hr := scaled_ratio num den E
  split
  next hE =>
    rw [if_pos hE, if_pos hE] at hr
    exact roundHalfEven_of_near (by positivity) (hr ▸ h)
  next hE =>
    rw [if_neg hE, if_neg hE] at hr
    exact roundHalfEven_of_near hden (hr ▸ h)

variable {num den : Nat} {S : Int} {M : Nat}

theorem nearestBits_of_subnormal (neg : Bool) (hnum : 0 < num) (hden : 0 < den)
    (hS : scaleExponent num den = S) (hM : NearHalfEven M ((num : ℚ) / den / 2 ^ S))
    (hsub : M < 2 ^ 52) : nearestBits neg num den = (signBit neg + M).toUInt64 := by
  unfold nearestBits
  rw [if_neg (by simp; omega)]
  simp only [Nat.pow_eq]
  have h53 : (M == 2 ^ 53) = false := by simp; omega
  rw [hS, roundScaled_eq hden S hM]
  simp only [h53, Bool.false_eq_true, if_false]
  rw [if_pos hsub]

theorem nearestBits_of_normal (neg : Bool) (hnum : 0 < num) (hden : 0 < den)
    (hS : scaleExponent num den = S) (hM : NearHalfEven M ((num : ℚ) / den / 2 ^ S))
    (hlow : 2 ^ 52 ≤ M) (hhigh : M < 2 ^ 53) (hexp : S ≤ 971) :
    nearestBits neg num den =
      (signBit neg + (S + 1075).toNat * 2 ^ 52 + (M - 2 ^ 52)).toUInt64 := by
  unfold nearestBits
  rw [if_neg (by simp; omega)]
  simp only [Nat.pow_eq]
  have h53 : (M == 2 ^ 53) = false := by simp; omega
  rw [hS, roundScaled_eq hden S hM]
  simp only [h53, Bool.false_eq_true, if_false]
  rw [if_neg (by omega), if_neg (by omega)]

theorem nearestBits_of_carry (neg : Bool) (hnum : 0 < num) (hden : 0 < den)
    (hS : scaleExponent num den = S) (hM : NearHalfEven (2 ^ 53) ((num : ℚ) / den / 2 ^ S))
    (hexp : S ≤ 970) :
    nearestBits neg num den = (signBit neg + (S + 1076).toNat * 2 ^ 52).toUInt64 := by
  unfold nearestBits
  rw [if_neg (by simp; omega)]
  simp only [Nat.pow_eq]
  rw [hS, roundScaled_eq hden S hM]
  simp only [beq_self_eq_true, if_true]
  rw [if_neg (by omega), if_neg (by omega), Nat.sub_self, add_zero,
    show S + 1 + 1075 = S + 1076 by ring]

/-- The shape of a finite value: a significand below `2^53` at an exponent from `-1074` to
`971`, below `2^52` only at `-1074`; and the bits it was read from. -/
theorem shape_finite {x : Float} {neg : Bool} {m : Nat} {e : Int}
    (h : shape x = .finite neg m e) :
    m < 2 ^ 53 ∧ -1074 ≤ e ∧ e ≤ 971 ∧ (m < 2 ^ 52 → e = -1074) ∧
      x.toBits.toNat =
        signBit neg + if m < 2 ^ 52 then m else (e + 1075).toNat * 2 ^ 52 + (m - 2 ^ 52) := by
  have hb := UInt64.toNat_lt x.toBits
  unfold shape at h
  unfold signBit
  simp only [Nat.pow_eq, beq_iff_eq] at h ⊢
  generalize x.toBits.toNat = b at h hb ⊢
  split_ifs at h with h1 h2 h3 <;> cases h
  · refine ⟨by omega, le_refl _, by omega, fun _ => rfl, ?_⟩
    norm_num at hb ⊢
    split_ifs <;> omega
  · refine ⟨by omega, by omega, by omega, fun _ => by omega, ?_⟩
    norm_num at hb ⊢
    split_ifs <;> omega

end BuildGate.Binary64

namespace BuildGate.Decimal

theorem quarter_of_two_le {e : Int} (h : 2 ≤ e) (x : Nat) :
    ((x * 2 ^ (e - 2).toNat : Nat) : ℚ) / ((1 : Nat) : ℚ) = x / 4 * 2 ^ e := by
  have : (2 : ℚ) ^ e = 2 ^ (e - 2).toNat * 4 := by
    rw [← zpow_natCast, Int.toNat_of_nonneg (by omega), show (4 : ℚ) = 2 ^ (2 : Int) by norm_num,
      ← zpow_add₀ two_ne_zero]
    ring_nf
  rw [this]; push_cast; ring

theorem quarter_of_lt_two {e : Int} (h : e < 2) (x : Nat) :
    (x : ℚ) / ((2 ^ (2 - e).toNat : Nat) : ℚ) = x / 4 * 2 ^ e := by
  have : ((2 ^ (2 - e).toNat : Nat) : ℚ) = 4 / 2 ^ e := by
    push_cast
    rw [← zpow_natCast, Int.toNat_of_nonneg (by omega), zpow_sub₀ two_ne_zero]
    norm_num
  rw [this]; field_simp

/-- `q` lies in the interval, its ends counting when the interval is closed. -/
def Interval.Contains (i : Interval) (q : ℚ) : Prop :=
  if i.closed then (i.low : ℚ) / i.den ≤ q ∧ q ≤ (i.high : ℚ) / i.den
  else (i.low : ℚ) / i.den < q ∧ q < (i.high : ℚ) / i.den

namespace Interval

variable {m : Nat} {e : Int}

theorem of_bounds (m : Nat) (e : Int) :
    ((of m e).low : ℚ) / (of m e).den =
        ((4 * m - if m == Nat.pow 2 52 && e > -1074 then 1 else 2 : Nat) : ℚ) / 4 * 2 ^ e ∧
      ((of m e).mid : ℚ) / (of m e).den = ((4 * m : Nat) : ℚ) / 4 * 2 ^ e ∧
      ((of m e).high : ℚ) / (of m e).den = ((4 * m + 2 : Nat) : ℚ) / 4 * 2 ^ e ∧
      (of m e).closed = (m % 2 == 0) := by
  unfold of
  simp only [Nat.pow_eq]
  by_cases h : 2 ≤ e
  · rw [if_pos h]
    exact ⟨quarter_of_two_le h _, quarter_of_two_le h _, quarter_of_two_le h _, rfl⟩
  · rw [if_neg h]
    exact ⟨quarter_of_lt_two (by omega) _, quarter_of_lt_two (by omega) _,
      quarter_of_lt_two (by omega) _, rfl⟩

/-- The rounding interval of `m · 2^e` runs from `m - 1/4` below a power of two with a normal
exponent, from `m - 1/2` otherwise, to `m + 1/2`, in units of `2^e`, around `m`. -/
theorem of_scaled (hm : 0 < m) :
    ((of m e).low : ℚ) / (of m e).den =
        (m - if m = 2 ^ 52 ∧ -1074 < e then 1 / 4 else 1 / 2) * 2 ^ e ∧
      ((of m e).mid : ℚ) / (of m e).den = m * 2 ^ e ∧
      ((of m e).high : ℚ) / (of m e).den = (m + 1 / 2) * 2 ^ e := by
  obtain ⟨hlow, hmid, hhigh, -⟩ := of_bounds m e
  refine ⟨?_, ?_, ?_⟩
  · rw [hlow]
    by_cases h : m = 2 ^ 52 ∧ -1074 < e
    · rw [if_pos (by simp [h.1, h.2]), if_pos h, Nat.cast_sub (by omega)]; push_cast; ring
    · rw [if_neg (by simpa using h), if_neg h, Nat.cast_sub (by omega)]; push_cast; ring
  · rw [hmid]; push_cast; ring
  · rw [hhigh]; push_cast; ring

theorem of_closed : (of m e).closed = (m % 2 == 0) := (of_bounds m e).2.2.2

theorem of_den_pos : 0 < (of m e).den := by
  unfold of
  by_cases h : 2 ≤ e
  · rw [if_pos h]; exact Nat.one_pos
  · rw [if_neg h]; exact Nat.two_pow_pos _

/-- The rounding interval of a positive value holds only positive rationals. -/
theorem Contains.pos (hm : 0 < m) {q : ℚ} (h : (of m e).Contains q) : 0 < q := by
  obtain ⟨hlow, -, -⟩ := of_scaled (e := e) hm
  have hm1 : (1 : ℚ) ≤ m := by exact_mod_cast hm
  have hlow0 : 0 < ((of m e).low : ℚ) / (of m e).den := by
    rw [hlow]; apply mul_pos _ (by positivity); split_ifs <;> linarith
  unfold Contains at h
  split at h
  · exact lt_of_lt_of_le hlow0 h.1
  · exact lt_trans hlow0 h.1

theorem Contains.near (hm : 0 < m) {q : ℚ} (h : (of m e).Contains q) :
    Binary64.NearHalfEven m (q / 2 ^ e) ∧ (m = 2 ^ 52 → -1074 < e → (m : ℚ) - 1 / 4 ≤ q / 2 ^ e) := by
  obtain ⟨hlow, -, hhigh⟩ := of_scaled (e := e) hm
  have hpos : (0 : ℚ) < 2 ^ e := by positivity
  set gap : ℚ := if m = 2 ^ 52 ∧ -1074 < e then 1 / 4 else 1 / 2 with hgap
  have hgap2 : gap ≤ 1 / 2 := by rw [hgap]; split_ifs <;> norm_num
  have hgap4 : m = 2 ^ 52 → -1074 < e → gap = 1 / 4 := fun h1 h2 => by rw [hgap, if_pos ⟨h1, h2⟩]
  unfold Contains at h
  rw [hlow, hhigh, of_closed] at h
  split at h
  next heven =>
    have heven' : m % 2 = 0 := by simpa using heven
    obtain ⟨h1, h2⟩ := h
    rw [← le_div_iff₀ hpos] at h1
    rw [← div_le_iff₀ hpos] at h2
    refine ⟨⟨?_, ?_⟩, fun hm52 hexp => by rw [hgap4 hm52 hexp] at h1; linarith⟩
    · rcases (show (m : ℚ) - 1 / 2 ≤ q / 2 ^ e by linarith).lt_or_eq with h1 | h1
      · exact Or.inl h1
      · exact Or.inr ⟨h1, heven'⟩
    · rcases h2.lt_or_eq with h2 | h2
      · exact Or.inl h2
      · exact Or.inr ⟨h2, heven'⟩
  next hodd =>
    obtain ⟨h1, h2⟩ := h
    rw [← lt_div_iff₀ hpos] at h1
    rw [← div_lt_iff₀ hpos] at h2
    exact ⟨⟨Or.inl (by linarith), Or.inl h2⟩,
      fun hm52 hexp => by rw [hgap4 hm52 hexp] at h1; linarith⟩

end Interval

end BuildGate.Decimal

namespace BuildGate.Binary64

open Decimal in
/-- Every rational of the rounding interval of a finite nonzero binary64 value `±m · 2^e` is
read back as that value: `nearestBits` gives its bits. -/
theorem ofBits_nearestBits {x : Float} {neg : Bool} {m : Nat} {e : Int}
    (hx : shape x = .finite neg m e) (hm : 0 < m) {num den : Nat} (hden : 0 < den)
    (hq : (Interval.of m e).Contains ((num : ℚ) / den)) :
    Float.ofBits (nearestBits neg num den) = x := by
  obtain ⟨hm53, he1, he2, hsub, hbits⟩ := shape_finite hx
  obtain ⟨hnear, hquarter⟩ := hq.near hm
  set q : ℚ := (num : ℚ) / den with hqdef
  have hpos : (0 : ℚ) < 2 ^ e := by positivity
  have hm1 : (1 : ℚ) ≤ m := by exact_mod_cast hm
  have hm53q : (m : ℚ) + 1 ≤ 2 ^ 53 := by exact_mod_cast hm53
  have hy0 : (m : ℚ) - 1 / 2 ≤ q / 2 ^ e := by
    rcases hnear.1 with h | h
    · exact h.le
    · exact h.1.le
  have hy1 : q / 2 ^ e ≤ m + 1 / 2 := by
    rcases hnear.2 with h | h
    · exact h.le
    · exact h.1.le
  have hq0 : 0 < q := (div_pos_iff_of_pos_right hpos).mp (by linarith)
  have hnum : 0 < num := by
    rcases Nat.eq_zero_or_pos num with h | h
    · simp [hqdef, h] at hq0
    · exact h
  obtain ⟨E0, hE, hE1, hE2⟩ := scaleExponent_eq_max hnum hden
  rw [← hqdef] at hE1 hE2
  have hx' : x = Float.ofBits (signBit neg +
      if m < 2 ^ 52 then m else (e + 1075).toNat * 2 ^ 52 + (m - 2 ^ 52)).toUInt64 := by
    rw [Nat.toUInt64_eq, ← hbits, UInt64.ofNat_toNat, Float.ofBits_toBits]
  rw [hx']
  congr 1
  by_cases hy : 2 ^ 52 ≤ q / 2 ^ e
  · -- a normal value read at its own exponent
    have hm52 : 2 ^ 52 ≤ m := by
      have : (2 : ℚ) ^ 52 < m + 1 := by linarith
      exact Nat.lt_succ_iff.mp (by exact_mod_cast this)
    have hS : scaleExponent num den = e := by
      rw [hE, exponent_unique hq0 hE1 hE2 hy (by linarith)]
      exact max_eq_left he1
    rw [nearestBits_of_normal neg hnum hden hS hnear hm52 hm53 he2, if_neg (by omega), add_assoc]
  · push Not at hy
    have hE0 : E0 < e := by
      by_contra hc
      rcases (not_lt.mp hc).lt_or_eq with hlt | heq
      · have := two_mul_scaled_le hq0 hlt; linarith
      · rw [← heq] at hE1; linarith
    by_cases hsm : m < 2 ^ 52
    · -- a subnormal value
      have hS : scaleExponent num den = e := by
        rw [hE, hsub hsm]; exact max_eq_right (by omega)
      rw [nearestBits_of_subnormal neg hnum hden hS hnear hsm, if_pos hsm]
    · -- `m = 2^52`, just above the value below it
      have hm52 : m = 2 ^ 52 := by
        have : (m : ℚ) < 2 ^ 52 + 1 := by linarith
        have : m < 2 ^ 52 + 1 := by exact_mod_cast this
        omega
      by_cases hlow : e = -1074
      · -- at the least exponent the gap below is a whole unit
        have hS : scaleExponent num den = e := by
          rw [hE, hlow]; exact max_eq_right (by omega)
        rw [nearestBits_of_normal neg hnum hden hS hnear (by omega) hm53 he2, if_neg hsm,
          add_assoc]
      · -- above it the gap below is half as wide: the value is read one exponent lower and
        have hq4 := hquarter hm52 (by omega)
        rw [hm52] at hq4
        push_cast at hq4
        have h2y : q / 2 ^ (e - 1) = 2 * (q / 2 ^ e) := by
          rw [zpow_sub_one₀ two_ne_zero]; field_simp
        have hS : scaleExponent num den = e - 1 := by
          rw [hE, exponent_unique hq0 hE1 hE2 (by rw [h2y]; linarith) (by rw [h2y]; linarith)]
          exact max_eq_left (by omega)
        have hM : NearHalfEven (2 ^ 53) (q / 2 ^ (e - 1)) := by
          rw [h2y]
          refine ⟨?_, Or.inl (by push_cast; linarith)⟩
          rcases (show (2 : ℚ) ^ 53 - 1 / 2 ≤ 2 * (q / 2 ^ e) by linarith).lt_or_eq with h | h
          · left; push_cast; exact h
          · right; push_cast; exact ⟨h, by norm_num⟩
        rw [nearestBits_of_carry neg hnum hden hS hM (by omega), if_neg hsm, hm52, Nat.sub_self,
          add_zero, show e - 1 + 1076 = e + 1075 by ring]

end BuildGate.Binary64

namespace BuildGate.Binary64

open Float.Model.UnpackedFloat in
theorem toBits_ofBits {b : UInt64}
    (h : ¬((b.toNat / 2 ^ 52) % 2048 = 2047 ∧ b.toNat % 2 ^ 52 ≠ 0)) :
    (Float.ofBits b).toBits = b := by
  apply UInt64.toBitVec_inj.mp
  change (unpack Float.Model.Format.binary64 b.toBitVec).pack Float.Model.Format.binary64 =
    b.toBitVec
  rw [pack_unpack, if_neg]
  simp only [isNaNBits, unpackExponent_def, unpackMantissa_def, decide_eq_true_eq]
  rintro ⟨he, hm⟩
  apply h
  have he' := congrArg BitVec.toNat he
  have hm' := mt BitVec.eq_of_toNat_eq hm
  simp [BitVec.extractLsb'_toNat, Nat.shiftRight_eq_div_pow] at he' hm'
  exact ⟨by omega, by omega⟩

theorem shape_ofBits_ne_nan (neg : Bool) {k : Nat} (hk : k ≤ 2047 * 2 ^ 52) :
    shape (Float.ofBits (signBit neg + k).toUInt64) ≠ .nan := by
  have hsign : signBit neg % 2 ^ 64 = signBit neg ∧ signBit neg % 2 ^ 52 = 0 ∧
      signBit neg / 2 ^ 52 % 2048 = 0 := by
    cases neg <;> simp [signBit]
  have hnat : (signBit neg + k).toUInt64.toNat = signBit neg + k := by
    rw [Nat.toUInt64_eq, UInt64.toNat_ofNat']
    omega
  have hfield : (signBit neg + k) / 2 ^ 52 % 2048 = k / 2 ^ 52 := by omega
  have hfrac : (signBit neg + k) % 2 ^ 52 = k % 2 ^ 52 := by omega
  have hbits := toBits_ofBits (b := (signBit neg + k).toUInt64) (by rw [hnat, hfield]; omega)
  unfold shape
  simp only [hbits, hnat, Nat.pow_eq, beq_iff_eq]
  rw [hfield, hfrac]
  split_ifs with h1 h2 <;> first | omega | simp

theorem roundScaled_le {num den : Nat} (hnum : 0 < num) (hden : 0 < den) :
    (if 0 ≤ scaleExponent num den then roundHalfEven num (den * 2 ^ (scaleExponent num den).toNat)
      else roundHalfEven (num * 2 ^ (-scaleExponent num den).toNat) den) ≤ 2 ^ 53 := by
  obtain ⟨E, hE, -, hlt⟩ := scaleExponent_eq_max hnum hden
  generalize scaleExponent num den = S at hE ⊢
  have hq : (0 : ℚ) < num / den := by positivity
  have hle : (num : ℚ) / den / 2 ^ S ≤ num / den / 2 ^ E :=
    div_le_div_of_nonneg_left hq.le (by positivity)
      (zpow_le_zpow_right₀ (by norm_num) (by rw [hE]; exact le_max_left _ _))
  have hround : ∀ A B : Nat, 0 < B → (A : ℚ) / B = num / den / 2 ^ S →
      roundHalfEven A B ≤ 2 ^ 53 := by
    intro A B hB hAB
    have hhalf := abs_roundHalfEven_sub_le (A := A) hB
    rw [hAB, abs_le] at hhalf
    have : (roundHalfEven A B : ℚ) < 2 ^ 53 + 1 := by linarith
    exact Nat.lt_succ_iff.mp (by exact_mod_cast this)
  have hr := scaled_ratio num den S
  split
  next hS =>
    rw [if_pos hS, if_pos hS] at hr
    exact hround _ _ (by positivity) hr
  next hS =>
    rw [if_neg hS, if_neg hS] at hr
    exact hround _ _ hden hr

theorem nearestBits_eq_signBit_add (neg : Bool) (num den : Nat) :
    ∃ k ≤ 2047 * 2 ^ 52, nearestBits neg num den = (signBit neg + k).toUInt64 := by
  unfold nearestBits
  split
  · exact ⟨0, by norm_num, rfl⟩
  next h0 =>
    simp only [Bool.or_eq_true, beq_iff_eq, not_or] at h0
    have hM := roundScaled_le (Nat.pos_of_ne_zero h0.1) (Nat.pos_of_ne_zero h0.2)
    simp only [Nat.pow_eq]
    generalize (if 0 ≤ scaleExponent num den then
        roundHalfEven num (den * 2 ^ (scaleExponent num den).toNat)
      else roundHalfEven (num * 2 ^ (-scaleExponent num den).toNat) den) = M at hM ⊢
    generalize scaleExponent num den = S
    split
    next hM53 =>
      -- a significand rounded up to `2^53` carries into the exponent
      dsimp only
      split_ifs with h1 h2
      · omega
      · exact ⟨2047 * 2 ^ 52, le_refl _, rfl⟩
      · exact ⟨(S + 1 + 1075).toNat * 2 ^ 52 + (2 ^ 52 - 2 ^ 52), by omega, by rw [Nat.add_assoc]⟩
    next hM53 =>
      simp only [beq_iff_eq] at hM53
      dsimp only
      split_ifs with h1 h2
      · exact ⟨M, by omega, rfl⟩
      · exact ⟨2047 * 2 ^ 52, le_refl _, rfl⟩
      · exact ⟨(S + 1075).toNat * 2 ^ 52 + (M - 2 ^ 52), by omega, by rw [Nat.add_assoc]⟩

theorem shape_nearestBits_ne_nan (neg : Bool) (num den : Nat) :
    shape (Float.ofBits (nearestBits neg num den)) ≠ .nan := by
  obtain ⟨k, hk, hbits⟩ := nearestBits_eq_signBit_add neg num den
  rw [hbits]
  exact shape_ofBits_ne_nan neg hk

theorem shape_ofDecimal_ne_nan (neg : Bool) (digits : Nat) (exp10 : Int) :
    shape (ofDecimal neg digits exp10) ≠ .nan := by
  have hzero : shape (Float.ofBits (signBit neg).toUInt64) ≠ .nan := by
    simpa using shape_ofBits_ne_nan neg (Nat.zero_le (2047 * 2 ^ 52))
  unfold ofDecimal
  simp only [Nat.pow_eq]
  split_ifs
  · exact hzero
  · exact shape_ofBits_ne_nan neg (le_refl _)
  · exact hzero
  · exact shape_nearestBits_ne_nan _ _ _
  · exact shape_nearestBits_ne_nan _ _ _

theorem shape_ofInt_ne_nan (n : Int) : shape (ofInt n) ≠ .nan :=
  shape_ofDecimal_ne_nan _ _ _

end BuildGate.Binary64

namespace BuildGate.Decimal

/-- Rounding to decimal places gives no NaN from a value that is no NaN. -/
theorem shape_roundPlaces_ne_nan (k : Nat) {x : Float} (hx : Binary64.shape x ≠ .nan) :
    Binary64.shape (roundPlaces k x) ≠ .nan := by
  unfold roundPlaces
  split
  · exact hx
  · exact hx
  · exact Binary64.shape_nearestBits_ne_nan _ _ _

end BuildGate.Decimal
