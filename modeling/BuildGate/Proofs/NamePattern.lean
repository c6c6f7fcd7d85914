import BuildGate.Name

namespace BuildGate.Pattern

variable {ranges : List (Char × Char)} {k : Nat → List Char → Bool}

@[simp] theorem run_start (pos : Nat) (rest : List Char) :
    start.run pos rest k = (pos == 0 && k pos rest) := rfl

@[simp] theorem run_stop (pos : Nat) (rest : List Char) :
    stop.run pos rest k = ((rest.isEmpty || rest == ['\n']) && k pos rest) := rfl

@[simp] theorem run_oneOf_nil (pos : Nat) : (oneOf ranges).run pos [] k = false := rfl

@[simp] theorem run_oneOf_cons (pos : Nat) (c : Char) (cs : List Char) :
    (oneOf ranges).run pos (c :: cs) k = (inRanges ranges c && k (pos + 1) cs) := rfl

@[simp] theorem run_seq (p q : Pattern) (pos : Nat) (rest : List Char) :
    (seq p q).run pos rest k = p.run pos rest fun pos' rest' => q.run pos' rest' k := rfl

@[simp] theorem run_rep (p : Pattern) (lo hi pos : Nat) (rest : List Char) :
    (rep p lo hi).run pos rest k = repeatRun p.run lo hi pos rest k := rfl

theorem repeatRun_oneOf_iff {lo hi pos : Nat} {rest : List Char} :
    repeatRun (oneOf ranges).run lo hi pos rest k = true ↔
      ∃ n, lo ≤ n ∧ n ≤ hi ∧ n ≤ rest.length ∧ (rest.take n).all (inRanges ranges) = true ∧
        k (pos + n) (rest.drop n) = true := by
  induction hi generalizing lo pos rest with
  | zero =>
    simp only [repeatRun, Bool.and_eq_true, beq_iff_eq]
    constructor
    · rintro ⟨rfl, hk⟩
      exact ⟨0, Nat.le_refl 0, Nat.le_refl 0, Nat.zero_le _, by simp, by simpa using hk⟩
    · rintro ⟨n, hlo, hn, -, -, hk⟩
      obtain rfl : n = 0 := by omega
      exact ⟨by omega, by simpa using hk⟩
  | succ hi ih =>
    cases rest with
    | nil =>
      simp only [repeatRun, run_oneOf_nil, Bool.false_or, Bool.and_eq_true, beq_iff_eq]
      constructor
      · rintro ⟨rfl, hk⟩
        exact ⟨0, Nat.le_refl 0, Nat.zero_le _, Nat.le_refl 0, by simp, by simpa using hk⟩
      · rintro ⟨n, hlo, -, hn, -, hk⟩
        obtain rfl : n = 0 := by simpa using hn
        exact ⟨by omega, by simpa using hk⟩
    | cons c cs =>
      simp only [repeatRun, run_oneOf_cons, Bool.or_eq_true, Bool.and_eq_true, beq_iff_eq, ih]
      constructor
      · rintro (⟨hc, n, hlo, hn, hlen, hall, hk⟩ | ⟨rfl, hk⟩)
        · refine ⟨n + 1, by omega, by omega, by simpa using hlen, by simp [hc, hall], ?_⟩
          simpa [Nat.add_assoc, Nat.add_comm 1 n] using hk
        · exact ⟨0, Nat.le_refl 0, Nat.zero_le _, Nat.zero_le _, by simp, by simpa using hk⟩
      · rintro ⟨n, hlo, hn, hlen, hall, hk⟩
        cases n with
        | zero =>
          right
          exact ⟨by omega, by simpa using hk⟩
        | succ n =>
          simp only [List.take_succ_cons, List.all_cons, Bool.and_eq_true] at hall
          left
          refine ⟨hall.1, n, by omega, by omega, by simpa using hlen, hall.2, ?_⟩
          simpa [Nat.add_assoc, Nat.add_comm 1 n] using hk

end BuildGate.Pattern

namespace BuildGate

open Pattern

theorem between_self (a c : Char) : (decide (a ≤ c) && decide (c ≤ a)) = (c == a) := by
  rw [Bool.eq_iff_iff]
  simp only [Bool.and_eq_true, decide_eq_true_eq, beq_iff_eq]
  constructor
  · rintro ⟨h1, h2⟩
    exact Char.le_antisymm h2 h1
  · rintro rfl
    exact ⟨Char.le_refl _, Char.le_refl _⟩

theorem inRanges_alnumClass (c : Char) : inRanges alnumClass c = isNameStart c := by
  simp only [inRanges, alnumClass, isNameStart, List.any_cons, List.any_nil, Bool.or_false]
  cases ('A' ≤ c && c ≤ 'Z') <;> cases ('a' ≤ c && c ≤ 'z') <;> rfl

theorem inRanges_nameClass (c : Char) : inRanges nameClass c = isNameChar c := by
  have h := inRanges_alnumClass c
  simp only [inRanges, alnumClass, List.any_cons, List.any_nil, Bool.or_false] at h
  simp only [inRanges, nameClass, alnumClass, List.cons_append, List.nil_append, List.any_cons,
    List.any_nil, Bool.or_false, between_self, isNameChar, ← h, Bool.or_assoc]

/-- A text fully matches the name pattern exactly when it is an ASCII letter or digit followed by
at most 63 name characters. The anchor `$` also stands before a line break that ends the text,
but a full match has to reach the end, so a text ending in a line break is refused. -/
theorem fullmatch_namePattern_iff (s : String) :
    namePattern.fullmatch s = true ↔ ∃ c cs, s.toList = c :: cs ∧ isNameStart c = true ∧
      cs.length ≤ 63 ∧ cs.all isNameChar = true := by
  have hclass : inRanges nameClass = isNameChar := funext inRanges_nameClass
  unfold fullmatch namePattern
  cases hs : s.toList with
  | nil => simp
  | cons c cs =>
    simp only [run_seq, run_start, run_oneOf_cons, run_rep, run_stop, beq_self_eq_true,
      Bool.true_and, Bool.and_eq_true, repeatRun_oneOf_iff, List.cons.injEq, inRanges_alnumClass,
      hclass]
    constructor
    · rintro ⟨hc, n, -, hn, hlen, hall, -, hend⟩
      obtain rfl : n = cs.length := by
        simp only [List.isEmpty_iff, List.drop_eq_nil_iff] at hend
        omega
      rw [List.take_length] at hall
      exact ⟨c, cs, ⟨rfl, rfl⟩, hc, hn, hall⟩
    · rintro ⟨_, _, ⟨rfl, rfl⟩, hc, hlen, hall⟩
      refine ⟨hc, cs.length, Nat.zero_le _, hlen, Nat.le_refl _, by rwa [List.take_length], ?_⟩
      simp

end BuildGate
