import BuildGate.Proofs.Containment

namespace BuildGate.Fs.Tree

variable {t : Tree}

def AllDots (cs : List String) : Prop := (cs.all fun r => r == "" || r == ".") = true

@[simp] theorem allDots_append {a b : List String} : AllDots (a ++ b) ↔ AllDots a ∧ AllDots b := by
  unfold AllDots
  rw [List.all_append, Bool.and_eq_true]

/-- A step of a followed walk over `c` from `cur` that goes on, the limit on links aside: the links
it follows (none or one), where it stands next, and what it walks before the rest. -/
def advance (t : Tree) (cur : List String) (c : String) :
    Option (Nat × List String × List String) :=
  if c == "" || c == "." then some (0, cur, [])
  else if c == ".." then some (0, cur.dropLast, [])
  else if c.utf8ByteSize > maxName then none
  else
    match t.entryAt (cur ++ [c]) with
    | some .dir => some (0, cur ++ [c], [])
    | some (.link target) =>
      some (1, if target.startsWith "/" then [] else cur, Path.components target)
    | _ => none

theorem walk_advance {cur cur₁ pre : List String} {c : String} {e : Nat}
    (h : t.advance cur c = some (e, cur₁, pre)) {fuel k : Nat} (hk : k ≤ maxLinks)
    (rest : List String) :
    t.walk true (fuel + 1) k cur (c :: rest) =
      if k + e ≤ maxLinks then t.walk true fuel (k + e) cur₁ (pre ++ rest) else .error 40 := by
  unfold advance at h
  by_cases h1 : (c == "" || c == ".") = true
  · rw [if_pos h1, Option.some.injEq, Prod.mk.injEq, Prod.mk.injEq] at h
    obtain ⟨rfl, rfl, rfl⟩ := h
    rw [walk.eq_3, if_pos h1, Nat.add_zero, List.nil_append, if_pos hk]
  rw [if_neg h1] at h
  by_cases h2 : (c == "..") = true
  · rw [if_pos h2, Option.some.injEq, Prod.mk.injEq, Prod.mk.injEq] at h
    obtain ⟨rfl, rfl, rfl⟩ := h
    rw [walk.eq_3, if_neg h1, if_pos h2, Nat.add_zero, List.nil_append, if_pos hk]
  rw [if_neg h2] at h
  by_cases h3 : c.utf8ByteSize > maxName
  · rw [if_pos h3] at h
    cases h
  rw [if_neg h3] at h
  rw [walk_cons_plain ⟨h1, h2, h3⟩]
  cases he : t.entryAt (cur ++ [c]) with
  | none => rw [he] at h; cases h
  | some en =>
    rw [he] at h
    cases en with
    | dir =>
      rw [Option.some.injEq, Prod.mk.injEq, Prod.mk.injEq] at h
      obtain ⟨rfl, rfl, rfl⟩ := h
      dsimp only
      rw [Nat.add_zero, List.nil_append, if_pos hk]
    | file b m => cases h
    | link target =>
      rw [Option.some.injEq, Prod.mk.injEq, Prod.mk.injEq] at h
      obtain ⟨rfl, rfl, rfl⟩ := h
      dsimp only
      rw [if_neg (by simp)]
      by_cases hlim : k ≥ maxLinks
      · rw [if_pos hlim, if_neg (show ¬k + 1 ≤ maxLinks by omega)]
      · rw [if_neg hlim, if_pos (show k + 1 ≤ maxLinks by omega)]
        by_cases habs : target.startsWith "/" = true
        · rw [if_pos habs, if_pos habs]
        · rw [if_neg habs, if_neg habs]

/-- Steps of a followed walk from `cur` with `todo` to walk to `cur'` with `todo'` left, following
`d` links in `n` steps. -/
inductive Seg (t : Tree) :
    List String → List String → List String → List String → Nat → Nat → Prop
  | refl (cur todo : List String) : Seg t cur todo cur todo 0 0
  | step {cur c rest cur₁ pre cur' todo' e d n} : t.advance cur c = some (e, cur₁, pre) →
      Seg t cur₁ (pre ++ rest) cur' todo' d n → Seg t cur (c :: rest) cur' todo' (e + d) (n + 1)

namespace Seg

variable {cur cur' cur'' todo todo' todo'' : List String} {d d' n n' : Nat}

theorem single {c : String} {e : Nat} {cur₁ pre : List String}
    (h : t.advance cur c = some (e, cur₁, pre)) (rest : List String) :
    Seg t cur (c :: rest) cur₁ (pre ++ rest) e 1 :=
  .step h (.refl _ _)

theorem trans (h : Seg t cur todo cur' todo' d n) (h' : Seg t cur' todo' cur'' todo'' d' n') :
    Seg t cur todo cur'' todo'' (d + d') (n + n') := by
  induction h with
  | refl => simpa using h'
  | step ha _ ih =>
    rw [Nat.add_assoc, Nat.add_right_comm]
    exact .step ha (ih h')

/-- Steps never look past their components: below them any rest may follow. -/
theorem append (h : Seg t cur todo cur' todo' d n) (S : List String) :
    Seg t cur (todo ++ S) cur' (todo' ++ S) d n := by
  induction h with
  | refl => exact .refl _ _
  | step ha _ ih =>
    rw [List.cons_append]
    exact .step ha (by simpa using ih)

theorem eq_of_zero (h : Seg t cur todo cur' todo' d 0) : cur' = cur ∧ todo' = todo ∧ d = 0 := by
  cases h
  exact ⟨rfl, rfl, rfl⟩

theorem walk_eq (h : Seg t cur todo cur' todo' d n) {m k : Nat} (hk : k ≤ maxLinks) :
    t.walk true m k cur todo =
      if n ≤ m ∧ k + d ≤ maxLinks then t.walk true (m - n) (k + d) cur' todo' else .error 40 := by
  induction h generalizing m k with
  | refl => simp [hk]
  | @step cur c rest cur₁ pre cur' todo' e d n ha _ ih =>
    cases m with
    | zero => simp [walk.eq_1]
    | succ m =>
      rw [walk_advance ha hk]
      by_cases hke : k + e ≤ maxLinks
      · rw [if_pos hke, ih hke]
        by_cases hn : n ≤ m ∧ k + e + d ≤ maxLinks
        · rw [if_pos hn, if_pos ⟨by omega, by omega⟩, Nat.add_assoc, Nat.add_sub_add_right]
        · rw [if_neg hn, if_neg (by omega)]
      · rw [if_neg hke, if_neg (by omega)]

theorem walk_ok (h : Seg t cur todo cur' todo' d n) {m k : Nat} {r : List String × Option Entry}
    (hk : k ≤ maxLinks) (hwalk : t.walk true m k cur todo = .ok r) :
    n ≤ m ∧ k + d ≤ maxLinks ∧ t.walk true (m - n) (k + d) cur' todo' = .ok r := by
  rw [h.walk_eq hk] at hwalk
  split at hwalk
  · exact ⟨‹_ ∧ _›.1, ‹_ ∧ _›.2, hwalk⟩
  · cases hwalk

end Seg

theorem walk_ne_ok_of_cycle {cur Z : List String} {a : String} {d n : Nat}
    (h : Seg t cur [a] cur (a :: Z) d n) (hd : 0 < d) :
    ∀ (m k : Nat) (S : List String) (r : List String × Option Entry), k ≤ maxLinks →
      t.walk true m k cur (a :: S) ≠ .ok r := by
  intro m
  induction m using Nat.strongRecOn with
  | ind m ih =>
    intro k S r hk hwalk
    have hn : 0 < n := by
      rcases Nat.eq_zero_or_pos n with rfl | hn
      · exact absurd (h.eq_of_zero).2.2 (by omega)
      · exact hn
    have hround := (h.append S).walk_eq hk (m := m)
    rw [List.singleton_append, hwalk] at hround
    split at hround
    · rename_i hcond
      exact ih (m - n) (by omega) (k + d) (Z ++ S) r hcond.2 (by simpa using hround.symm)
    · cases hround

/-- Fuel enough for a walk with `todo` to walk after following `k` links: a step for each
component, and for each link it may still follow, one for each component of the longest target. -/
def Fueled (t : Tree) (w k : Nat) (todo : List String) : Prop :=
  todo.length + 1 + (maxLinks - k) * longestLink t.entries ≤ w

theorem le_foldl_longest (l : List (List String × Entry)) (m : Nat) :
    m ≤ l.foldl (fun m p =>
      match p.2 with
      | .link target => max m (target.toList.splitOn '/').length
      | _ => m) m := by
  induction l generalizing m with
  | nil => exact Nat.le_refl m
  | cons p l ih =>
    obtain ⟨cs, e⟩ := p
    cases e with
    | link target => exact Nat.le_trans (Nat.le_max_left _ _) (ih _)
    | dir => exact ih m
    | file b md => exact ih m

theorem splitOn_le_foldl_longest {l : List (List String × Entry)} {cs : List String}
    {target : String} (h : (cs, Entry.link target) ∈ l) (m : Nat) :
    (target.toList.splitOn '/').length ≤ l.foldl (fun m p =>
      match p.2 with
      | .link target => max m (target.toList.splitOn '/').length
      | _ => m) m := by
  induction l generalizing m with
  | nil => cases h
  | cons p l ih =>
    rcases List.mem_cons.mp h with rfl | h
    · exact Nat.le_trans (Nat.le_max_right _ _) (le_foldl_longest l _)
    · exact ih h _

theorem length_components_le {cs : List String} {target : String}
    (h : t.entryAt cs = some (.link target)) :
    (Path.components target).length ≤ longestLink t.entries := by
  have hcs : cs ≠ [] := by
    rintro rfl
    simp [entryAt] at h
  have hsplit : (Path.components target).length ≤ (target.toList.splitOn '/').length := by
    unfold Path.components
    exact Nat.le_trans (List.length_filter_le _ _) (Nat.le_of_eq (List.length_map _))
  exact Nat.le_trans hsplit (splitOn_le_foldl_longest (mem_entries_of_entryAt h hcs) 0)

theorem length_le_of_advance {cur cur₁ pre : List String} {c : String} {e : Nat}
    (h : t.advance cur c = some (e, cur₁, pre)) : pre.length ≤ e * longestLink t.entries := by
  unfold advance at h
  split at h
  · cases h; simp
  split at h
  · cases h; simp
  split at h
  · cases h
  split at h
  · cases h; simp
  · rename_i target he
    rw [Option.some.injEq, Prod.mk.injEq, Prod.mk.injEq] at h
    obtain ⟨rfl, -, rfl⟩ := h
    simpa using length_components_le he
  · cases h

namespace Fueled

variable {w k : Nat}

theorem advance {cur cur₁ pre rest : List String} {c : String} {e : Nat}
    (h : t.advance cur c = some (e, cur₁, pre)) (hke : k + e ≤ maxLinks)
    (hf : Fueled t (w + 1) k (c :: rest)) : Fueled t w (k + e) (pre ++ rest) := by
  unfold Fueled at hf ⊢
  have hpre := length_le_of_advance h
  have hsplit : (maxLinks - k) * longestLink t.entries =
      (maxLinks - (k + e)) * longestLink t.entries + e * longestLink t.entries := by
    rw [← Nat.add_mul]
    congr 1
    omega
  simp only [List.length_append, List.length_cons] at hf ⊢
  omega

theorem of_seg {cur cur' todo todo' : List String} {d n : Nat}
    (h : Seg t cur todo cur' todo' d n) (hkd : k + d ≤ maxLinks) (hf : Fueled t (w + n) k todo) :
    Fueled t w (k + d) todo' := by
  induction h generalizing k w with
  | refl => simpa using hf
  | @step cur c rest cur₁ pre cur' todo' e d n ha _ ih =>
    rw [show w + (n + 1) = (w + n) + 1 by omega] at hf
    have := ih (by omega) (hf.advance ha (by omega))
    rwa [Nat.add_assoc] at this

theorem length_lt (hf : Fueled t w k todo) : todo.length < w := by
  unfold Fueled at hf
  omega

end Fueled

/-- A walk over `c` from `cur` ends there: `c` names an entry, and there is nothing or a file. -/
def Ends (t : Tree) (cur : List String) (c : String) : Prop :=
  Plain c ∧ (t.entryAt (cur ++ [c]) = none ∨ ∃ b m, t.entryAt (cur ++ [c]) = some (.file b m))

theorem walk_of_ends {cur rest : List String} {c : String} {fuel k : Nat}
    {r : List String × Option Entry} (h : Ends t cur c)
    (hwalk : t.walk true (fuel + 1) k cur (c :: rest) = .ok r) :
    AllDots rest ∧ r = (cur ++ [c], t.entryAt (cur ++ [c])) := by
  rw [walk_cons_plain h.1] at hwalk
  rcases h.2 with he | ⟨b, m, he⟩ <;> rw [he] at hwalk ⊢ <;> dsimp only at hwalk <;>
    split at hwalk
  · exact ⟨‹_›, (Except.ok.inj hwalk).symm⟩
  · cases hwalk
  · exact ⟨‹_›, (Except.ok.inj hwalk).symm⟩
  · cases hwalk

def Lands (t : Tree) (path rest Pend R : List String) : Prop :=
  (∃ d n, Seg t path rest R [] d n) ∨
    ∃ cur c rest' d n, Seg t path rest cur (c :: rest') d n ∧ Ends t cur c ∧
      AllDots (rest' ++ Pend) ∧ R = cur ++ [c]

theorem Lands.nil_pend {path rest Pend R : List String} (hl : Lands t path rest Pend R) :
    Lands t path rest [] R := by
  rcases hl with hs | ⟨cur, c, rest', d, n, hs, he, hdots, rfl⟩
  · exact .inl hs
  · exact .inr ⟨cur, c, rest', d, n, hs, he, by simpa using (allDots_append.mp hdots).1, rfl⟩

theorem Lands.of_seg {path path₁ rest rest₁ Pend R : List String} {d n : Nat}
    (h : Seg t path rest path₁ rest₁ d n) (hl : Lands t path₁ rest₁ Pend R) :
    Lands t path rest Pend R := by
  rcases hl with ⟨d', n', hs⟩ | ⟨cur, c, rest', d', n', hs, he, hdots, rfl⟩
  · exact .inl ⟨_, _, h.trans hs⟩
  · exact .inr ⟨cur, c, rest', _, _, h.trans hs, he, hdots, rfl⟩

theorem joinReal_dots {f : Nat} {seen : List (List String × Option (List String))}
    {path rest : List String} (h : AllDots rest) (hf : rest.length < f) :
    t.joinReal f seen path rest = (path, true, seen) := by
  induction rest generalizing f with
  | nil =>
    obtain ⟨f, rfl⟩ : ∃ f', f = f' + 1 := ⟨f - 1, by simp at hf; omega⟩
    exact joinReal.eq_2 ..
  | cons c rest ih =>
    obtain ⟨f, rfl⟩ : ∃ f', f = f' + 1 := ⟨f - 1, by simp at hf; omega⟩
    unfold AllDots at h
    rw [List.all_cons, Bool.and_eq_true] at h
    rw [joinReal.eq_3, if_pos h.1]
    exact ih h.2 (by simp at hf; omega)

theorem walk_pos {w k : Nat} {cur todo : List String} {r : List String × Option Entry}
    (h : t.walk true w k cur todo = .ok r) : 0 < w := by
  cases w with
  | zero => rw [walk.eq_1] at h; cases h
  | succ w => exact Nat.succ_pos w

section Steps

variable {cur : List String} {c : String}

theorem advance_dot (h1 : (c == "" || c == ".") = true) : t.advance cur c = some (0, cur, []) := by
  rw [advance, if_pos h1]

theorem advance_up (h1 : ¬(c == "" || c == ".") = true) (h2 : (c == "..") = true) :
    t.advance cur c = some (0, cur.dropLast, []) := by
  rw [advance, if_neg h1, if_pos h2]

theorem advance_dir (hc : Plain c) (he : t.entryAt (cur ++ [c]) = some .dir) :
    t.advance cur c = some (0, cur ++ [c], []) := by
  rw [advance, if_neg hc.1, if_neg hc.2.1, if_neg hc.2.2, he]

theorem advance_link {target : String} (hc : Plain c)
    (he : t.entryAt (cur ++ [c]) = some (.link target)) :
    t.advance cur c =
      some (1, if target.startsWith "/" then [] else cur, Path.components target) := by
  rw [advance, if_neg hc.1, if_neg hc.2.1, if_neg hc.2.2, he]

end Steps

section Seen

variable {seen : List (List String × Option (List String))} {K K' : List String}

theorem lookup_append_of_none {v : Option (List String)} (hK' : seen.lookup K' = none) :
    (seen ++ [(K', v)]).lookup K = if K = K' then some v else seen.lookup K := by
  induction seen with
  | nil =>
    rw [List.nil_append, List.lookup_cons]
    by_cases h : K = K'
    · subst h
      rw [beq_self_eq_true, if_pos rfl]
    · rw [beq_eq_false_iff_ne.mpr h, if_neg h]
  | cons p seen ih =>
    obtain ⟨k, b⟩ := p
    have hk : K' ≠ k := by
      rintro rfl
      rw [List.lookup_cons_self] at hK'
      cases hK'
    rw [List.lookup_cons, beq_eq_false_iff_ne.mpr hk] at hK'
    rw [List.cons_append, List.lookup_cons, List.lookup_cons]
    by_cases h : K = k
    · subst h
      rw [beq_self_eq_true, if_neg (Ne.symm hk)]
    · rw [beq_eq_false_iff_ne.mpr h]
      exact ih hK'

theorem lookup_map_update {R : List String} :
    (seen.map fun p => if p.1 == K' then (p.1, some R) else p).lookup K =
      if K = K' then (seen.lookup K).map (fun _ => some R) else seen.lookup K := by
  induction seen with
  | nil => split <;> rfl
  | cons p seen ih =>
    obtain ⟨k, b⟩ := p
    rw [List.map_cons]
    by_cases hk : k = K'
    · subst hk
      rw [beq_self_eq_true, if_pos rfl, List.lookup_cons, List.lookup_cons]
      by_cases h : K = k
      · subst h
        rw [beq_self_eq_true, if_pos rfl]
        rfl
      · rw [beq_eq_false_iff_ne.mpr h, if_neg h]
        exact ih.trans (if_neg h)
    · rw [beq_eq_false_iff_ne.mpr hk, if_neg Bool.false_ne_true, List.lookup_cons, List.lookup_cons]
      by_cases h : K = k
      · subst h
        rw [beq_self_eq_true, if_neg hk]
      · rw [beq_eq_false_iff_ne.mpr h]
        exact ih

end Seen

def PendingWithin (seen' seen : List (List String × Option (List String))) : Prop :=
  ∀ K, seen'.lookup K = some none → seen.lookup K = some none

def ResolvedOk (t : Tree) (seen : List (List String × Option (List String))) : Prop :=
  ∀ dir name R, seen.lookup (dir ++ [name]) = some (some R) → Lands t dir [name] [] R

def PendingOk (t : Tree) (seen : List (List String × Option (List String)))
    (path rest : List String) : Prop :=
  ∀ dir name, seen.lookup (dir ++ [name]) = some none →
    ∃ Z d n, 0 < d ∧ Seg t dir [name] path (rest ++ Z) d n

theorem PendingWithin.trans {seen seen' seen'' : List (List String × Option (List String))}
    (h : PendingWithin seen'' seen') (h' : PendingWithin seen' seen) : PendingWithin seen'' seen :=
  fun K hK => h' K (h K hK)

theorem PendingOk.mono {seen seen' : List (List String × Option (List String))}
    {path rest : List String} (hp : PendingOk t seen path rest) (h : PendingWithin seen' seen) :
    PendingOk t seen' path rest :=
  fun dir name hs => hp dir name (h _ hs)

theorem PendingOk.of_seg {seen : List (List String × Option (List String))}
    {path path₁ rest rest₁ : List String} {d n : Nat} (hp : PendingOk t seen path rest)
    (h : Seg t path rest path₁ rest₁ d n) : PendingOk t seen path₁ rest₁ := by
  intro dir name hs
  obtain ⟨Z, d₀, n₀, hd, hseg⟩ := hp dir name hs
  exact ⟨Z, d₀ + d, n₀ + n, by omega, hseg.trans (h.append Z)⟩

def Joins (t : Tree) (f : Nat) (seen : List (List String × Option (List String)))
    (path rest Pend : List String) : Prop :=
  ∃ R seen', t.joinReal f seen path rest = (R, true, seen') ∧ PendingWithin seen' seen ∧
    ResolvedOk t seen' ∧ Lands t path rest Pend R

def JoinsAt (t : Tree) (f : Nat) : Prop :=
  ∀ {w k : Nat} {seen : List (List String × Option (List String))} {path rest Pend P : List String}
    {o : Option Entry}, t.walk true w k path (rest ++ Pend) = .ok (P, o) → k ≤ maxLinks →
    Fueled t w k (rest ++ Pend) → w ≤ f → ResolvedOk t seen → PendingOk t seen path rest →
    Joins t f seen path rest Pend

section Joining

variable {f w k : Nat} {seen : List (List String × Option (List String))}
  {path rest Pend P : List String} {name : String} {o : Option Entry}

theorem joins_of_step (ih : JoinsAt t f) {path₁ : List String}
    (ha : t.advance path name = some (0, path₁, []))
    (hJ : t.joinReal (f + 1) seen path (name :: rest) = t.joinReal f seen path₁ rest)
    (hwalk : t.walk true w k path (name :: rest ++ Pend) = .ok (P, o)) (hk : k ≤ maxLinks)
    (hfuel : Fueled t w k (name :: rest ++ Pend)) (hf : w ≤ f + 1) (hres : ResolvedOk t seen)
    (hpend : PendingOk t seen path (name :: rest)) :
    Joins t (f + 1) seen path (name :: rest) Pend := by
  obtain ⟨w, rfl⟩ : ∃ w', w = w' + 1 := ⟨w - 1, by have := walk_pos hwalk; omega⟩
  have hseg : Seg t path (name :: rest) path₁ rest 0 1 := by simpa using Seg.single ha rest
  rw [List.cons_append, walk_advance ha hk, if_pos (by simpa using hk)] at hwalk
  obtain ⟨R, seen', hJ', hpw, hro, hl⟩ := ih (by simpa using hwalk) hk
    (by simpa using hfuel.advance ha (by simpa using hk)) (by omega) hres (hpend.of_seg hseg)
  exact ⟨R, seen', hJ.trans hJ', hpw, hro, Lands.of_seg hseg hl⟩

theorem joins_of_ends (he : Ends t path name)
    (hJ : t.joinReal (f + 1) seen path (name :: rest) = t.joinReal f seen (path ++ [name]) rest)
    (hwalk : t.walk true w k path (name :: rest ++ Pend) = .ok (P, o))
    (hfuel : Fueled t w k (name :: rest ++ Pend)) (hf : w ≤ f + 1) (hres : ResolvedOk t seen) :
    Joins t (f + 1) seen path (name :: rest) Pend := by
  obtain ⟨w, rfl⟩ : ∃ w', w = w' + 1 := ⟨w - 1, by have := walk_pos hwalk; omega⟩
  rw [List.cons_append] at hwalk
  obtain ⟨hdots, -⟩ := walk_of_ends he hwalk
  have hrest : AllDots rest := (allDots_append.mp hdots).1
  have hlen := hfuel.length_lt
  simp only [List.length_append, List.length_cons] at hlen
  refine ⟨path ++ [name], seen, ?_, fun _ h => h, hres,
    .inr ⟨path, name, rest, 0, 0, .refl _ _, he, hdots, rfl⟩⟩
  rw [hJ, joinReal_dots hrest (by omega)]

theorem joins_of_lands (ih : JoinsAt t f) {A X R' Pend' : List String}
    {seen₁ : List (List String × Option (List String))} {d₀ n₀ : Nat}
    (h₀ : Seg t path (name :: rest) A (X ++ rest) d₀ n₀) (hl : Lands t A X Pend' R')
    (hJ : t.joinReal (f + 1) seen path (name :: rest) = t.joinReal f seen₁ R' rest)
    (hwalk : t.walk true w k path (name :: rest ++ Pend) = .ok (P, o)) (hk : k ≤ maxLinks)
    (hfuel : Fueled t w k (name :: rest ++ Pend)) (hf : w ≤ f + 1)
    (hres₁ : ResolvedOk t seen₁) (hpw₁ : PendingWithin seen₁ seen)
    (hpend : PendingOk t seen path (name :: rest)) :
    Joins t (f + 1) seen path (name :: rest) Pend := by
  have hlen := hfuel.length_lt
  simp only [List.length_append, List.length_cons] at hlen
  rcases hl with ⟨d₁, n₁, hs⟩ | ⟨cur, c, rest', d₁, n₁, hs, he, -, rfl⟩
  · -- the walk stands at `R'` with `rest` still to walk
    have hseg : Seg t path (name :: rest) R' rest (d₀ + d₁) (n₀ + n₁) := by
      simpa using h₀.trans (hs.append rest)
    have hn : 0 < n₀ + n₁ := by
      rcases Nat.eq_zero_or_pos (n₀ + n₁) with h0 | h0
      · rw [h0] at hseg
        have := congrArg List.length hseg.eq_of_zero.2.1
        simp at this
      · exact h0
    obtain ⟨hnw, hkd, hwalk'⟩ := (hseg.append Pend).walk_ok hk hwalk
    obtain ⟨R, seen', hJ', hpw', hro', hl'⟩ := ih hwalk' hkd
      (Fueled.of_seg (hseg.append Pend) hkd (by rwa [Nat.sub_add_cancel hnw])) (by omega) hres₁
      ((hpend.mono hpw₁).of_seg hseg)
    exact ⟨R, seen', hJ.trans hJ', hpw'.trans hpw₁, hro', Lands.of_seg hseg hl'⟩
  · -- the walk ends at `R'`: only empty and `.` components may follow
    have hseg : Seg t path (name :: rest) cur (c :: (rest' ++ rest)) (d₀ + d₁) (n₀ + n₁) := by
      simpa using h₀.trans (hs.append rest)
    obtain ⟨-, -, hwalk'⟩ := (hseg.append Pend).walk_ok hk hwalk
    obtain ⟨m, hm⟩ : ∃ m, w - (n₀ + n₁) = m + 1 := ⟨_, (Nat.succ_pred_eq_of_pos (walk_pos hwalk')).symm⟩
    rw [hm, List.cons_append] at hwalk'
    obtain ⟨hdots, -⟩ := walk_of_ends he hwalk'
    have hrest : AllDots rest := (allDots_append.mp (allDots_append.mp hdots).1).2
    refine ⟨cur ++ [c], seen₁, ?_, hpw₁, hres₁,
      .inr ⟨cur, c, rest' ++ rest, _, _, hseg, he, hdots, rfl⟩⟩
    rw [hJ, joinReal_dots hrest (by omega)]

theorem joins_of_cached (ih : JoinsAt t f) {R' : List String} (hc : Plain name)
    {target : String} (hlink : t.entryAt (path ++ [name]) = some (.link target))
    (hs : seen.lookup (path ++ [name]) = some (some R'))
    (hwalk : t.walk true w k path (name :: rest ++ Pend) = .ok (P, o)) (hk : k ≤ maxLinks)
    (hfuel : Fueled t w k (name :: rest ++ Pend)) (hf : w ≤ f + 1) (hres : ResolvedOk t seen)
    (hpend : PendingOk t seen path (name :: rest)) :
    Joins t (f + 1) seen path (name :: rest) Pend := by
  have hJ : t.joinReal (f + 1) seen path (name :: rest) = t.joinReal f seen R' rest := by
    rw [joinReal.eq_3, if_neg hc.1, if_neg hc.2.1]
    simp only [hlink, hs]
  exact joins_of_lands ih (.refl _ _) (hres path name R' hs) hJ hwalk hk hfuel hf hres
    (fun _ h => h) hpend

theorem not_pending (hs : seen.lookup (path ++ [name]) = some none)
    (hwalk : t.walk true w k path (name :: rest ++ Pend) = .ok (P, o)) (hk : k ≤ maxLinks)
    (hpend : PendingOk t seen path (name :: rest)) : False := by
  obtain ⟨Z, d, n, hd, hseg⟩ := hpend path name hs
  rw [List.cons_append] at hseg hwalk
  exact walk_ne_ok_of_cycle hseg hd w k (rest ++ Pend) (P, o) hk hwalk

theorem ResolvedOk.append_pending {next : List String} (hro : ResolvedOk t seen)
    (hs : seen.lookup next = none) : ResolvedOk t (seen ++ [(next, none)]) := by
  intro dir name' R hR
  rw [lookup_append_of_none hs] at hR
  split at hR
  · cases hR
  · exact hro dir name' R hR

theorem PendingOk.append_link {start comps : List String} (hpend : PendingOk t seen path (name :: rest))
    (hs : seen.lookup (path ++ [name]) = none)
    (ha : t.advance path name = some (1, start, comps)) :
    PendingOk t (seen ++ [(path ++ [name], none)]) start comps := by
  intro dir name' hR
  rw [lookup_append_of_none hs] at hR
  split at hR
  · obtain ⟨rfl, h⟩ := List.append_inj' ‹dir ++ [name'] = path ++ [name]› rfl
    cases h
    exact ⟨[], 1, 1, Nat.one_pos, by simpa using Seg.single ha []⟩
  · obtain ⟨Z, d, n, hd, hseg⟩ := hpend dir name' hR
    exact ⟨rest ++ Z, d + 1, n + 1, by omega, hseg.trans (by simpa using Seg.single ha (rest ++ Z))⟩

theorem PendingWithin.update {seen₂ : List (List String × Option (List String))}
    {next R : List String} (hs : seen.lookup next = none)
    (hpw : PendingWithin seen₂ (seen ++ [(next, none)])) :
    PendingWithin (seen₂.map fun p => if p.1 == next then (p.1, some R) else p) seen := by
  intro K hK
  rw [lookup_map_update] at hK
  split at hK
  · cases h : seen₂.lookup K <;> rw [h] at hK <;> cases hK
  · have h := hpw K hK
    rwa [lookup_append_of_none hs, if_neg ‹¬K = next›] at h

theorem ResolvedOk.update {seen₂ : List (List String × Option (List String))} {R : List String}
    (hro : ResolvedOk t seen₂) (hl : Lands t path [name] [] R) :
    ResolvedOk t (seen₂.map fun p => if p.1 == path ++ [name] then (p.1, some R) else p) := by
  intro dir name' R' hR
  rw [lookup_map_update] at hR
  split at hR
  · obtain ⟨hd, hn⟩ := List.append_inj' ‹dir ++ [name'] = path ++ [name]› rfl
    cases h : seen₂.lookup (dir ++ [name']) <;> rw [h] at hR <;> cases hR
    rw [hd, List.singleton_inj.mp hn]
    exact hl
  · exact hro dir name' R' hR

theorem joins_of_new (ih : JoinsAt t f) (hc : Plain name) {target : String}
    (hlink : t.entryAt (path ++ [name]) = some (.link target))
    (hs : seen.lookup (path ++ [name]) = none)
    (hwalk : t.walk true w k path (name :: rest ++ Pend) = .ok (P, o)) (hk : k ≤ maxLinks)
    (hfuel : Fueled t w k (name :: rest ++ Pend)) (hf : w ≤ f + 1) (hres : ResolvedOk t seen)
    (hpend : PendingOk t seen path (name :: rest)) :
    Joins t (f + 1) seen path (name :: rest) Pend := by
  have ha := advance_link hc hlink
  generalize hstart : (if target.startsWith "/" = true then [] else path) = start at ha
  obtain ⟨w, rfl⟩ : ∃ w', w = w' + 1 := ⟨w - 1, by have := walk_pos hwalk; omega⟩
  have hstep := hwalk
  rw [List.cons_append, walk_advance ha hk] at hstep
  split at hstep
  case isFalse => cases hstep
  rename_i hk1
  obtain ⟨R₁, seen₂, hJ₁, hpw₁, hro₁, hl₁⟩ := ih hstep hk1 (hfuel.advance ha hk1) (by omega)
    (hres.append_pending hs) (hpend.append_link hs ha)
  have hJ : t.joinReal (f + 1) seen path (name :: rest) =
      t.joinReal f (seen₂.map fun p => if p.1 == path ++ [name] then (p.1, some R₁) else p)
        R₁ rest := by
    rw [joinReal.eq_3, if_neg hc.1, if_neg hc.2.1]
    simp only [hlink, hs, hstart, hJ₁, Bool.not_true, Bool.false_eq_true, if_false]
  have hland : Lands t path [name] [] R₁ :=
    Lands.of_seg (by simpa using Seg.single ha [] : Seg t path [name] start _ 1 1) hl₁.nil_pend
  exact joins_of_lands ih (Seg.single ha rest) hl₁ hJ hwalk hk hfuel hf (hro₁.update hland)
    (PendingWithin.update hs hpw₁) hpend

end Joining

theorem joinsAt (f : Nat) : JoinsAt t f := by
  induction f with
  | zero =>
    intro w k seen path rest Pend P o hwalk _ _ hf _ _
    exact absurd (walk_pos hwalk) (by omega)
  | succ f ih =>
    intro w k seen path rest Pend P o hwalk hk hfuel hf hres hpend
    cases rest with
    | nil => exact ⟨path, seen, joinReal.eq_2 .., fun _ h => h, hres, .inl ⟨0, 0, .refl _ _⟩⟩
    | cons name rest =>
      by_cases h1 : (name == "" || name == ".") = true
      · exact joins_of_step ih (advance_dot h1)
          (by rw [joinReal.eq_3, if_pos h1]) hwalk hk hfuel hf hres hpend
      by_cases h2 : (name == "..") = true
      · exact joins_of_step ih (advance_up h1 h2)
          (by rw [joinReal.eq_3, if_neg h1, if_pos h2]) hwalk hk hfuel hf hres hpend
      by_cases h3 : name.utf8ByteSize > maxName
      · -- a name too long fails the walk
        obtain ⟨w, rfl⟩ : ∃ w', w = w' + 1 := ⟨w - 1, by have := walk_pos hwalk; omega⟩
        rw [List.cons_append, walk.eq_3, if_neg h1, if_neg h2, if_pos h3] at hwalk
        cases hwalk
      have hc : Plain name := ⟨h1, h2, h3⟩
      have hJ : (∀ target, t.entryAt (path ++ [name]) ≠ some (.link target)) →
          t.joinReal (f + 1) seen path (name :: rest) = t.joinReal f seen (path ++ [name]) rest := by
        intro hne
        rw [joinReal.eq_3, if_neg h1, if_neg h2]
        dsimp only
        split
        · exact absurd ‹_› (hne _)
        · rfl
      cases he : t.entryAt (path ++ [name]) with
      | none => exact joins_of_ends ⟨hc, .inl he⟩ (hJ (by simp [he])) hwalk hfuel hf hres
      | some e =>
        cases e with
        | dir =>
          exact joins_of_step ih (advance_dir hc he) (hJ (by simp [he])) hwalk hk hfuel hf hres
            hpend
        | file b m =>
          exact joins_of_ends ⟨hc, .inr ⟨b, m, he⟩⟩ (hJ (by simp [he])) hwalk hfuel hf hres
        | link target =>
          cases hs : seen.lookup (path ++ [name]) with
          | none => exact joins_of_new ih hc he hs hwalk hk hfuel hf hres hpend
          | some v =>
            cases v with
            | none => exact (not_pending hs hwalk hk hpend).elim
            | some R' => exact joins_of_cached ih hc he hs hwalk hk hfuel hf hres hpend

theorem Lands.eq_of_walk {path rest R P : List String} {w k : Nat} {o : Option Entry}
    (hl : Lands t path rest [] R) (hwalk : t.walk true w k path rest = .ok (P, o))
    (hk : k ≤ maxLinks) : P = R := by
  rcases hl with ⟨d, n, hs⟩ | ⟨cur, c, rest', d, n, hs, he, -, rfl⟩
  · obtain ⟨-, -, hw⟩ := hs.walk_ok hk hwalk
    obtain ⟨m, hm⟩ : ∃ m, w - n = m + 1 := ⟨_, (Nat.succ_pred_eq_of_pos (walk_pos hw)).symm⟩
    rw [hm, walk.eq_2] at hw
    exact (congrArg Prod.fst (Except.ok.inj hw)).symm
  · obtain ⟨-, -, hw⟩ := hs.walk_ok hk hwalk
    obtain ⟨m, hm⟩ : ∃ m, w - n = m + 1 := ⟨_, (Nat.succ_pred_eq_of_pos (walk_pos hw)).symm⟩
    rw [hm] at hw
    exact congrArg Prod.fst (walk_of_ends he hw).2

/-- Components that each name an entry, with no link at any of their prefixes: where a walk that
follows links can stand. -/
def Canonical (t : Tree) (cs : List String) : Prop :=
  Normal cs ∧ ∀ k target, t.entryAt (cs.take (k + 1)) ≠ some (.link target)

namespace Canonical

variable {cur : List String}

theorem nil : Canonical t [] :=
  ⟨fun _ h => absurd h List.not_mem_nil, fun _ _ h => by simp [entryAt] at h⟩

theorem dropLast (h : Canonical t cur) : Canonical t cur.dropLast := by
  refine ⟨fun c hc => h.1 c (List.dropLast_subset _ hc), fun k target => ?_⟩
  rw [List.dropLast_eq_take, List.take_take]
  rcases Nat.eq_zero_or_pos (min (k + 1) (cur.length - 1)) with h0 | hpos
  · rw [h0, List.take_zero]
    simp [entryAt]
  · obtain ⟨j, hj⟩ : ∃ j, min (k + 1) (cur.length - 1) = j + 1 := ⟨_, (Nat.succ_pred_eq_of_pos hpos).symm⟩
    rw [hj]
    exact h.2 j target

theorem append {c : String} (h : Canonical t cur) (hc : Plain c)
    (hlink : ∀ target, t.entryAt (cur ++ [c]) ≠ some (.link target)) :
    Canonical t (cur ++ [c]) := by
  refine ⟨fun d hd => ?_, fun k target => ?_⟩
  · rcases List.mem_append.mp hd with hd | hd
    · exact h.1 d hd
    · rw [List.mem_singleton.mp hd]
      exact ⟨hc.1, hc.2.1⟩
  · rw [List.take_append]
    by_cases hk : k + 1 ≤ cur.length
    · rw [Nat.sub_eq_zero_of_le hk, List.take_zero, List.append_nil]
      exact h.2 k target
    · rw [List.take_of_length_le (by omega), List.take_of_length_le (by simp; omega)]
      exact hlink target

/-- A step of a walk goes from where a walk stands to where a walk stands. -/
theorem advance {c : String} {e : Nat} {cur₁ pre : List String} (h : Canonical t cur)
    (ha : t.advance cur c = some (e, cur₁, pre)) : Canonical t cur₁ := by
  by_cases h1 : (c == "" || c == ".") = true
  · rw [advance_dot h1] at ha
    cases ha
    exact h
  by_cases h2 : (c == "..") = true
  · rw [advance_up h1 h2] at ha
    cases ha
    exact h.dropLast
  by_cases h3 : c.utf8ByteSize > maxName
  · rw [Tree.advance, if_neg h1, if_neg h2, if_pos h3] at ha
    cases ha
  have hc : Plain c := ⟨h1, h2, h3⟩
  cases he : t.entryAt (cur ++ [c]) with
  | none =>
    rw [Tree.advance, if_neg h1, if_neg h2, if_neg h3, he] at ha
    cases ha
  | some en =>
    cases en with
    | dir =>
      rw [advance_dir hc he] at ha
      cases ha
      exact h.append hc (by simp [he])
    | file b m =>
      rw [Tree.advance, if_neg h1, if_neg h2, if_neg h3, he] at ha
      cases ha
    | link target =>
      rw [advance_link hc he] at ha
      cases ha
      split
      · exact nil
      · exact h

theorem of_seg {todo cur' todo' : List String} {d n : Nat} (h : Canonical t cur)
    (hs : Seg t cur todo cur' todo' d n) : Canonical t cur' := by
  induction hs with
  | refl => exact h
  | step ha _ ih => exact ih (h.advance ha)

theorem of_lands {rest Pend R : List String} (h : Canonical t cur) (hl : Lands t cur rest Pend R) :
    Canonical t R := by
  rcases hl with ⟨d, n, hs⟩ | ⟨cur', c, rest', d, n, hs, he, -, rfl⟩
  · exact h.of_seg hs
  · refine (h.of_seg hs).append he.1 fun target hlink => ?_
    rcases he.2 with hnone | ⟨b, m, hfile⟩
    · rw [hnone] at hlink
      cases hlink
    · rw [hfile] at hlink
      cases hlink

theorem stat_ne_loop (h : Canonical t cur) : t.stat cur ≠ .error 40 := by
  have hwalk : t.lookup true cur ≠ .error 40 :=
    walk_ne_loop h.1 (fun k target => by simpa using h.2 k target)
      (by rw [lookupFuel_eq]; omega)
  unfold stat
  split
  · exact nofun
  · exact nofun
  · rename_i n hn
    intro h40
    cases h40
    exact hwalk hn

end Canonical

/-- The target of the link at a path, if a link stands there. -/
def linkAt (t : Tree) (cs : List String) : Option String :=
  match t.entryAt cs with
  | some (.link target) => some target
  | _ => none

theorem linkAt_eq_none {cs : List String} (h : ∀ target, t.entryAt cs ≠ some (.link target)) :
    t.linkAt cs = none := by
  unfold linkAt
  split
  · exact absurd ‹_› (h _)
  · rfl

theorem joinReal_congr {t' : Tree} (h : ∀ cs, t'.linkAt cs = t.linkAt cs) (f : Nat) :
    ∀ seen path rest, t'.joinReal f seen path rest = t.joinReal f seen path rest := by
  induction f with
  | zero => intro seen path rest; rw [joinReal.eq_1, joinReal.eq_1]
  | succ f ih =>
    intro seen path rest
    cases rest with
    | nil => rw [joinReal.eq_2, joinReal.eq_2]
    | cons name rest =>
      rw [joinReal.eq_3, joinReal.eq_3]
      simp only [ih]
      by_cases h1 : (name == "" || name == ".") = true
      · rw [if_pos h1, if_pos h1]
      by_cases h2 : (name == "..") = true
      · rw [if_neg h1, if_neg h1, if_pos h2, if_pos h2]
      rw [if_neg h1, if_neg h1, if_neg h2, if_neg h2]
      -- the two trees differ only in what is not a link, which both read as a plain name
      have hl := h (path ++ [name])
      rcases he' : t'.entryAt (path ++ [name]) with _ | _ | ⟨_, _⟩ | target' <;>
        rcases he : t.entryAt (path ++ [name]) with _ | _ | ⟨_, _⟩ | target <;>
        simp only [linkAt, he, he', reduceCtorEq, Option.some.injEq] at hl ⊢
      subst hl
      rfl

/-- Putting nothing but a directory or a file where there was nothing or a file keeps the
links. -/
theorem Replaces.linkAt_put {X : List String} {e : Entry} (hc : t.Replaces X e)
    (cs : List String) : (t.put X e).linkAt cs = t.linkAt cs := by
  by_cases hcs : cs = X
  · subst hcs
    have hnew : ∀ target, (t.put cs e).entryAt cs ≠ some (.link target) := by
      rw [entryAt_put hc.ne_nil, if_pos rfl]
      rcases hc.new with rfl | ⟨b, m, rfl⟩ <;> exact nofun
    have hold : ∀ target, t.entryAt cs ≠ some (.link target) := by
      rcases hc.old with h | ⟨b, m, h⟩ <;> rw [h] <;> exact nofun
    rw [linkAt_eq_none hnew, linkAt_eq_none hold]
  · unfold linkAt
    rw [hc.entryAt_of_ne hcs]

theorem joinReal_of_walk {cs P : List String} {o : Option Entry} {w f : Nat}
    (hwalk : t.walk true w 0 [] cs = .ok (P, o)) (hfuel : Fueled t w 0 cs) (hf : w ≤ f) :
    (∃ seen, t.joinReal f [] [] cs = (P, true, seen)) ∧ Canonical t P := by
  rw [← List.append_nil cs] at hwalk hfuel
  obtain ⟨R, seen, hJ, -, -, hl⟩ := joinsAt f hwalk (Nat.zero_le _) hfuel hf
    (show ResolvedOk t [] from fun _ _ _ h => by cases h)
    (show PendingOk t [] [] cs from fun _ _ h => by cases h)
  rw [List.append_nil] at hwalk
  have hPR : P = R := hl.eq_of_walk hwalk (Nat.zero_le _)
  subst hPR
  exact ⟨⟨seen, hJ⟩, Canonical.nil.of_lands hl⟩

theorem Fueled.of_le {w w' k : Nat} {todo : List String} (h : Fueled t w k todo) (hw : w ≤ w') :
    Fueled t w' k todo :=
  Nat.le_trans h hw

/-- A lookup has fuel enough for its walk. -/
theorem fueled_lookupFuel (t : Tree) (cs : List String) : Fueled t (t.lookupFuel cs) 0 cs := by
  unfold Fueled
  rw [lookupFuel_eq]
  simp only [maxLinks]
  omega

theorem lookupFuel_succ_le_realpathFuel (t : Tree) (cs : List String) :
    t.lookupFuel cs + 1 ≤ (t.entries.length + 1) * (t.lookupFuel cs + 1) :=
  Nat.le_mul_of_pos_left _ (Nat.succ_pos _)

/-- Trees with the same links and the same lookup fuel for a path resolve it alike: where a
followed walk in the second, with fuel at most one step over its lookup's, finds the path, both
give the path it ends at. -/
theorem realpath_of_walk_congr {t' : Tree} (h : ∀ cs, t'.linkAt cs = t.linkAt cs)
    {cs P : List String} {o : Option Entry} {w : Nat} (hfuel : t.lookupFuel cs = t'.lookupFuel cs)
    (hwalk : t'.walk true w 0 [] cs = .ok (P, o)) (hfu : Fueled t' w 0 cs)
    (hw : w ≤ t'.lookupFuel cs + 1) : t.realpath cs = P := by
  have hf : w ≤ (t.entries.length + 1) * (t.lookupFuel cs + 1) :=
    Nat.le_trans hw (hfuel ▸ lookupFuel_succ_le_realpathFuel t cs)
  obtain ⟨⟨seen, hJ⟩, -⟩ := joinReal_of_walk hwalk hfu hf
  unfold realpath
  dsimp only
  rw [← joinReal_congr h, hJ]

/-- Where a followed lookup succeeds, the canonical path is the path it ends at. -/
theorem realpath_of_lookup {cs P : List String} {o : Option Entry}
    (h : t.lookup true cs = .ok (P, o)) : t.realpath cs = P :=
  realpath_of_walk_congr (fun _ => rfl) rfl h (fueled_lookupFuel t cs) (Nat.le_succ _)

/-- A followed walk that succeeds over `todo` and then a name that is not empty or `.` has
walked `todo` to a directory: it can end only at the last component. -/
theorem walk_of_append_plain {c : String} (hc : ¬(c == "" || c == ".") = true)
    {w k : Nat} {cur todo : List String} {r : List String × Option Entry}
    (h : t.walk true w k cur (todo ++ [c]) = .ok r) :
    ∃ P, t.walk true w k cur todo = .ok (P, some .dir) := by
  -- the induction is on the fuel, which each component read spends
  induction w generalizing k cur todo with
  | zero => rw [walk.eq_1] at h; cases h
  | succ w ih =>
    cases todo with
    | nil => exact ⟨cur, walk.eq_2 ..⟩
    | cons a todo =>
    have hlast : (todo ++ [c]).all (fun r => r == "" || r == ".") = false := by
      simp [hc]
    rw [List.cons_append] at h
    by_cases h1 : (a == "" || a == ".") = true
    · rw [walk.eq_3, if_pos h1] at h ⊢
      exact ih h
    by_cases h2 : (a == "..") = true
    · rw [walk.eq_3, if_neg h1, if_pos h2] at h ⊢
      exact ih h
    by_cases h3 : a.utf8ByteSize > maxName
    · rw [walk.eq_3, if_neg h1, if_neg h2, if_pos h3] at h
      cases h
    rw [walk_cons_plain ⟨h1, h2, h3⟩] at h ⊢
    cases he : t.entryAt (cur ++ [a]) with
    | none =>
      rw [he] at h
      dsimp only at h
      rw [hlast] at h
      cases h
    | some en =>
      rw [he] at h
      cases en with
      | dir => exact ih h
      | file b m =>
        dsimp only at h
        rw [hlast] at h
        cases h
      | link target =>
        dsimp only at h ⊢
        rw [hlast, Bool.false_and, if_neg Bool.false_ne_true] at h
        have hfollow : ¬((todo.all fun r => r == "" || r == ".") && !true) = true := by simp
        rw [if_neg hfollow]
        split at h
        · cases h
        rw [if_neg ‹_›]
        split at h
        · rw [if_pos ‹_›, ← List.append_assoc] at *
          exact ih h
        · rw [if_neg ‹_›, ← List.append_assoc] at *
          exact ih h

end BuildGate.Fs.Tree

namespace BuildGate.Fs

/-- A path with no zero character that a followed walk from the root finds, with fuel enough and
at most one step over its lookup's, resolves to the path the walk ends at. -/
theorem resolvePath_of_walk {t : Tree} {cs P : List String} {o : Option Entry} {w : Nat}
    (hz : cs.any hasZero = false) (hwalk : t.walk true w 0 [] cs = .ok (P, o))
    (hfu : Tree.Fueled t w 0 cs) (hw : w ≤ t.lookupFuel cs + 1) : resolvePath t cs = .ok P := by
  unfold resolvePath
  rw [if_neg (by simp [hz]), Tree.realpath_of_walk_congr (fun _ => rfl) rfl hwalk hfu hw]
  dsimp only
  split
  · exact absurd ‹_› (Tree.joinReal_of_walk hwalk hfu (Nat.le_refl _)).2.stat_ne_loop
  · rfl

/-- A path with no zero character that a followed lookup finds resolves to the path the lookup
ends at. -/
theorem resolvePath_of_lookup {t : Tree} {cs P : List String} {o : Option Entry}
    (hz : cs.any hasZero = false) (h : t.lookup true cs = .ok (P, o)) :
    resolvePath t cs = .ok P :=
  resolvePath_of_walk hz h (Tree.fueled_lookupFuel t cs) (Nat.le_succ _)

theorem any_hasZero_of_resolvePath {t : Tree} {cs real : List String}
    (h : resolvePath t cs = .ok real) : cs.any hasZero = false := by
  unfold resolvePath at h
  split at h
  · cases h
  · exact Bool.eq_false_iff.mpr ‹_›

end BuildGate.Fs
