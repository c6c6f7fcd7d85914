import Mathlib
import BuildGate.Fs.Change

namespace BuildGate.Fs

namespace Tree

/-- Each path has at most one entry. -/
def Distinct (t : Tree) : Prop := (t.entries.map (·.1)).Nodup

def Replaceable (o : Option Entry) : Prop := o = none ∨ ∃ b m, o = some (.file b m)

/-- What a change may put: a directory or a file. -/
def Stored (e : Entry) : Prop := e = .dir ∨ ∃ b m, e = .file b m

variable {t : Tree} {X cs : List String} {e : Entry}

theorem lookup_filter_append (l : List (List String × Entry)) (X cs : List String) (e : Entry) :
    ((l.filter (·.1 != X)) ++ [(X, e)]).lookup cs = if cs = X then some e else l.lookup cs := by
  induction l with
  | nil =>
    by_cases h : cs = X
    · simp [h]
    · simp [List.lookup, h, beq_eq_false_iff_ne.mpr h]
  | cons p l ih =>
    obtain ⟨k, v⟩ := p
    by_cases hk : k = X
    · subst hk
      rw [List.filter_cons_of_neg (by simp), ih]
      by_cases hcs : cs = k
      · simp [hcs]
      · simp [List.lookup, beq_eq_false_iff_ne.mpr hcs]
    · rw [List.filter_cons_of_pos (by simpa using hk), List.cons_append, List.lookup_cons, ih]
      by_cases hcs : cs = k
      · subst hcs
        simp [hk, List.lookup]
      · simp [List.lookup, beq_eq_false_iff_ne.mpr hcs]

theorem entryAt_put (hX : X ≠ []) :
    (t.put X e).entryAt cs = if cs = X then some e else t.entryAt cs := by
  unfold entryAt put
  by_cases hcs : cs.isEmpty = true
  · have : cs = [] := List.isEmpty_iff.mp hcs
    subst this
    simp [Ne.symm hX]
  · simp only [hcs, if_false, Bool.false_eq_true]
    exact lookup_filter_append _ _ _ _

@[simp] theorem cwd_put : (t.put X e).cwd = t.cwd := rfl

@[simp] theorem absolute_put (p : Path) : (t.put X e).absolute p = t.absolute p := rfl

theorem Distinct.put (h : t.Distinct) : (t.put X e).Distinct := by
  unfold Distinct Tree.put
  rw [List.map_append, List.map_singleton, List.nodup_append]
  refine ⟨h.sublist ((List.filter_sublist).map _), List.nodup_singleton X, ?_⟩
  intro a ha b hb hab
  rw [List.mem_singleton] at hb
  obtain ⟨p, hp, rfl⟩ := List.mem_map.mp ha
  have hne := (List.mem_filter.mp hp).2
  rw [hab, hb] at hne
  simp at hne

theorem Distinct.symlink (h : t.Distinct) {cs : List String} {target : String} {t' : Tree}
    (hs : t.symlink cs target = .ok t') : t'.Distinct := by
  unfold Tree.symlink at hs
  cases hp : t.parentOf cs with
  | error n => simp [hp, bind, Except.bind] at hs
  | ok dn =>
    simp only [hp, bind, Except.bind] at hs
    split at hs
    · cases hs
      exact h.put
    · cases hs

theorem Distinct.chmod (h : t.Distinct) {cs : List String} {mode : Nat} {t' : Tree}
    (hc : t.chmod cs mode = .ok t') : t'.Distinct := by
  unfold Tree.chmod at hc
  split at hc
  · cases hc
    exact h.put
  · cases hc
    exact h
  · cases hc
  · cases hc

/-- The longest link target, in components, that a lookup allows for. -/
def longestLink (l : List (List String × Entry)) : Nat :=
  l.foldl (fun m p =>
    match p.2 with
    | .link target => max m (target.toList.splitOn '/').length
    | _ => m) 0

theorem lookupFuel_eq (t : Tree) (cs : List String) :
    t.lookupFuel cs = cs.length + (maxLinks + 1) * (longestLink t.entries + 1) + 1 := rfl

theorem foldl_longest_filter {l : List (List String × Entry)} {q : List String × Entry → Bool}
    (m : Nat) (h : ∀ p ∈ l, q p = false → ∀ x, p.2 ≠ .link x) :
    (l.filter q).foldl (fun m p =>
      match p.2 with
      | .link target => max m (target.toList.splitOn '/').length
      | _ => m) m =
    l.foldl (fun m p =>
      match p.2 with
      | .link target => max m (target.toList.splitOn '/').length
      | _ => m) m := by
  induction l generalizing m with
  | nil => rfl
  | cons p l ih =>
    have ih' := fun m => ih m (fun r hr => h r (List.mem_cons_of_mem _ hr))
    by_cases hq : q p = true
    · rw [List.filter_cons_of_pos hq, List.foldl_cons, List.foldl_cons, ih']
    · rw [List.filter_cons_of_neg hq, List.foldl_cons, ih']
      obtain ⟨k, v⟩ := p
      cases v with
      | link x => exact absurd rfl (h _ List.mem_cons_self (by simpa using hq) x)
      | dir => rfl
      | file b md => rfl

theorem Distinct.entryAt_of_mem (hd : t.Distinct) {p : List String × Entry} (hp : p ∈ t.entries)
    (hne : p.1 ≠ []) : t.entryAt p.1 = some p.2 := by
  unfold entryAt
  rw [if_neg (by simpa using hne)]
  obtain ⟨t1, t2⟩ := t
  unfold Distinct at hd
  simp only at hd hp ⊢
  induction t1 with
  | nil => cases hp
  | cons q l ih =>
    rw [List.map_cons, List.nodup_cons] at hd
    rcases List.mem_cons.mp hp with rfl | hp
    · simp [List.lookup]
    · have hq : p.1 ≠ q.1 := fun heq => hd.1 (heq ▸ List.mem_map_of_mem hp)
      rw [List.lookup_cons, beq_eq_false_iff_ne.mpr hq]
      exact ih hd.2 hp

/-- A change that puts no link where there was none keeps the fuel of every lookup. -/
theorem lookupFuel_put (hd : t.Distinct) (hX : X ≠ []) (hold : Replaceable (t.entryAt X))
    (he : Stored e) (cs : List String) : (t.put X e).lookupFuel cs = t.lookupFuel cs := by
  have hfilter := foldl_longest_filter (l := t.entries) (q := (·.1 != X)) 0
    fun p hp hq x hx => by
      have hpX : p.1 = X := by simpa using hq
      have hat := hd.entryAt_of_mem hp (hpX ▸ hX)
      rw [hpX, hx] at hat
      rcases hold with h | ⟨b, m, h⟩ <;> rw [h] at hat <;> cases hat
  have hkeep : longestLink (t.put X e).entries = longestLink t.entries := by
    unfold longestLink put
    rw [List.foldl_append, List.foldl_cons, List.foldl_nil]
    rcases he with rfl | ⟨b, m, rfl⟩ <;> exact hfilter
  rw [lookupFuel_eq, lookupFuel_eq, hkeep]

/-- A component that names an entry: not empty, `.` or `..`, and not too long. -/
def Plain (c : String) : Prop :=
  ¬(c == "" || c == ".") = true ∧ ¬(c == "..") = true ∧ ¬c.utf8ByteSize > maxName

/-- A walk's step over a component that names an entry looks that entry up. -/
theorem walk_cons_plain {follow : Bool} {fuel links : Nat} {cur : List String} {c : String}
    {rest : List String} (hc : Plain c) :
    t.walk follow (fuel + 1) links cur (c :: rest) =
      match t.entryAt (cur ++ [c]) with
      | none => if rest.all (fun r => r == "" || r == ".") then .ok (cur ++ [c], none) else .error 2
      | some .dir => t.walk follow fuel links (cur ++ [c]) rest
      | some (.file b m) =>
        if rest.all (fun r => r == "" || r == ".") then .ok (cur ++ [c], some (.file b m))
        else .error 20
      | some (.link target) =>
        if (rest.all (fun r => r == "" || r == ".") && !follow) then
          .ok (cur ++ [c], some (.link target))
        else if links ≥ maxLinks then .error 40
        else if target.startsWith "/" then
          t.walk follow fuel (links + 1) [] (Path.components target ++ rest)
        else t.walk follow fuel (links + 1) cur (Path.components target ++ rest) := by
  obtain ⟨h1, h2, h3⟩ := hc
  rw [walk.eq_3, if_neg h1, if_neg h2, if_neg h3] <;> rfl

/-- A walk over a directory goes on below it. -/
theorem walk_dir {follow : Bool} {fuel links : Nat} {cur rest : List String} {c : String}
    (hc : Plain c) (he : t.entryAt (cur ++ [c]) = some .dir) :
    t.walk follow (fuel + 1) links cur (c :: rest) = t.walk follow fuel links (cur ++ [c]) rest := by
  rw [walk_cons_plain hc, he]

/-- A walk whose last component holds no link ends at what is there. -/
theorem walk_last {follow : Bool} {fuel links : Nat} {cur : List String} {c : String}
    (hc : Plain c) (hlink : ∀ target, t.entryAt (cur ++ [c]) ≠ some (.link target)) :
    t.walk follow (fuel + 2) links cur [c] = .ok (cur ++ [c], t.entryAt (cur ++ [c])) := by
  rw [walk_cons_plain hc]
  cases he : t.entryAt (cur ++ [c]) with
  | none => rfl
  | some en =>
    cases en with
    | dir => exact walk.eq_2 ..
    | file b m => rfl
    | link target => exact absurd he (hlink target)

/-- An entry found under a path other than the root is stored under it. -/
theorem mem_entries_of_entryAt (h : t.entryAt cs = some e) (hcs : cs ≠ []) :
    (cs, e) ∈ t.entries := by
  unfold entryAt at h
  rw [if_neg (by simpa using hcs)] at h
  obtain ⟨l₁, l₂, heq, -⟩ := List.lookup_eq_some_iff.mp h
  rw [heq]
  exact List.mem_append_right _ List.mem_cons_self

variable {t' : Tree}

theorem walk_frame (hsame : ∀ cs, cs ≠ X → t'.entryAt cs = t.entryAt cs)
    (hold : Replaceable (t.entryAt X)) {follow : Bool} {fuel links : Nat} {cur todo R : List String}
    {o : Option Entry} (h : t.walk follow fuel links cur todo = .ok (R, o))
    (hR : R = X → o = some .dir) :
    t'.walk follow fuel links cur todo = .ok (R, o) := by
  induction fuel generalizing links cur todo with
  | zero => rw [walk.eq_1] at h; cases h
  | succ fuel ih =>
    cases todo with
    | nil => rwa [walk.eq_2] at h ⊢
    | cons c rest =>
      by_cases h1 : (c == "" || c == ".") = true
      · rw [walk.eq_3, if_pos h1] at h ⊢
        exact ih h
      by_cases h2 : (c == "..") = true
      · rw [walk.eq_3, if_neg h1, if_pos h2] at h ⊢
        exact ih h
      by_cases h3 : c.utf8ByteSize > maxName
      · rw [walk.eq_3, if_neg h1, if_neg h2, if_pos h3] at h
        cases h
      rw [walk_cons_plain ⟨h1, h2, h3⟩] at h ⊢
      by_cases hn : cur ++ [c] = X
      · -- the walk looked at `X`: it ended there, or failed
        rw [hn] at h
        rcases hold with hnone | ⟨b, m, hfile⟩
        · simp only [hnone] at h
          split at h
          · cases h
            nomatch hR rfl
          · cases h
        · simp only [hfile] at h
          split at h
          · cases h
            nomatch hR rfl
          · cases h
      · rw [hsame _ hn]
        cases he : t.entryAt (cur ++ [c]) with
        | none => rw [he] at h; exact h
        | some en =>
          rw [he] at h
          cases en with
          | dir => exact ih h
          | file b m => exact h
          | link target =>
            dsimp only at h ⊢
            by_cases hA : ((rest.all fun r => r == "" || r == ".") && !follow) = true
            · rw [if_pos hA] at h ⊢
              exact h
            rw [if_neg hA] at h ⊢
            by_cases hB : links ≥ maxLinks
            · rw [if_pos hB] at h
              cases h
            rw [if_neg hB] at h ⊢
            by_cases hC : target.startsWith "/" = true
            · rw [if_pos hC] at h ⊢
              exact ih h
            · rw [if_neg hC] at h ⊢
              exact ih h

/-- A walk that ended at `X`, where there was nothing or a file, ends there again in a tree that
differs only at `X` and holds a file there: it finds that file. The walk starts above `X`. -/
theorem walk_frame_at (hX : X ≠ []) (hsame : ∀ cs, cs ≠ X → t'.entryAt cs = t.entryAt cs)
    (hold : Replaceable (t.entryAt X)) {b : List UInt8} {m : Nat}
    (hnew : t'.entryAt X = some (.file b m)) {follow : Bool} {fuel links : Nat}
    {cur todo : List String} {o : Option Entry} (hcur : ¬X <+: cur)
    (h : t.walk follow fuel links cur todo = .ok (X, o)) :
    t'.walk follow fuel links cur todo = .ok (X, some (.file b m)) := by
  induction fuel generalizing links cur todo with
  | zero => rw [walk.eq_1] at h; cases h
  | succ fuel ih =>
    cases todo with
    | nil =>
      rw [walk.eq_2] at h
      have hcx : cur = X := congrArg Prod.fst (Except.ok.inj h)
      subst hcx
      exact absurd (List.prefix_refl _) hcur
    | cons c rest =>
      by_cases h1 : (c == "" || c == ".") = true
      · rw [walk.eq_3, if_pos h1] at h ⊢
        exact ih hcur h
      by_cases h2 : (c == "..") = true
      · rw [walk.eq_3, if_neg h1, if_pos h2] at h ⊢
        exact ih (fun hp => hcur (hp.trans (List.dropLast_prefix cur))) h
      by_cases h3 : c.utf8ByteSize > maxName
      · rw [walk.eq_3, if_neg h1, if_neg h2, if_pos h3] at h
        cases h
      rw [walk_cons_plain ⟨h1, h2, h3⟩] at h ⊢
      by_cases hn : cur ++ [c] = X
      · -- the walk ends at `X` and finds the new file there
        rw [hn] at h ⊢
        rw [hnew]
        rcases hold with hnone | ⟨b', m', hfile⟩
        · simp only [hnone] at h
          split at h
          · rename_i hlast
            simp only [hlast, if_true]
          · cases h
        · simp only [hfile] at h
          split at h
          · rename_i hlast
            simp only [hlast, if_true]
          · cases h
      · -- elsewhere the entry is the old one, and every result but going on names another path
        have hbelow : ¬X <+: cur ++ [c] := by
          intro hp
          rcases List.prefix_concat_iff.mp hp with heq | hp
          · exact hn heq.symm
          · exact hcur hp
        rw [hsame _ hn]
        cases he : t.entryAt (cur ++ [c]) with
        | none =>
          rw [he] at h
          dsimp only at h
          split at h
          · exact absurd (congrArg Prod.fst (Except.ok.inj h)) hn
          · cases h
        | some en =>
          rw [he] at h
          cases en with
          | dir => exact ih hbelow h
          | file b' m' =>
            dsimp only at h
            split at h
            · exact absurd (congrArg Prod.fst (Except.ok.inj h)) hn
            · cases h
          | link target =>
            dsimp only at h ⊢
            by_cases hA : ((rest.all fun r => r == "" || r == ".") && !follow) = true
            · rw [if_pos hA] at h
              exact absurd (congrArg Prod.fst (Except.ok.inj h)) hn
            rw [if_neg hA] at h ⊢
            by_cases hB : links ≥ maxLinks
            · rw [if_pos hB] at h
              cases h
            rw [if_neg hB] at h ⊢
            by_cases hC : target.startsWith "/" = true
            · rw [if_pos hC] at h ⊢
              exact ih (fun hp => hX (List.prefix_nil.mp hp)) h
            · rw [if_neg hC] at h ⊢
              exact ih hcur h

/-- A walk through `todo` that ends at a directory `P` goes on below it: walking `todo ++ rest`
is walking `rest` from `P`, with at least the fuel that `rest` was given. -/
theorem walk_append {follow : Bool} {fuel links : Nat} {cur todo P : List String}
    (h : t.walk follow fuel links cur todo = .ok (P, some .dir)) (rest : List String) (k : Nat) :
    ∃ f' links', 1 ≤ f' ∧
      t.walk follow (fuel + k) links cur (todo ++ rest) = t.walk follow (f' + k) links' P rest := by
  induction fuel generalizing links cur todo with
  | zero => rw [walk.eq_1] at h; cases h
  | succ fuel ih =>
    cases todo with
    | nil =>
      rw [walk.eq_2] at h
      obtain rfl : cur = P := congrArg Prod.fst (Except.ok.inj h)
      exact ⟨fuel + 1, links, by omega, rfl⟩
    | cons c todo =>
      rw [show fuel + 1 + k = (fuel + k) + 1 by omega, List.cons_append]
      by_cases h1 : (c == "" || c == ".") = true
      · rw [walk.eq_3, if_pos h1] at h ⊢
        exact ih h
      by_cases h2 : (c == "..") = true
      · rw [walk.eq_3, if_neg h1, if_pos h2] at h ⊢
        exact ih h
      by_cases h3 : c.utf8ByteSize > maxName
      · rw [walk.eq_3, if_neg h1, if_neg h2, if_pos h3] at h
        cases h
      rw [walk_cons_plain ⟨h1, h2, h3⟩] at h ⊢
      cases he : t.entryAt (cur ++ [c]) with
      | none =>
        rw [he] at h
        dsimp only at h
        split at h <;> cases h
      | some en =>
        rw [he] at h
        cases en with
        | dir => exact ih h
        | file b m =>
          dsimp only at h
          split at h <;> cases h
        | link target =>
          dsimp only at h ⊢
          by_cases hA : ((todo.all fun r => r == "" || r == ".") && !follow) = true
          · rw [if_pos hA] at h
            cases h
          have hA' : ¬(((todo ++ rest).all fun r => r == "" || r == ".") && !follow) = true := by
            intro hA'
            apply hA
            simp only [List.all_append, Bool.and_eq_true] at hA' ⊢
            exact ⟨hA'.1.1, hA'.2⟩
          rw [if_neg hA] at h
          rw [if_neg hA']
          by_cases hB : links ≥ maxLinks
          · rw [if_pos hB] at h
            cases h
          rw [if_neg hB] at h ⊢
          by_cases hC : target.startsWith "/" = true
          · rw [if_pos hC] at h ⊢
            rw [← List.append_assoc]
            exact ih h
          · rw [if_neg hC] at h ⊢
            rw [← List.append_assoc]
            exact ih h

theorem walk_entryAt {follow : Bool} {fuel links : Nat} {cur todo P : List String}
    {o : Option Entry} (h : t.walk follow fuel links cur todo = .ok (P, o)) (ho : o ≠ some .dir) :
    t.entryAt P = o := by
  induction fuel generalizing links cur todo with
  | zero => rw [walk.eq_1] at h; cases h
  | succ fuel ih =>
    cases todo with
    | nil =>
      rw [walk.eq_2] at h
      cases h
      exact absurd rfl ho
    | cons c rest =>
      by_cases h1 : (c == "" || c == ".") = true
      · rw [walk.eq_3, if_pos h1] at h
        exact ih h
      by_cases h2 : (c == "..") = true
      · rw [walk.eq_3, if_neg h1, if_pos h2] at h
        exact ih h
      by_cases h3 : c.utf8ByteSize > maxName
      · rw [walk.eq_3, if_neg h1, if_neg h2, if_pos h3] at h
        cases h
      rw [walk_cons_plain ⟨h1, h2, h3⟩] at h
      cases he : t.entryAt (cur ++ [c]) with
      | none =>
        rw [he] at h
        dsimp only at h
        split at h
        · cases h
          exact he
        · cases h
      | some en =>
        rw [he] at h
        cases en with
        | dir => exact ih h
        | file b m =>
          dsimp only at h
          split at h
          · cases h
            exact he
          · cases h
        | link target =>
          dsimp only at h
          split at h
          · cases h
            exact he
          split at h
          · cases h
          split at h
          · exact ih h
          · exact ih h

/-- Putting `e` at `X` replaces nothing or a file by a directory or a file: the only change
making directories and writing files make. -/
structure Replaces (t : Tree) (X : List String) (e : Entry) : Prop where
  ne_nil : X ≠ []
  old : Replaceable (t.entryAt X)
  new : Stored e

namespace Replaces

variable (hc : t.Replaces X e)
include hc

theorem entryAt_of_ne (hcs : cs ≠ X) : (t.put X e).entryAt cs = t.entryAt cs := by
  rw [entryAt_put hc.ne_nil, if_neg hcs]

/-- A lookup that found a directory finds it again after the change. -/
theorem lookup_dir (hd : t.Distinct) {follow : Bool} {R : List String}
    (h : t.lookup follow cs = .ok (R, some .dir)) :
    (t.put X e).lookup follow cs = .ok (R, some .dir) := by
  unfold lookup at h ⊢
  rw [lookupFuel_put hd hc.ne_nil hc.old hc.new]
  exact walk_frame (fun _ h => hc.entryAt_of_ne h) hc.old h fun _ => rfl

/-- The change adds no link. -/
theorem mem_link {target : String} (h : (cs, Entry.link target) ∈ (t.put X e).entries) :
    (cs, Entry.link target) ∈ t.entries := by
  unfold put at h
  rcases List.mem_append.mp h with h | h
  · exact (List.mem_filter.mp h).1
  · rw [List.mem_singleton, Prod.mk.injEq] at h
    rcases hc.new with he | ⟨b, m, he⟩ <;> rw [he] at h <;> cases h.2

end Replaces

/-- Every path whose entry differs from `t` to `t'` is in `S`, or was missing and is now a
directory. -/
def ChangedWithin (t t' : Tree) (S : List String → Prop) : Prop :=
  ∀ cs, t'.entryAt cs ≠ t.entryAt cs → S cs ∨ (t.entryAt cs = none ∧ t'.entryAt cs = some .dir)

namespace ChangedWithin

variable {t'' : Tree} {S S' : List String → Prop}

theorem refl (t : Tree) (S : List String → Prop) : ChangedWithin t t S :=
  fun _ h => absurd rfl h

theorem trans (h₁ : ChangedWithin t t' S) (h₂ : ChangedWithin t' t'' S') :
    ChangedWithin t t'' fun cs => S cs ∨ S' cs := by
  intro cs hne
  by_cases h : t'.entryAt cs = t.entryAt cs
  · rcases h₂ cs (h ▸ hne) with hS | ⟨hnone, hdir⟩
    · exact .inl (.inr hS)
    · exact .inr ⟨h ▸ hnone, hdir⟩
  · rcases h₁ cs h with hS | ⟨hnone, hdir⟩
    · exact .inl (.inl hS)
    by_cases h' : t''.entryAt cs = t'.entryAt cs
    · exact .inr ⟨hnone, h'.trans hdir⟩
    · rcases h₂ cs h' with hS' | ⟨hnone', -⟩
      · exact .inl (.inr hS')
      · rw [hdir] at hnone'
        cases hnone'

theorem mono (h : ChangedWithin t t' S) (hS : ∀ cs, S cs → S' cs) : ChangedWithin t t' S' :=
  fun cs hne => (h cs hne).imp_left (hS cs)

/-- An entry outside `S` that was there is there still. -/
theorem entryAt_eq (h : ChangedWithin t t' S) (hS : ¬S cs) (hthere : t.entryAt cs ≠ none) :
    t'.entryAt cs = t.entryAt cs := by
  by_contra hne
  rcases h cs hne with h | ⟨hnone, -⟩
  · exact hS h
  · exact hthere hnone

end ChangedWithin

theorem changedWithin_put (hX : X ≠ []) : ChangedWithin t (t.put X e) (· = X) := by
  intro cs hne
  by_cases hcs : cs = X
  · exact .inl hcs
  · rw [entryAt_put hX, if_neg hcs] at hne
    exact absurd rfl hne

theorem changedWithin_put_dir (hX : X ≠ []) (hnone : t.entryAt X = none) :
    ChangedWithin t (t.put X .dir) fun _ => False := by
  intro cs hne
  rw [entryAt_put hX] at hne ⊢
  by_cases hcs : cs = X
  · subst hcs
    exact .inr ⟨hnone, by simp⟩
  · rw [if_neg hcs] at hne
    exact absurd rfl hne

theorem mkdir_eq_ok {existOk : Bool} (h : t.mkdir cs existOk = .ok t') :
    t' = t ∨ ∃ X, X ≠ [] ∧ t.entryAt X = none ∧ t' = t.put X .dir := by
  unfold mkdir at h
  cases hp : t.parentOf cs with
  | error n =>
    rw [hp] at h
    cases h
  | ok pr =>
    obtain ⟨dir, name⟩ := pr
    rw [hp] at h
    simp only [bind, Except.bind] at h
    cases he : t.entryAt (dir ++ [name]) with
    | none =>
      rw [he] at h
      cases h
      exact .inr ⟨dir ++ [name], by simp, he, rfl⟩
    | some en =>
      rw [he] at h
      dsimp only at h
      split at h
      · cases h
        exact .inl rfl
      · cases h

/-- Whatever holds of a tree and is kept by putting a directory where there was nothing holds
once directories are made. -/
theorem makeDirs_induction (P : Tree → Prop) (h0 : P t)
    (hstep : ∀ u X, P u → X ≠ [] → u.entryAt X = none → P (u.put X .dir))
    (h : t.makeDirs cs = .ok t') : P t' := by
  unfold makeDirs at h
  -- the fold goes over the prefixes of `cs`, each made in the tree before it
  suffices key : ∀ (l : List Nat) (u : Tree), P u →
      l.foldlM (fun t i => t.mkdir (cs.take (i + 1)) true) u = .ok t' → P t' from
    key _ t h0 h
  intro l
  induction l with
  | nil =>
    intro u hu hfold
    cases hfold
    exact hu
  | cons i l ih =>
    intro u hu hfold
    rw [List.foldlM_cons] at hfold
    cases hm : u.mkdir (cs.take (i + 1)) true with
    | error n =>
      rw [hm] at hfold
      cases hfold
    | ok u₁ =>
      rw [hm] at hfold
      refine ih u₁ ?_ hfold
      rcases mkdir_eq_ok hm with rfl | ⟨X, hX, hnone, rfl⟩
      · exact hu
      · exact hstep u X hu hX hnone

/-- Writing a file puts it where the path leads, which held nothing or a file: a new file gets
the mode asked for, an old one keeps its own. -/
theorem writeFile_eq_ok {bytes : List UInt8} {mode : Nat} (h : t.writeFile cs bytes mode = .ok t') :
    ∃ X m, t.lookup true cs = .ok (X, t.entryAt X) ∧ t.Replaces X (.file bytes m) ∧
      t' = t.put X (.file bytes m) := by
  unfold writeFile at h
  split at h
  next phys hl =>
    have hnone := walk_entryAt hl (by simp)
    split at h
    · cases h
      refine ⟨phys, mode, by rw [hnone]; exact hl, ⟨?_, .inl hnone, .inr ⟨_, _, rfl⟩⟩, rfl⟩
      rintro rfl
      simp [entryAt] at hnone
    · cases h
  next => cases h
  next phys b m hl =>
    have hfile := walk_entryAt hl (by simp)
    cases h
    refine ⟨phys, m, by rw [hfile]; exact hl, ⟨?_, .inr ⟨b, m, hfile⟩, .inr ⟨_, _, rfl⟩⟩, rfl⟩
    rintro rfl
    simp [entryAt] at hfile
  next => cases h
  next => cases h

theorem Distinct.mkdir (h : t.Distinct) {existOk : Bool} (hm : t.mkdir cs existOk = .ok t') :
    t'.Distinct := by
  rcases mkdir_eq_ok hm with rfl | ⟨X, -, -, rfl⟩
  · exact h
  · exact h.put

theorem Distinct.makeDirs (h : t.Distinct) (hm : t.makeDirs cs = .ok t') : t'.Distinct :=
  makeDirs_induction Distinct h (fun _ _ hu _ _ => hu.put) hm

theorem Distinct.writeFile (h : t.Distinct) {bytes : List UInt8} {mode : Nat}
    (hw : t.writeFile cs bytes mode = .ok t') : t'.Distinct := by
  obtain ⟨X, m, -, -, rfl⟩ := writeFile_eq_ok hw
  exact h.put

end Tree

end BuildGate.Fs
