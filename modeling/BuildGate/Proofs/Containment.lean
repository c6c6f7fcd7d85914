import BuildGate.Proofs.FileTree
import BuildGate.Proofs.ReportFile
import Mathlib.Data.List.Induction

namespace BuildGate.Fs

def lexStep (acc : List String) (c : String) : List String :=
  if c == "" || c == "." then acc else if c == ".." then acc.dropLast else acc ++ [c]

theorem lexical_eq_foldl (cs : List String) : lexical cs = cs.foldl lexStep [] := rfl

theorem lexical_append_singleton (cs : List String) (c : String) :
    lexical (cs ++ [c]) = lexStep (lexical cs) c := by
  rw [lexical_eq_foldl, lexical_eq_foldl, List.foldl_append]
  rfl

/-- Components in normal form: none is empty, `.` or `..`. -/
def Normal (cs : List String) : Prop :=
  ∀ c ∈ cs, ¬(c == "" || c == ".") = true ∧ ¬(c == "..") = true

theorem Normal.step {acc : List String} (h : Normal acc) (c : String) :
    Normal (lexStep acc c) := by
  unfold Fs.lexStep
  split
  · exact h
  split
  · exact fun d hd => h d (List.dropLast_subset _ hd)
  · intro d hd
    rcases List.mem_append.mp hd with hd | hd
    · exact h d hd
    · rw [List.mem_singleton.mp hd]
      exact ⟨‹_›, ‹_›⟩

theorem Normal.foldl_lexStep {acc : List String} (h : Normal acc) (cs : List String) :
    Normal (cs.foldl lexStep acc) := by
  induction cs generalizing acc with
  | nil => exact h
  | cons c cs ih => exact ih (h.step c)

theorem normal_lexical (cs : List String) : Normal (lexical cs) :=
  Normal.foldl_lexStep (fun _ h => absurd h List.not_mem_nil) cs

theorem foldl_lexStep_of_normal {cs : List String} (h : Normal cs) (acc : List String) :
    cs.foldl lexStep acc = acc ++ cs := by
  induction cs generalizing acc with
  | nil => simp
  | cons c cs ih =>
    obtain ⟨h1, h2⟩ := h c List.mem_cons_self
    rw [List.foldl_cons, ih fun d hd => h d (List.mem_cons_of_mem _ hd)]
    simp [Fs.lexStep, h1, h2]

theorem exists_lexical_take {cs q : List String} (hq : q <+: lexical cs) :
    ∃ n, lexical (cs.take n) = q := by
  induction cs using List.reverseRecOn generalizing q with
  | nil => exact ⟨0, (List.prefix_nil.mp hq).symm⟩
  | append_singleton cs c ih =>
    have hshort : ∀ {q}, q <+: lexical cs → ∃ n, lexical ((cs ++ [c]).take n) = q := by
      intro q hq
      obtain ⟨n, hn⟩ := ih hq
      refine ⟨min n cs.length, ?_⟩
      rw [List.take_append_of_le_length (Nat.min_le_right _ _), ← List.take_eq_take_min, hn]
    rw [lexical_append_singleton] at hq
    unfold lexStep at hq
    split at hq
    · exact hshort hq
    split at hq
    · exact hshort (hq.trans (List.dropLast_prefix _))
    · rcases List.prefix_concat_iff.mp hq with rfl | hq
      · exact ⟨cs.length + 1, by rw [List.take_of_length_le (by simp),
          lexical_append_singleton, Fs.lexStep, if_neg ‹_›, if_neg ‹_›]⟩
      · exact hshort hq

namespace Tree

def LinkFreeAlong (t : Tree) (cs : List String) : Prop :=
  ∀ n target, t.entryAt (lexical (cs.take n)) ≠ some (.link target)

variable {t : Tree}

theorem linkFreeAlong_of_no_links (h : ∀ cs target, (cs, Entry.link target) ∉ t.entries)
    (cs : List String) : t.LinkFreeAlong cs := by
  intro n target he
  by_cases hnil : lexical (cs.take n) = []
  · rw [hnil] at he
    simp [entryAt] at he
  · exact h _ target (mem_entries_of_entryAt he hnil)

theorem joinReal_fst_of_linkFree (fuel : Nat) (seen : List (List String × Option (List String)))
    (path rest : List String) (hpath : Normal path)
    (h : ∀ n target, t.entryAt ((rest.take n).foldl lexStep path) ≠ some (.link target)) :
    (t.joinReal fuel seen path rest).1 = rest.foldl lexStep path := by
  induction fuel generalizing seen path rest with
  | zero =>
    rw [joinReal.eq_1, lexical_eq_foldl, List.foldl_append, foldl_lexStep_of_normal hpath,
      List.nil_append]
  | succ fuel ih =>
    cases rest with
    | nil => rw [joinReal.eq_2]; rfl
    | cons name rest =>
      have hrest : ∀ n target,
          t.entryAt ((rest.take n).foldl lexStep (lexStep path name)) ≠ some (.link target) :=
        fun n target => by simpa using h (n + 1) target
      rw [List.foldl_cons, joinReal.eq_3]
      by_cases h1 : (name == "" || name == ".") = true
      · rw [if_pos h1]
        have hstep : lexStep path name = path := by rw [lexStep, if_pos h1]
        rw [hstep] at hrest ⊢
        exact ih seen path rest hpath hrest
      by_cases h2 : (name == "..") = true
      · rw [if_neg h1, if_pos h2]
        have hstep : lexStep path name = path.dropLast := by rw [lexStep, if_neg h1, if_pos h2]
        rw [hstep] at hrest ⊢
        exact ih seen _ rest (fun d hd => hpath d (List.dropLast_subset _ hd)) hrest
      · rw [if_neg h1, if_neg h2]
        have hstep : lexStep path name = path ++ [name] := by rw [lexStep, if_neg h1, if_neg h2]
        have hlink : ∀ target, t.entryAt (path ++ [name]) ≠ some (.link target) := by
          intro target
          simpa [hstep] using h 1 target
        rw [hstep] at hrest ⊢
        dsimp only
        split
        · exact absurd ‹_› (hlink _)
        · exact ih seen _ rest (hstep ▸ hpath.step name) hrest

theorem realpath_eq_lexical {cs : List String} (h : t.LinkFreeAlong cs) :
    t.realpath cs = lexical cs :=
  joinReal_fst_of_linkFree _ [] [] cs (fun _ hc => absurd hc List.not_mem_nil) h

/-- A walk over normal components that meets no link, with a step of fuel for each, never runs
into a loop. -/
theorem walk_ne_loop {follow : Bool} {links : Nat} {todo cur : List String} {fuel : Nat}
    (hnorm : Normal todo)
    (hlink : ∀ k target, t.entryAt (cur ++ todo.take (k + 1)) ≠ some (.link target))
    (hfuel : todo.length < fuel) : t.walk follow fuel links cur todo ≠ .error 40 := by
  -- one component is read for each unit of fuel, so the fuel never runs out first
  induction todo generalizing cur fuel with
  | nil =>
    obtain ⟨fuel, rfl⟩ := Nat.exists_eq_add_one.mpr hfuel
    rw [walk.eq_2]
    simp
  | cons c rest ih =>
    obtain ⟨fuel, rfl⟩ := Nat.exists_eq_add_one.mpr (Nat.zero_lt_of_lt hfuel)
    obtain ⟨h1, h2⟩ := hnorm c List.mem_cons_self
    by_cases h3 : c.utf8ByteSize > maxName
    · rw [walk.eq_3, if_neg h1, if_neg h2, if_pos h3]
      simp
    rw [walk_cons_plain ⟨h1, h2, h3⟩]
    cases he : t.entryAt (cur ++ [c]) with
    | none => dsimp only; split <;> simp
    | some en =>
      cases en with
      | dir =>
        refine ih (fun d hd => hnorm d (List.mem_cons_of_mem _ hd)) (fun k target => ?_)
          (by simpa using hfuel)
        simpa using hlink (k + 1) target
      | file b m => dsimp only; split <;> simp
      | link target => exact absurd he (by simpa using hlink 0 target)

theorem stat_lexical_ne_loop {cs : List String} (h : t.LinkFreeAlong cs) :
    t.stat (lexical cs) ≠ .error 40 := by
  have hwalk : t.lookup true (lexical cs) ≠ .error 40 := by
    refine walk_ne_loop (normal_lexical cs) (fun k target => ?_) (by rw [lookupFuel_eq]; omega)
    -- each prefix of the normal form is the normal form of a prefix of `cs`
    obtain ⟨n, hn⟩ := exists_lexical_take (List.take_prefix (k + 1) (lexical cs))
    rw [List.nil_append, ← hn]
    exact h n target
  unfold stat
  split
  · exact nofun
  · exact nofun
  · rename_i n hn
    intro h40
    cases h40
    exact hwalk hn

end Tree

theorem resolvePath_eq_ok {t : Tree} {cs real : List String} (h : resolvePath t cs = .ok real) :
    real = t.realpath cs := by
  unfold resolvePath at h
  split at h
  · cases h
  · dsimp only at h
    split at h
    · cases h
    · cases h
      rfl

theorem resolvePath_of_linkFree {t : Tree} {cs : List String} (hz : cs.any hasZero = false)
    (h : t.LinkFreeAlong cs) : resolvePath t cs = .ok (lexical cs) := by
  unfold resolvePath
  rw [if_neg (by simp [hz]), Tree.realpath_eq_lexical h]
  dsimp only
  split
  · exact absurd ‹_› (Tree.stat_lexical_ne_loop h)
  · rfl

theorem resolvePath_of_zero {t : Tree} {cs : List String} (hz : cs.any hasZero = true) :
    resolvePath t cs = .error .zero := by
  unfold resolvePath
  rw [if_pos hz]

end BuildGate.Fs

namespace BuildGate.Store

open Fs

variable (st : Store) (t : Tree) (parts : List String)

theorem path_of_base_fault {e : ResolveError} (h : resolvePath t (t.absolute st.runDir) = .error e) :
    st.path t parts = .error e.fault := by
  simp only [path, resolveIn, h]
  rfl

theorem path_of_zero {base : List String} (hb : resolvePath t (t.absolute st.runDir) = .ok base)
    (hz : resolvePath t (t.absolute (st.runDir.joinAll parts)) = .error .zero) :
    st.path t parts = .error (.invalid ("Refusing to access path outside run_dir: " ++
      (st.runDir.joinAll parts).toText)) := by
  simp only [path, resolveIn, hb, hz]
  rfl

theorem path_of_loop {base : List String} {q : String}
    (hb : resolvePath t (t.absolute st.runDir) = .ok base)
    (hl : resolvePath t (t.absolute (st.runDir.joinAll parts)) = .error (.loop q)) :
    st.path t parts = .error (ResolveError.loop q).fault := by
  simp only [path, resolveIn, hb, hl]
  rfl

theorem path_of_resolved {base real : List String}
    (hb : resolvePath t (t.absolute st.runDir) = .ok base)
    (hr : resolvePath t (t.absolute (st.runDir.joinAll parts)) = .ok real) :
    st.path t parts = if base.isPrefixOf real then .ok (st.runDir.joinAll parts)
      else .error (.invalid ("Refusing to access path outside run_dir: " ++
        (st.runDir.joinAll parts).toText)) := by
  simp only [path, resolveIn, hb, hr]
  rfl

theorem path_outcomes :
    st.path t parts = .ok (st.runDir.joinAll parts) ∨
      st.path t parts = .error (.invalid ("Refusing to access path outside run_dir: " ++
        (st.runDir.joinAll parts).toText)) ∨
      ∃ e, st.path t parts = .error e.fault ∧ (resolvePath t (t.absolute st.runDir) = .error e ∨
        ∃ q, e = .loop q ∧ resolvePath t (t.absolute (st.runDir.joinAll parts)) = .error e) := by
  cases hb : resolvePath t (t.absolute st.runDir) with
  | error e => exact .inr (.inr ⟨e, path_of_base_fault st t parts hb, .inl rfl⟩)
  | ok base =>
    cases hr : resolvePath t (t.absolute (st.runDir.joinAll parts)) with
    | error e =>
      cases e with
      | zero => exact .inr (.inl (path_of_zero st t parts hb hr))
      | loop q => exact .inr (.inr ⟨_, path_of_loop st t parts hb hr, .inr ⟨q, rfl, rfl⟩⟩)
    | ok real =>
      rw [path_of_resolved st t parts hb hr]
      split
      · exact .inl rfl
      · exact .inr (.inl rfl)

theorem path_ok_iff_of_linkFree (hd : t.LinkFreeAlong (t.absolute st.runDir))
    (hp : t.LinkFreeAlong (t.absolute (st.runDir.joinAll parts))) :
    (∃ q, st.path t parts = .ok q) ↔
      (t.absolute st.runDir).any hasZero = false ∧
        (t.absolute (st.runDir.joinAll parts)).any hasZero = false ∧
        lexical (t.absolute st.runDir) <+: lexical (t.absolute (st.runDir.joinAll parts)) := by
  cases hzd : (t.absolute st.runDir).any hasZero with
  | true => simp [path_of_base_fault st t parts (resolvePath_of_zero hzd)]
  | false =>
    have hb := resolvePath_of_linkFree hzd hd
    cases hzp : (t.absolute (st.runDir.joinAll parts)).any hasZero with
    | true => simp [path_of_zero st t parts hb (resolvePath_of_zero hzp)]
    | false =>
      rw [path_of_resolved st t parts hb (resolvePath_of_linkFree hzp hp)]
      by_cases hpre : lexical (t.absolute st.runDir) <+:
          lexical (t.absolute (st.runDir.joinAll parts))
      · simp [List.isPrefixOf_iff_prefix.mpr hpre, hpre]
      · have hnot : (lexical (t.absolute st.runDir)).isPrefixOf
            (lexical (t.absolute (st.runDir.joinAll parts))) = false :=
          Bool.eq_false_iff.mpr fun h => hpre (List.isPrefixOf_iff_prefix.mp h)
        simp [hnot, hpre]

/-- A path the store gives is the joined path, and its canonical path lies at or below the run
directory's, whatever links there are. -/
theorem path_ok_realpath {q : Path} (h : st.path t parts = .ok q) :
    q = st.runDir.joinAll parts ∧
      t.realpath (t.absolute st.runDir) <+: t.realpath (t.absolute q) := by
  cases hb : resolvePath t (t.absolute st.runDir) with
  | error e => simp [path_of_base_fault st t parts hb] at h
  | ok base =>
    cases hr : resolvePath t (t.absolute (st.runDir.joinAll parts)) with
    | error e =>
      cases e with
      | zero => simp [path_of_zero st t parts hb hr] at h
      | loop => simp [path_of_loop st t parts hb hr] at h
    | ok real =>
      rw [path_of_resolved st t parts hb hr] at h
      split at h
      · cases h
        rw [← resolvePath_eq_ok hb, ← resolvePath_eq_ok hr]
        exact ⟨rfl, List.isPrefixOf_iff_prefix.mp ‹_›⟩
      · cases h

/-- The store's check of a path. It gives the joined path, refuses it with `Refusing to access
path outside run_dir`, or fails to resolve: the run directory, for a zero character or a link
loop, or the joined path, for a link loop. Where no link stands on the way it gives the path
exactly when neither path has a zero character and the run directory's normal form begins the
joined path's, component by component; and whatever links there are, a path it gives resolves
at or below the run directory. -/
theorem path_inside :
    (st.path t parts = .ok (st.runDir.joinAll parts) ∨
      st.path t parts = .error (.invalid ("Refusing to access path outside run_dir: " ++
        (st.runDir.joinAll parts).toText)) ∨
      ∃ e, st.path t parts = .error e.fault ∧ (resolvePath t (t.absolute st.runDir) = .error e ∨
        ∃ q, e = .loop q ∧ resolvePath t (t.absolute (st.runDir.joinAll parts)) = .error e)) ∧
    (t.LinkFreeAlong (t.absolute st.runDir) →
      t.LinkFreeAlong (t.absolute (st.runDir.joinAll parts)) →
      ((∃ q, st.path t parts = .ok q) ↔
        (t.absolute st.runDir).any hasZero = false ∧
          (t.absolute (st.runDir.joinAll parts)).any hasZero = false ∧
          lexical (t.absolute st.runDir) <+: lexical (t.absolute (st.runDir.joinAll parts)))) ∧
    ∀ q, st.path t parts = .ok q → q = st.runDir.joinAll parts ∧
      t.realpath (t.absolute st.runDir) <+: t.realpath (t.absolute q) :=
  ⟨path_outcomes st t parts, path_ok_iff_of_linkFree st t parts,
    fun _ h => path_ok_realpath st t parts h⟩

/-- A file name with a zero character below the run directory, in a tree with no link, is refused
though the normal form of the run directory begins its own. -/
theorem path_refuses_zero_inside :
    (({} : Tree).LinkFreeAlong (({} : Tree).absolute (Path.ofString "/tmp/w/runs/r1")) ∧
      ({} : Tree).LinkFreeAlong
        (({} : Tree).absolute ((Path.ofString "/tmp/w/runs/r1").joinAll ["a\x00b"]))) ∧
    lexical (({} : Tree).absolute (Path.ofString "/tmp/w/runs/r1")) <+:
      lexical (({} : Tree).absolute ((Path.ofString "/tmp/w/runs/r1").joinAll ["a\x00b"])) ∧
    (⟨Path.ofString "/tmp/w/runs/r1"⟩ : Store).path {} ["a\x00b"] =
      .error (.invalid "Refusing to access path outside run_dir: /tmp/w/runs/r1/a\x00b") := by
  have hfree := Tree.linkFreeAlong_of_no_links (t := {}) (fun _ _ h => by cases h)
  exact ⟨⟨hfree _, hfree _⟩, ⟨["a\x00b"], rfl⟩, rfl⟩

end BuildGate.Store
