import BuildGate.Pipeline.Build
import BuildGate.Proofs.NamePattern
import BuildGate.Proofs.Env
import BuildGate.Proofs.Shape
import Mathlib.Data.List.Forall2

namespace BuildGate

section Except

variable {ε α β : Type}

theorem except_bind_eq_ok {x : Except ε α} {f : α → Except ε β} {b : β} :
    x >>= f = .ok b ↔ ∃ a, x = .ok a ∧ f a = .ok b := by
  cases x <;> simp [bind, Except.bind]

@[simp] theorem except_ok_bind (a : α) (f : α → Except ε β) : (Except.ok a >>= f) = f a := rfl

theorem except_throw_bind_ne_ok {e : ε} {f : α → Except ε β} {b : β} :
    (throw e >>= f) ≠ .ok b := by
  intro h
  cases h

theorem except_map_eq_ok {x : Except ε α} {f : α → β} {b : β} :
    f <$> x = .ok b ↔ ∃ a, x = .ok a ∧ f a = b := by
  cases x <;> simp [Functor.map, Except.map]

/-- A fold whose step adds what a check of the item gives is the fold of the checked items,
failing at the first item whose check fails. -/
theorem foldlM_eq_map_mapM {γ : Type} {f : β → α → Except ε β} {g : β → γ → β}
    {check : α → Except ε γ} (hf : ∀ b a, f b a = (g b ·) <$> check a) (xs : List α) (init : β) :
    xs.foldlM f init = (·.foldl g init) <$> xs.mapM check := by
  induction xs generalizing init with
  | nil => rfl
  | cons x xs ih =>
    rw [List.foldlM_cons, List.mapM_cons, hf]
    cases check x with
    | error e => rfl
    | ok c =>
      change xs.foldlM f (g init c) = _
      rw [ih]
      cases xs.mapM check <;> rfl

theorem mapM_eq_ok_forall₂ {γ : Type} {check : α → Except ε γ} {xs : List α} {ys : List γ}
    (h : xs.mapM check = .ok ys) : List.Forall₂ (fun x y => check x = .ok y) xs ys := by
  induction xs generalizing ys with
  | nil =>
    cases h
    exact List.Forall₂.nil
  | cons x xs ih =>
    rw [List.mapM_cons] at h
    obtain ⟨y, hy, h⟩ := except_bind_eq_ok.mp h
    obtain ⟨ys', hys, h⟩ := except_bind_eq_ok.mp h
    cases h
    exact List.Forall₂.cons hy (ih hys)

theorem forall₂_exists_of_mem_right {R : α → β → Prop} {xs : List α} {ys : List β}
    (h : List.Forall₂ R xs ys) {y : β} (hy : y ∈ ys) : ∃ x ∈ xs, R x y := by
  induction h with
  | nil => simp at hy
  | cons hr _ ih =>
    rcases List.mem_cons.mp hy with rfl | hy
    · exact ⟨_, List.mem_cons_self, hr⟩
    · obtain ⟨x, hx, hxy⟩ := ih hy
      exact ⟨x, List.mem_cons_of_mem _ hx, hxy⟩

theorem exists_eq_ok_of_isOk {γ : Type} {e : Except ε γ} (h : e.isOk = true) : ∃ a, e = .ok a := by
  cases e with
  | error _ => cases h
  | ok a => exact ⟨a, rfl⟩

end Except

theorem isEnvName_eq_true_iff {key : String} :
    isEnvName key = true ↔ key ≠ "" ∧ '=' ∉ key.toList ∧ '\x00' ∉ key.toList := by
  simp [isEnvName, and_assoc]

theorem checkNul_eq_ok {place s t : String} :
    checkNul place s = .ok t ↔ t = s ∧ '\x00' ∉ s.toList := by
  unfold checkNul
  by_cases h : '\x00' ∈ s.toList
  · simp [h]
  · simp [h, eq_comm]

/-- The name and value a declared environment entry resolves to, or why it cannot. -/
def resolvePair (scope : Env) (place : String) (kv : Value × Value) :
    Except Fault (String × String) := do
  let key ← plainText kv.1
  if !isEnvName key then throw (.config (.badEnvName place key))
  let value ← (expandRefs scope (← scalarText kv.2) (place ++ "." ++ key)).mapError .config
  let value ← checkNul (place ++ "." ++ key) value
  pure (key, value)

theorem resolveEntry_eq (scope : Env) (place : String) (out : Env) (kv : Value × Value) :
    resolveEntry scope place out kv = (fun p => out.set p.1 p.2) <$> resolvePair scope place kv := by
  simp only [resolveEntry, resolvePair]
  cases plainText kv.1 with
  | error e => rfl
  | ok key =>
    simp only [bind, Except.bind]
    by_cases hk : isEnvName key = true
    · simp only [hk, Bool.not_true, Bool.false_eq_true, if_false, pure, Except.pure]
      cases scalarText kv.2 with
      | error e => rfl
      | ok t =>
        simp only
        cases (expandRefs scope t (place ++ "." ++ key)).mapError Fault.config with
        | error e => rfl
        | ok v =>
          simp only
          cases checkNul (place ++ "." ++ key) v <;> rfl
    · simp [hk, throw, throwThe, MonadExceptOf.throw, Functor.map, Except.map]

/-- An overlay resolves its entries in declaration order, each against the same scope: it is the
environment of the resolved pairs, or the fault of the first entry that does not resolve. -/
theorem resolveOverlay_eq (scope : Env) (place : String) (raw : List (Value × Value)) :
    resolveOverlay scope place raw = Env.ofList <$> raw.mapM (resolvePair scope place) :=
  foldlM_eq_map_mapM (resolveEntry_eq scope place) raw Env.empty

/-- A resolved overlay is the environment of its entries' resolved names and values. -/
theorem resolveOverlay_eq_ok {scope : Env} {place : String} {raw : List (Value × Value)} {e : Env}
    (h : resolveOverlay scope place raw = .ok e) :
    ∃ pairs, raw.mapM (resolvePair scope place) = .ok pairs ∧ e = Env.ofList pairs := by
  rw [resolveOverlay_eq] at h
  obtain ⟨pairs, hpairs, rfl⟩ := except_map_eq_ok.mp h
  exact ⟨pairs, hpairs, rfl⟩

theorem resolvePair_eq_ok {scope : Env} {place : String} {kv : Value × Value} {key value : String}
    (h : resolvePair scope place kv = .ok (key, value)) :
    plainText kv.1 = .ok key ∧ isEnvName key = true ∧
      ∃ t, scalarText kv.2 = .ok t ∧ expandRefs scope t (place ++ "." ++ key) = .ok value ∧
        '\x00' ∉ value.toList := by
  simp only [resolvePair] at h
  obtain ⟨k, hk, h⟩ := except_bind_eq_ok.mp h
  by_cases hname : isEnvName k = true
  · simp only [hname, Bool.not_true, Bool.false_eq_true, if_false] at h
    obtain ⟨t, ht, h⟩ := except_bind_eq_ok.mp h
    obtain ⟨v, hv, h⟩ := except_bind_eq_ok.mp h
    obtain ⟨w, hw, h⟩ := except_bind_eq_ok.mp h
    simp only [pure, Except.pure, Except.ok.injEq, Prod.mk.injEq] at h
    obtain ⟨rfl, rfl⟩ := h
    obtain ⟨rfl, hnul⟩ := checkNul_eq_ok.mp hw
    refine ⟨hk, hname, t, ht, ?_, hnul⟩
    cases he : expandRefs scope t (place ++ "." ++ k) with
    | error e => simp [he, Except.mapError] at hv
    | ok v' => simpa [he, Except.mapError] using hv
  · simp [hname, throw, throwThe, MonadExceptOf.throw, bind, Except.bind] at h

/-- An environment the operating system accepts: no name is empty or holds `=` or NUL, and no
value holds NUL. -/
def Env.Sound (e : Env) : Prop :=
  ∀ kv ∈ e.entries, kv.1 ≠ "" ∧ '=' ∉ kv.1.toList ∧ '\x00' ∉ kv.1.toList ∧ '\x00' ∉ kv.2.toList

theorem resolveOverlay_sound {scope : Env} {place : String} {raw : List (Value × Value)}
    {e : Env} (h : resolveOverlay scope place raw = .ok e) : e.Sound := by
  obtain ⟨pairs, hpairs, rfl⟩ := resolveOverlay_eq_ok h
  intro kv hkv
  obtain ⟨x, -, hx⟩ :=
    forall₂_exists_of_mem_right (mapM_eq_ok_forall₂ hpairs) (Env.mem_entries_ofList pairs hkv)
  obtain ⟨-, hname, t, -, -, hnul⟩ := resolvePair_eq_ok hx
  exact ⟨(isEnvName_eq_true_iff.mp hname).1, (isEnvName_eq_true_iff.mp hname).2.1,
    (isEnvName_eq_true_iff.mp hname).2.2, hnul⟩

@[simp] theorem textOf_str (s : String) : textOf (some (.str s)) = s := rfl

theorem mapM_zipIdx_eq_ok {f : Value × Nat → Except Fault String} {xs : List Value} {n : Nat}
    {args : List String} (hf : ∀ x j t, f (x, j) = .ok t → scalarText x = .ok t ∧ '\x00' ∉ t.toList)
    (h : (xs.zipIdx n).mapM f = .ok args) :
    List.Forall₂ (fun a t => scalarText a = .ok t ∧ '\x00' ∉ t.toList) xs args := by
  induction xs generalizing n args with
  | nil =>
    cases h
    exact List.Forall₂.nil
  | cons x xs ih =>
    rw [List.zipIdx_cons, List.mapM_cons] at h
    obtain ⟨t, ht, h⟩ := except_bind_eq_ok.mp h
    obtain ⟨ts, hts, h⟩ := except_bind_eq_ok.mp h
    cases h
    exact List.Forall₂.cons (hf x n t ht) (ih hts)

namespace Value

theorem item_eq_ok {v x : Value} {key : String} (h : v.item key = .ok x) :
    ∃ kvs, v = .dict kvs ∧ v.get? key = some x := by
  cases v with
  | dict kvs =>
    refine ⟨kvs, rfl, ?_⟩
    cases hl : lookupEntry kvs (.str key) with
    | none => simp [item, hl] at h
    | some y =>
      simp only [item, hl, Except.ok.injEq] at h
      rw [← h]
      exact hl
  | _ => simp [item] at h

theorem asText_eq_ok {v : Value} {s : String} (h : v.asText = .ok s) : v = .str s := by
  cases v with
  | str t =>
    simp only [asText, Except.ok.injEq] at h
    rw [h]
  | _ => simp [asText] at h

theorem stripped_eq_ok {v : Value} {c : String} (h : v.stripped = .ok c) :
    ∃ t, v = .str t ∧ c = stripBlank t := by
  cases v with
  | str t =>
    simp only [stripped, Except.ok.injEq] at h
    exact ⟨t, rfl, h.symm⟩
  | _ => simp [stripped] at h

theorem pathText_eq_ok {v : Value} {t : String} (h : v.pathText = .ok t) : v = .str t := by
  cases v with
  | str s =>
    simp only [pathText, Except.ok.injEq] at h
    rw [h]
  | _ => simp [pathText] at h

theorem item_dict {kvs : List (Value × Value)} {key : String} {x : Value}
    (h : lookupEntry kvs (.str key) = some x) : (Value.dict kvs).item key = .ok x := by
  simp [item, h]

@[simp] theorem asText_str (s : String) : (Value.str s).asText = .ok s := rfl

@[simp] theorem stripped_str (s : String) : (Value.str s).stripped = .ok (stripBlank s) := rfl

@[simp] theorem getEntry_dict (kvs : List (Value × Value)) (key : String) :
    (Value.dict kvs).getEntry key = .ok ((Value.dict kvs).get? key) := rfl

@[simp] theorem holdsNul_str (s : String) : (Value.str s).holdsNul = .ok (s.toList.contains '\x00') :=
  rfl

@[simp] theorem pathText_str (s : String) : (Value.str s).pathText = .ok s := rfl

theorem entries_orElse_eq_ok {o : Option Value} {kvs : List (Value × Value)}
    (h : (orElse o (.dict [])).entries = .ok kvs) : kvs = entriesOf o := by
  rcases o with _ | v
  · simp only [orElse, entries, Except.ok.injEq] at h
    exact h.symm
  · by_cases hf : v.isFalsy = true
    · simp only [orElse, hf, if_true, entries, Except.ok.injEq] at h
      subst h
      cases v <;> simp_all [entriesOf, isFalsy]
    · simp only [orElse, hf, Bool.false_eq_true, if_false] at h
      cases v <;> simp_all [entries, entriesOf]

theorem entries_orElse_of_dict {o : Option Value} (h : o = none ∨ ∃ kvs, o = some (.dict kvs)) :
    (orElse o (.dict [])).entries = .ok (entriesOf o) := by
  rcases h with rfl | ⟨kvs, rfl⟩
  · rfl
  · by_cases hk : kvs = [] <;> simp [orElse, isFalsy, entries, entriesOf, hk]

theorem elements_orElse_of_list {o : Option Value} (h : o = none ∨ ∃ xs, o = some (.list xs)) :
    (orElse o (.list [])).elements = .ok (itemsOf o) := by
  rcases h with rfl | ⟨xs, rfl⟩
  · rfl
  · by_cases hx : xs = [] <;> simp [orElse, isFalsy, elements, itemsOf, hx]

theorem orElse_str_empty {o : Option Value} (h : o = none ∨ ∃ t, o = some (.str t)) :
    orElse o (.str "") = .str (textOf o) := by
  rcases h with rfl | ⟨t, rfl⟩
  · rfl
  · by_cases ht : t.isEmpty = true
    · rw [String.isEmpty_iff.mp ht]
      rfl
    · simp [orElse, isFalsy, textOf, ht]

theorem orElse_of_text {o : Option Value} (h : o = none ∨ ∃ t, o = some (.str t)) (d : String) :
    orElse o (.str d) = .str (if (textOf o).isEmpty then d else textOf o) := by
  rcases h with rfl | ⟨t, rfl⟩
  · rfl
  · by_cases ht : t.isEmpty = true <;> simp [orElse, isFalsy, textOf, ht]

end Value

/-- What building a step from its declaration read, checked and made. -/
structure StepBuilt (scope : Env) (seen : List String) (raw : Value) (s : Step) : Prop where
  name_eq : raw.get? "name" = some (.str s.name)
  name_valid : isValidName s.name = true
  name_fresh : s.name ∉ seen
  command_eq : ∃ c, raw.get? "command" = some (.str c) ∧ s.command = stripBlank c
  command_nul : '\x00' ∉ s.command.toList
  command_ne : s.command ≠ ""
  args_eq : ∃ as, (Value.orElse (raw.get? "args") (.list [])).elements = .ok as ∧
    List.Forall₂ (fun a t => scalarText a = .ok t ∧ '\x00' ∉ t.toList) as s.args
  cwd_eq : ∃ t, Value.orElse (raw.get? "cwd") (.str "") = .str t ∧ '\x00' ∉ t.toList ∧
    s.cwd = if t.isEmpty then none else some (Path.ofString t)
  env_eq : resolveOverlay scope (s.name ++ ".env") (entriesOf (raw.get? "env")) = .ok s.env

theorem buildStep_eq_ok {scope : Env} {seen : List String} {i : Nat} {raw : Value} {s : Step}
    (h : buildStep scope seen i raw = .ok s) : StepBuilt scope seen raw s := by
  simp only [buildStep, List.contains_iff_mem] at h
  obtain ⟨nv, hnv, h⟩ := except_bind_eq_ok.mp h
  obtain ⟨name, hname, h⟩ := except_bind_eq_ok.mp h
  obtain ⟨skvs, rfl, hnv⟩ := Value.item_eq_ok hnv
  rw [Value.asText_eq_ok hname] at hnv
  by_cases hvalid : isValidName name = true
  swap
  · simp only [hvalid, Bool.not_false, if_true] at h
    exact absurd h except_throw_bind_ne_ok
  by_cases hseen : name ∈ seen
  · simp only [hvalid, hseen, Bool.not_true, Bool.false_eq_true, if_false, if_true] at h
    exact absurd h except_throw_bind_ne_ok
  simp only [hvalid, hseen, Bool.not_true, Bool.false_eq_true, if_false] at h
  obtain ⟨cv, hcv, h⟩ := except_bind_eq_ok.mp h
  obtain ⟨c0, hc0, h⟩ := except_bind_eq_ok.mp h
  obtain ⟨c, hc, h⟩ := except_bind_eq_ok.mp h
  obtain ⟨-, -, hcv⟩ := Value.item_eq_ok hcv
  obtain ⟨t, rfl, rfl⟩ := Value.stripped_eq_ok hc0
  obtain ⟨rfl, hcnul⟩ := checkNul_eq_ok.mp hc
  by_cases hempty : (stripBlank t).isEmpty = true
  · simp only [hempty, if_true] at h
    exact absurd h except_throw_bind_ne_ok
  simp only [hempty, Bool.false_eq_true, if_false, Value.getEntry_dict, except_ok_bind] at h
  obtain ⟨as, has, h⟩ := except_bind_eq_ok.mp h
  obtain ⟨args, hargs, h⟩ := except_bind_eq_ok.mp h
  obtain ⟨b, hb, h⟩ := except_bind_eq_ok.mp h
  cases b
  swap
  · exact absurd h except_throw_bind_ne_ok
  obtain ⟨ekvs, hekvs, h⟩ := except_bind_eq_ok.mp h
  obtain ⟨env, henv, h⟩ := except_bind_eq_ok.mp h
  obtain ⟨cwd, hcwd, h⟩ := except_bind_eq_ok.mp h
  cases h
  have hcwd := Value.pathText_eq_ok hcwd
  rw [hcwd, Value.holdsNul_str, Except.ok.injEq] at hb
  have hargs := mapM_zipIdx_eq_ok (fun x j t ht => by
    obtain ⟨u, hu, hc⟩ := except_bind_eq_ok.mp ht
    obtain ⟨rfl, hnul⟩ := checkNul_eq_ok.mp hc
    exact ⟨hu, hnul⟩) hargs
  rw [Value.entries_orElse_eq_ok hekvs] at henv
  exact ⟨hnv, hvalid, hseen, ⟨t, hcv, rfl⟩, hcnul, by simpa using hempty, ⟨as, has, hargs⟩,
    ⟨cwd, hcwd, by simpa using hb, rfl⟩, henv⟩

/-- The steps built in turn from declarations, from index `i` on: each is built against the names
of the steps before it, latest first, as `seen` starts them. -/
inductive StepsBuilt (scope : Env) : List String → Nat → List Value → List Step → Prop
  | nil (seen : List String) (i : Nat) : StepsBuilt scope seen i [] []
  | cons {seen : List String} {i : Nat} {raw : Value} {raws : List Value} {s : Step}
      {steps : List Step} :
      buildStep scope seen i raw = .ok s → StepsBuilt scope (s.name :: seen) (i + 1) raws steps →
      StepsBuilt scope seen i (raw :: raws) (s :: steps)

theorem buildSteps_eq_ok {scope : Env} {acc : List Step} {i : Nat} {raws : List Value}
    {steps : List Step} (h : buildSteps scope acc i raws = .ok steps) :
    ∃ built, steps = acc.reverse ++ built ∧ StepsBuilt scope (acc.map (·.name)) i raws built := by
  induction raws generalizing acc i with
  | nil =>
    simp only [buildSteps, Except.ok.injEq] at h
    exact ⟨[], by simp [h], StepsBuilt.nil _ _⟩
  | cons raw raws ih =>
    simp only [buildSteps] at h
    obtain ⟨s, hs, h⟩ := except_bind_eq_ok.mp h
    obtain ⟨built, rfl, hbuilt⟩ := ih h
    exact ⟨s :: built, by simp, StepsBuilt.cons hs (by simpa using hbuilt)⟩

namespace StepsBuilt

variable {scope : Env} {seen : List String} {i : Nat} {raws : List Value} {steps : List Step}

theorem forall₂ (h : StepsBuilt scope seen i raws steps) :
    List.Forall₂ (fun raw s => ∃ seen', StepBuilt scope seen' raw s) raws steps := by
  induction h with
  | nil => exact List.Forall₂.nil
  | cons hs _ ih => exact List.Forall₂.cons ⟨_, buildStep_eq_ok hs⟩ ih

/-- Each step's name is new: distinct from the others and from those seen before. -/
theorem names_nodup (h : StepsBuilt scope seen i raws steps) :
    (steps.map (·.name)).Nodup ∧ ∀ s ∈ steps, s.name ∉ seen := by
  induction h with
  | nil => exact ⟨List.nodup_nil, by simp⟩
  | cons hs _ ih =>
    obtain ⟨hnodup, hfresh⟩ := ih
    have hbuilt := buildStep_eq_ok hs
    refine ⟨List.nodup_cons.mpr ⟨?_, hnodup⟩, ?_⟩
    · intro hmem
      obtain ⟨t, ht, hname⟩ := List.mem_map.mp hmem
      exact hfresh t ht (by simp [hname])
    · intro t ht
      rcases List.mem_cons.mp ht with rfl | ht
      · exact hbuilt.name_fresh
      · exact fun hmem => hfresh t ht (List.mem_cons_of_mem _ hmem)

end StepsBuilt

theorem foldlM_isSome {α β ε : Type} {f : Option α → β → Except ε (Option α)}
    (hf : ∀ a x r, f (some a) x = .ok r → r.isSome) :
    ∀ (xs : List β) (a : α) (r : Option α), xs.foldlM f (some a) = .ok r → r.isSome
  | [], a, r, h => by
    cases h
    rfl
  | x :: xs, a, r, h => by
    rw [List.foldlM_cons] at h
    obtain ⟨b, hb, h⟩ := except_bind_eq_ok.mp h
    obtain ⟨b, rfl⟩ := Option.isSome_iff_exists.mp (hf a x _ hb)
    exact foldlM_isSome hf xs b r h

theorem bestShapeError_eq_ok_none {es : List ShapeError} (h : bestShapeError es = .ok none) :
    es = [] := by
  cases es with
  | nil => rfl
  | cons e es =>
    unfold bestShapeError at h
    rw [List.foldlM_cons] at h
    obtain ⟨b, hb, h⟩ := except_bind_eq_ok.mp h
    have hsome : b = some e := by
      split at hb
      · cases hb
      · cases hb
        rfl
    subst hsome
    have hkeep := foldlM_isSome (fun a x r hr => by
      split at hr
      · cases hr
      · obtain ⟨o, -, hr⟩ := except_bind_eq_ok.mp hr
        cases hr
        rfl) es e none h
    cases hkeep

theorem head?_dropWhile_blank {l : List Char} {c : Char}
    (h : (l.dropWhile Text.isBlank).head? = some c) : Text.isBlank c = false := by
  have hnot := List.head?_dropWhile_not Text.isBlank l
  rw [h] at hnot
  exact hnot

theorem stripBlank_ends (s : String) :
    (∀ c, (stripBlank s).toList.head? = some c → Text.isBlank c = false) ∧
    (∀ c, (stripBlank s).toList.getLast? = some c → Text.isBlank c = false) := by
  have hkept : ((s.toList.dropWhile Text.isBlank).reverse.dropWhile Text.isBlank).reverse <+:
      s.toList.dropWhile Text.isBlank := by
    simpa using List.reverse_prefix.mpr
      (List.dropWhile_suffix (l := (s.toList.dropWhile Text.isBlank).reverse) Text.isBlank)
  simp only [stripBlank, String.toList_ofList, List.getLast?_reverse]
  refine ⟨fun c hc => ?_, fun c hc => head?_dropWhile_blank hc⟩
  obtain ⟨rest, hrest⟩ := hkept
  apply head?_dropWhile_blank (l := s.toList)
  rw [← hrest, List.head?_append, hc]
  rfl

theorem isValidName_eq_true_iff {s : String} :
    isValidName s = true ↔ (1 ≤ s.length ∧ s.length ≤ 64) ∧
      (∃ c, s.toList.head? = some c ∧ isNameStart c = true) ∧ ∀ c ∈ s.toList, isNameChar c = true := by
  rw [isValidName, fullmatch_namePattern_iff, ← String.length_toList]
  constructor
  · rintro ⟨c, cs, hs, hc, hlen, hall⟩
    rw [hs]
    refine ⟨⟨by simp, by simp only [List.length_cons]; omega⟩, ⟨c, rfl, hc⟩, fun x hx => ?_⟩
    rcases List.mem_cons.mp hx with rfl | hx
    · simp [isNameChar, hc]
    · exact List.all_eq_true.mp hall x hx
  · rintro ⟨⟨-, hlen⟩, ⟨c, hc, hstart⟩, hall⟩
    cases hs : s.toList with
    | nil => simp [hs] at hc
    | cons c' cs =>
      rw [hs, List.head?_cons, Option.some.injEq] at hc
      rw [hs] at hlen hall
      subst hc
      refine ⟨c', cs, rfl, hstart, by simp only [List.length_cons] at hlen; omega, ?_⟩
      exact List.all_eq_true.mpr fun x hx => hall x (List.mem_cons_of_mem _ hx)

/-- How a built step reads its declaration: the name as declared, the command stripped, each
argument as the text of its scalar, and a directory only when one is declared and not empty. -/
structure Step.Declared (raw : Value) (s : Step) : Prop where
  name_eq : raw.get? "name" = some (.str s.name)
  command_eq : ∃ c, raw.get? "command" = some (.str c) ∧ s.command = stripBlank c
  args_eq : ∃ as, (raw.get? "args" = none ∧ as = [] ∨ raw.get? "args" = some (.list as)) ∧
    (∀ a ∈ as, isScalar a = true) ∧ List.Forall₂ (fun a t => scalarText a = .ok t) as s.args
  cwd_none : s.cwd = none ↔ raw.get? "cwd" = none ∨ raw.get? "cwd" = some (.str "")
  cwd_some : ∀ path, s.cwd = some path → ∃ t, raw.get? "cwd" = some (.str t) ∧ path = Path.ofString t

/-- A step the system can launch: a well-formed name, a stripped command that is not empty, and
no NUL in the command, the arguments, the directory or the environment. -/
structure Step.Sound (s : Step) : Prop where
  name_length : 1 ≤ s.name.length ∧ s.name.length ≤ 64
  name_start : ∃ c, s.name.toList.head? = some c ∧ isNameStart c = true
  name_chars : ∀ c ∈ s.name.toList, isNameChar c = true
  command_ne : s.command ≠ ""
  command_head : ∀ c, s.command.toList.head? = some c → Text.isBlank c = false
  command_last : ∀ c, s.command.toList.getLast? = some c → Text.isBlank c = false
  command_nul : '\x00' ∉ s.command.toList
  args_nul : ∀ a ∈ s.args, '\x00' ∉ a.toList
  cwd_nul : ∀ path, s.cwd = some path → ∃ t, '\x00' ∉ t.toList ∧ path = Path.ofString t
  env_sound : s.env.Sound

namespace StepBuilt

variable {scope : Env} {seen : List String} {raw : Value} {s : Step}

theorem textOf_name (h : StepBuilt scope seen raw s) : textOf (raw.get? "name") = s.name := by
  rw [h.name_eq]
  rfl

theorem sound (h : StepBuilt scope seen raw s) : s.Sound := by
  obtain ⟨hlen, hstart, hchars⟩ := isValidName_eq_true_iff.mp h.name_valid
  obtain ⟨c, -, hc⟩ := h.command_eq
  obtain ⟨as, -, hargs⟩ := h.args_eq
  obtain ⟨t, -, hnul, hcwd⟩ := h.cwd_eq
  have hends := stripBlank_ends c
  rw [← hc] at hends
  refine ⟨hlen, hstart, hchars, h.command_ne, hends.1, hends.2, h.command_nul, ?_, ?_,
    resolveOverlay_sound h.env_eq⟩
  · intro a ha
    obtain ⟨x, -, -, hnul⟩ := forall₂_exists_of_mem_right hargs ha
    exact hnul
  · intro path hpath
    rw [hcwd] at hpath
    split at hpath
    · cases hpath
    · cases hpath
      exact ⟨t, hnul, rfl⟩

theorem declared (h : StepBuilt scope seen raw s)
    (hshape : ∀ skvs, raw = .dict skvs → StepShaped skvs) : s.Declared raw := by
  obtain ⟨skvs, rfl⟩ : ∃ skvs, raw = .dict skvs := by
    have hname := h.name_eq
    cases raw with
    | dict skvs => exact ⟨skvs, rfl⟩
    | _ => cases hname
  have hshaped := hshape skvs rfl
  obtain ⟨as, has, hargs⟩ := h.args_eq
  obtain ⟨t, ht, -, hcwd⟩ := h.cwd_eq
  have hcwd_shape : (Value.dict skvs).get? "cwd" = none ∨
      ∃ u, (Value.dict skvs).get? "cwd" = some (.str u) := hshaped.cwd
  rw [Value.orElse_str_empty hcwd_shape, Value.str.injEq] at ht
  subst ht
  refine ⟨h.name_eq, h.command_eq, ?_, ?_, ?_⟩
  · have hargs' := hargs.imp fun _ _ hat => hat.1
    rcases hshaped.args with hnone | ⟨xs, hxs, hscalar⟩
    · have hget : (Value.dict skvs).get? "args" = none := hnone
      rw [Value.elements_orElse_of_list (.inl hget), hget, Except.ok.injEq] at has
      subst has
      exact ⟨[], .inl ⟨hget, rfl⟩, by simp, hargs'⟩
    · have hget : (Value.dict skvs).get? "args" = some (.list xs) := hxs
      rw [Value.elements_orElse_of_list (.inr ⟨xs, hget⟩), hget, Except.ok.injEq] at has
      subst has
      exact ⟨xs, .inr hget, hscalar, hargs'⟩
  · rw [hcwd]
    rcases hcwd_shape with hnone | ⟨u, hu⟩
    · simp [hnone, textOf]
    · simp [hu, textOf]
  · intro path hpath
    rw [hcwd] at hpath
    split at hpath
    · cases hpath
    · cases hpath
      rcases hcwd_shape with hnone | ⟨u, hu⟩
      · simp_all [textOf]
      · exact ⟨u, hu, by simp [hu, textOf]⟩

end StepBuilt

@[simp] theorem plainText_str (t : String) : plainText (.str t) = .ok t := rfl

theorem buildShaped_eq_ok {kvs : List (Value × Value)} {raws : List Value} (hsh : Shaped kvs raws)
    {root : Path} {base : Env} {d : String} {p : Pipeline}
    (h : buildShaped (.dict kvs) root base d = .ok p) :
    ∃ env steps, resolveOverlay base "env" (entriesOf ((Value.dict kvs).get? "env")) = .ok env ∧
      buildSteps (base.overlay env) [] 0 raws = .ok steps ∧
      p = { name := if (textOf ((Value.dict kvs).get? "name")).isEmpty then d
              else textOf ((Value.dict kvs).get? "name"), root, steps, env } := by
  have hsteps : (Value.dict kvs).get? "steps" = some (.list raws) := hsh.steps
  have hname : (Value.dict kvs).get? "name" = none ∨
      ∃ n, (Value.dict kvs).get? "name" = some (.str n) := hsh.name
  simp only [buildShaped, Value.getEntry_dict, except_ok_bind,
    Value.elements_orElse_of_list (.inr ⟨raws, hsteps⟩), Value.orElse_of_text hname d,
    plainText_str] at h
  obtain ⟨ekvs, hekvs, h⟩ := except_bind_eq_ok.mp h
  obtain ⟨env, henv, h⟩ := except_bind_eq_ok.mp h
  obtain ⟨steps, hsteps', h⟩ := except_bind_eq_ok.mp h
  rw [Value.entries_orElse_eq_ok hekvs] at henv
  rw [hsteps] at hsteps'
  cases h
  exact ⟨env, steps, henv, hsteps', rfl⟩

theorem buildPipeline_eq_ok {data : Value} {root : Path} {base : Env} {d : String} {p : Pipeline}
    (h : buildPipeline data root base d = .ok p) :
    shapeErrors data = [] ∧ buildShaped data root base d = .ok p := by
  unfold buildPipeline at h
  split at h
  · cases h
  · cases h
  · split at h <;> cases h
  · next hbest => exact ⟨bestShapeError_eq_ok_none hbest, h⟩

theorem textOf_name_eq (v : Option Value) (d : String) :
    (if (textOf v).isEmpty then d else textOf v) = match v with
      | some (.str n) => if n = "" then d else n
      | _ => d := by
  rcases v with _ | v
  · rfl
  · cases v <;> simp [textOf]

/-- How a built pipeline reads its description: one step per declared step, in order, each read
from its declaration; the declared name unless it is missing or empty; and the given root. -/
structure Pipeline.Declared (data : Value) (root : Path) (d : String) (p : Pipeline) : Prop where
  steps_eq : ∃ raws, data.get? "steps" = some (.list raws) ∧
    List.Forall₂ (fun raw s => s.Declared raw) raws p.steps
  name_eq : p.name = match data.get? "name" with
    | some (.str n) => if n = "" then d else n
    | _ => d
  root_eq : p.root = root

/-- A pipeline the system can run: distinct step names, every step sound, and a sound
environment. -/
structure Pipeline.Sound (p : Pipeline) : Prop where
  names_nodup : (p.steps.map (·.name)).Nodup
  steps_sound : ∀ s ∈ p.steps, s.Sound
  env_sound : p.env.Sound

/-- A pipeline built from any document is read from it step by step, in the declared order, and
is sound: every check that a step or an environment entry passes holds of what was built. -/
theorem buildPipeline_sound {data : Value} {root : Path} {base : Env} {d : String}
    {p : Pipeline} (h : buildPipeline data root base d = .ok p) :
    p.Declared data root d ∧ p.Sound := by
  obtain ⟨hshape, h⟩ := buildPipeline_eq_ok h
  obtain ⟨kvs, raws, rfl, hsh⟩ := shaped_of_shapeErrors hshape
  obtain ⟨env, steps, henv, hsteps, rfl⟩ := buildShaped_eq_ok hsh h
  have hget : (Value.dict kvs).get? "steps" = some (.list raws) := hsh.steps
  obtain ⟨built, rfl, hbuilt⟩ := buildSteps_eq_ok hsteps
  have hpairs := hbuilt.forall₂
  refine ⟨⟨⟨raws, hget, ?_⟩, textOf_name_eq _ d, rfl⟩, ⟨?_, ?_, resolveOverlay_sound henv⟩⟩
  · have hshaped : ∀ raw ∈ raws, ∀ skvs, raw = .dict skvs → StepShaped skvs :=
      fun raw hraw skvs hd => hsh.step_of_dict hraw hd
    exact ((List.forall₂_and_left _ _).mpr ⟨hshaped, hpairs⟩).imp
      fun _ _ hrs => hrs.2.elim fun _ hs => hs.declared hrs.1
  · simpa using hbuilt.names_nodup.1
  · intro s hs
    obtain ⟨raw, -, _, hs⟩ := forall₂_exists_of_mem_right hpairs (by simpa using hs)
    exact hs.sound

theorem buildPipeline_sound_on_two_steps :
    ∃ p, buildPipeline (.dict [(.str "name", .str "ci"), (.str "steps", .list [
          .dict [(.str "name", .str "build"), (.str "command", .str " make all "),
            (.str "args", .list [.bool true, .int 3]), (.str "cwd", .str "src")],
          .dict [(.str "name", .str "test"), (.str "command", .str "make test")]])])
        (Path.ofString "/repo") Env.empty "pipeline" = .ok p ∧
      p.Declared (.dict [(.str "name", .str "ci"), (.str "steps", .list [
          .dict [(.str "name", .str "build"), (.str "command", .str " make all "),
            (.str "args", .list [.bool true, .int 3]), (.str "cwd", .str "src")],
          .dict [(.str "name", .str "test"), (.str "command", .str "make test")]])])
        (Path.ofString "/repo") "pipeline" ∧ p.Sound := by
  obtain ⟨p, hp⟩ := exists_eq_ok_of_isOk (by decide +kernel :
    (buildPipeline (.dict [(.str "name", .str "ci"), (.str "steps", .list [
          .dict [(.str "name", .str "build"), (.str "command", .str " make all "),
            (.str "args", .list [.bool true, .int 3]), (.str "cwd", .str "src")],
          .dict [(.str "name", .str "test"), (.str "command", .str "make test")]])])
        (Path.ofString "/repo") Env.empty "pipeline").isOk = true)
  exact ⟨p, hp, buildPipeline_sound hp⟩

end BuildGate
