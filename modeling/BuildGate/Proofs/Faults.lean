import Mathlib
import BuildGate.Proofs.Build
import BuildGate.Proofs.Json

namespace BuildGate

def faultOf {ε α : Type} : Except ε α → Option ε
  | .error e => some e
  | .ok _ => none

section Fault

variable {ε ε' α β : Type}

@[simp] theorem faultOf_ok (a : α) : faultOf (.ok a : Except ε α) = none := rfl

@[simp] theorem faultOf_error (e : ε) : faultOf (.error e : Except ε α) = some e := rfl

@[simp] theorem faultOf_throw (e : ε) : faultOf (throw e : Except ε α) = some e := rfl

@[simp] theorem faultOf_throw_bind (e : ε) (f : α → Except ε β) :
    faultOf (throw e >>= f) = some e := rfl

@[simp] theorem faultOf_error_bind (e : ε) (f : α → Except ε β) :
    faultOf (Except.error e >>= f) = some e := rfl

@[simp] theorem faultOf_ok_bind (a : α) (f : α → Except ε β) :
    faultOf (Except.ok a >>= f) = faultOf (f a) := rfl

theorem faultOf_bind_eq {x : Except ε α} {f : α → Except ε β} {F G : Option ε'} {c : ε' → ε}
    (hx : faultOf x = F.map c) (hf : ∀ a, x = .ok a → faultOf (f a) = G.map c) :
    faultOf (x >>= f) = (F.or G).map c := by
  cases x with
  | error e =>
    obtain ⟨e', hF, rfl⟩ := Option.map_eq_some_iff.mp hx.symm
    simp [hF]
  | ok a =>
    have hF : F = none := Option.map_eq_none_iff.mp hx.symm
    simp [hF, hf a rfl]

@[simp] theorem faultOf_bind_pure (x : Except ε α) (g : α → β) :
    faultOf (x >>= fun a => pure (g a)) = faultOf x := by
  cases x <;> rfl

theorem findSome?_cons_or {γ δ : Type} (g : γ → Option δ) (x : γ) (xs : List γ) :
    (x :: xs).findSome? g = (g x).or (xs.findSome? g) := by
  rw [List.findSome?_cons]
  cases g x <;> rfl

theorem faultOf_map (f : α → β) (x : Except ε α) : faultOf (f <$> x) = faultOf x := by
  cases x <;> rfl

theorem faultOf_mapM {f : α → Except ε β} {g : α → Option ε'} {c : ε' → ε} (xs : List α)
    (h : ∀ x ∈ xs, faultOf (f x) = (g x).map c) : faultOf (xs.mapM f) = (xs.findSome? g).map c := by
  induction xs with
  | nil => rfl
  | cons x xs ih =>
    rw [List.mapM_cons, findSome?_cons_or]
    refine faultOf_bind_eq (h x List.mem_cons_self) fun y _ => ?_
    rw [faultOf_bind_pure]
    exact ih fun z hz => h z (List.mem_cons_of_mem x hz)

theorem mapM_eq_ok_filterMap {f : α → Except ε β} {xs : List α} {ys : List β}
    (h : xs.mapM f = .ok ys) : xs.filterMap (fun x => (f x).toOption) = ys := by
  induction xs generalizing ys with
  | nil =>
    cases h
    rfl
  | cons x xs ih =>
    rw [List.mapM_cons] at h
    obtain ⟨y, hy, h⟩ := except_bind_eq_ok.mp h
    obtain ⟨zs, hzs, h⟩ := except_bind_eq_ok.mp h
    cases h
    rw [List.filterMap_cons, hy, ← ih hzs]
    rfl

end Fault

def scalarString : Value → String
  | .bool b => if b then "true" else "false"
  | v => v.text

theorem scalarText_of_short {v : Value} (h : v.holdsLongInt = false) :
    scalarText v = .ok (scalarString v) := by
  cases v <;> simp_all [scalarText, scalarString, plainText]

theorem plainText_of_short {v : Value} (h : v.holdsLongInt = false) : plainText v = .ok v.text := by
  simp [plainText, h]

def nulFault (place s : String) : Option ConfigError :=
  if '\x00' ∈ s.toList then some (.nulByte place) else none

theorem faultOf_checkNul (place s : String) :
    faultOf (checkNul place s) = (nulFault place s).map .config := by
  unfold checkNul nulFault
  by_cases h : '\x00' ∈ s.toList <;> simp [h]

def entryFault (scope : Env) (place : String) (kv : Value × Value) : Option ConfigError :=
  if isEnvName kv.1.text then
    match expandRefs scope (scalarString kv.2) (place ++ "." ++ kv.1.text) with
    | .error e => some e
    | .ok value => nulFault (place ++ "." ++ kv.1.text) value
  else some (.badEnvName place kv.1.text)

theorem resolvePair_fault {scope : Env} {place : String} {kv : Value × Value}
    (hk : kv.1.holdsLongInt = false) (hv : kv.2.holdsLongInt = false) :
    faultOf (resolvePair scope place kv) = (entryFault scope place kv).map .config := by
  simp only [resolvePair, entryFault]
  rw [plainText_of_short hk, faultOf_ok_bind]
  by_cases hname : isEnvName kv.1.text = true
  · simp only [hname, Bool.not_true, Bool.false_eq_true, if_false, if_true]
    rw [scalarText_of_short hv, faultOf_ok_bind]
    cases hexp : expandRefs scope (scalarString kv.2) (place ++ "." ++ kv.1.text) with
    | error e => rfl
    | ok value =>
      dsimp only [Except.mapError]
      rw [faultOf_ok_bind, faultOf_bind_pure, faultOf_checkNul]
  · simp [hname]

theorem resolveOverlay_fault {scope : Env} {place : String} {raw : List (Value × Value)}
    (h : ∀ kv ∈ raw, kv.1.holdsLongInt = false ∧ kv.2.holdsLongInt = false) :
    faultOf (resolveOverlay scope place raw) =
      (raw.findSome? (entryFault scope place)).map .config := by
  rw [resolveOverlay_eq, faultOf_map]
  exact faultOf_mapM raw fun kv hkv => resolvePair_fault (h kv hkv).1 (h kv hkv).2

theorem resolveOverlay_eq_ofList {scope : Env} {place : String} {raw : List (Value × Value)}
    {e : Env} (h : resolveOverlay scope place raw = .ok e) :
    e = Env.ofList (raw.filterMap fun kv => (resolvePair scope place kv).toOption) := by
  obtain ⟨pairs, hpairs, rfl⟩ := resolveOverlay_eq_ok h
  rw [mapM_eq_ok_filterMap hpairs]

theorem get?_short {v x : Value} {key : String} (hv : v.holdsLongInt = false)
    (h : v.get? key = some x) : x.holdsLongInt = false := by
  cases v with
  | dict kvs =>
    simp only [Value.get?, Value.lookupEntry] at h
    obtain ⟨kv, hfind, rfl⟩ := Option.map_eq_some_iff.mp h
    exact (Value.entriesHoldLongInt_eq_false_iff.mp hv kv (List.mem_of_find?_eq_some hfind)).2
  | _ => cases h

theorem entriesOf_short {o : Option Value} (ho : ∀ v, o = some v → v.holdsLongInt = false) :
    ∀ kv ∈ entriesOf o, kv.1.holdsLongInt = false ∧ kv.2.holdsLongInt = false := by
  intro kv hkv
  rcases o with _ | v
  · simp [entriesOf] at hkv
  · cases v <;> simp only [entriesOf, List.not_mem_nil] at hkv
    exact Value.entriesHoldLongInt_eq_false_iff.mp (ho _ rfl) kv hkv

theorem itemsOf_short {o : Option Value} (ho : ∀ v, o = some v → v.holdsLongInt = false) :
    ∀ x ∈ itemsOf o, x.holdsLongInt = false := by
  intro x hx
  rcases o with _ | v
  · simp [itemsOf] at hx
  · cases v <;> simp only [itemsOf, List.not_mem_nil] at hx
    exact Value.anyHoldsLongInt_eq_false_iff.mp (ho _ rfl) x hx

def stepPlace (i : Nat) (name : String) : String :=
  "steps[" ++ toString i ++ "] (" ++ name ++ ")"

def stepFault (scope : Env) (seen : List String) (i : Nat) (raw : Value) : Option ConfigError :=
  let name := textOf (raw.get? "name")
  let command := stripBlank (textOf (raw.get? "command"))
  [if isValidName name then none else some (.badStepName i name),
    if name ∈ seen then some (.duplicateStep i name) else none,
    nulFault (stepPlace i name ++ ".command") command,
    if command = "" then some (.emptyCommand i name) else none,
    (itemsOf (raw.get? "args")).zipIdx.findSome? fun a =>
      nulFault (stepPlace i name ++ ".args[" ++ toString a.2 ++ "]") (scalarString a.1),
    nulFault (stepPlace i name ++ ".cwd") (textOf (raw.get? "cwd")),
    (entriesOf (raw.get? "env")).findSome? (entryFault scope (name ++ ".env"))].findSome? id

theorem Value.IsJson.get? {v x : Value} {key : String} (hj : v.IsJson) (h : v.get? key = some x) :
    x.IsJson := by
  cases v with
  | dict kvs =>
    simp only [Value.get?, Value.lookupEntry] at h
    obtain ⟨kv, hfind, rfl⟩ := Option.map_eq_some_iff.mp h
    exact (hj.of_entry (List.mem_of_find?_eq_some hfind)).2
  | _ => cases h

theorem dict_of_json {kvs : List (Value × Value)} {key : String} (hj : (Value.dict kvs).IsJson)
    (h : ∀ v, Value.lookupEntry kvs (.str key) = some v → v.isRecur = false →
      ∃ ekvs, v = .dict ekvs) :
    (Value.dict kvs).get? key = none ∨ ∃ ekvs, (Value.dict kvs).get? key = some (.dict ekvs) := by
  cases hl : Value.lookupEntry kvs (.str key) with
  | none => exact .inl hl
  | some v =>
    obtain ⟨ekvs, rfl⟩ := h v hl (hj.get? hl).isRecur_eq_false
    exact .inr ⟨ekvs, hl⟩

theorem buildStep_fault {scope : Env} {seen : List String} {i : Nat} {skvs : List (Value × Value)}
    (hsh : StepShaped skvs) (hj : (Value.dict skvs).IsJson) :
    faultOf (buildStep scope seen i (.dict skvs)) =
      (stepFault scope seen i (.dict skvs)).map .config := by
  have hraw := hj.holdsLongInt_eq_false
  have hargs : ∀ a ∈ itemsOf ((Value.dict skvs).get? "args"), a.holdsLongInt = false :=
    itemsOf_short fun v hv => get?_short hraw hv
  have henv : ∀ kv ∈ entriesOf ((Value.dict skvs).get? "env"),
      kv.1.holdsLongInt = false ∧ kv.2.holdsLongInt = false :=
    entriesOf_short fun v hv => get?_short hraw hv
  -- the shape check leaves every read of the declaration one that succeeds
  obtain ⟨n, hn⟩ := hsh.name
  obtain ⟨c, hc⟩ := hsh.command
  have hname : (Value.dict skvs).get? "name" = some (.str n) := hn
  have hcommand : (Value.dict skvs).get? "command" = some (.str c) := hc
  have hargs_list : (Value.dict skvs).get? "args" = none ∨
      ∃ xs, (Value.dict skvs).get? "args" = some (.list xs) :=
    hsh.args.imp_right fun ⟨xs, hxs, _⟩ => ⟨xs, hxs⟩
  have hcwd_text : (Value.dict skvs).get? "cwd" = none ∨
      ∃ t, (Value.dict skvs).get? "cwd" = some (.str t) := hsh.cwd
  have henv_dict := dict_of_json hj hsh.env
  simp only [buildStep, stepFault, stepPlace, Value.item_dict hn, Value.item_dict hc,
    Value.asText_str, Value.stripped_str, Value.getEntry_dict, except_ok_bind,
    Value.elements_orElse_of_list hargs_list, Value.orElse_str_empty hcwd_text,
    Value.holdsNul_str, Value.entries_orElse_of_dict henv_dict, Value.pathText_str, hname,
    hcommand, textOf_str, List.contains_iff_mem]
  by_cases hvalid : isValidName n = true
  swap
  · simp [hvalid]
  by_cases hseen : n ∈ seen
  · simp [hvalid, hseen]
  by_cases hcnul : '\x00' ∈ (stripBlank c).toList
  · simp [hvalid, hseen, hcnul, checkNul, nulFault]
  by_cases hempty : stripBlank c = ""
  · simp [hvalid, hseen, hempty, checkNul, nulFault]
  have hcmd : ∀ place, checkNul place (stripBlank c) = .ok (stripBlank c) :=
    fun place => by simp [checkNul, hcnul]
  have hnul : ∀ place, nulFault place (stripBlank c) = none := fun place => by simp [nulFault, hcnul]
  simp only [hvalid, hseen, hempty, hcmd, hnul, Bool.not_true, Bool.false_eq_true, if_false,
    if_true, except_ok_bind, String.isEmpty_iff, findSome?_cons_or, id,
    Option.none_or, List.findSome?_nil, Option.or_none]
  refine faultOf_bind_eq (faultOf_mapM _ fun a ha => ?_) fun args _ => ?_
  · rw [scalarText_of_short (hargs a.1 (List.fst_mem_of_mem_zipIdx ha)), faultOf_ok_bind,
      faultOf_checkNul]
  · by_cases hwnul : '\x00' ∈ (textOf ((Value.dict skvs).get? "cwd")).toList
    · simp [hwnul, nulFault]
    · simp only [hwnul, nulFault, if_false, Option.none_or, faultOf_bind_pure]
      exact resolveOverlay_fault henv

def stepsFault (scope : Env) (seen : List String) (i : Nat) : List Value → Option ConfigError
  | [] => none
  | raw :: raws =>
    (stepFault scope seen i raw).or (stepsFault scope (textOf (raw.get? "name") :: seen) (i + 1) raws)

theorem buildSteps_fault {scope : Env} {acc : List Step} {i : Nat} {raws : List Value}
    (h : ∀ raw ∈ raws, ∃ skvs, raw = .dict skvs ∧ StepShaped skvs ∧ raw.IsJson) :
    faultOf (buildSteps scope acc i raws) = (stepsFault scope (acc.map (·.name)) i raws).map .config := by
  induction raws generalizing acc i with
  | nil => rfl
  | cons raw raws ih =>
    obtain ⟨skvs, rfl, hsh, hj⟩ := h _ List.mem_cons_self
    simp only [buildSteps, stepsFault]
    refine faultOf_bind_eq (buildStep_fault hsh hj) fun s hs => ?_
    rw [ih fun r hr => h r (List.mem_cons_of_mem _ hr), List.map_cons,
      (buildStep_eq_ok hs).textOf_name]

def descriptionFault (data : Value) (base : Env) : Option ConfigError :=
  ((entriesOf (data.get? "env")).findSome? (entryFault base "env")).or
    (stepsFault (base.overlay (Env.ofList ((entriesOf (data.get? "env")).filterMap fun kv =>
      (resolvePair base "env" kv).toOption))) [] 0 (itemsOf (data.get? "steps")))

theorem buildShaped_fault {kvs : List (Value × Value)} {raws : List Value} (hsh : Shaped kvs raws)
    (hj : (Value.dict kvs).IsJson) {root : Path} {base : Env} {d : String} :
    faultOf (buildShaped (.dict kvs) root base d) =
      (descriptionFault (.dict kvs) base).map .config := by
  have henv : ∀ kv ∈ entriesOf ((Value.dict kvs).get? "env"),
      kv.1.holdsLongInt = false ∧ kv.2.holdsLongInt = false :=
    entriesOf_short fun v hv => get?_short hj.holdsLongInt_eq_false hv
  have hsteps : (Value.dict kvs).get? "steps" = some (.list raws) := hsh.steps
  have hname : (Value.dict kvs).get? "name" = none ∨
      ∃ n, (Value.dict kvs).get? "name" = some (.str n) := hsh.name
  have hraws : ∀ raw ∈ raws, ∃ skvs, raw = .dict skvs ∧ StepShaped skvs ∧ raw.IsJson := by
    intro raw hraw
    have hjr : raw.IsJson := by
      cases hj.get? hsteps with
      | list _ hitems => exact hitems raw hraw
    obtain ⟨skvs, rfl, hs⟩ := hsh.step raw hraw hjr.isRecur_eq_false
    exact ⟨skvs, rfl, hs, hjr⟩
  simp only [buildShaped, descriptionFault, Value.getEntry_dict, except_ok_bind,
    Value.entries_orElse_of_dict (dict_of_json hj hsh.env),
    Value.elements_orElse_of_list (.inr ⟨raws, hsteps⟩), Value.orElse_of_text hname d,
    plainText_str]
  refine faultOf_bind_eq (resolveOverlay_fault henv) fun env henv' => ?_
  rw [resolveOverlay_eq_ofList henv', faultOf_bind_pure, hsteps]
  exact buildSteps_fault hraws

def schemaFault (data : Value) : Option ConfigError :=
  match bestShapeError (shapeErrors data) with
  | .ok (some e) => some (.schema e.location e.detail)
  | _ => none

/-- Building a pipeline from a JSON document fails exactly when one of its checks fails, and
then with a configuration error, that of the first check to fail: the shape check first, then
the environment entries in order, then the steps in order, each step's own checks in order. -/
theorem buildPipeline_fault_is_first_failed_check {data : Value} (hj : data.IsJson) (root : Path)
    (base : Env) (d : String) :
    faultOf (buildPipeline data root base d) =
      ((schemaFault data).or (descriptionFault data base)).map .config := by
  obtain ⟨r, hr, -, hshort⟩ := bestShapeError_of_json hj
  unfold buildPipeline schemaFault
  rw [hr]
  cases r with
  | none =>
    obtain ⟨kvs, raws, rfl, hsh⟩ := shaped_of_shapeErrors (bestShapeError_eq_ok_none hr)
    exact buildShaped_fault hsh hj
  | some e => simp [hshort e rfl]

theorem buildPipeline_fault_on_repeated_name :
    (Value.object [("env", .object [("MODE", .str "ci")]), ("steps", .list [
        .object [("name", .str "build"), ("command", .str "make")],
        .object [("name", .str "build"), ("command", .str "make test")]])]).IsJson ∧
      faultOf (buildPipeline (Value.object [("env", .object [("MODE", .str "ci")]),
          ("steps", .list [.object [("name", .str "build"), ("command", .str "make")],
            .object [("name", .str "build"), ("command", .str "make test")]])])
          (Path.ofString "/repo") Env.empty "pipeline") =
        ((schemaFault (Value.object [("env", .object [("MODE", .str "ci")]),
          ("steps", .list [.object [("name", .str "build"), ("command", .str "make")],
            .object [("name", .str "build"), ("command", .str "make test")]])])).or
          (descriptionFault (Value.object [("env", .object [("MODE", .str "ci")]),
            ("steps", .list [.object [("name", .str "build"), ("command", .str "make")],
              .object [("name", .str "build"), ("command", .str "make test")]])])
            Env.empty)).map .config := by
  have hstep : ∀ c : String,
      (Value.object [("name", .str "build"), ("command", .str c)]).IsJson := fun c => by
    refine .object (by simp) ?_
    simp only [List.mem_cons, List.not_mem_nil, or_false, forall_eq_or_imp, forall_eq]
    exact ⟨.str _, .str _⟩
  have hj : (Value.object [("env", .object [("MODE", .str "ci")]), ("steps", .list [
      .object [("name", .str "build"), ("command", .str "make")],
      .object [("name", .str "build"), ("command", .str "make test")]])]).IsJson := by
    refine .object (by decide) ?_
    simp only [List.mem_cons, List.not_mem_nil, or_false, forall_eq_or_imp, forall_eq]
    refine ⟨.object (by decide) ?_, .list (by decide +kernel) ?_⟩
    · simp only [List.mem_cons, List.not_mem_nil, or_false, forall_eq]
      exact .str _
    · simp only [List.mem_cons, List.not_mem_nil, or_false, forall_eq_or_imp, forall_eq]
      exact ⟨hstep _, hstep _⟩
  exact ⟨hj, buildPipeline_fault_is_first_failed_check hj _ _ _⟩

/-- An argument that is an integer too long to become text makes the build fail with an error
that is not a configuration error. -/
theorem buildPipeline_fails_on_long_int_argument :
    (match buildPipeline (.dict [(.str "steps", .list [.dict [(.str "name", .str "a"),
        (.str "command", .str "x"), (.str "args", .list [.int (16 ^ 4000 - 1)])]])])
        (Path.ofString "/repo") Env.empty "pipeline" with
      | .ok _ => none
      | .error f => some (f.kind, f.message)) = some ("ValueError", Value.longIntMessage) := by
  decide +kernel

end BuildGate
