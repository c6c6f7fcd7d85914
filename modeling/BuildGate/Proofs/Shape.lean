import BuildGate.Pipeline.Shape

namespace BuildGate

namespace Value

/-- Whether a value stands for a list or mapping above it. -/
def isRecur : Value → Bool
  | .recur _ => true
  | _ => false

theorem nodeAt_append (root : Value) (spot : List Nat) (i : Nat) :
    root.nodeAt (spot ++ [i]) = ((root.nodeAt spot).children[i]?).getD .null := by
  induction spot generalizing root with
  | nil =>
    simp only [List.nil_append, nodeAt]
    cases root.children[i]? <;> rfl
  | cons j rest ih =>
    simp only [List.cons_append, nodeAt]
    cases root.children[j]? with
    | none => simp [children]
    | some c => exact ih c

theorem nodeAt_append_of_getElem? {root : Value} {spot : List Nat} {i : Nat} {c : Value}
    (h : (root.nodeAt spot).children[i]? = some c) : root.nodeAt (spot ++ [i]) = c := by
  rw [nodeAt_append, h]
  rfl

theorem follow_of_not_recur {root : Value} {spot : List Nat} {i : Nat} {c : Value}
    (h : (root.nodeAt spot).children[i]? = some c) (hc : c.isRecur = false) :
    root.follow spot i = spot ++ [i] := by
  unfold follow
  rw [h]
  cases c <;> simp_all [isRecur]

theorem follow_of_recur {root : Value} {spot : List Nat} {i d : Nat}
    (h : (root.nodeAt spot).children[i]? = some (.recur d)) :
    root.follow spot i = spot.take (spot.length - d) := by
  unfold follow
  rw [h]

/-- A spot reached from the root by steps into children that are themselves lists, mappings or
values, never references back up. -/
def Opened (root : Value) (spot : List Nat) : Prop :=
  ∀ k (hk : k < spot.length), ∃ c, (root.nodeAt (spot.take k)).children[spot[k]]? = some c ∧
    c.isRecur = false

theorem opened_nil (root : Value) : Opened root [] := by
  intro k hk
  simp at hk

theorem Opened.append {root : Value} {spot : List Nat} {i : Nat} {c : Value}
    (hs : Opened root spot) (h : (root.nodeAt spot).children[i]? = some c)
    (hc : c.isRecur = false) : Opened root (spot ++ [i]) := by
  intro k hk
  rw [List.length_append, List.length_singleton] at hk
  by_cases hlt : k < spot.length
  · obtain ⟨c', hc', hr⟩ := hs k hlt
    refine ⟨c', ?_, hr⟩
    rw [List.take_append_of_le_length (Nat.le_of_lt hlt), List.getElem_append_left hlt]
    exact hc'
  · have hk' : k = spot.length := by omega
    subst hk'
    refine ⟨c, ?_, hc⟩
    simpa using h

theorem Opened.children_ne_nil {root : Value} {spot : List Nat} {i : Nat}
    (hs : Opened root spot) (hi : i < (root.nodeAt spot).children.length) {m : Nat}
    (hm : m ≤ spot.length) : (root.nodeAt (spot.take m)).children ≠ [] := by
  rcases Nat.lt_or_eq_of_le hm with hlt | rfl
  · obtain ⟨c, hc, _⟩ := hs m hlt
    intro hnil
    rw [hnil] at hc
    simp at hc
  · rw [List.take_length]
    intro hnil
    rw [hnil] at hi
    simp at hi

theorem Opened.recur_target {root : Value} {spot : List Nat} {i d : Nat} (hs : Opened root spot)
    (h : (root.nodeAt spot).children[i]? = some (.recur d)) :
    (root.nodeAt (root.follow spot i)).children ≠ [] ∧
      ∃ j, j < (root.nodeAt (root.follow spot i)).children.length ∧
        (root.nodeAt (root.follow (root.follow spot i) j)).children ≠ [] := by
  have hi : i < (root.nodeAt spot).children.length := (List.getElem?_eq_some_iff.mp h).1
  rw [follow_of_recur h]
  have hm : spot.length - d ≤ spot.length := Nat.sub_le _ _
  refine ⟨hs.children_ne_nil hi hm, ?_⟩
  rcases Nat.lt_or_eq_of_le hm with hlt | heq
  · obtain ⟨c, hc, hcr⟩ := hs _ hlt
    refine ⟨spot[spot.length - d], (List.getElem?_eq_some_iff.mp hc).1, ?_⟩
    rw [follow_of_not_recur hc hcr, ← List.take_succ_eq_append_getElem hlt]
    exact hs.children_ne_nil hi (by omega)
  · rw [heq, List.take_length]
    refine ⟨i, hi, ?_⟩
    rw [follow_of_recur h]
    exact hs.children_ne_nil hi hm

end Value

theorem isScalar_eq_false_of_children {v : Value} (h : v.children ≠ []) : isScalar v = false := by
  cases v <;> simp_all [isScalar, Value.children]

theorem find?_eq_getElem?_of_findIdx? {α : Type} {xs : List α} {p : α → Bool} {i : Nat}
    (h : xs.findIdx? p = some i) : xs.find? p = xs[i]? := by
  induction xs generalizing i with
  | nil => simp at h
  | cons x xs ih =>
    rw [List.findIdx?_cons] at h
    by_cases hx : p x
    · simp only [hx, if_true, Option.some.injEq] at h
      subst h
      simp [hx]
    · simp only [hx, Bool.false_eq_true, if_false, Option.map_eq_some_iff] at h
      obtain ⟨j, hj, rfl⟩ := h
      simp [hx, ih hj]

namespace Place

/-- The value of the `i`-th child of a place, when that child is no reference. -/
theorem child_value {p : Place} {i : Nat} {c : Value} (steps : List Value)
    (h : p.value.children[i]? = some c) (hc : c.isRecur = false) : (p.child i steps).value = c := by
  simp only [child, value] at h ⊢
  rw [Value.follow_of_not_recur h hc]
  exact Value.nodeAt_append_of_getElem? h

theorem child_opened {p : Place} {i : Nat} {c : Value} (steps : List Value)
    (hp : Value.Opened p.root p.spot) (h : p.value.children[i]? = some c)
    (hc : c.isRecur = false) : Value.Opened (p.child i steps).root (p.child i steps).spot := by
  simp only [child, value] at h ⊢
  rw [Value.follow_of_not_recur h hc]
  exact hp.append h hc

theorem entry_eq {p : Place} {kvs : List (Value × Value)} (hp : p.value = .dict kvs) {key : String}
    {v : Value} (hv : Value.lookupEntry kvs (.str key) = some v)
    (check : Place → List ShapeError) :
    ∃ i k, kvs[i]? = some (k, v) ∧ p.entry key check = check (p.child i [.str key]) := by
  obtain ⟨kv, hfind, rfl⟩ := Option.map_eq_some_iff.mp hv
  obtain ⟨i, hi⟩ : ∃ i, kvs.findIdx? (fun e => Value.sameKey e.1 (.str key)) = some i := by
    cases hidx : kvs.findIdx? (fun e => Value.sameKey e.1 (.str key)) with
    | some i => exact ⟨i, rfl⟩
    | none =>
      rw [List.findIdx?_eq_none_iff] at hidx
      exact absurd (List.find?_some hfind) (by simpa using hidx kv (List.mem_of_find?_eq_some hfind))
  have hget : kvs[i]? = some kv := (find?_eq_getElem?_of_findIdx? hi).symm.trans hfind
  refine ⟨i, kv.1, by simpa using hget, ?_⟩
  simp only [entry, hp, hi]

theorem recur_errors {p : Place} {i d : Nat} (steps : List Value) (hp : Value.Opened p.root p.spot)
    (h : p.value.children[i]? = some (.recur d)) :
    textErrors (p.child i steps) ≠ [] ∧ scalarErrors (p.child i steps) ≠ [] ∧
      argsErrors (p.child i steps) ≠ [] := by
  obtain ⟨hne, j, hj, hchild⟩ := hp.recur_target h
  have hval : (p.child i steps).value.children ≠ [] := hne
  refine ⟨?_, ?_, ?_⟩
  · unfold textErrors
    split
    · next s hs => simp [hs, Value.children] at hval
    · simp
  · simp [scalarErrors, isScalar_eq_false_of_children hval]
  · unfold argsErrors
    split
    · next xs hxs =>
      have hj' : j < (p.child i steps).value.children.length := hj
      have hjx : j < xs.length := by simpa [hxs, Value.children] using hj'
      have hsc : scalarErrors ((p.child i steps).child j [.int j]) ≠ [] := by
        simp only [scalarErrors, value, child] at hchild ⊢
        simp [isScalar_eq_false_of_children hchild]
      intro hnil
      exact hsc (List.flatMap_eq_nil_iff.mp hnil _ (List.mem_range.mpr hjx))
    · simp

theorem children_dict {p : Place} {kvs : List (Value × Value)} (hp : p.value = .dict kvs) {i : Nat}
    {k v : Value} (h : kvs[i]? = some (k, v)) : p.value.children[i]? = some v := by
  simp [hp, Value.children, h]

theorem children_list {p : Place} {xs : List Value} (hp : p.value = .list xs) {i : Nat}
    {x : Value} (h : xs[i]? = some x) : p.value.children[i]? = some x := by
  simp [hp, Value.children, h]

end Place

theorem text_of_entry {p : Place} (hp : Value.Opened p.root p.spot) {kvs : List (Value × Value)}
    (hv : p.value = .dict kvs) {key : String} {v : Value}
    (hl : Value.lookupEntry kvs (.str key) = some v) (h : p.entry key textErrors = []) :
    ∃ t, v = .str t := by
  obtain ⟨i, k, hi, he⟩ := Place.entry_eq hv hl textErrors
  rw [he] at h
  have hget := Place.children_dict hv hi
  cases hr : v.isRecur with
  | true =>
    obtain ⟨d, rfl⟩ : ∃ d, v = .recur d := by cases v <;> simp_all [Value.isRecur]
    exact absurd h (Place.recur_errors _ hp hget).1
  | false =>
    have hval := Place.child_value [.str key] hget hr
    cases v with
    | str t => exact ⟨t, rfl⟩
    | _ => simp [textErrors, hval] at h

theorem scalars_of_argsErrors {p : Place} (hp : Value.Opened p.root p.spot) {xs : List Value}
    (hv : p.value = .list xs) (h : argsErrors p = []) : ∀ a ∈ xs, isScalar a = true := by
  intro a ha
  obtain ⟨m, hm, rfl⟩ := List.getElem_of_mem ha
  have hget : p.value.children[m]? = some xs[m] := Place.children_list hv (by simp [hm])
  have hsc : scalarErrors (p.child m [.int m]) = [] := by
    unfold argsErrors at h
    rw [hv] at h
    exact List.flatMap_eq_nil_iff.mp h m (List.mem_range.mpr hm)
  cases hr : xs[m].isRecur with
  | true =>
    obtain ⟨d, hd⟩ : ∃ d, xs[m] = .recur d := by
      cases hx : xs[m] <;> simp_all [Value.isRecur]
    exact absurd hsc (Place.recur_errors [.int m] hp (hd ▸ hget)).2.1
  | false =>
    rw [scalarErrors, Place.child_value [.int m] hget hr] at hsc
    cases hs : isScalar xs[m] <;> simp_all

theorem scalars_of_entry {p : Place} (hp : Value.Opened p.root p.spot)
    {kvs : List (Value × Value)} (hv : p.value = .dict kvs) {key : String} {v : Value}
    (hl : Value.lookupEntry kvs (.str key) = some v) (h : p.entry key argsErrors = []) :
    ∃ as, v = .list as ∧ ∀ a ∈ as, isScalar a = true := by
  obtain ⟨i, k, hi, he⟩ := Place.entry_eq hv hl argsErrors
  rw [he] at h
  have hget := Place.children_dict hv hi
  cases hr : v.isRecur with
  | true =>
    obtain ⟨d, rfl⟩ : ∃ d, v = .recur d := by cases v <;> simp_all [Value.isRecur]
    exact absurd h (Place.recur_errors _ hp hget).2.2
  | false =>
    have hval := Place.child_value [.str key] hget hr
    cases v with
    | list as => exact ⟨as, rfl, scalars_of_argsErrors (Place.child_opened _ hp hget hr) hval h⟩
    | _ => simp [argsErrors, hval] at h

theorem dict_of_entry {p : Place} {kvs : List (Value × Value)} (hv : p.value = .dict kvs)
    {key : String} {v : Value} (hl : Value.lookupEntry kvs (.str key) = some v)
    (h : p.entry key envErrors = []) (hr : v.isRecur = false) : ∃ ekvs, v = .dict ekvs := by
  obtain ⟨i, k, hi, he⟩ := Place.entry_eq hv hl envErrors
  rw [he] at h
  have hval := Place.child_value [.str key] (Place.children_dict hv hi) hr
  cases v with
  | dict ekvs => exact ⟨ekvs, rfl⟩
  | _ => simp [envErrors, hval] at h

/-- What the declaration of a step that passes the shape check says: a text name and command,
arguments that are missing or a list of scalars, an environment that is missing or, when no
reference, a mapping, and a directory that is missing or a text. -/
structure StepShaped (skvs : List (Value × Value)) : Prop where
  name : ∃ n, Value.lookupEntry skvs (.str "name") = some (.str n)
  command : ∃ c, Value.lookupEntry skvs (.str "command") = some (.str c)
  args : Value.lookupEntry skvs (.str "args") = none ∨
    ∃ as, Value.lookupEntry skvs (.str "args") = some (.list as) ∧ ∀ a ∈ as, isScalar a = true
  env : ∀ v, Value.lookupEntry skvs (.str "env") = some v → v.isRecur = false →
    ∃ ekvs, v = .dict ekvs
  cwd : Value.lookupEntry skvs (.str "cwd") = none ∨
    ∃ t, Value.lookupEntry skvs (.str "cwd") = some (.str t)

theorem stepShaped_of_stepErrors {p : Place} (hp : Value.Opened p.root p.spot)
    {skvs : List (Value × Value)} (hv : p.value = .dict skvs) (h : stepErrors p = []) :
    StepShaped skvs := by
  unfold stepErrors at h
  rw [hv] at h
  simp only [List.append_eq_nil_iff] at h
  obtain ⟨⟨⟨⟨⟨⟨hname, hcommand⟩, hargs⟩, henv⟩, hcwd⟩, hreq⟩, -⟩ := h
  have hpresent : ∀ k, k = "name" ∨ k = "command" → ∃ v, Value.lookupEntry skvs (.str k) = some v := by
    rintro k (rfl | rfl) <;> cases hl : Value.lookupEntry skvs (.str _) <;> simp_all
  obtain ⟨n, hn⟩ := hpresent "name" (.inl rfl)
  obtain ⟨c, hc⟩ := hpresent "command" (.inr rfl)
  obtain ⟨n, rfl⟩ := text_of_entry hp hv hn hname
  obtain ⟨c, rfl⟩ := text_of_entry hp hv hc hcommand
  refine ⟨⟨n, hn⟩, ⟨c, hc⟩, ?_, fun v hl hr => dict_of_entry hv hl henv hr, ?_⟩
  · cases hl : Value.lookupEntry skvs (.str "args") with
    | none => exact .inl rfl
    | some v => exact .inr (by simpa using scalars_of_entry hp hv hl hargs)
  · cases hl : Value.lookupEntry skvs (.str "cwd") with
    | none => exact .inl rfl
    | some v => exact .inr (by simpa using text_of_entry hp hv hl hcwd)

/-- What a document that passes the shape check is: its steps are a list, each step that is no
reference a mapping in the shape of a step; its name, when given, is a text; and its
environment, when given and no reference, is a mapping. -/
structure Shaped (kvs : List (Value × Value)) (raws : List Value) : Prop where
  steps : Value.lookupEntry kvs (.str "steps") = some (.list raws)
  step : ∀ raw ∈ raws, raw.isRecur = false → ∃ skvs, raw = .dict skvs ∧ StepShaped skvs
  name : Value.lookupEntry kvs (.str "name") = none ∨
    ∃ n, Value.lookupEntry kvs (.str "name") = some (.str n)
  env : ∀ v, Value.lookupEntry kvs (.str "env") = some v → v.isRecur = false →
    ∃ ekvs, v = .dict ekvs

theorem Shaped.step_of_dict {kvs : List (Value × Value)} {raws : List Value} (h : Shaped kvs raws)
    {raw : Value} (hraw : raw ∈ raws) {skvs : List (Value × Value)} (hd : raw = .dict skvs) :
    StepShaped skvs := by
  obtain ⟨skvs', hd', hs⟩ := h.step raw hraw (by rw [hd]; rfl)
  rw [hd] at hd'
  cases hd'
  exact hs

/-- A document that passes the shape check is a mapping in the shape of a description. -/
theorem shaped_of_shapeErrors {data : Value} (h : shapeErrors data = []) :
    ∃ kvs raws, data = .dict kvs ∧ Shaped kvs raws := by
  cases data with
  | dict kvs =>
    let p : Place := ⟨.dict kvs, [], []⟩
    have hv : p.value = .dict kvs := rfl
    unfold shapeErrors at h
    simp only [List.append_eq_nil_iff] at h
    obtain ⟨⟨⟨hname, henv⟩, hsteps⟩, hreq⟩ := h
    obtain ⟨v, hl⟩ : ∃ v, Value.lookupEntry kvs (.str "steps") = some v := by
      cases hl : Value.lookupEntry kvs (.str "steps") with
      | none => simp [hl] at hreq
      | some v => exact ⟨v, rfl⟩
    have htop : (Value.lookupEntry kvs (.str "name") = none ∨
        ∃ n, Value.lookupEntry kvs (.str "name") = some (.str n)) := by
      cases hn : Value.lookupEntry kvs (.str "name") with
      | none => exact .inl rfl
      | some w => exact .inr (by simpa using text_of_entry (Value.opened_nil _) hv hn hname)
    obtain ⟨i, k, hi, he⟩ := Place.entry_eq hv hl stepsErrors
    change p.entry "steps" stepsErrors = [] at hsteps
    rw [he] at hsteps
    have hget := Place.children_dict hv hi
    cases hr : v.isRecur with
    | true =>
      -- a reference among the root's entries can only lead back to the root, a mapping
      obtain ⟨d, rfl⟩ : ∃ d, v = .recur d := by cases v <;> simp_all [Value.isRecur]
      have hroot : (p.child i [.str "steps"]).value = .dict kvs := by
        simp only [Place.child, Place.value]
        rw [Value.follow_of_recur hget]
        simp [p, Value.nodeAt]
      simp [stepsErrors, hroot] at hsteps
    | false =>
      have hval := Place.child_value [.str "steps"] hget hr
      have hopen := Place.child_opened [.str "steps"] (Value.opened_nil _) hget hr
      cases v with
      | list raws =>
        refine ⟨kvs, raws, rfl, hl, ?_, htop, fun w hw hwr => dict_of_entry hv hw henv hwr⟩
        intro raw hraw hrr
        obtain ⟨j, hj, rfl⟩ := List.getElem_of_mem hraw
        have hgetj := Place.children_list hval (i := j) (x := raws[j]) (by simp [hj])
        have hstep : stepErrors ((p.child i [.str "steps"]).child j [.int j]) = [] := by
          unfold stepsErrors at hsteps
          rw [hval] at hsteps
          exact List.flatMap_eq_nil_iff.mp hsteps j (List.mem_range.mpr hj)
        have hvalj := Place.child_value [.int j] hgetj hrr
        cases hraw' : raws[j] with
        | dict skvs =>
          exact ⟨skvs, rfl, stepShaped_of_stepErrors (Place.child_opened _ hopen hgetj hrr)
            (hvalj.trans hraw') hstep⟩
        | _ => simp [stepErrors, hvalj, hraw'] at hstep
      | _ => simp [stepsErrors, hval] at hsteps
  | _ => simp [shapeErrors] at h

end BuildGate
