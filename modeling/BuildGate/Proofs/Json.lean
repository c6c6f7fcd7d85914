import BuildGate.Proofs.Shape
import Mathlib.Data.List.Nodup

namespace BuildGate

namespace Value

/-- A value that a JSON text stands for, as a JSON reader gives it back: null, booleans,
integers of at most `intTextLimit` digits, floats, texts, lists, and mappings whose keys are
distinct texts. A list has fewer than `10 ^ intTextLimit` items, as every list held in memory
has. -/
inductive IsJson : Value → Prop
  | null : IsJson .null
  | bool (b : Bool) : IsJson (.bool b)
  | int {n : Int} : isLongInt n = false → IsJson (.int n)
  | float (x : Float) : IsJson (.float x)
  | str (s : String) : IsJson (.str s)
  | list {xs : List Value} : xs.length < Nat.pow 10 intTextLimit → (∀ x ∈ xs, IsJson x) →
      IsJson (.list xs)
  | object {kvs : List (String × Value)} : (kvs.map (·.1)).Nodup → (∀ kv ∈ kvs, IsJson kv.2) →
      IsJson (object kvs)

theorem anyHoldsLongInt_eq_false_iff {xs : List Value} :
    anyHoldsLongInt xs = false ↔ ∀ x ∈ xs, holdsLongInt x = false := by
  induction xs with
  | nil => simp [anyHoldsLongInt]
  | cons x xs ih => simp [anyHoldsLongInt, ih]

theorem entriesHoldLongInt_eq_false_iff {kvs : List (Value × Value)} :
    entriesHoldLongInt kvs = false ↔ ∀ kv ∈ kvs, kv.1.holdsLongInt = false ∧ kv.2.holdsLongInt = false := by
  induction kvs with
  | nil => simp [entriesHoldLongInt]
  | cons kv kvs ih =>
    obtain ⟨k, v⟩ := kv
    simp [entriesHoldLongInt, ih, and_assoc]

theorem entriesHoldLongInt_object {kvs : List (String × Value)}
    (h : ∀ kv ∈ kvs, holdsLongInt kv.2 = false) :
    entriesHoldLongInt (kvs.map fun p => (.str p.1, p.2)) = false := by
  refine entriesHoldLongInt_eq_false_iff.mpr fun kv hkv => ?_
  obtain ⟨p, hp, rfl⟩ := List.mem_map.mp hkv
  exact ⟨rfl, h p hp⟩

/-- No JSON value writes an integer too long to become text. -/
theorem IsJson.holdsLongInt_eq_false {v : Value} (h : v.IsJson) : v.holdsLongInt = false := by
  induction h with
  | int hn => exact hn
  | list _ _ ih => exact anyHoldsLongInt_eq_false_iff.mpr ih
  | object _ _ ih => exact entriesHoldLongInt_object ih
  | _ => rfl

theorem IsJson.mem_object {kvs : List (String × Value)} {k v : Value}
    (h : (k, v) ∈ kvs.map fun p => (Value.str p.1, p.2)) : ∃ s, k = .str s ∧ (s, v) ∈ kvs := by
  obtain ⟨⟨s, w⟩, hmem, heq⟩ := List.mem_map.mp h
  simp only [Prod.mk.injEq] at heq
  obtain ⟨rfl, rfl⟩ := heq
  exact ⟨s, rfl, hmem⟩

/-- `path` leads from `root` to `node`: through the key of an entry of a mapping, or the index
of an item of a list, at each step. -/
inductive At : Value → List Value → Value → Prop
  | here (v : Value) : At v [] v
  | entry {kvs : List (Value × Value)} {k v : Value} {path : List Value} {node : Value} :
      (k, v) ∈ kvs → At v path node → At (.dict kvs) (k :: path) node
  | item {xs : List Value} {i : Nat} {x : Value} {path : List Value} {node : Value} :
      xs[i]? = some x → At x path node → At (.list xs) (.int i :: path) node

namespace At

theorem snoc_entry {root node : Value} {path : List Value} {kvs : List (Value × Value)}
    (h : At root path node) (hn : node = .dict kvs) {k v : Value} (hkv : (k, v) ∈ kvs) :
    At root (path ++ [k]) v := by
  induction h with
  | here => exact hn ▸ entry hkv (here v)
  | entry hmem _ ih => exact entry hmem (ih hn)
  | item hx _ ih => exact item hx (ih hn)

theorem snoc_item {root node : Value} {path : List Value} {xs : List Value}
    (h : At root path node) (hn : node = .list xs) {i : Nat} {x : Value} (hx : xs[i]? = some x) :
    At root (path ++ [.int i]) x := by
  induction h with
  | here => exact hn ▸ item hx (here x)
  | entry hmem _ ih => exact entry hmem (ih hn)
  | item hy _ ih => exact item hy (ih hn)

theorem isJson {root node : Value} {path : List Value} (h : At root path node)
    (hj : root.IsJson) : node.IsJson := by
  induction h with
  | here => exact hj
  | @entry kvs k v path node hmem _ ih =>
    cases hj with
    | object _ hvals =>
      obtain ⟨s, -, hs⟩ := IsJson.mem_object hmem
      exact ih (hvals _ hs)
  | item hx _ ih =>
    cases hj with
    | list _ hitems => exact ih (hitems _ (List.mem_of_getElem? hx))

theorem greaterList_ok {root m n : Value} {p q : List Value} (hj : root.IsJson)
    (hp : At root p m) (hq : At root q n) (hlen : p.length = q.length) :
    ∃ b, greaterList p q = .ok b := by
  induction hp generalizing q with
  | here =>
    cases hq with
    | here => exact ⟨false, rfl⟩
    | entry => simp at hlen
    | item => simp at hlen
  | @entry kvs k v path node hmem hrest ih =>
    cases hq with
    | here => simp at hlen
    | @entry _ k' v' path' _ hmem' hrest' =>
      cases hj with
      | @object kvs0 hnodup hvals =>
        obtain ⟨s, rfl, hs⟩ := IsJson.mem_object hmem
        obtain ⟨s', rfl, hs'⟩ := IsJson.mem_object hmem'
        by_cases hss : s = s'
        · subst hss
          have hvv : (s, v) = (s, v') := List.inj_on_of_nodup_map hnodup hs hs' rfl
          cases hvv
          have hlen' : path.length = path'.length := by simpa using hlen
          obtain ⟨b, hb⟩ := ih (hvals _ hs) hrest' hlen'
          exact ⟨b, by simp [greaterList, sameKey, hb]⟩
        · exact ⟨decide (s' < s), by simp [greaterList, sameKey, hss, greater, pure, Except.pure]⟩
  | @item xs i x path node hx hrest ih =>
    cases hq with
    | here => simp at hlen
    | @item _ j x' path' _ hx' hrest' =>
      cases hj with
      | list _ hitems =>
        by_cases hij : i = j
        · subst hij
          rw [hx] at hx'
          cases hx'
          have hlen' : path.length = path'.length := by simpa using hlen
          obtain ⟨b, hb⟩ := ih (hitems _ (List.mem_of_getElem? hx)) hrest' hlen'
          exact ⟨b, by simp [greaterList, sameKey, numeric?, numericEq, hb]⟩
        · have hne : (i : Int) ≠ j := by exact_mod_cast hij
          exact ⟨decide ((j : Int) < i), by
            simp [greaterList, sameKey, numeric?, numericEq, hne, greater, numericGt, pure,
              Except.pure]⟩

end At

theorem IsJson.isRecur_eq_false {v : Value} (h : v.IsJson) : v.isRecur = false := by
  cases h <;> rfl

theorem anyHoldsLongInt_append {xs ys : List Value} (hx : anyHoldsLongInt xs = false)
    (hy : anyHoldsLongInt ys = false) : anyHoldsLongInt (xs ++ ys) = false := by
  rw [anyHoldsLongInt_eq_false_iff] at hx hy ⊢
  intro x hmem
  rcases List.mem_append.mp hmem with h | h
  · exact hx x h
  · exact hy x h

theorem isLongInt_index {xs : List Value} {i : Nat} (hlen : xs.length < Nat.pow 10 intTextLimit)
    (hi : i < xs.length) : isLongInt (i : Int) = false := by
  simp only [isLongInt, Int.natAbs_natCast, ge_iff_le, decide_eq_false_iff_not, Nat.not_le]
  omega

end Value

theorem foldl_invariant {α β : Type} {f : β → α → β} (I : β → Prop)
    (hf : ∀ b a, I b → I (f b a)) : ∀ (xs : List α) (b : β), I b → I (xs.foldl f b)
  | [], _, hb => hb
  | a :: xs, b, hb => foldl_invariant I hf xs (f b a) (hf b a hb)

theorem lt_of_mem_setIndices {keys : List Value} {i : Nat} (h : i ∈ setIndices keys) :
    i < keys.length := by
  unfold setIndices at h
  rw [List.mem_reverse] at h
  refine (foldl_invariant (fun acc : List Nat × List (Nat × Value) =>
    (∀ j ∈ acc.1, j < keys.length) ∧ ∀ e ∈ acc.2, e.1 < keys.length) ?_ _ _ ?_).1 i h
  · intro acc k ⟨hfound, hleft⟩
    split
    · next j v hfind =>
      refine ⟨fun j' hj' => ?_, fun e he => hleft e (List.mem_filter.mp he).1⟩
      rcases List.mem_cons.mp hj' with rfl | hj'
      · exact hleft _ (List.mem_of_find?_eq_some hfind)
      · exact hfound j' hj'
    · exact ⟨hfound, hleft⟩
  · refine ⟨by simp, fun e he => ?_⟩
    obtain ⟨⟨k, j⟩, hkj, rfl⟩ := List.mem_map.mp he
    simpa using (List.mem_zipIdx hkj).2.1

theorem foldlM_keeps_one {α ε : Type} {P : α → Prop} {f : Option α → α → Except ε (Option α)}
    (hf : ∀ acc x, (∀ b, acc = some b → P b) → P x →
      ∃ b, f acc x = .ok (some b) ∧ (acc = some b ∨ b = x)) :
    ∀ (xs : List α) (acc : Option α), (∀ b, acc = some b → P b) → (∀ x ∈ xs, P x) →
      ∃ r, xs.foldlM f acc = .ok r ∧ (∀ b, r = some b → acc = some b ∨ b ∈ xs) ∧
        (r = none → acc = none ∧ xs = [])
  | [], acc, _, _ => ⟨acc, rfl, fun b hb => .inl hb, fun h => ⟨h, rfl⟩⟩
  | x :: xs, acc, hacc, hxs => by
    obtain ⟨b, hb, hkeep⟩ := hf acc x hacc (hxs x List.mem_cons_self)
    have hPb : P b := by
      rcases hkeep with h | rfl
      · exact hacc b h
      · exact hxs b List.mem_cons_self
    obtain ⟨r, hr, hmem, hnone⟩ := foldlM_keeps_one hf xs (some b)
      (fun b' h => by cases h; exact hPb) (fun y hy => hxs y (List.mem_cons_of_mem x hy))
    refine ⟨r, by rw [List.foldlM_cons, hb]; exact hr, ?_, ?_⟩
    · intro b' hb'
      rcases hmem b' hb' with h | h
      · cases h
        rcases hkeep with h | rfl
        · exact .inl h
        · exact .inr List.mem_cons_self
      · exact .inr (List.mem_cons_of_mem x h)
    · intro h
      cases (hnone h).1

/-- A shape error of a document that can be reported: its detail can be written, its position
leads to a value of the document, and writes no long integer. -/
structure ShapeError.Placed (root : Value) (e : ShapeError) : Prop where
  writable : e.unwritable = false
  short : Value.anyHoldsLongInt e.path = false
  leads : ∃ node, root.At e.path node

theorem ShapeError.outranks_ok {root : Value} (hj : root.IsJson) {a b : ShapeError}
    (ha : a.Placed root) (hb : b.Placed root) : ∃ c, a.outranks b = .ok c := by
  obtain ⟨m, hm⟩ := ha.leads
  obtain ⟨n, hn⟩ := hb.leads
  unfold ShapeError.outranks
  by_cases hlen : a.path.length = b.path.length
  · by_cases hsame : Value.sameKeys a.path b.path = true
    · exact ⟨_, by simp [hlen, hsame]; rfl⟩
    · simp only [hlen, bne_self_eq_false, Bool.false_eq_true, if_false, hsame]
      exact Value.At.greaterList_ok hj hm hn hlen
  · exact ⟨_, by simp [hlen]; rfl⟩

theorem bestShapeError_placed {root : Value} (hj : root.IsJson) {es : List ShapeError}
    (h : ∀ e ∈ es, e.Placed root) :
    ∃ r, bestShapeError es = .ok r ∧ (∀ e, r = some e → e ∈ es) ∧ (r = none → es = []) := by
  have hfold : ∃ r, bestShapeError es = .ok r ∧ (∀ b, r = some b → none = some b ∨ b ∈ es) ∧
      (r = none → (none : Option ShapeError) = none ∧ es = []) := by
    unfold bestShapeError
    refine foldlM_keeps_one (P := ShapeError.Placed root) ?_ es none (by simp) h
    intro acc e hacc he
    simp only [he.writable, Bool.false_eq_true, if_false]
    cases acc with
    | none => exact ⟨e, rfl, .inr rfl⟩
    | some b =>
      obtain ⟨c, hc⟩ := ShapeError.outranks_ok hj he (hacc b rfl)
      refine ⟨if c then e else b, by simp [hc, Except.mapError], ?_⟩
      cases c
      · exact .inl rfl
      · exact .inr rfl
  obtain ⟨r, hr, hmem, hnone⟩ := hfold
  exact ⟨r, hr, fun e he => (hmem e he).resolve_left (by simp), fun h => (hnone h).2⟩

theorem Value.IsJson.of_entry {kvs : List (Value × Value)} (hj : (Value.dict kvs).IsJson)
    {k v : Value} (h : (k, v) ∈ kvs) : (∃ s, k = .str s) ∧ v.IsJson := by
  cases hj with
  | object _ hvals =>
    obtain ⟨s, rfl, hs⟩ := Value.IsJson.mem_object h
    exact ⟨⟨s, rfl⟩, hvals _ hs⟩

namespace Place

/-- A place of a JSON document: reached through children only, at a position that leads to its
value and writes no long integer. -/
structure InJson (p : Place) : Prop where
  root_json : p.root.IsJson
  opened : Value.Opened p.root p.spot
  leads : p.root.At p.path p.value
  short : Value.anyHoldsLongInt p.path = false

namespace InJson

variable {p : Place}

theorem value_json (hp : p.InJson) : p.value.IsJson := hp.leads.isJson hp.root_json

theorem start {data : Value} (hj : data.IsJson) : (⟨data, [], []⟩ : Place).InJson :=
  ⟨hj, Value.opened_nil data, Value.At.here data, rfl⟩

theorem child_entry (hp : p.InJson) {kvs : List (Value × Value)} (hv : p.value = .dict kvs)
    {i : Nat} {k v : Value} (h : kvs[i]? = some (k, v)) : (p.child i [k]).InJson := by
  have hmem := List.mem_of_getElem? h
  obtain ⟨⟨s, rfl⟩, hvj⟩ := (hv ▸ hp.value_json).of_entry hmem
  have hget := Place.children_dict hv h
  have hr := hvj.isRecur_eq_false
  refine ⟨hp.root_json, Place.child_opened _ hp.opened hget hr, ?_, ?_⟩
  · rw [Place.child_value _ hget hr]
    exact hp.leads.snoc_entry hv hmem
  · exact Value.anyHoldsLongInt_append hp.short rfl

theorem child_item (hp : p.InJson) {xs : List Value} (hv : p.value = .list xs) {i : Nat}
    {x : Value} (h : xs[i]? = some x) : (p.child i [.int i]).InJson := by
  have hlj := hv ▸ hp.value_json
  cases hlj with
  | list hlen hitems =>
    have hxj := hitems x (List.mem_of_getElem? h)
    have hget := Place.children_list hv h
    have hr := hxj.isRecur_eq_false
    refine ⟨hp.root_json, Place.child_opened _ hp.opened hget hr, ?_, ?_⟩
    · rw [Place.child_value _ hget hr]
      exact hp.leads.snoc_item hv h
    · have hi : i < xs.length := (List.getElem?_eq_some_iff.mp h).1
      refine Value.anyHoldsLongInt_append hp.short ?_
      simp [Value.anyHoldsLongInt, Value.holdsLongInt, Value.isLongInt_index hlen hi]

theorem kindError_placed (hp : p.InJson) (kinds : String) : (p.kindError kinds).Placed p.root :=
  ⟨hp.value_json.holdsLongInt_eq_false, hp.short, ⟨_, hp.leads⟩⟩

theorem self_placed (hp : p.InJson) (detail : String) (wrongKind : Bool) :
    (⟨p.path, detail, wrongKind, false⟩ : ShapeError).Placed p.root :=
  ⟨rfl, hp.short, ⟨_, hp.leads⟩⟩

theorem keys_short (hp : p.InJson) {kvs : List (Value × Value)} (hv : p.value = .dict kvs) :
    ∀ k ∈ kvs.map (·.1), k.holdsLongInt = false := by
  intro k hk
  obtain ⟨⟨k', v⟩, hmem, rfl⟩ := List.mem_map.mp hk
  obtain ⟨⟨s, hs⟩, -⟩ := (hv ▸ hp.value_json).of_entry hmem
  simp [hs, Value.holdsLongInt]

end InJson

end Place

def ErrorsPlaced (check : Place → List ShapeError) : Prop :=
  ∀ p : Place, p.InJson → ∀ e ∈ check p, e.Placed p.root

theorem textErrors_placed : ErrorsPlaced textErrors := by
  intro p hp e he
  unfold textErrors at he
  split at he
  · simp at he
  · rw [List.mem_singleton.mp he]
    exact hp.kindError_placed _

theorem scalarErrors_placed : ErrorsPlaced scalarErrors := by
  intro p hp e he
  unfold scalarErrors at he
  split at he
  · simp at he
  · rw [List.mem_singleton.mp he]
    exact hp.kindError_placed _

theorem entry_placed {check : Place → List ShapeError} (hcheck : ErrorsPlaced check)
    (key : String) : ErrorsPlaced fun p => p.entry key check := by
  intro p hp e he
  simp only [Place.entry] at he
  split at he
  · next kvs hv =>
    split at he
    · next i hi =>
      obtain ⟨hlt, hsame, -⟩ := List.findIdx?_eq_some_iff_getElem.mp hi
      have hget : kvs[i]? = some (kvs[i].1, kvs[i].2) := by simp [hlt]
      obtain ⟨⟨s, hs⟩, -⟩ := (hv ▸ hp.value_json).of_entry (List.mem_of_getElem? hget)
      have hkey : kvs[i].1 = .str key := by
        rw [hs] at hsame ⊢
        simpa [Value.sameKey] using hsame
      rw [hkey] at hget
      exact hcheck _ (hp.child_entry hv hget) e he
    · simp at he
  · simp at he

theorem envErrors_placed : ErrorsPlaced envErrors := by
  intro p hp e he
  unfold envErrors at he
  split at he
  · next kvs hv =>
    obtain ⟨i, hi, he⟩ := List.mem_flatMap.mp he
    have hlt : i < kvs.length := by simpa using lt_of_mem_setIndices hi
    have hget : kvs[i]? = some (kvs[i].1, kvs[i].2) := by simp [hlt]
    obtain ⟨⟨s, hs⟩, -⟩ := (hv ▸ hp.value_json).of_entry (List.mem_of_getElem? hget)
    have hsteps : keySteps ((kvs[i]?.map (·.1)).getD .null) = [.str s] := by
      simp [hlt, hs, keySteps]
    rw [hs] at hget
    rw [hsteps] at he
    exact scalarErrors_placed _ (hp.child_entry hv hget) e he
  · rw [List.mem_singleton.mp he]
    exact hp.kindError_placed _

theorem argsErrors_placed : ErrorsPlaced argsErrors := by
  intro p hp e he
  unfold argsErrors at he
  split at he
  · next xs hv =>
    obtain ⟨i, hi, he⟩ := List.mem_flatMap.mp he
    have hlt : i < xs.length := List.mem_range.mp hi
    have hget : xs[i]? = some xs[i] := by simp [hlt]
    exact scalarErrors_placed _ (hp.child_item hv hget) e he
  · rw [List.mem_singleton.mp he]
    exact hp.kindError_placed _

theorem stepErrors_placed : ErrorsPlaced stepErrors := by
  intro p hp e he
  unfold stepErrors at he
  split at he
  · next kvs hv =>
    simp only [List.mem_append, or_assoc] at he
    rcases he with hname | hcommand | hargs | henv | hcwd | hrequired | hextras
    · exact entry_placed textErrors_placed "name" p hp e hname
    · exact entry_placed textErrors_placed "command" p hp e hcommand
    · exact entry_placed argsErrors_placed "args" p hp e hargs
    · exact entry_placed envErrors_placed "env" p hp e henv
    · exact entry_placed textErrors_placed "cwd" p hp e hcwd
    · obtain ⟨k, -, hk⟩ := List.mem_filterMap.mp hrequired
      split at hk
      · cases hk
      · cases hk
        exact hp.self_placed _ false
    · split at hextras
      · simp at hextras
      · rw [List.mem_singleton.mp hextras]
        have hshort : Value.anyHoldsLongInt ((kvs.map (·.1)).filter fun k =>
            !stepKeys.any fun s => Value.sameKey k (.str s)) = false :=
          Value.anyHoldsLongInt_eq_false_iff.mpr fun k hk =>
            hp.keys_short hv k (List.mem_filter.mp hk).1
        rw [hshort]
        exact hp.self_placed _ false
  · rw [List.mem_singleton.mp he]
    exact hp.kindError_placed _

theorem stepsErrors_placed : ErrorsPlaced stepsErrors := by
  intro p hp e he
  unfold stepsErrors at he
  split at he
  · next xs hv =>
    obtain ⟨i, hi, he⟩ := List.mem_flatMap.mp he
    have hlt : i < xs.length := List.mem_range.mp hi
    have hget : xs[i]? = some xs[i] := by simp [hlt]
    exact stepErrors_placed _ (hp.child_item hv hget) e he
  · rw [List.mem_singleton.mp he]
    exact hp.kindError_placed _

theorem shapeErrors_placed {data : Value} (hj : data.IsJson) :
    ∀ e ∈ shapeErrors data, e.Placed data := by
  intro e he
  have hp := Place.InJson.start hj
  unfold shapeErrors at he
  split at he
  · simp only [List.mem_append, or_assoc] at he
    rcases he with hname | henv | hsteps | hrequired
    · exact entry_placed textErrors_placed "name" _ hp e hname
    · exact entry_placed envErrors_placed "env" _ hp e henv
    · exact entry_placed stepsErrors_placed "steps" _ hp e hsteps
    · split at hrequired
      · simp at hrequired
      · rw [List.mem_singleton.mp hrequired]
        exact hp.self_placed _ false
  · rw [List.mem_singleton.mp he]
    exact hp.kindError_placed _

/-- The shape check of a JSON document picks an error to report exactly when it finds one, and
the error's position writes no long integer. -/
theorem bestShapeError_of_json {data : Value} (hj : data.IsJson) :
    ∃ r, bestShapeError (shapeErrors data) = .ok r ∧ (r = none ↔ shapeErrors data = []) ∧
      ∀ e, r = some e → Value.anyHoldsLongInt e.path = false := by
  obtain ⟨r, hr, hmem, hnone⟩ := bestShapeError_placed hj (shapeErrors_placed hj)
  refine ⟨r, hr, ⟨hnone, ?_⟩, fun e he => (shapeErrors_placed hj e (hmem e he)).short⟩
  intro hnil
  rw [hnil] at hr
  cases hr
  rfl

end BuildGate
