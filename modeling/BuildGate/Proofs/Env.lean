import BuildGate.Env

namespace BuildGate.Env

@[simp] theorem keys_empty : empty.keys = [] := rfl

@[simp] theorem get?_empty (k : String) : empty.get? k = none := rfl

@[simp] theorem keys_mk (kvs : List (String × String)) : (⟨kvs⟩ : Env).keys = kvs.map (·.1) :=
  rfl

theorem contains_eq_true_iff {e : Env} {k : String} : e.contains k = true ↔ k ∈ e.keys := by
  simp only [contains, keys, List.any_eq_true, beq_iff_eq, List.mem_map]

theorem get?_mk_cons (k v k' : String) (kvs : List (String × String)) :
    (⟨(k, v) :: kvs⟩ : Env).get? k' = if k = k' then some v else (⟨kvs⟩ : Env).get? k' := by
  by_cases h : k = k' <;> simp [get?, h]

theorem get?_map_replace_of_ne (kvs : List (String × String)) (k v k' : String) (hk : k' ≠ k) :
    (⟨kvs.map fun p => if p.1 == k then (k, v) else p⟩ : Env).get? k' =
      (⟨kvs⟩ : Env).get? k' := by
  induction kvs with
  | nil => rfl
  | cons p kvs ih =>
    obtain ⟨a, b⟩ := p
    by_cases ha : a = k
    · subst ha
      have hhead : (if ((a, b).1 == a) = true then (a, v) else (a, b)) = (a, v) := by simp
      rw [List.map_cons, hhead, get?_mk_cons, get?_mk_cons, if_neg (Ne.symm hk),
        if_neg (Ne.symm hk), ih]
    · have hhead : (if ((a, b).1 == k) = true then (k, v) else (a, b)) = (a, b) := by simp [ha]
      rw [List.map_cons, hhead, get?_mk_cons, get?_mk_cons, ih]

theorem get?_map_replace (kvs : List (String × String)) (k v k' : String)
    (hk : k ∈ kvs.map (·.1)) :
    (⟨kvs.map fun p => if p.1 == k then (k, v) else p⟩ : Env).get? k' =
      if k' = k then some v else (⟨kvs⟩ : Env).get? k' := by
  by_cases hk' : k' = k
  · subst hk'
    rw [if_pos rfl]
    induction kvs with
    | nil => simp at hk
    | cons p kvs ih =>
      obtain ⟨a, b⟩ := p
      by_cases ha : a = k'
      · subst ha
        simp [get?]
      · have hhead : (if ((a, b).1 == k') = true then (k', v) else (a, b)) = (a, b) := by
          simp [ha]
        have hrest : k' ∈ kvs.map (·.1) := by
          rcases List.mem_cons.mp hk with h | h
          · exact absurd h.symm ha
          · exact h
        rw [List.map_cons, hhead, get?_mk_cons, if_neg ha, ih hrest]
  · rw [if_neg hk', get?_map_replace_of_ne kvs k v k' hk']

theorem get?_append_single (kvs : List (String × String)) (k v k' : String)
    (hk : k ∉ kvs.map (·.1)) :
    (⟨kvs ++ [(k, v)]⟩ : Env).get? k' = if k' = k then some v else (⟨kvs⟩ : Env).get? k' := by
  induction kvs with
  | nil => by_cases h : k' = k <;> simp [get?, h, Ne.symm]
  | cons p kvs ih =>
    obtain ⟨a, b⟩ := p
    have ha : a ≠ k := fun h => hk (List.mem_cons.mpr (Or.inl h.symm))
    have hrest : k ∉ kvs.map (·.1) := fun h => hk (List.mem_cons_of_mem _ h)
    rw [List.cons_append, get?_mk_cons, get?_mk_cons, ih hrest]
    by_cases hak : a = k'
    · subst hak
      simp [ha]
    · simp [hak]

theorem get?_set (e : Env) (k v k' : String) :
    (e.set k v).get? k' = if k' = k then some v else e.get? k' := by
  obtain ⟨kvs⟩ := e
  unfold set
  split
  · next hc => exact get?_map_replace kvs k v k' (contains_eq_true_iff.mp hc)
  · next hc => exact get?_append_single kvs k v k' (fun h => hc (contains_eq_true_iff.mpr h))

theorem keys_set (e : Env) (k v : String) :
    (e.set k v).keys = if k ∈ e.keys then e.keys else e.keys ++ [k] := by
  unfold set
  split
  · next hc =>
    rw [if_pos (contains_eq_true_iff.mp hc)]
    simp only [keys, List.map_map]
    apply List.map_congr_left
    intro p _
    by_cases hp : p.1 = k <;> simp [hp]
  · next hc =>
    rw [if_neg (fun h => hc (contains_eq_true_iff.mpr h))]
    simp [keys]

theorem nodup_keys_set {e : Env} (k v : String) (h : e.keys.Nodup) : (e.set k v).keys.Nodup := by
  rw [keys_set]
  split
  · exact h
  · next hk =>
    refine List.nodup_append.mpr ⟨h, by simp, ?_⟩
    intro a ha b hb hab
    rw [List.mem_singleton] at hb
    exact hk (hb ▸ hab ▸ ha)

theorem mem_entries_set {e : Env} {k v : String} {p : String × String}
    (h : p ∈ (e.set k v).entries) : p ∈ e.entries ∨ p = (k, v) := by
  unfold set at h
  split at h
  · obtain ⟨q, hq, rfl⟩ := List.mem_map.mp h
    by_cases hqk : q.1 = k
    · simp [hqk]
    · simp [hqk, hq]
  · simpa using h

section Fold

variable (e : Env) (kvs : List (String × String))

theorem overlay_mk : e.overlay ⟨kvs⟩ = kvs.foldl (fun acc p => acc.set p.1 p.2) e := rfl

theorem nodup_keys_overlay (h : e.keys.Nodup) : (e.overlay ⟨kvs⟩).keys.Nodup := by
  induction kvs generalizing e with
  | nil => exact h
  | cons p kvs ih => exact ih (e.set p.1 p.2) (nodup_keys_set p.1 p.2 h)

theorem nodup_keys_ofList : (ofList kvs).keys.Nodup :=
  nodup_keys_overlay empty kvs List.nodup_nil

theorem mem_entries_overlay {p : String × String} (h : p ∈ (e.overlay ⟨kvs⟩).entries) :
    p ∈ e.entries ∨ p ∈ kvs := by
  induction kvs generalizing e with
  | nil => exact Or.inl h
  | cons q kvs ih =>
    rcases ih (e.set q.1 q.2) h with hp | hp
    · rcases mem_entries_set hp with hp | rfl
      · exact Or.inl hp
      · exact Or.inr List.mem_cons_self
    · exact Or.inr (List.mem_cons_of_mem q hp)

theorem mem_entries_ofList {p : String × String} (h : p ∈ (ofList kvs).entries) : p ∈ kvs :=
  (mem_entries_overlay empty kvs h).resolve_left List.not_mem_nil

/-- Overlaying distinct names: a name reads its overlaid value when it has one. -/
theorem get?_overlay (hk : (kvs.map (·.1)).Nodup) (k : String) :
    (e.overlay ⟨kvs⟩).get? k = ((⟨kvs⟩ : Env).get? k).or (e.get? k) := by
  induction kvs generalizing e with
  | nil => simp [overlay_mk, get?]
  | cons p kvs ih =>
    obtain ⟨a, b⟩ := p
    have hrest : (kvs.map (·.1)).Nodup := (List.nodup_cons.mp hk).2
    have ha : a ∉ kvs.map (·.1) := (List.nodup_cons.mp hk).1
    rw [overlay_mk, List.foldl_cons, ← overlay_mk, ih _ hrest, get?_set, get?_mk_cons]
    by_cases hak : a = k
    · subst hak
      have hnone : (⟨kvs⟩ : Env).get? a = none := by
        simpa [get?] using fun x y hxy hx => ha (List.mem_map.mpr ⟨(x, y), hxy, hx⟩)
      simp [hnone]
    · simp [hak, Ne.symm hak]

/-- Overlaying distinct names keeps the names already set in place and adds the new ones after
them, in the overlay's order. -/
theorem keys_overlay (hk : (kvs.map (·.1)).Nodup) :
    (e.overlay ⟨kvs⟩).keys = e.keys ++ (kvs.map (·.1)).filter (· ∉ e.keys) := by
  induction kvs generalizing e with
  | nil => simp [overlay_mk]
  | cons p kvs ih =>
    obtain ⟨a, b⟩ := p
    have hrest : (kvs.map (·.1)).Nodup := (List.nodup_cons.mp hk).2
    have ha : a ∉ kvs.map (·.1) := (List.nodup_cons.mp hk).1
    rw [overlay_mk, List.foldl_cons, ← overlay_mk, ih _ hrest, keys_set]
    by_cases hmem : a ∈ e.keys
    · simp [hmem]
    · have hfilter : (kvs.map (·.1)).filter (fun x => decide (x ∉ e.keys ++ [a])) =
          (kvs.map (·.1)).filter (fun x => decide (x ∉ e.keys)) := by
        apply List.filter_congr
        intro x hx
        have hxa : x ≠ a := fun h => ha (h ▸ hx)
        simp [hxa]
      rw [if_neg hmem, hfilter, List.map_cons, List.filter_cons_of_pos (by simpa using hmem)]
      simp

end Fold

end BuildGate.Env
