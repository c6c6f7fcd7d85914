import BuildGate.Proofs.Faults

namespace BuildGate

/-- The environment a list of declared entries resolves to, in declaration order: each name the
plain text of its key, each value the text of its scalar with the references expanded against
`scope`, a later entry of one name replacing the earlier value in place. -/
def Env.Resolves (e scope : Env) (place : String) (raw : List (Value × Value)) : Prop :=
  ∃ pairs, e = Env.ofList pairs ∧ List.Forall₂ (fun kv pr => plainText kv.1 = .ok pr.1 ∧
    ∃ t, scalarText kv.2 = .ok t ∧ expandRefs scope t (place ++ "." ++ pr.1) = .ok pr.2) raw pairs

theorem resolveOverlay_resolves {scope : Env} {place : String} {raw : List (Value × Value)}
    {e : Env} (h : resolveOverlay scope place raw = .ok e) : e.Resolves scope place raw := by
  obtain ⟨pairs, hpairs, rfl⟩ := resolveOverlay_eq_ok h
  refine ⟨pairs, rfl, (mapM_eq_ok_forall₂ hpairs).imp fun kv pr hpr => ?_⟩
  obtain ⟨key, value⟩ := pr
  obtain ⟨hkey, -, t, ht, hexp, -⟩ := resolvePair_eq_ok hpr
  exact ⟨hkey, t, ht, hexp⟩

theorem Env.Resolves.nodup_keys {e scope : Env} {place : String} {raw : List (Value × Value)}
    (h : e.Resolves scope place raw) : e.keys.Nodup := by
  obtain ⟨pairs, rfl, -⟩ := h
  exact Env.nodup_keys_ofList pairs

namespace Pipeline

variable (p : Pipeline) (s : Step) (base : Env)

theorem effectiveEnv_get? (hp : p.env.keys.Nodup) (hs : s.env.keys.Nodup) (k : String) :
    (p.effectiveEnv s base).get? k = (s.env.get? k).or ((p.env.get? k).or (base.get? k)) := by
  show ((base.overlay ⟨p.env.entries⟩).overlay ⟨s.env.entries⟩).get? k = _
  rw [Env.get?_overlay _ _ hs, Env.get?_overlay _ _ hp]

theorem effectiveEnv_keys (hp : p.env.keys.Nodup) (hs : s.env.keys.Nodup) :
    (p.effectiveEnv s base).keys = base.keys ++ p.env.keys.filter (· ∉ base.keys) ++
      s.env.keys.filter (fun k => k ∉ base.keys ∧ k ∉ p.env.keys) := by
  show ((base.overlay ⟨p.env.entries⟩).overlay ⟨s.env.entries⟩).keys = _
  rw [Env.keys_overlay _ _ hs, Env.keys_overlay _ _ hp]
  congr 1
  apply List.filter_congr
  intro k _
  apply decide_eq_decide.mpr
  rw [List.mem_append, List.mem_filter, decide_eq_true_eq]
  by_cases hb : k ∈ base.keys
  · simp only [hb, true_or, not_true, false_and]
  · simp only [hb, false_or, not_false_eq_true, and_true, true_and]
    exact Iff.rfl

end Pipeline

/-- How the environments of a pipeline built from `data` over `base` are layered: the pipeline's
is its declared entries resolved against the base; each step's is its declared entries resolved
against the base overlaid with the pipeline's; and a step runs with the base overlaid with both,
where a name reads the step's value, else the pipeline's, else the base's, and the names come in
the base's order, then the pipeline's new ones, then the step's new ones. -/
structure Pipeline.EnvLayered (data : Value) (base : Env) (p : Pipeline) : Prop where
  env_resolves : p.env.Resolves base "env" (entriesOf (data.get? "env"))
  steps_resolve : ∃ raws, data.get? "steps" = some (.list raws) ∧ List.Forall₂ (fun raw s =>
    s.env.Resolves (base.overlay p.env) (s.name ++ ".env") (entriesOf (raw.get? "env"))) raws p.steps
  effective_get? : ∀ s ∈ p.steps, ∀ k,
    (p.effectiveEnv s base).get? k = (s.env.get? k).or ((p.env.get? k).or (base.get? k))
  effective_keys : ∀ s ∈ p.steps, (p.effectiveEnv s base).keys =
    base.keys ++ p.env.keys.filter (· ∉ base.keys) ++
      s.env.keys.filter (fun k => k ∉ base.keys ∧ k ∉ p.env.keys)

theorem buildPipeline_env_layers {data : Value} {root : Path} {base : Env} {d : String}
    {p : Pipeline} (h : buildPipeline data root base d = .ok p) : p.EnvLayered data base := by
  obtain ⟨hshape, h⟩ := buildPipeline_eq_ok h
  obtain ⟨kvs, raws, rfl, hsh⟩ := shaped_of_shapeErrors hshape
  obtain ⟨env, steps, henv, hsteps, rfl⟩ := buildShaped_eq_ok hsh h
  have hget : (Value.dict kvs).get? "steps" = some (.list raws) := hsh.steps
  obtain ⟨built, hbuilt_eq, hbuilt⟩ := buildSteps_eq_ok hsteps
  rw [List.reverse_nil, List.nil_append] at hbuilt_eq
  subst hbuilt_eq
  have hpenv := resolveOverlay_resolves henv
  have hlayers : List.Forall₂ (fun raw s => s.env.Resolves (base.overlay env) (s.name ++ ".env")
      (entriesOf (raw.get? "env"))) raws steps :=
    hbuilt.forall₂.imp fun _ _ hs => hs.elim fun _ hs => resolveOverlay_resolves hs.env_eq
  have hnodup : ∀ s ∈ steps, s.env.keys.Nodup := fun s hs => by
    obtain ⟨raw, -, hlayer⟩ := forall₂_exists_of_mem_right hlayers hs
    exact hlayer.nodup_keys
  refine ⟨hpenv, ⟨raws, hget, hlayers⟩, fun s hs => ?_, fun s hs => ?_⟩
  · exact Pipeline.effectiveEnv_get? _ s base hpenv.nodup_keys (hnodup s hs)
  · exact Pipeline.effectiveEnv_keys _ s base hpenv.nodup_keys (hnodup s hs)

theorem buildPipeline_env_layers_over_base :
    ∃ p, buildPipeline (.dict [(.str "steps", .list [
          .dict [(.str "name", .str "build"), (.str "command", .str "make")]])])
        (Path.ofString "/repo") (Env.ofList [("HOME", "/root"), ("PATH", "/bin")]) "pipeline" =
        .ok p ∧
      p.EnvLayered (.dict [(.str "steps", .list [
          .dict [(.str "name", .str "build"), (.str "command", .str "make")]])])
        (Env.ofList [("HOME", "/root"), ("PATH", "/bin")]) := by
  obtain ⟨p, hp⟩ := exists_eq_ok_of_isOk (by decide +kernel :
    (buildPipeline (.dict [(.str "steps", .list [
          .dict [(.str "name", .str "build"), (.str "command", .str "make")]])])
        (Path.ofString "/repo") (Env.ofList [("HOME", "/root"), ("PATH", "/bin")])
        "pipeline").isOk = true)
  exact ⟨p, hp, buildPipeline_env_layers hp⟩

end BuildGate
