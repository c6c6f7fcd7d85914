import BuildGate.Proofs.Preflight

namespace BuildGate

section Except

variable {ε α β : Type}

theorem except_bind_eq_error {x : Except ε α} {f : α → Except ε β} {e : ε} :
    x >>= f = .error e ↔ x = .error e ∨ ∃ a, x = .ok a ∧ f a = .error e := by
  cases x <;> simp [bind, Except.bind]

theorem except_map_eq_error {x : Except ε α} {f : α → β} {e : ε} :
    f <$> x = .error e ↔ x = .error e := by
  cases x <;> simp [Functor.map, Except.map]

theorem mapM_eq_error {f : α → Except ε β} {xs : List α} {e : ε} (h : xs.mapM f = .error e) :
    ∃ x ∈ xs, f x = .error e := by
  induction xs with
  | nil => cases h
  | cons x xs ih =>
    rw [List.mapM_cons] at h
    rcases except_bind_eq_error.mp h with hx | ⟨y, -, h⟩
    · exact ⟨x, List.mem_cons_self, hx⟩
    · rcases except_bind_eq_error.mp h with hxs | ⟨_, -, h⟩
      · obtain ⟨x', hx', he⟩ := ih hxs
        exact ⟨x', List.mem_cons_of_mem x hx', he⟩
      · cases h

end Except

namespace Host

open Fs (Entry)

variable {h : World}

theorem World.isDirAt_eq_ok {p : Path} {b : Bool} (hb : h.isDirAt p = .ok b) :
    b = true ↔ h.probe p = .ok (some .dir) := by
  unfold World.isDirAt at hb
  obtain ⟨e, he, hb⟩ := except_bind_eq_ok.mp hb
  rw [he]
  cases e with
  | none => cases hb; simp
  | some e => cases e <;> cases hb <;> simp

theorem World.isDirAt_eq_error {p : Path} {f : Fault} (hf : h.isDirAt p = .error f) :
    h.probe p = .error f := by
  unfold World.isDirAt at hf
  rcases except_bind_eq_error.mp hf with hf | ⟨e, -, hf⟩
  · exact hf
  · cases e with
    | none => cases hf
    | some e => cases e <;> cases hf

theorem World.isExecutable_eq_error {p : Path} {f : Fault} (hf : h.isExecutable p = .error f) :
    h.probe p = .error f := by
  unfold World.isExecutable at hf
  rcases except_bind_eq_error.mp hf with hf | ⟨e, -, hf⟩
  · exact hf
  · cases e with
    | none => cases hf
    | some e => cases e <;> cases hf

theorem World.firstExecutable_eq_ok {ps : List Path} {r : Option Path}
    (hr : h.firstExecutable ps = .ok r) :
    (r = none ∧ ∀ q ∈ ps, h.isExecutable q = .ok false) ∨
      ∃ pre q post, ps = pre ++ q :: post ∧ (∀ q' ∈ pre, h.isExecutable q' = .ok false) ∧
        h.isExecutable q = .ok true ∧ r = some q := by
  induction ps generalizing r with
  | nil =>
    cases hr
    exact .inl ⟨rfl, by simp⟩
  | cons q ps ih =>
    simp only [World.firstExecutable] at hr
    obtain ⟨b, hb, hr⟩ := except_bind_eq_ok.mp hr
    cases b with
    | true =>
      cases hr
      exact .inr ⟨[], q, ps, rfl, by simp, hb, rfl⟩
    | false =>
      rcases ih hr with ⟨rfl, hall⟩ | ⟨pre, q', post, rfl, hpre, hq', rfl⟩
      · exact .inl ⟨rfl, List.forall_mem_cons.mpr ⟨hb, hall⟩⟩
      · exact .inr ⟨q :: pre, q', post, rfl, List.forall_mem_cons.mpr ⟨hb, hpre⟩, hq', rfl⟩

theorem World.firstExecutable_eq_error {ps : List Path} {f : Fault}
    (hf : h.firstExecutable ps = .error f) : ∃ q ∈ ps, h.probe q = .error f := by
  induction ps with
  | nil => cases hf
  | cons q ps ih =>
    simp only [World.firstExecutable] at hf
    rcases except_bind_eq_error.mp hf with hq | ⟨b, -, hf⟩
    · exact ⟨q, List.mem_cons_self, World.isExecutable_eq_error hq⟩
    · cases b with
      | true => cases hf
      | false =>
        obtain ⟨q', hq', he⟩ := ih hf
        exact ⟨q', List.mem_cons_of_mem q hq', he⟩

/-- `which` gives the text of the first path it looks at that names an executable file, having
tested the paths before it, or nothing when no path it looks at does. -/
theorem World.which_eq_ok {cmd : String} {r : Option String} (hr : h.which cmd = .ok r) :
    (r = none ∧ ∀ q ∈ h.whichPaths cmd, h.isExecutable q = .ok false) ∨
      ∃ pre q post, h.whichPaths cmd = pre ++ q :: post ∧
        (∀ q' ∈ pre, h.isExecutable q' = .ok false) ∧ h.isExecutable q = .ok true ∧
        r = some q.toText := by
  obtain ⟨found, hfound, hr⟩ := except_bind_eq_ok.mp hr
  cases hr
  rcases World.firstExecutable_eq_ok hfound with
    ⟨rfl, hall⟩ | ⟨pre, q, post, hps, hpre, hq, rfl⟩
  · exact .inl ⟨rfl, hall⟩
  · exact .inr ⟨pre, q, post, hps, hpre, hq, rfl⟩

theorem World.which_eq_error {cmd : String} {f : Fault} (hf : h.which cmd = .error f) :
    ∃ q ∈ h.whichPaths cmd, h.probe q = .error f := by
  rcases except_bind_eq_error.mp hf with hf | ⟨_, -, hf⟩
  · exact World.firstExecutable_eq_error hf
  · cases hf

end Host

open Host (World)

def DoctorItem.Passes (i : DoctorItem) (pass : Prop) : Prop :=
  (i.status = "OK" ↔ pass) ∧ (i.status = "FAIL" ↔ ¬pass)

theorem DoctorItem.Passes.not_fail {i : DoctorItem} {b : Bool} (h : i.Passes (b = true)) :
    b = true ↔ i.status ≠ "FAIL" := by
  rw [ne_eq, h.2, not_not]

/-- The two items of a step `s`: the command item passes exactly when `which` finds the command
the doctor looks for, with the path found as its details, and the directory item exactly when
the step's directory is a directory. -/
structure StepItems (h : World) (p : Pipeline) (s : Step) (cmd dir : DoctorItem) : Prop where
  cmd_name : cmd.name = s.name ++ ": command"
  dir_name : dir.name = s.name ++ ": cwd"
  cmd_passes : ∃ found, h.which (doctorCommand p s) = .ok found ∧ cmd.Passes found.isSome ∧
    ∀ path, found = some path → cmd.details = path
  dir_passes : dir.Passes (h.probe (p.stepCwd s) = .ok (some .dir))

theorem passes_ok (name details : String) {pass : Prop} (h : pass) :
    DoctorItem.Passes ⟨name, "OK", details⟩ pass :=
  ⟨iff_of_true rfl h, iff_of_false (show ¬("OK" = "FAIL") by decide) (not_not_intro h)⟩

theorem passes_fail (name details : String) {pass : Prop} (h : ¬pass) :
    DoctorItem.Passes ⟨name, "FAIL", details⟩ pass :=
  ⟨iff_of_false (show ¬("FAIL" = "OK") by decide) h, iff_of_true rfl h⟩

theorem rootCheck_eq_ok {h : World} {p : Pipeline} {root : DoctorItem × Bool}
    (hr : rootCheck h p = .ok root) :
    root.1.name = "pipeline root" ∧ root.1.Passes (h.probe p.root = .ok (some .dir)) ∧
      root.1.Passes (root.2 = true) := by
  unfold rootCheck at hr
  obtain ⟨isDir, hdir, hr⟩ := except_bind_eq_ok.mp hr
  have hpass := World.isDirAt_eq_ok hdir
  cases isDir
  all_goals
    simp only [Bool.false_eq_true, if_false, if_true, pure, Except.pure, Except.ok.injEq] at hr
    subst hr
  · exact ⟨rfl, passes_fail _ _ fun hp => Bool.false_ne_true (hpass.mpr hp),
      passes_fail _ _ Bool.false_ne_true⟩
  · exact ⟨rfl, passes_ok _ _ (hpass.mp rfl), passes_ok _ _ rfl⟩

theorem stepItems_of_stepChecks {h : World} {p : Pipeline} {s : Step}
    {cs : List (DoctorItem × Bool)} (hs : stepChecks h p s = .ok cs) :
    ∃ cmd dir, cs.map Prod.fst = [cmd, dir] ∧ StepItems h p s cmd dir ∧
      ∀ c ∈ cs, c.1.Passes (c.2 = true) := by
  unfold stepChecks at hs
  obtain ⟨found, hfound, hs⟩ := except_bind_eq_ok.mp hs
  obtain ⟨isDir, hdir, hs⟩ := except_bind_eq_ok.mp hs
  cases hs
  have hpass := World.isDirAt_eq_ok hdir
  refine ⟨_, _, rfl, ⟨by cases found <;> rfl, by cases isDir <;> rfl,
    ⟨found, hfound, ?_, ?_⟩, ?_⟩, ?_⟩
  · cases found
    · exact passes_fail _ _ Bool.false_ne_true
    · exact passes_ok _ _ rfl
  · rintro path rfl
    rfl
  · cases isDir
    · exact passes_fail _ _ fun hp => Bool.false_ne_true (hpass.mpr hp)
    · exact passes_ok _ _ (hpass.mp rfl)
  · intro c hc
    simp only [List.mem_cons, List.not_mem_nil, or_false] at hc
    rcases hc with rfl | rfl
    · cases found
      · exact passes_fail _ _ Bool.false_ne_true
      · exact passes_ok _ _ rfl
    · cases isDir
      · exact passes_fail _ _ Bool.false_ne_true
      · exact passes_ok _ _ rfl

theorem doctorReport_reports {h : World} {p : Pipeline} {R : DoctorReport}
    (hR : doctorReport h p = .ok R) :
    ∃ root checks, R.items = root :: ((if p.steps = [] then [noStepsItem] else []) ++
        checks.flatten) ∧
      root.name = "pipeline root" ∧ root.Passes (h.probe p.root = .ok (some .dir)) ∧
      List.Forall₂ (fun s c => ∃ cmd dir, c = [cmd, dir] ∧ StepItems h p s cmd dir) p.steps
        checks ∧
      (R.ok = true ↔ ∀ i ∈ R.items, i.status ≠ "FAIL") ∧
      (R.ok = true ↔ root.status = "OK" ∧ ∀ c ∈ checks, ∀ i ∈ c, i.status = "OK") := by
  obtain ⟨root, css, hroot, hcss, hitems, hok⟩ := doctorReport_eq_ok hR
  obtain ⟨hname, hpass, hgraded⟩ := rootCheck_eq_ok hroot
  have hsteps := hcss.imp fun _ _ => stepItems_of_stepChecks
  have hchecks : ∀ c ∈ css.flatten, c.1.Passes (c.2 = true) := by
    intro c hc
    obtain ⟨cs, hcs, hc⟩ := List.mem_flatten.mp hc
    obtain ⟨s, -, hs⟩ := forall₂_exists_of_mem_right hsteps hcs
    exact hs.elim fun _ hs => hs.elim fun _ hs => hs.2.2 c hc
  have hnofail : R.ok = true ↔ root.1.status ≠ "FAIL" ∧ ∀ c ∈ css.flatten, c.1.status ≠ "FAIL" := by
    rw [hok, hgraded.not_fail]
    exact and_congr_right fun _ => forall₂_congr fun c hc => (hchecks c hc).not_fail
  have hallok : R.ok = true ↔ root.1.status = "OK" ∧ ∀ c ∈ css.flatten, c.1.status = "OK" := by
    rw [hok, hgraded.1]
    exact and_congr_right fun _ => forall₂_congr fun c hc => (hchecks c hc).1.symm
  refine ⟨root.1, css.map (·.map Prod.fst), by rw [hitems, List.map_flatten], hname, hpass,
    List.forall₂_map_right_iff.mpr (hsteps.imp fun _ _ hs =>
      hs.imp fun _ hs => hs.imp fun _ hs => ⟨hs.1, hs.2.1⟩), ?_, ?_⟩
  · rw [hnofail, hitems, List.forall_mem_cons, List.forall_mem_append, List.forall_mem_map]
    refine and_congr_right fun _ => ⟨fun h => ⟨fun i hi => ?_, h⟩, fun h => h.2⟩
    split at hi
    · rw [List.mem_singleton.mp hi]
      decide
    · cases hi
  · rw [hallok, List.forall_mem_flatten, List.forall_mem_map]
    simp only [List.forall_mem_map]

theorem doctorReport_fault {h : World} {p : Pipeline} {f : Fault}
    (hf : doctorReport h p = .error f) :
    ∃ q, h.probe q = .error f ∧ (q = p.root ∨ ∃ s ∈ p.steps,
      q = p.stepCwd s ∨ q ∈ h.whichPaths (doctorCommand p s)) := by
  unfold doctorReport at hf
  rcases except_bind_eq_error.mp hf with hroot | ⟨_, -, hf⟩
  · unfold rootCheck at hroot
    rcases except_bind_eq_error.mp hroot with hdir | ⟨b, -, hroot⟩
    · exact ⟨p.root, Host.World.isDirAt_eq_error hdir, .inl rfl⟩
    · cases b <;> simp [pure, Except.pure] at hroot
  dsimp only at hf
  rw [foldlM_stepChecks] at hf
  rcases except_bind_eq_error.mp hf with hsteps | ⟨_, -, hf⟩
  · obtain ⟨s, hs, hstep⟩ := mapM_eq_error (except_map_eq_error.mp hsteps)
    unfold stepChecks at hstep
    rcases except_bind_eq_error.mp hstep with hwhich | ⟨_, -, hstep⟩
    · obtain ⟨q, hq, hprobe⟩ := Host.World.which_eq_error hwhich
      exact ⟨q, hprobe, .inr ⟨s, hs, .inr hq⟩⟩
    rcases except_bind_eq_error.mp hstep with hdir | ⟨_, -, hstep⟩
    · exact ⟨_, Host.World.isDirAt_eq_error hdir, .inr ⟨s, hs, .inl rfl⟩⟩
    · cases hstep
  · cases hf

end BuildGate
