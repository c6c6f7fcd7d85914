import BuildGate.Store
import BuildGate.Proofs.Run
import BuildGate.Proofs.ReportFile
import Mathlib.Data.List.Nodup

namespace BuildGate

/-- What the stored record `e` of a result `r` holds: the result's name, exit code, verdict,
failure, launch error and output sizes; its time rounded to milliseconds; and the command line
and directory of the last step of `p` named like the result. -/
structure StepRecord.Records (p : Pipeline) (r : StepResult) (e : StepRecord) : Prop where
  name_eq : e.name = r.name
  step : ∃ s, p.steps.reverse.find? (·.name == r.name) = some s ∧ e.argv = s.argv ∧
    e.cwd = (p.stepCwd s).toText
  exitCode_eq : e.exitCode = r.exitCode
  ok_eq : e.ok = r.ok
  failureKind_eq : e.failureKind = r.failureKind
  launchError_eq : e.launchError = r.launchError
  duration_eq : ∃ d, r.duration.round3 = .ok d ∧ e.duration = d.toFloat
  stdoutBytes_eq : e.stdoutBytes = r.stdout.length
  stderrBytes_eq : e.stderrBytes = r.stderr.length

namespace Store

variable {st : Store} {p : Pipeline}

theorem recordFloat_eq_ok {model field : String} {s : Seconds} {x : Float}
    (h : recordFloat model field s = .ok x) : x = s.toFloat := by
  cases s with
  | whole n =>
    simp only [recordFloat] at h
    split at h
    · cases h
      rfl
    · cases h
  | real y => cases h; rfl
  | truth b => cases h; rfl
  | notNumber v => cases h; rfl

theorem stepRecord_records {t t' : Fs.Tree} {i : Nat} {r : StepResult} {e : StepRecord}
    (h : st.stepRecord p t i r = .ok (t', e)) : e.Records p r := by
  simp only [stepRecord] at h
  split at h
  next s hfind =>
    simp only [pure_bind] at h
    obtain ⟨_, -, h⟩ := except_bind_eq_ok.mp h
    obtain ⟨_, -, h⟩ := except_bind_eq_ok.mp h
    obtain ⟨d, hd, h⟩ := except_bind_eq_ok.mp h
    obtain ⟨x, hx, h⟩ := except_bind_eq_ok.mp h
    cases h
    exact ⟨rfl, ⟨s, hfind, rfl, rfl⟩, rfl, rfl, rfl, rfl, ⟨d, hd, recordFloat_eq_ok hx⟩, rfl, rfl⟩
  next =>
    obtain ⟨_, hthrow, -⟩ := except_bind_eq_ok.mp h
    cases hthrow

theorem stepRecords_records {t t' : Fs.Tree} {i : Nat} {rs : List StepResult}
    {es : List StepRecord} (h : st.stepRecords p t i rs = .ok (t', es)) :
    List.Forall₂ (StepRecord.Records p) rs es := by
  induction rs generalizing t i es with
  | nil =>
    cases h
    exact .nil
  | cons r rs ih =>
    simp only [stepRecords] at h
    obtain ⟨⟨t₁, e⟩, he, h⟩ := except_bind_eq_ok.mp h
    obtain ⟨⟨t₂, es'⟩, hes, h⟩ := except_bind_eq_ok.mp h
    cases h
    exact .cons (stepRecord_records he) (ih hes)

/-- What the record of a run's report holds, once the report is stored. -/
theorem writeReport_eq_ok {t t' : Fs.Tree} {rid : String} {R : Report} {rec : RunRecord}
    (h : st.writeReport t rid p R = .ok (t', rec)) :
    List.Forall₂ (StepRecord.Records p) R.results rec.steps ∧
      rec.notRun = (p.steps.drop R.results.length).map (·.name) ∧
      rec.stepsTotal = p.steps.length ∧ rec.status = (if R.ok then .pass else .fail) ∧
      rec.firstFailure = R.firstFailure := by
  obtain ⟨t₁, steps, d, x, q, hsteps, -, -, rfl, -⟩ := writeReport_inv h
  exact ⟨stepRecords_records hsteps, rfl, rfl, rfl, rfl⟩

end Store

theorem find?_reverse_name_of_nodup {steps : List Step} (hnd : (steps.map (·.name)).Nodup)
    {s : Step} (hs : s ∈ steps) : steps.reverse.find? (·.name == s.name) = some s := by
  rw [List.find?_eq_some_iff_append]
  obtain ⟨as, bs, hsplit⟩ := List.append_of_mem (List.mem_reverse.mpr hs)
  refine ⟨by simp, as, bs, hsplit, fun a ha => ?_⟩
  -- another step of that name before it in the reversed list would repeat the name
  have hnd' : (steps.reverse.map (·.name)).Nodup := by
    rw [List.map_reverse]
    exact List.nodup_reverse.mpr hnd
  rw [hsplit, List.map_append, List.map_cons] at hnd'
  have hne : a.name ≠ s.name := by
    intro heq
    exact (List.nodup_append.mp hnd').2.2 _ (List.mem_map_of_mem ha) _ List.mem_cons_self heq
  simpa using hne

namespace StepRecord.Records

variable {p : Pipeline}

theorem map_name {rs : List StepResult} {es : List StepRecord}
    (h : List.Forall₂ (Records p) rs es) : es.map (·.name) = rs.map (·.name) := by
  induction h with
  | nil => rfl
  | cons hr _ ih => simp [hr.name_eq, ih]

theorem steps_of_nodup (hnd : p.stepNames.Nodup) {rs : List StepResult} {es : List StepRecord}
    (h : List.Forall₂ (Records p) rs es) {ss : List Step} (hss : ∀ s ∈ ss, s ∈ p.steps)
    (hnames : rs.map (·.name) = ss.map (·.name)) :
    es.map (·.argv) = ss.map Step.argv ∧
      es.map (·.cwd) = ss.map fun s => (p.stepCwd s).toText := by
  induction h generalizing ss with
  | nil =>
    cases ss with
    | nil => exact ⟨rfl, rfl⟩
    | cons => simp at hnames
  | cons hr _ ih =>
    cases ss with
    | nil => simp at hnames
    | cons s ss =>
      simp only [List.map_cons, List.cons.injEq] at hnames ⊢
      obtain ⟨s', hfind, hargv, hcwd⟩ := hr.step
      rw [hnames.1, find?_reverse_name_of_nodup hnd (hss s List.mem_cons_self)] at hfind
      cases hfind
      obtain ⟨hargvs, hcwds⟩ :=
        ih (fun x hx => hss x (List.mem_cons_of_mem _ hx)) hnames.2
      exact ⟨⟨hargv, hargvs⟩, ⟨hcwd, hcwds⟩⟩

theorem map_argv_of_name {rs : List StepResult} {es : List StepRecord}
    (h : List.Forall₂ (Records p) rs es) {n : String} {s : Step}
    (hlast : p.steps.reverse.find? (·.name == n) = some s) (hall : ∀ r ∈ rs, r.name = n) :
    es.map (·.argv) = rs.map fun _ => s.argv := by
  induction h with
  | nil => rfl
  | cons hr _ ih =>
    obtain ⟨s', hfind, hargv, -⟩ := hr.step
    rw [hall _ List.mem_cons_self, hlast, Option.some.injEq] at hfind
    rw [List.map_cons, List.map_cons, hargv, ← hfind,
      ih fun r hr' => hall r (List.mem_cons_of_mem _ hr')]

end StepRecord.Records

/-- What the stored record `rec` of a run of `p` that reported `R` holds: one step record per
result, in order, each holding its result (`StepRecord.Records`: name, exit code, verdict,
failure, launch error, time rounded to milliseconds, output sizes, and the command line and
directory of the last step of that name), named after the step at its position; the names of
the steps that did not run after them, so that together they name every step of the pipeline in
order; the number of steps; `PASS` exactly when the run passed; and the first failing step.
When the step names are distinct, each step record holds the command line and directory of the
step at its position. -/
structure RunRecord.OfRun (p : Pipeline) (R : Report) (rec : RunRecord) : Prop where
  length_eq : rec.steps.length = R.results.length
  steps : List.Forall₂ (StepRecord.Records p) R.results rec.steps
  names : rec.steps.map (·.name) = (p.steps.take rec.steps.length).map (·.name)
  notRun_eq : rec.notRun = (p.steps.drop rec.steps.length).map (·.name)
  names_append_notRun : rec.steps.map (·.name) ++ rec.notRun = p.stepNames
  stepsTotal_eq : rec.stepsTotal = p.steps.length
  status_pass_iff : rec.status = .pass ↔ R.ok = true
  firstFailure_eq : rec.firstFailure = R.firstFailure
  steps_of_nodup : p.stepNames.Nodup →
    rec.steps.map (·.argv) = (p.steps.take rec.steps.length).map Step.argv ∧
      rec.steps.map (·.cwd) = (p.steps.take rec.steps.length).map fun s => (p.stepCwd s).toText

/-- The stored record of a run, whatever the runner and the sinks, is the record of that run
(`RunRecord.OfRun`). -/
theorem writeReport_records_run {σ : Type} (st : Store) (t : Fs.Tree) (rid : String)
    (p : Pipeline) (opts : RunOptions) (runner : Runner σ) (sink : Option (EventSink σ))
    (note : LogSink σ) (w : σ) {out : RunOutput σ}
    (hrun : runPipeline p opts runner sink note w = .ok out) {t' : Fs.Tree} {rec : RunRecord}
    (hw : st.writeReport t rid p out.report = .ok (t', rec)) : rec.OfRun p out.report := by
  obtain ⟨hsteps, hnotRun, htotal, hstatus, hfirst⟩ := st.writeReport_eq_ok hw
  obtain ⟨calls, hstop⟩ := runPipeline_eq_ok_stops p opts hrun
  have hlen : rec.steps.length = out.report.results.length := hsteps.length_eq.symm
  have hnames : rec.steps.map (·.name) = (p.steps.take rec.steps.length).map (·.name) := by
    rw [StepRecord.Records.map_name hsteps, hlen]
    exact hstop.settled.names
  refine ⟨hlen, hsteps, hnames, by rw [hnotRun, hlen], ?_, htotal, ?_, hfirst, fun hnd => ?_⟩
  · rw [hnames, hnotRun, hlen, ← List.map_append, List.take_append_drop]
    rfl
  · rw [hstatus]
    cases out.report.ok <;> simp
  · exact StepRecord.Records.steps_of_nodup hnd hsteps (fun s hs => List.mem_of_mem_take hs)
      (by rw [← StepRecord.Records.map_name hsteps, hnames])

/-- A two-step pipeline run by a runner whose every command passes, its report written to a
fresh run directory. -/
theorem writeReport_records_two_step_run :
    ∃ out t' rec,
      runPipeline ⟨"ci", Path.ofString "/repo", [{ name := "build", command := "make" },
          { name := "test", command := "make", args := ["check"] }], Env.empty⟩ {}
        (replay [] (.gives {})) none (fun _ w => w) [] = .ok out ∧
      Store.writeReport ⟨Path.ofString "/out"⟩ {} "r1" ⟨"ci", Path.ofString "/repo",
          [{ name := "build", command := "make" },
            { name := "test", command := "make", args := ["check"] }], Env.empty⟩ out.report =
        .ok (t', rec) ∧
      rec.OfRun ⟨"ci", Path.ofString "/repo", [{ name := "build", command := "make" },
          { name := "test", command := "make", args := ["check"] }], Env.empty⟩ out.report := by
  obtain ⟨out, hrun, hcheck⟩ := @exists_eq_ok_of_match _ _
    (runPipeline ⟨"ci", Path.ofString "/repo", [{ name := "build", command := "make" },
        { name := "test", command := "make", args := ["check"] }], Env.empty⟩ {}
      (replay [] (.gives {})) none (fun _ w => w) [])
    (fun out => out.report.textsValid && out.report.results.all StepResult.shortInts &&
      (Store.dryRunReport ⟨Path.ofString "/out"⟩ {} ⟨"ci", Path.ofString "/repo",
        [{ name := "build", command := "make" },
          { name := "test", command := "make", args := ["check"] }], Env.empty⟩
        out.report).isOk) (by decide +kernel)
  simp only [Bool.and_eq_true] at hcheck
  obtain ⟨t', rec, hw⟩ := Store.writeReport_eq_ok_of "r1" (by decide +kernel) (by decide +kernel)
    hcheck.1.1 hcheck.1.2 (Value.isLongInt_eq_false_of_lt (by decide))
    hcheck.2
  exact ⟨out, t', rec, hrun, hw, writeReport_records_run _ _ _ _ _ _ _ _ _ hrun hw⟩

/-- Two steps of one name, run by a runner whose every command passes: both step records hold
the command line of the second step, so the first does not hold that of the step it records. -/
theorem writeReport_takes_last_namesake :
    ∃ out t' rec,
      runPipeline ⟨"ci", Path.ofString "/repo", [{ name := "a", command := "x" },
          { name := "a", command := "y" }], Env.empty⟩ {}
        (replay [] (.gives {})) none (fun _ w => w) [] = .ok out ∧
      Store.writeReport ⟨Path.ofString "/out"⟩ {} "r1" ⟨"ci", Path.ofString "/repo",
          [{ name := "a", command := "x" }, { name := "a", command := "y" }], Env.empty⟩
          out.report = .ok (t', rec) ∧
      rec.steps.map (·.argv) = [["y"], ["y"]] := by
  obtain ⟨out, hrun, hcheck⟩ := @exists_eq_ok_of_match _ _
    (runPipeline ⟨"ci", Path.ofString "/repo",
        [{ name := "a", command := "x" }, { name := "a", command := "y" }], Env.empty⟩ {}
      (replay [] (.gives {})) none (fun _ w => w) [])
    (fun out => out.report.textsValid && out.report.results.all StepResult.shortInts &&
      (Store.dryRunReport ⟨Path.ofString "/out"⟩ {} ⟨"ci", Path.ofString "/repo",
        [{ name := "a", command := "x" }, { name := "a", command := "y" }], Env.empty⟩
        out.report).isOk && out.report.results.map (·.name) == ["a", "a"]) (by decide +kernel)
  simp only [Bool.and_eq_true, beq_iff_eq] at hcheck
  obtain ⟨t', rec, hw⟩ := Store.writeReport_eq_ok_of "r1" (by decide +kernel) (by decide +kernel)
    hcheck.1.1.1 hcheck.1.1.2 (Value.isLongInt_eq_false_of_lt (by decide))
    hcheck.1.2
  refine ⟨out, t', rec, hrun, hw, ?_⟩
  -- every result is named `a`, so every record holds the command line of the last step `a`
  have hnames := hcheck.2
  have hall : ∀ r ∈ out.report.results, r.name = "a" := by
    intro r hr
    have hmem : r.name ∈ out.report.results.map (·.name) := List.mem_map_of_mem hr
    rw [hnames] at hmem
    simpa using hmem
  rw [StepRecord.Records.map_argv_of_name (Store.writeReport_eq_ok hw).1 rfl hall, List.map_const',
    ← List.length_map (f := (·.name)), hnames]
  rfl

end BuildGate
