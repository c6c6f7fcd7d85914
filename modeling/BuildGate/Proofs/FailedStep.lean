import BuildGate.Check
import BuildGate.Proofs.RunCommand

namespace BuildGate

theorem find?_name_last_eq_iff {l : List StepResult} {r : StepResult}
    (hr : l.getLast? = some r) (hok : ∀ x ∈ l.dropLast, x.ok = true) (hfail : r.ok = false) :
    l.find? (·.name == r.name) = some r ↔ r.name ∉ l.dropLast.map (·.name) := by
  obtain ⟨ys, rfl⟩ := List.getLast?_eq_some_iff.mp hr
  rw [List.dropLast_concat] at hok ⊢
  rw [List.find?_append]
  cases hys : ys.find? (·.name == r.name) with
  | none =>
    have hnot : r.name ∉ ys.map (·.name) := by
      intro hmem
      obtain ⟨x, hx, hname⟩ := List.mem_map.mp hmem
      exact List.find?_eq_none.mp hys x hx (by simpa using hname)
    simp [hnot]
  | some x =>
    have hx : x ∈ ys := List.mem_of_find?_eq_some hys
    have hne : x ≠ r := by
      rintro rfl
      rw [hok x hx] at hfail
      cases hfail
    have hname : x.name = r.name := by simpa using List.find?_some hys
    have hmem : r.name ∈ ys.map (·.name) := List.mem_map.mpr ⟨x, hx, hname⟩
    simp [hne, hmem]

namespace Report.StopsAtFirstFailure

variable {R : Report} {p : Pipeline} {opts : RunOptions} {calls : List (Invocation × Outcome)}

theorem failedResult_of_ok (hR : R.StopsAtFirstFailure p opts calls) (hpass : R.ok = true) :
    R.failedResult = none := by
  rw [Report.failedResult, hR.passed hpass, Option.bind_none]

theorem failedResult_of_failed (hR : R.StopsAtFirstFailure p opts calls) (hfail : R.ok = false) :
    ∃ r, R.results.getLast? = some r ∧ r.ok = false ∧
      R.failedResult = R.results.find? (·.name == r.name) ∧
      (R.failedResult = some r ↔ r.name ∉ R.results.dropLast.map (·.name)) ∧
      (p.stepNames.Nodup → R.failedResult = some r) := by
  obtain ⟨r, hr, hbad, hname⟩ := hR.last_failed hfail
  have hfind : R.failedResult = R.results.find? (·.name == r.name) := by
    rw [Report.failedResult, hname, Option.bind_some, Report.resultFor]
  have hiff := find?_name_last_eq_iff hr hR.settled.ok_dropLast hbad
  refine ⟨r, hr, hbad, hfind, by rw [hfind, hiff], fun hnd => ?_⟩
  -- the results are named after the first steps, so distinct step names give distinct results
  have hnd' : (R.results.map (·.name)).Nodup := by
    rw [hR.settled.names, List.map_take]
    exact hnd.sublist (List.take_sublist _ _)
  rw [hfind, hiff]
  obtain ⟨ys, hys⟩ := List.getLast?_eq_some_iff.mp hr
  rw [hys, List.dropLast_concat]
  rw [hys, List.map_append, List.map_singleton, List.nodup_append] at hnd'
  exact fun hmem => hnd'.2.2 _ hmem _ (List.mem_singleton_self _) rfl

end Report.StopsAtFirstFailure

/-- The result `failedResult` gives for a report of a run of `p`, whatever the runner and the
sinks: none when the run passed; otherwise the first result named like the last result, which
failed. That is the failing result exactly when no step that ran before it bears its name, in
particular whenever the step names of `p` are distinct. -/
theorem runPipeline_failedResult {σ : Type} (p : Pipeline) (opts : RunOptions)
    (runner : Runner σ) (sink : Option (EventSink σ)) (note : LogSink σ) (w : σ)
    {out : RunOutput σ} (h : runPipeline p opts runner sink note w = .ok out) :
    (out.report.ok = true → out.report.failedResult = none) ∧
      (out.report.ok = false → ∃ r, out.report.results.getLast? = some r ∧ r.ok = false ∧
        out.report.failedResult = out.report.results.find? (·.name == r.name) ∧
        (out.report.failedResult = some r ↔
          r.name ∉ out.report.results.dropLast.map (·.name)) ∧
        (p.stepNames.Nodup → out.report.failedResult = some r)) := by
  obtain ⟨calls, hR⟩ := runPipeline_eq_ok_stops p opts h
  exact ⟨hR.failedResult_of_ok, hR.failedResult_of_failed⟩

/-- `check` loads its pipeline from a file, so the step names are distinct, and the standard
error it reports for a failed run is that of the step that failed. -/
theorem check_stderr_of_failing_step {h h' : Host.World} {repo : Path} {file : Option Path}
    {sum : CheckSummary} (hc : check h repo file = .ok (sum, h')) (hfail : sum.ok = false) :
    ∃ p out r, runPipeline p { base := h.env } Host.World.runner none (fun _ w => w) h = .ok out ∧
      out.report.results.getLast? = some r ∧ r.ok = false ∧ sum.stderr = Text.decodeLossy r.stderr := by
  simp only [check] at hc
  obtain ⟨root, -, hc⟩ := except_bind_eq_ok.mp hc
  obtain ⟨p, hload, hc⟩ := except_bind_eq_ok.mp hc
  obtain ⟨out, hrun, hc⟩ := except_bind_eq_ok.mp hc
  cases hc
  obtain ⟨calls, hR⟩ := runPipeline_eq_ok_stops p _ hrun
  obtain ⟨r, hr, hbad, -, -, hnd⟩ := hR.failedResult_of_failed hfail
  refine ⟨p, out, r, hrun, hr, hbad, ?_⟩
  simp only [hnd (Cli.loadPipelineFile_sound hload).names_nodup]

/-- A three-step pipeline whose second step exits with 2: the report's failed result is its last
result. -/
theorem runPipeline_failedResult_at_second_of_three :
    ∃ out, runPipeline ⟨"ci", Path.ofString "/repo", [{ name := "build", command := "make" },
        { name := "test", command := "make" }, { name := "lint", command := "ruff" }], Env.empty⟩
        {} (replay [.gives {}, .gives { returncode := 2 }] (.gives {})) none (fun _ w => w) [] =
          .ok out ∧
      out.report.ok = false ∧ out.report.failedResult = out.report.results.getLast? := by
  obtain ⟨out, hrun, hcheck⟩ := @exists_eq_ok_of_match _ _ (runPipeline ⟨"ci", Path.ofString "/repo",
      [{ name := "build", command := "make" }, { name := "test", command := "make" },
        { name := "lint", command := "ruff" }], Env.empty⟩ {}
      (replay [.gives {}, .gives { returncode := 2 }] (.gives {})) none (fun _ w => w) [])
    (fun out => !out.report.ok) (by decide +kernel)
  have hfail : out.report.ok = false := by simpa using hcheck
  obtain ⟨r, hr, -, -, -, hnd⟩ := (runPipeline_failedResult _ _ _ _ _ _ hrun).2 hfail
  exact ⟨out, hrun, hfail, by rw [hr, hnd (by decide)]⟩

/-- Two steps of one name, the first passing and the second failing: the failing step's name
finds the first result, which passed, and not the result of the step that failed. -/
theorem failedResult_finds_passing_namesake :
    ∃ out, runPipeline ⟨"ci", Path.ofString "/repo",
        [{ name := "a", command := "x" }, { name := "a", command := "y" }], Env.empty⟩ {}
        (replay [.gives {}, .gives { returncode := 1 }] (.gives {})) none (fun _ w => w) [] =
          .ok out ∧
      out.report.ok = false ∧ out.report.failedResult.map (·.exitCode) = some 0 ∧
      out.report.results.getLast?.map (·.exitCode) = some 1 ∧
      out.report.failedResult ≠ out.report.results.getLast? := by
  obtain ⟨out, hrun, hcheck⟩ := @exists_eq_ok_of_match _ _ (runPipeline ⟨"ci", Path.ofString "/repo",
      [{ name := "a", command := "x" }, { name := "a", command := "y" }], Env.empty⟩ {}
      (replay [.gives {}, .gives { returncode := 1 }] (.gives {})) none (fun _ w => w) [])
    (fun out => !out.report.ok && out.report.failedResult.map (·.exitCode) == some 0 &&
      out.report.results.getLast?.map (·.exitCode) == some 1) (by decide +kernel)
  simp only [Bool.and_eq_true, Bool.not_eq_eq_eq_not, Bool.not_true, beq_iff_eq] at hcheck
  obtain ⟨⟨hfail, hfound⟩, hlast⟩ := hcheck
  refine ⟨out, hrun, hfail, hfound, hlast, fun heq => ?_⟩
  rw [heq, hlast] at hfound
  cases hfound

end BuildGate
