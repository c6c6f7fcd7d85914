import BuildGate.Proofs.Run
import BuildGate.EventLog

namespace BuildGate

variable {σ τ : Type}

/-- An event as a sink receives it: its name and fields. -/
abbrev RunEvent := String × List (String × Value)

def Runner.onFst (runner : Runner σ) : Runner (σ × τ) :=
  fun inv w => (fun r => (r.1, (r.2, w.2))) <$> runner inv w.1

def LogSink.onFst (note : LogSink σ) : LogSink (σ × τ) := fun line w => (note line w.1, w.2)

/-- `sink`, keeping beside its world every event it records, in order. -/
def EventSink.observed (sink : EventSink σ) : EventSink (σ × List RunEvent) :=
  fun e f w => (fun w' => (w', w.2 ++ [(e, f)])) <$> sink e f w.1

def stepEvents (p : Pipeline) : (Step × StepResult) × Nat → Except Fault (List RunEvent)
  | ((s, r), idx) => do
    let d ← r.duration.round3
    pure [("step_start", [("step", .str s.name), ("index", .int idx), ("argv", textList s.argv),
        ("cwd", .str (p.stepCwd s).toText)]),
      ("step_end", [("step", .str s.name), ("exit_code", .int r.exitCode),
        ("duration_s", d.toValue),
        ("failure_kind", Value.ofOption (r.failureKind.map FailureKind.name))])]

def runEndEvent (p : Pipeline) (R : Report) : RunEvent :=
  ("run_end", [("pipeline", .str p.name), ("status", .str R.status),
    ("first_failure", Value.ofOption R.firstFailure), ("steps_run", .int R.results.length),
    ("steps_total", .int p.steps.length)])

/-- The events of a run of `p` that reported `R`: the start and end of each step that gave a
result, numbered from one, then the end of the run. A time that cannot be rounded is a fault. -/
def Report.events (R : Report) (p : Pipeline) : Except Fault (List RunEvent) := do
  let steps ← ((p.steps.zip R.results).zipIdx 1).mapM (stepEvents p)
  pure (steps.flatten ++ [runEndEvent p R])

variable (p : Pipeline) (opts : RunOptions) {runner : Runner σ} {sink : EventSink σ}
  {note : LogSink σ}

theorem runFrom_observed_cons_eq_ok {idx : Nat} {s : Step} {rest : List Step}
    {done : List StepResult} {logs : List LogLine} {w : σ} {evs : List RunEvent}
    {res : List StepResult × Option String × List LogLine × σ × List RunEvent}
    (h : runFrom p opts runner.onFst (some sink.observed) note.onFst idx (s :: rest) done logs
      (w, evs) = .ok res) :
    ∃ o pair logs' w', stepEvents p ((s, StepResult.ofOutcome s.name o), idx) = .ok pair ∧
      (((StepResult.ofOutcome s.name o).ok = true ∧
          runFrom p opts runner.onFst (some sink.observed) note.onFst (idx + 1) rest
            (done ++ [StepResult.ofOutcome s.name o]) logs' (w', evs ++ pair) = .ok res) ∨
        ((StepResult.ofOutcome s.name o).ok = false ∧
          res = (done ++ [StepResult.ofOutcome s.name o], some s.name, logs', w', evs ++ pair))) := by
  simp only [runFrom, logTo, emitTo, EventSink.observed, Runner.onFst, LogSink.onFst] at h
  obtain ⟨w₁, h₁, h⟩ := except_bind_eq_ok.mp h
  obtain ⟨w₁', -, rfl⟩ := except_map_eq_ok.mp h₁
  obtain ⟨x, h₂, h⟩ := except_bind_eq_ok.mp h
  obtain ⟨⟨o, w₂⟩, -, rfl⟩ := except_map_eq_ok.mp h₂
  obtain ⟨d, hd, h⟩ := except_bind_eq_ok.mp h
  obtain ⟨w₃, h₃, h⟩ := except_bind_eq_ok.mp h
  obtain ⟨w₃', -, rfl⟩ := except_map_eq_ok.mp h₃
  rcases except_ite_bind_eq_ok h with ⟨hok, _, -, h⟩ | ⟨hok, rfl⟩
  · simp only [List.append_assoc, List.singleton_append] at h
    exact ⟨o, _, _, _, by simp only [stepEvents, hd]; rfl, .inl ⟨hok, h⟩⟩
  · -- the notice about the steps left out is logged only when some are left
    cases hr : rest.isEmpty <;>
      simp only [Bool.false_eq_true, if_true, if_false, List.append_assoc, List.singleton_append] <;>
      exact ⟨o, _, _, _, by simp only [stepEvents, hd]; rfl, .inr ⟨hok, rfl⟩⟩

theorem runFrom_observed_events (rest : List Step) {idx : Nat} {done : List StepResult}
    {logs : List LogLine} {w : σ} {evs : List RunEvent} {results : List StepResult}
    {failed : Option String} {logs' : List LogLine} {w' : σ} {evs' : List RunEvent}
    (h : runFrom p opts runner.onFst (some sink.observed) note.onFst idx rest done logs (w, evs) =
      .ok (results, failed, logs', w', evs')) :
    ∃ ran pairs, results = done ++ ran ∧ ran.length ≤ rest.length ∧
      ((rest.zip ran).zipIdx idx).mapM (stepEvents p) = .ok pairs ∧ evs' = evs ++ pairs.flatten := by
  induction rest generalizing idx done logs w evs with
  | nil =>
    simp only [runFrom, pure, Except.pure, Except.ok.injEq, Prod.mk.injEq] at h
    obtain ⟨rfl, -, -, -, rfl⟩ := h
    exact ⟨[], [], by simp, by simp, rfl, by simp⟩
  | cons s rest ih =>
    obtain ⟨o, pair, logs₁, w₁, hpair, ⟨-, hrun⟩ | ⟨-, hres⟩⟩ := runFrom_observed_cons_eq_ok p opts h
    · obtain ⟨ran, pairs, rfl, hlen, hmap, rfl⟩ := ih hrun
      refine ⟨StepResult.ofOutcome s.name o :: ran, pair :: pairs, by simp, by simpa using hlen, ?_,
        by simp⟩
      rw [List.zip_cons_cons, List.zipIdx_cons, List.mapM_cons, hpair, hmap]
      rfl
    · simp only [Prod.mk.injEq] at hres
      obtain ⟨rfl, -, -, -, rfl⟩ := hres
      refine ⟨[StepResult.ofOutcome s.name o], [pair], rfl, by simp, ?_, by simp⟩
      rw [List.zip_cons_cons, List.zip_nil_right, List.zipIdx_cons, List.mapM_cons, hpair]
      rfl

theorem runPipeline_observed_events {w : σ} {out : RunOutput (σ × List RunEvent)}
    (h : runPipeline p opts runner.onFst (some sink.observed) note.onFst (w, []) = .ok out) :
    out.report.events p = .ok out.world.2 ∧ out.report.results.length ≤ p.steps.length := by
  simp only [runPipeline] at h
  obtain ⟨⟨results, failed, logs, w₁, evs₁⟩, hrun, h⟩ := except_bind_eq_ok.mp h
  obtain ⟨ran, pairs, hres, hlen, hmap, hevs⟩ := runFrom_observed_events p opts p.steps hrun
  rw [List.nil_append] at hres hevs
  subst hres hevs
  obtain ⟨w₂, hend, h⟩ := except_bind_eq_ok.mp h
  simp only [emitTo, EventSink.observed] at hend
  obtain ⟨w₂', -, rfl⟩ := except_map_eq_ok.mp hend
  cases h
  refine ⟨?_, hlen⟩
  simp only [Report.events, hmap]
  rfl

theorem mapM_stepEvents_length {xs : List ((Step × StepResult) × Nat)}
    {pairs : List (List RunEvent)} (h : xs.mapM (stepEvents p) = .ok pairs) :
    pairs.flatten.length = 2 * xs.length := by
  induction xs generalizing pairs with
  | nil =>
    cases h
    rfl
  | cons x xs ih =>
    rw [List.mapM_cons] at h
    obtain ⟨pair, hpair, h⟩ := except_bind_eq_ok.mp h
    obtain ⟨pairs', hpairs, h⟩ := except_bind_eq_ok.mp h
    cases h
    obtain ⟨⟨s, r⟩, idx⟩ := x
    simp only [stepEvents] at hpair
    obtain ⟨d, -, hpair⟩ := except_bind_eq_ok.mp hpair
    cases hpair
    simp [ih hpairs]
    omega

theorem Report.events_length {R : Report} {evs : List RunEvent} (h : R.events p = .ok evs) :
    evs.length = 2 * (p.steps.zip R.results).length + 1 := by
  simp only [Report.events] at h
  obtain ⟨pairs, hmap, h⟩ := except_bind_eq_ok.mp h
  cases h
  rw [List.length_append, mapM_stepEvents_length p hmap, List.length_zipIdx]
  rfl

def EventLog.FreeFields (fields : List (String × Value)) : Prop :=
  fields.all (fun kv => !(["self", "event", "ts_ms", "run_id"].contains kv.1)) = true

def EventLog.runIdStamp (log : EventLog) : List (String × Value) :=
  match log.runId with
  | some r => if r.isEmpty then [] else [("run_id", .str r)]
  | none => []

theorem EventLog.record_of_free (log : EventLog) (event : String) {fields : List (String × Value)}
    (ms : Int) (hf : EventLog.FreeFields fields) :
    log.record event fields ms = .ok (Value.object
      (("event", .str event) :: fields ++ [("ts_ms", .int ms)] ++ log.runIdStamp)) := by
  -- no field is named like a parameter or like a key the log adds
  have hkey : ∀ kv ∈ fields, kv.1 ≠ "self" ∧ kv.1 ≠ "event" ∧ kv.1 ≠ "ts_ms" ∧ kv.1 ≠ "run_id" := by
    intro kv hkv
    simpa using List.all_eq_true.mp hf kv hkv
  have hfind : fields.find? (fun p => p.1 == "self" || p.1 == "event") = none :=
    List.find?_eq_none.mpr fun kv hkv => by simp [(hkey kv hkv).1, (hkey kv hkv).2.1]
  have hts : ((("event", Value.str event) :: fields).any (·.1 == "ts_ms")) = false := by
    simpa using fun kv v hkv => (hkey (kv, v) hkv).2.2.1
  have hrun : (fields ++ [("ts_ms", Value.int ms)]).any (·.1 == "run_id") = false := by
    simpa using fun kv v hkv => (hkey (kv, v) hkv).2.2.2
  unfold record
  simp only [hfind, hts, Bool.false_eq_true, if_false]
  unfold runIdStamp
  cases log.runId with
  | none => simp [pure, Except.pure]
  | some r => cases hr : r.isEmpty <;> simp [hrun, hr, pure, Except.pure]

theorem stepEvents_free {x : (Step × StepResult) × Nat} {pair : List RunEvent}
    (h : stepEvents p x = .ok pair) : ∀ ev ∈ pair, EventLog.FreeFields ev.2 := by
  obtain ⟨⟨s, r⟩, idx⟩ := x
  simp only [stepEvents] at h
  obtain ⟨d, -, h⟩ := except_bind_eq_ok.mp h
  cases h
  intro ev hev
  simp only [List.mem_cons, List.not_mem_nil, or_false] at hev
  rcases hev with rfl | rfl <;> rfl

theorem Report.events_free {R : Report} {evs : List RunEvent} (h : R.events p = .ok evs) :
    ∀ ev ∈ evs, EventLog.FreeFields ev.2 := by
  simp only [Report.events] at h
  obtain ⟨pairs, hmap, h⟩ := except_bind_eq_ok.mp h
  cases h
  intro ev hev
  rcases List.mem_append.mp hev with hev | hev
  · obtain ⟨pair, hpair, hev⟩ := List.mem_flatten.mp hev
    obtain ⟨x, -, hx⟩ := forall₂_exists_of_mem_right (mapM_eq_ok_forall₂ hmap) hpair
    exact stepEvents_free p hx ev hev
  · rw [List.mem_singleton.mp hev]
    rfl

def EventLog.sinkOn (log : EventLog) (clock : σ × Fs.Tree → Int) : EventSink (σ × Fs.Tree) :=
  fun e f w => (fun t => (w.1, t)) <$> log.emit w.2 (clock w) e f

/-- A run whose events go to an event log hands it exactly the events of its report, whatever
the runner does, the tree included: for each step that ran, in order, its start and then its end,
and last the end of the run, `2k + 1` events for `k` results, none for a step that did not run.
The log writes each as its record: the event's name, its fields as given, the time, and the log's
run id when it has a non-empty one. -/
theorem runPipeline_logs_events (runner : Runner (σ × Fs.Tree)) (note : LogSink (σ × Fs.Tree))
    (log : EventLog) (clock : σ × Fs.Tree → Int) (w : σ × Fs.Tree)
    {out : RunOutput ((σ × Fs.Tree) × List RunEvent)}
    (h : runPipeline p opts runner.onFst (some (log.sinkOn clock).observed) note.onFst (w, []) =
      .ok out) :
    out.report.events p = .ok out.world.2 ∧
      out.world.2.length = 2 * out.report.results.length + 1 ∧
      ∀ ev ∈ out.world.2, ∀ ms, log.record ev.1 ev.2 ms =
        .ok (Value.object (("event", .str ev.1) :: ev.2 ++ [("ts_ms", .int ms)] ++ log.runIdStamp)) := by
  obtain ⟨hevents, hlen⟩ := runPipeline_observed_events p opts h
  refine ⟨hevents, ?_, fun ev hev ms => log.record_of_free ev.1 ms (Report.events_free p hevents ev hev)⟩
  rw [Report.events_length p hevents, List.length_zip, Nat.min_eq_right hlen]

theorem runPipeline_logs_events_at_second_of_three :
    ∃ out, runPipeline ⟨"ci", Path.ofString "/repo",
        [{ name := "build", command := "make" }, { name := "test", command := "make" },
          { name := "lint", command := "ruff" }], Env.empty⟩ {}
        (replay [.gives {}, .gives { returncode := 2 }] (.gives {})).onFst.onFst
        (some (({ path := Path.ofString "/logs/events.jsonl", runId := some "r1" } : EventLog).sinkOn
          fun _ => 0).observed)
        (LogSink.onFst (LogSink.onFst fun _ w => w)) (([], {}), []) = .ok out ∧
      out.report.events ⟨"ci", Path.ofString "/repo",
          [{ name := "build", command := "make" }, { name := "test", command := "make" },
            { name := "lint", command := "ruff" }], Env.empty⟩ = .ok out.world.2 ∧
      out.world.2.length = 2 * out.report.results.length + 1 ∧
      ∀ ev ∈ out.world.2, ∀ ms,
        ({ path := Path.ofString "/logs/events.jsonl", runId := some "r1" } : EventLog).record
          ev.1 ev.2 ms = .ok (Value.object (("event", .str ev.1) :: ev.2 ++ [("ts_ms", .int ms)] ++
            ({ path := Path.ofString "/logs/events.jsonl", runId := some "r1" } : EventLog).runIdStamp)) := by
  obtain ⟨out, hout⟩ := exists_eq_ok_of_isOk (by decide +kernel :
    (runPipeline ⟨"ci", Path.ofString "/repo",
        [{ name := "build", command := "make" }, { name := "test", command := "make" },
          { name := "lint", command := "ruff" }], Env.empty⟩ {}
        (replay [.gives {}, .gives { returncode := 2 }] (.gives {})).onFst.onFst
        (some (({ path := Path.ofString "/logs/events.jsonl", runId := some "r1" } : EventLog).sinkOn
          fun _ => 0).observed)
        (LogSink.onFst (LogSink.onFst fun _ w => w)) (([], {}), [])).isOk = true)
  exact ⟨out, hout, runPipeline_logs_events _ _ _ _ _ _ _ hout⟩

end BuildGate
