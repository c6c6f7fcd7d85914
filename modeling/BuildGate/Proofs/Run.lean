import Mathlib
import BuildGate.Run
import BuildGate.Proofs.Build

namespace BuildGate

variable {σ : Type}

/-- `runner`, keeping beside its world every call it answers with the outcome it gave. -/
def Runner.observed (runner : Runner σ) : Runner (σ × List (Invocation × Outcome)) :=
  fun inv w => (runner inv w.1).map fun r => (r.1, (r.2, w.2 ++ [(inv, r.1)]))

/-- `note`, writing into the world of an observed runner. -/
def LogSink.observed (note : LogSink σ) : LogSink (σ × List (Invocation × Outcome)) :=
  fun line w => (note line w.1, w.2)

/-- What running `steps` leaves when the run stopped at its first failing step: the runner
answered `calls`, one for each step that ran and in step order; `results` are made of those
answers; every result but the last passed; and `failed` names the last step when it failed. -/
structure Settled (invoke : Step → Invocation) (steps : List Step)
    (calls : List (Invocation × Outcome)) (results : List StepResult) (failed : Option String) :
    Prop where
  calls_le : calls.length ≤ steps.length
  invoked : calls.map Prod.fst = (steps.take calls.length).map invoke
  results_eq : results = (steps.zip calls).map fun sc => StepResult.ofOutcome sc.1.name sc.2.2
  ok_dropLast : ∀ r ∈ results.dropLast, r.ok = true
  failed_none : failed = none ↔ calls.length = steps.length ∧ ∀ r ∈ results, r.ok = true
  failed_some : ∀ name, failed = some name → ∃ s r, steps[calls.length - 1]? = some s ∧
    results.getLast? = some r ∧ r.ok = false ∧ name = s.name

namespace Settled

variable {invoke : Step → Invocation} {steps : List Step} {calls : List (Invocation × Outcome)}
  {results : List StepResult} {failed : Option String}

theorem results_length (h : Settled invoke steps calls results failed) :
    results.length = calls.length := by
  rw [h.results_eq, List.length_map, List.length_zip]
  exact Nat.min_eq_right h.calls_le

theorem nil (invoke : Step → Invocation) : Settled invoke [] [] [] none where
  calls_le := Nat.le_refl 0
  invoked := rfl
  results_eq := rfl
  ok_dropLast := by simp
  failed_none := by simp
  failed_some := by simp

/-- A passing step in front of a settled run. -/
theorem pass {s : Step} {o : Outcome} (h : Settled invoke steps calls results failed)
    (hok : (StepResult.ofOutcome s.name o).ok = true) :
    Settled invoke (s :: steps) ((invoke s, o) :: calls)
      (StepResult.ofOutcome s.name o :: results) failed where
  calls_le := by simpa using h.calls_le
  invoked := by simp [h.invoked]
  results_eq := by simp [h.results_eq]
  ok_dropLast := by
    intro r hr
    cases results with
    | nil => simp at hr
    | cons x xs =>
      rcases List.mem_cons.mp (by simpa [List.dropLast_cons_cons] using hr) with rfl | hr
      · exact hok
      · exact h.ok_dropLast r (by simpa [List.dropLast_cons_cons] using hr)
  failed_none := by
    rw [h.failed_none]
    simp [hok]
  failed_some := by
    intro name hname
    obtain ⟨s', r, hs, hr, hfail, rfl⟩ := h.failed_some name hname
    have hne : results ≠ [] := by
      rintro rfl
      simp at hr
    have hpos : 0 < calls.length := by
      have := h.results_length
      cases results with
      | nil => exact absurd rfl hne
      | cons x xs => simp at this; omega
    refine ⟨s', r, ?_, ?_, hfail, rfl⟩
    · have hidx : calls.length + 1 - 1 = (calls.length - 1) + 1 := by omega
      simpa [hidx] using hs
    · rw [List.getLast?_cons, hr]
      rfl

/-- A failing step ends the run. -/
theorem fail {s : Step} {o : Outcome} (hfail : (StepResult.ofOutcome s.name o).ok = false) :
    Settled invoke (s :: steps) [(invoke s, o)] [StepResult.ofOutcome s.name o] (some s.name) where
  calls_le := by simp
  invoked := by simp
  results_eq := by simp
  ok_dropLast := by simp
  failed_none := by simp [hfail]
  failed_some := by
    intro name hname
    exact ⟨s, _, rfl, rfl, hfail, (Option.some.inj hname).symm⟩

end Settled

variable (p : Pipeline) (opts : RunOptions) {runner : Runner σ}

/-- What the report `R` of a run of `p` says when the run stopped at its first failing step and
the runner answered `calls`: one result per call, in step order and made of the answer; every
result but the last passed; the report passes exactly when every step ran and passed, and
otherwise names the last step that ran, which failed. -/
structure Report.StopsAtFirstFailure (R : Report) (p : Pipeline) (opts : RunOptions)
    (calls : List (Invocation × Outcome)) : Prop where
  settled : Settled (stepInvocation p opts) p.steps calls R.results R.firstFailure
  calls_length : calls.length = R.results.length
  ok_iff : R.ok = true ↔ R.results.length = p.steps.length ∧ ∀ r ∈ R.results, r.ok = true
  passed : R.ok = true → R.firstFailure = none
  failed : R.ok = false → ∃ s r, p.steps[R.results.length - 1]? = some s ∧
    R.results.getLast? = some r ∧ r.ok = false ∧ R.firstFailure = some s.name
  pipeline_eq : R.pipeline = p.name

theorem except_ite_bind_eq_ok {ε α β : Type} {c : Bool} {x : Except ε α} {k : α → Except ε β}
    {y b : β} (h : (if c = true then x >>= k else pure y) = .ok b) :
    (c = true ∧ ∃ a, x = .ok a ∧ k a = .ok b) ∨ (c = false ∧ b = y) := by
  cases c with
  | true => exact .inl ⟨rfl, except_bind_eq_ok.mp h⟩
  | false =>
    cases h
    exact .inr ⟨rfl, rfl⟩

section AnyRunner

variable {sink : Option (EventSink σ)} {note : LogSink σ}

theorem runFrom_cons_eq_ok {idx : Nat} {s : Step} {rest : List Step} {done : List StepResult}
    {logs : List LogLine} {w : σ} {res : List StepResult × Option String × List LogLine × σ}
    (h : runFrom p opts runner sink note idx (s :: rest) done logs w = .ok res) :
    ∃ o logs' w', ((StepResult.ofOutcome s.name o).ok = true ∧
        runFrom p opts runner sink note (idx + 1) rest (done ++ [StepResult.ofOutcome s.name o])
          logs' w' = .ok res) ∨
      ((StepResult.ofOutcome s.name o).ok = false ∧
        res = (done ++ [StepResult.ofOutcome s.name o], some s.name, logs', w')) := by
  cases sink with
  | none =>
    simp only [runFrom, logTo] at h
    obtain ⟨_, -, h⟩ := except_bind_eq_ok.mp h
    obtain ⟨⟨o, _⟩, -, h⟩ := except_bind_eq_ok.mp h
    simp only [pure_bind] at h
    rcases except_ite_bind_eq_ok h with ⟨hok, _, -, h⟩ | ⟨hok, rfl⟩
    · exact ⟨o, _, _, .inl ⟨hok, h⟩⟩
    · exact ⟨o, _, _, .inr ⟨hok, rfl⟩⟩
  | some f =>
    simp only [runFrom, logTo] at h
    obtain ⟨_, -, h⟩ := except_bind_eq_ok.mp h
    obtain ⟨⟨o, _⟩, -, h⟩ := except_bind_eq_ok.mp h
    obtain ⟨_, -, h⟩ := except_bind_eq_ok.mp h
    obtain ⟨_, -, h⟩ := except_bind_eq_ok.mp h
    rcases except_ite_bind_eq_ok h with ⟨hok, _, -, h⟩ | ⟨hok, rfl⟩
    · exact ⟨o, _, _, .inl ⟨hok, h⟩⟩
    · exact ⟨o, _, _, .inr ⟨hok, rfl⟩⟩

theorem runFrom_settled (rest : List Step) {idx : Nat} {done : List StepResult}
    {logs : List LogLine} {w : σ} {results : List StepResult} {failed : Option String}
    {logs' : List LogLine} {w' : σ}
    (h : runFrom p opts runner sink note idx rest done logs w = .ok (results, failed, logs', w')) :
    ∃ calls ran, results = done ++ ran ∧ Settled (stepInvocation p opts) rest calls ran failed := by
  induction rest generalizing idx done logs w with
  | nil =>
    simp only [runFrom, pure, Except.pure, Except.ok.injEq, Prod.mk.injEq] at h
    obtain ⟨rfl, rfl, -, -⟩ := h
    exact ⟨[], [], by simp, Settled.nil _⟩
  | cons s rest ih =>
    obtain ⟨o, logs₁, w₁, ⟨hok, hrun⟩ | ⟨hfail, hres⟩⟩ := runFrom_cons_eq_ok p opts h
    · obtain ⟨calls, ran, rfl, hs⟩ := ih hrun
      exact ⟨_, _, by simp, hs.pass hok⟩
    · simp only [Prod.mk.injEq] at hres
      obtain ⟨rfl, rfl, -, -⟩ := hres
      exact ⟨_, _, rfl, Settled.fail hfail⟩

theorem Report.stopsAtFirstFailure_of_settled {R : Report} {calls : List (Invocation × Outcome)}
    (hs : Settled (stepInvocation p opts) p.steps calls R.results R.firstFailure)
    (hok : R.ok = R.firstFailure.isNone) (hname : R.pipeline = p.name) :
    R.StopsAtFirstFailure p opts calls := by
  have hlen := hs.results_length
  refine ⟨hs, hlen.symm, ?_, ?_, ?_, hname⟩
  · rw [hok, Option.isNone_iff_eq_none, hs.failed_none, hlen]
  · intro hpass
    simpa [hok, Option.isNone_iff_eq_none] using hpass
  · intro hfail
    cases hf : R.firstFailure with
    | none => simp [hok, hf] at hfail
    | some name =>
      obtain ⟨s, r, hs', hr, hbad, rfl⟩ := hs.failed_some name hf
      exact ⟨s, r, by simpa [hlen] using hs', hr, hbad, rfl⟩

/-- Every report a run gives, whatever the runner, the event sink and the log sink, stops at its
first failing step. -/
theorem runPipeline_eq_ok_stops {w : σ} {out : RunOutput σ}
    (h : runPipeline p opts runner sink note w = .ok out) :
    ∃ calls, out.report.StopsAtFirstFailure p opts calls := by
  simp only [runPipeline] at h
  obtain ⟨⟨results, failed, logs, w₁⟩, hrun, h⟩ := except_bind_eq_ok.mp h
  obtain ⟨_, -, h⟩ := except_bind_eq_ok.mp h
  cases h
  obtain ⟨calls, ran, hres, hs⟩ := runFrom_settled p opts p.steps hrun
  rw [List.nil_append] at hres
  subst hres
  exact ⟨calls, Report.stopsAtFirstFailure_of_settled p opts hs rfl rfl⟩

end AnyRunner

/-- The results of a settled run are named after the steps that ran, in order. -/
theorem Settled.names {invoke : Step → Invocation} {steps : List Step}
    {calls : List (Invocation × Outcome)} {results : List StepResult} {failed : Option String}
    (h : Settled invoke steps calls results failed) :
    results.map (·.name) = (steps.take results.length).map (·.name) := by
  rw [h.results_length, h.results_eq, List.map_map, List.map_take]
  have hzip : ∀ (xs : List Step) (ys : List (Invocation × Outcome)), ys.length ≤ xs.length →
      (xs.zip ys).map (fun sc => sc.1.name) = (xs.map (·.name)).take ys.length := by
    intro xs ys hle
    induction ys generalizing xs with
    | nil => simp
    | cons y ys ih =>
      cases xs with
      | nil => simp at hle
      | cons x xs => simp [ih xs (by simpa using hle)]
  exact hzip steps calls h.calls_le

/-- A failed report ends with its failing result, and names the step of that result. -/
theorem Report.StopsAtFirstFailure.last_failed {R : Report} {p : Pipeline} {opts : RunOptions}
    {calls : List (Invocation × Outcome)} (hR : R.StopsAtFirstFailure p opts calls)
    (hfail : R.ok = false) :
    ∃ r, R.results.getLast? = some r ∧ r.ok = false ∧ R.firstFailure = some r.name := by
  obtain ⟨s, r, hs, hr, hbad, hname⟩ := hR.failed hfail
  have hlen : R.results.length ≠ 0 := by
    intro h0
    rw [List.length_eq_zero_iff.mp h0] at hr
    cases hr
  have hrname : r.name = s.name := by
    have hlast := congrArg List.getLast? hR.settled.names
    rw [List.getLast?_map, hr, List.getLast?_map, List.getLast?_take, if_neg hlen, hs] at hlast
    simpa using hlast
  exact ⟨r, hr, hbad, by rw [hname, hrname]⟩

end BuildGate
