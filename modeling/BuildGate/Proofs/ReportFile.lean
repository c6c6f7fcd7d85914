import BuildGate.Store
import BuildGate.Proofs.Run
import BuildGate.Proofs.Written
import BuildGate.Proofs.Json

namespace BuildGate

open Text

section Except

variable {ε α β : Type}

theorem exists_eq_ok_of_match {e : Except ε α} {f : α → Bool}
    (h : (match e with | .ok a => f a | .error _ => false) = true) : ∃ a, e = .ok a ∧ f a = true := by
  cases e with
  | error _ => cases h
  | ok a => exact ⟨a, rfl, h⟩

theorem except_bind_isOk {x : Except ε α} {f : α → Except ε β} (h : (x >>= f).isOk = true) :
    ∃ a, x = .ok a ∧ (f a).isOk = true := by
  cases x with
  | error e => cases h
  | ok a => exact ⟨a, rfl, h⟩

end Except

/-- A dry run of writing a report: the step logs written, the run's time rounded, and the report
file made and written empty. -/
def Store.dryRunReport (st : Store) (t : Fs.Tree) (p : Pipeline) (R : Report) :
    Except Fault Fs.Tree := do
  let (t₁, _) ← st.stepRecords p t 1 R.results
  let _ ← Store.recordFloat "RunReportRecord" "duration_s" (← R.duration.round3)
  let q ← st.path t₁ [reportFile]
  let t₂ ← makeDirsAt t₁ q.parent
  pathFault q (t₂.writeFile (t₂.absolute q) [])

/-- Whether the texts of a step that its record holds are valid: its name, command line and
directory. -/
def Step.textsValid (s : Step) : Bool :=
  isValid s.name.toList && s.argv.all (fun a => isValid a.toList) && s.cwd.all Path.textsValid

/-- Whether the texts of a pipeline that a run record holds are valid: its root, and its
steps'. -/
def Pipeline.textsValid (p : Pipeline) : Bool :=
  p.root.textsValid && p.steps.all Step.textsValid

/-- Whether the name and launch error of a result are valid texts. -/
def StepResult.textsValid (r : StepResult) : Bool :=
  isValid r.name.toList && r.launchError.all fun e => isValid e.toList

/-- Whether the texts of a report are valid: its pipeline's name, its first failure, and its
results'. -/
def Report.textsValid (R : Report) : Bool :=
  isValid R.pipeline.toList && R.firstFailure.all (fun f => isValid f.toList) &&
    R.results.all StepResult.textsValid

/-- Whether the whole numbers of a result's record can be written: its exit code and the
sizes of its output. -/
def StepResult.shortInts (r : StepResult) : Bool :=
  !Value.isLongInt r.exitCode && !Value.isLongInt r.stdout.length &&
    !Value.isLongInt r.stderr.length

/-- Whether the texts of a step record are valid. -/
def StepRecord.textsValid (e : StepRecord) : Bool :=
  isValid e.name.toList && e.argv.all (fun a => isValid a.toList) && isValid e.cwd.toList &&
    e.launchError.all (fun x => isValid x.toList) && e.stdoutLog.all (fun x => isValid x.toList) &&
    e.stderrLog.all fun x => isValid x.toList

/-- Whether the texts of a run record are valid. -/
def RunRecord.textsValid (r : RunRecord) : Bool :=
  isValid r.runId.toList && isValid r.pipeline.toList && isValid r.root.toList &&
    r.firstFailure.all (fun x => isValid x.toList) && r.notRun.all (fun x => isValid x.toList) &&
    r.steps.all StepRecord.textsValid

/-- Whether the whole numbers of a step record can be written. -/
def StepRecord.shortInts (e : StepRecord) : Bool :=
  !Value.isLongInt e.schemaVersion && !Value.isLongInt e.exitCode &&
    !Value.isLongInt e.stdoutBytes && !Value.isLongInt e.stderrBytes

/-- Whether the whole numbers of a run record can be written. -/
def RunRecord.shortInts (r : RunRecord) : Bool :=
  !Value.isLongInt r.schemaVersion && !Value.isLongInt r.stepsTotal &&
    r.steps.all StepRecord.shortInts

theorem validTexts_optText {o : Option String} (h : o.all (fun x => isValid x.toList) = true) :
    (optText o).ValidTexts := by
  cases o with
  | none => exact .null
  | some x => exact .str (isValid_iff.mp (by simpa using h))

theorem validTexts_strs {l : List String} (h : l.all (fun x => isValid x.toList) = true) :
    (Value.list (l.map .str)).ValidTexts := by
  refine .list fun v hv => ?_
  obtain ⟨x, hx, rfl⟩ := List.mem_map.mp hv
  exact .str (isValid_iff.mp (List.all_eq_true.mp h x hx))

theorem validTexts_failureKind (k : Option FailureKind) :
    (optText (k.map FailureKind.name)).ValidTexts := by
  refine validTexts_optText ?_
  cases k with
  | none => rfl
  | some k => cases k <;> decide

theorem StepRecord.validTexts_toValue {e : StepRecord} (h : e.textsValid = true) :
    e.toValue.ValidTexts := by
  simp only [textsValid, Bool.and_eq_true] at h
  obtain ⟨⟨⟨⟨⟨hname, hargv⟩, hcwd⟩, hlaunch⟩, hout⟩, herr⟩ := h
  refine .object (fun kv hkv => ?_) fun kv hkv => ?_
  · simp only [List.mem_cons, List.not_mem_nil, or_false] at hkv
    rcases hkv with rfl | rfl | rfl | rfl | rfl | rfl | rfl | rfl | rfl | rfl | rfl | rfl | rfl <;>
      dsimp only <;> exact valid_of_ascii (by simp)
  · simp only [List.mem_cons, List.not_mem_nil, or_false] at hkv
    rcases hkv with rfl | rfl | rfl | rfl | rfl | rfl | rfl | rfl | rfl | rfl | rfl | rfl | rfl
    · exact .int _
    · exact .str (isValid_iff.mp hname)
    · exact validTexts_strs hargv
    · exact .str (isValid_iff.mp hcwd)
    · exact .int _
    · exact .bool _
    · exact validTexts_failureKind _
    · exact validTexts_optText hlaunch
    · exact .float _
    · exact validTexts_optText hout
    · exact validTexts_optText herr
    · exact .int _
    · exact .int _

theorem RunRecord.validTexts_toValue {r : RunRecord} (h : r.textsValid = true) :
    r.toValue.ValidTexts := by
  simp only [textsValid, Bool.and_eq_true] at h
  obtain ⟨⟨⟨⟨⟨hid, hpipeline⟩, hroot⟩, hfirst⟩, hnotRun⟩, hsteps⟩ := h
  refine .object (fun kv hkv => ?_) fun kv hkv => ?_
  · simp only [List.mem_cons, List.not_mem_nil, or_false] at hkv
    rcases hkv with rfl | rfl | rfl | rfl | rfl | rfl | rfl | rfl | rfl | rfl <;>
      dsimp only <;> exact valid_of_ascii (by simp)
  · simp only [List.mem_cons, List.not_mem_nil, or_false] at hkv
    rcases hkv with rfl | rfl | rfl | rfl | rfl | rfl | rfl | rfl | rfl | rfl
    · exact .int _
    · exact .str (isValid_iff.mp hid)
    · exact .str (isValid_iff.mp hpipeline)
    · exact .str (isValid_iff.mp hroot)
    · cases r.status <;> exact .str (valid_of_ascii (by simp [Status.text]))
    · exact validTexts_optText hfirst
    · exact .float _
    · exact .int _
    · exact validTexts_strs hnotRun
    · refine .list fun v hv => ?_
      obtain ⟨e, he, rfl⟩ := List.mem_map.mp hv
      exact StepRecord.validTexts_toValue (List.all_eq_true.mp hsteps e he)

theorem StepRecord.holdsLongInt_toValue {e : StepRecord} (h : e.shortInts = true) :
    e.toValue.holdsLongInt = false := by
  simp only [shortInts, Bool.and_eq_true, Bool.not_eq_true'] at h
  obtain ⟨⟨⟨hv, hx⟩, ho⟩, he⟩ := h
  refine Value.entriesHoldLongInt_object fun kv hkv => ?_
  simp only [List.mem_cons, List.not_mem_nil, or_false] at hkv
  rcases hkv with rfl | rfl | rfl | rfl | rfl | rfl | rfl | rfl | rfl | rfl | rfl | rfl | rfl
  · exact hv
  · rfl
  · exact Value.anyHoldsLongInt_eq_false_iff.mpr fun v hv => by
      obtain ⟨_, -, rfl⟩ := List.mem_map.mp hv
      rfl
  · rfl
  · exact hx
  · rfl
  · cases e.failureKind <;> rfl
  · cases e.launchError <;> rfl
  · rfl
  · cases e.stdoutLog <;> rfl
  · cases e.stderrLog <;> rfl
  · exact ho
  · exact he

theorem toNat_lt_of_le {c d : Char} (h : c ≤ d) (hd : d.toNat < 128) : c.toNat < 128 := by
  rw [Char.le_def, UInt32.le_iff_toNat_le] at h
  simp only [Char.toNat] at hd ⊢
  omega

theorem ascii_of_isNameChar {c : Char} (h : isNameChar c = true) : c.toNat < 128 := by
  simp only [isNameChar, isNameStart, Bool.or_eq_true, Bool.and_eq_true, decide_eq_true_eq,
    beq_iff_eq] at h
  rcases h with ((((⟨-, h⟩ | ⟨-, h⟩) | ⟨-, h⟩) | h) | h) | h
  · exact toNat_lt_of_le h (by decide)
  · exact toNat_lt_of_le h (by decide)
  · exact toNat_lt_of_le h (by decide)
  all_goals rw [h]; decide

theorem ascii_collapseRuns (inRun : Bool) (cs : List Char) :
    ∀ c ∈ collapseRuns inRun cs, c.toNat < 128 := by
  induction cs generalizing inRun with
  | nil => simp [collapseRuns]
  | cons c cs ih =>
    unfold collapseRuns
    split
    · next hc => exact List.forall_mem_cons.mpr ⟨ascii_of_isNameChar hc, ih false⟩
    · split
      · exact ih true
      · exact List.forall_mem_cons.mpr ⟨by decide, ih true⟩

theorem mem_of_mem_stripEdges {cs : List Char} {c : Char} (h : c ∈ stripEdges cs) : c ∈ cs := by
  unfold stripEdges at h
  rw [List.mem_reverse] at h
  have h' := (List.dropWhile_sublist _).subset h
  rw [List.mem_reverse] at h'
  exact (List.dropWhile_sublist _).subset h'

theorem ascii_safeFileName (name : String) {default : String}
    (h : ∀ c ∈ default.toList, c.toNat < 128) :
    ∀ c ∈ (safeFileName name default).toList, c.toNat < 128 := by
  unfold safeFileName
  dsimp only
  split
  · exact h
  · rw [String.toList_ofList]
    exact fun c hc => ascii_collapseRuns false _ c (mem_of_mem_stripEdges hc)

theorem ascii_logStem (i : Nat) (name : String) :
    ∀ c ∈ (logStem i name).toList, c.toNat < 128 := by
  have hn : ∀ c ∈ (toString i).toList, c.toNat < 128 := by
    rw [Nat.toString_eq_ofList_toDigits, String.toList_ofList]
    exact Json.ascii_toDigits
  unfold logStem
  simp only [String.toList_append, List.forall_mem_append]
  refine ⟨⟨?_, by simp⟩, ascii_safeFileName name (by simp)⟩
  split
  · simp only [String.toList_append, List.forall_mem_append]
    exact ⟨by simp, hn⟩
  · exact hn

namespace Store

variable {st : Store} {p : Pipeline}

theorem path_eq_ok {t : Fs.Tree} {parts : List String} {q : Path} (h : st.path t parts = .ok q) :
    q = st.runDir.joinAll parts := by
  simp only [path] at h
  obtain ⟨_, -, h⟩ := except_bind_eq_ok.mp h
  split at h
  · cases h
  · cases h
  · split at h
    · cases h
      rfl
    · cases h

theorem writeBytes_eq_ok {t t' : Fs.Tree} {rel : String} {bs : List UInt8} {q : Path}
    (h : st.writeBytes t rel bs = .ok (t', q)) : q = st.runDir.joinAll [rel] := by
  simp only [writeBytes] at h
  obtain ⟨q', hq, h⟩ := except_bind_eq_ok.mp h
  obtain ⟨_, -, h⟩ := except_bind_eq_ok.mp h
  obtain ⟨_, -, h⟩ := except_bind_eq_ok.mp h
  cases h
  exact path_eq_ok hq

/-- The record of a result as `stepRecord` builds it, once both logs are written. -/
theorem stepRecord_eq_ok {t t' : Fs.Tree} {i : Nat} {r : StepResult} {e : StepRecord}
    (h : st.stepRecord p t i r = .ok (t', e)) :
    ∃ s, p.steps.reverse.find? (·.name == r.name) = some s ∧
      ∃ t₁ out err d x,
        st.writeBytes t ("logs/" ++ logStem i r.name ++ ".stdout.log") r.stdout =
          .ok (t₁, out) ∧
        st.writeBytes t₁ ("logs/" ++ logStem i r.name ++ ".stderr.log") r.stderr =
          .ok (t', err) ∧
        r.duration.round3 = .ok d ∧ recordFloat "StepRecord" "duration_s" d = .ok x ∧
        e = { name := r.name, argv := s.argv, cwd := (p.stepCwd s).toText
              exitCode := r.exitCode, ok := r.ok, failureKind := r.failureKind
              launchError := r.launchError, duration := x
              stdoutLog := some (out.relativeTo st.runDir).toText
              stderrLog := some (err.relativeTo st.runDir).toText
              stdoutBytes := r.stdout.length, stderrBytes := r.stderr.length } := by
  simp only [stepRecord] at h
  split at h
  next s hfind =>
    simp only [pure_bind] at h
    obtain ⟨⟨t₁, out⟩, hout, h⟩ := except_bind_eq_ok.mp h
    obtain ⟨⟨t₂, err⟩, herr, h⟩ := except_bind_eq_ok.mp h
    obtain ⟨d, hd, h⟩ := except_bind_eq_ok.mp h
    obtain ⟨x, hx, h⟩ := except_bind_eq_ok.mp h
    cases h
    exact ⟨s, hfind, t₁, out, err, d, x, hout, herr, hd, hx, rfl⟩
  next =>
    obtain ⟨_, hthrow, -⟩ := except_bind_eq_ok.mp h
    cases hthrow

theorem valid_logPath (rel : String) (hrel : ∀ c ∈ rel.toList, c.toNat < 128) :
    isValid ((st.runDir.joinAll [rel]).relativeTo st.runDir).toText.toList = true := by
  have hq := Path.textsValid_ofString hrel
  refine isValid_iff.mpr (Path.valid_toText ?_)
  change ((st.runDir.join (Path.ofString rel)).relativeTo st.runDir).textsValid = true
  unfold Path.join
  split
  · exact Path.textsValid_relativeTo hq _
  · obtain ⟨-, hparts⟩ := Path.textsValid_iff.mp hq
    refine Path.textsValid_iff.mpr ⟨valid_nil, fun c hc => hparts c ?_⟩
    simpa [Path.relativeTo] using hc

theorem ascii_logFile (i : Nat) (name suffix : String)
    (hs : ∀ c ∈ suffix.toList, c.toNat < 128) :
    ∀ c ∈ ("logs/" ++ logStem i name ++ suffix).toList, c.toNat < 128 := by
  simp only [String.toList_append, List.forall_mem_append]
  exact ⟨⟨by simp, ascii_logStem i name⟩, hs⟩

end Store

theorem Pipeline.textsValid_stepCwd {p : Pipeline} (hp : p.textsValid = true) {s : Step}
    (hs : s ∈ p.steps) : (p.stepCwd s).textsValid = true := by
  simp only [textsValid, Bool.and_eq_true, List.all_eq_true] at hp
  have hstep := hp.2 s hs
  simp only [Step.textsValid, Bool.and_eq_true] at hstep
  unfold stepCwd
  split
  · exact hp.1
  · next c hc =>
    have hcv : c.textsValid = true := by simpa [hc] using hstep.2
    split
    · exact hcv
    · exact Path.textsValid_join hp.1 hcv

theorem RunRecord.holdsLongInt_toValue {r : RunRecord} (h : r.shortInts = true) :
    r.toValue.holdsLongInt = false := by
  simp only [shortInts, Bool.and_eq_true, Bool.not_eq_true'] at h
  obtain ⟨⟨hv, htotal⟩, hsteps⟩ := h
  refine Value.entriesHoldLongInt_object fun kv hkv => ?_
  simp only [List.mem_cons, List.not_mem_nil, or_false] at hkv
  rcases hkv with rfl | rfl | rfl | rfl | rfl | rfl | rfl | rfl | rfl | rfl
  · exact hv
  · rfl
  · rfl
  · rfl
  · rfl
  · cases r.firstFailure <;> rfl
  · rfl
  · exact htotal
  · exact Value.anyHoldsLongInt_eq_false_iff.mpr fun v hv => by
      obtain ⟨_, -, rfl⟩ := List.mem_map.mp hv
      rfl
  · exact Value.anyHoldsLongInt_eq_false_iff.mpr fun v hv => by
      obtain ⟨e, he, rfl⟩ := List.mem_map.mp hv
      exact StepRecord.holdsLongInt_toValue (List.all_eq_true.mp hsteps e he)

theorem Value.isLongInt_eq_false_of_lt {n : Int} (h : n.natAbs < 10) :
    Value.isLongInt n = false := by
  have hk : Value.intTextLimit ≠ 0 := by decide
  have h10 : 10 ≤ Nat.pow 10 Value.intTextLimit := by
    generalize Value.intTextLimit = k at hk ⊢
    exact Nat.le_self_pow hk 10
  simp only [Value.isLongInt, ge_iff_le, decide_eq_false_iff_not, Nat.not_le]
  omega

theorem Fs.Tree.writeFile_isOk_bytes (t : Fs.Tree) (cs : List String) (bs bs' : List UInt8)
    (mode : Nat) : (t.writeFile cs bs mode).isOk = (t.writeFile cs bs' mode).isOk := by
  unfold Fs.Tree.writeFile
  split <;> (try split) <;> rfl

theorem pathFault_isOk {α : Type} (q : Path) (r : Except Nat α) :
    (pathFault q r).isOk = (!Fs.hasZero q.toText && r.isOk) := by
  unfold pathFault Fs.atPath
  cases Fs.hasZero q.toText <;> cases r <;> rfl

namespace Store

variable {st : Store} {p : Pipeline}

theorem stepRecord_textsValid {t t' : Fs.Tree} {i : Nat} {r : StepResult} {e : StepRecord}
    (h : st.stepRecord p t i r = .ok (t', e)) (hp : p.textsValid = true)
    (hr : r.textsValid = true) : e.textsValid = true := by
  obtain ⟨s, hfind, t₁, out, err, d, x, hout, herr, -, -, rfl⟩ := stepRecord_eq_ok h
  have hs : s ∈ p.steps := List.mem_reverse.mp (List.mem_of_find?_eq_some hfind)
  have hstep : s.textsValid = true := by
    simp only [Pipeline.textsValid, Bool.and_eq_true, List.all_eq_true] at hp
    exact hp.2 s hs
  simp only [Step.textsValid, Bool.and_eq_true] at hstep
  simp only [StepResult.textsValid, Bool.and_eq_true] at hr
  rw [writeBytes_eq_ok hout, writeBytes_eq_ok herr]
  simp only [StepRecord.textsValid, Bool.and_eq_true, Option.all_some]
  have hcwd := Path.valid_toText (Pipeline.textsValid_stepCwd hp hs)
  refine ⟨⟨⟨⟨⟨hr.1, hstep.1.2⟩, isValid_iff.mpr hcwd⟩, hr.2⟩,
    valid_logPath _ (ascii_logFile _ _ _ (by simp))⟩,
    valid_logPath _ (ascii_logFile _ _ _ (by simp))⟩

theorem stepRecord_shortInts {t t' : Fs.Tree} {i : Nat} {r : StepResult} {e : StepRecord}
    (h : st.stepRecord p t i r = .ok (t', e)) (hr : r.shortInts = true) : e.shortInts = true := by
  obtain ⟨s, -, t₁, out, err, d, x, -, -, -, -, rfl⟩ := stepRecord_eq_ok h
  simp only [StepResult.shortInts, Bool.and_eq_true, Bool.not_eq_true'] at hr
  simp only [StepRecord.shortInts, Bool.and_eq_true, Bool.not_eq_true']
  exact ⟨⟨⟨Value.isLongInt_eq_false_of_lt (by decide), hr.1.1⟩, hr.1.2⟩, hr.2⟩

/-- What the record of each result has when the result has it, every record of the results
has: the property is carried along the results one by one. -/
theorem stepRecords_all {P : StepRecord → Bool} {Q : StepResult → Bool}
    (hstep : ∀ t t' i r e, st.stepRecord p t i r = .ok (t', e) → Q r = true → P e = true)
    {t t' : Fs.Tree} {i : Nat} {rs : List StepResult} {es : List StepRecord}
    (h : st.stepRecords p t i rs = .ok (t', es)) (hrs : rs.all Q = true) : es.all P = true := by
  induction rs generalizing t i es with
  | nil =>
    cases h
    rfl
  | cons r rs ih =>
    simp only [List.all_cons, Bool.and_eq_true] at hrs
    simp only [stepRecords] at h
    obtain ⟨⟨t₁, e⟩, he, h⟩ := except_bind_eq_ok.mp h
    obtain ⟨⟨t₂, es'⟩, hes, h⟩ := except_bind_eq_ok.mp h
    cases h
    simp only [List.all_cons, Bool.and_eq_true]
    exact ⟨hstep _ _ _ _ _ he hrs.1, ih hes hrs.2⟩

theorem stepRecords_texts {t t' : Fs.Tree} {i : Nat} {rs : List StepResult}
    {es : List StepRecord} (h : st.stepRecords p t i rs = .ok (t', es)) (hp : p.textsValid = true)
    (hrs : rs.all StepResult.textsValid = true) (hints : rs.all StepResult.shortInts = true) :
    es.all StepRecord.textsValid = true ∧ es.all StepRecord.shortInts = true :=
  ⟨stepRecords_all (fun _ _ _ _ _ he hr => stepRecord_textsValid he hp hr) h hrs,
    stepRecords_all (fun _ _ _ _ _ he hr => stepRecord_shortInts he hr) h hints⟩

/-- What storing a report did: it wrote the records of the results, rounded the run's time, and
wrote the run record, which holds the run id, the report's name, verdict and first failure, the
pipeline's root and steps, and the time. -/
theorem writeReport_inv {t t' : Fs.Tree} {rid : String} {R : Report} {rec : RunRecord}
    (h : st.writeReport t rid p R = .ok (t', rec)) :
    ∃ t₁ steps d x q, st.stepRecords p t 1 R.results = .ok (t₁, steps) ∧
      R.duration.round3 = .ok d ∧ recordFloat "RunReportRecord" "duration_s" d = .ok x ∧
      rec = { runId := rid, pipeline := R.pipeline, root := p.root.toText
              status := if R.ok then .pass else .fail, firstFailure := R.firstFailure
              duration := x, stepsTotal := p.steps.length
              notRun := (p.steps.drop R.results.length).map (·.name), steps } ∧
      st.writeJson t₁ reportFile rec.toValue = .ok (t', q) := by
  simp only [writeReport] at h
  obtain ⟨⟨t₁, steps⟩, hsteps, h⟩ := except_bind_eq_ok.mp h
  obtain ⟨d, hd, h⟩ := except_bind_eq_ok.mp h
  obtain ⟨x, hx, h⟩ := except_bind_eq_ok.mp h
  obtain ⟨⟨t₂, q⟩, hjson, h⟩ := except_bind_eq_ok.mp h
  cases h
  exact ⟨t₁, steps, d, x, q, hsteps, hd, hx, rfl, hjson⟩

theorem writeJson_eq_ok_of {t t₁ : Fs.Tree} {rel : String} {v : Value} {q : Path}
    (hv : v.ValidTexts) (hlong : v.holdsLongInt = false) (hq : st.path t [rel] = .ok q)
    (hd : makeDirsAt t q.parent = .ok t₁)
    (hw : (pathFault q (t₁.writeFile (t₁.absolute q) [])).isOk = true) :
    ∃ t₂, st.writeJson t rel v = .ok (t₂, q) := by
  have hw' : (pathFault q (t₁.writeFile (t₁.absolute q)
      (encodeUtf8 (String.ofList ((points (Json.writeIndented 2 v ++ "\n").toList).map
        Char.ofNat))))).isOk = true := by
    rw [pathFault_isOk] at hw ⊢
    rwa [Fs.Tree.writeFile_isOk_bytes _ _ _ []]
  obtain ⟨t₂, ht₂⟩ := exists_eq_ok_of_isOk hw'
  refine ⟨t₂, ?_⟩
  simp only [writeJson, hq, hd, hlong, hv.encodeStrict_json 2, ht₂, bind, Except.bind, pure,
    Except.pure]
  rfl

/-- The run record of a report has valid texts when the run id, the pipeline, the report and
the step records have. -/
theorem textsValid_runRecord {rid : String} {R : Report} {status : Status} {x : Float}
    {steps : List StepRecord} (hrid : isValid rid.toList = true) (hp : p.textsValid = true)
    (hR : R.textsValid = true) (hsteps : steps.all StepRecord.textsValid = true) :
    ({ runId := rid, pipeline := R.pipeline, root := p.root.toText, status
       firstFailure := R.firstFailure, duration := x, stepsTotal := p.steps.length
       notRun := (p.steps.drop R.results.length).map (·.name), steps } : RunRecord).textsValid =
      true := by
  simp only [Report.textsValid, Bool.and_eq_true] at hR
  simp only [Pipeline.textsValid, Bool.and_eq_true, List.all_eq_true] at hp
  have hnames : ((p.steps.drop R.results.length).map (·.name)).all
      (fun x => isValid x.toList) = true := by
    refine List.all_eq_true.mpr fun n hn => ?_
    obtain ⟨s, hs, rfl⟩ := List.mem_map.mp hn
    have hstep := hp.2 s (List.mem_of_mem_drop hs)
    simp only [Step.textsValid, Bool.and_eq_true] at hstep
    exact hstep.1.1
  simp only [RunRecord.textsValid, Bool.and_eq_true]
  have hroot := isValid_iff.mpr (Path.valid_toText hp.1)
  exact ⟨⟨⟨⟨⟨hrid, hR.1.1⟩, hroot⟩, hR.1.2⟩, hnames⟩, hsteps⟩

/-- Writing a report fails only where the file system refuses one of its steps or its time
cannot be written: when its dry run gets through, and the texts of the run id, the pipeline and
the report are valid and the whole numbers short, the report is written. -/
theorem writeReport_eq_ok_of {t : Fs.Tree} (rid : String) {R : Report}
    (hrid : isValid rid.toList = true) (hp : p.textsValid = true) (hR : R.textsValid = true)
    (hints : R.results.all StepResult.shortInts = true)
    (hlen : Value.isLongInt p.steps.length = false) (hdry : (st.dryRunReport t p R).isOk = true) :
    ∃ t' rec, st.writeReport t rid p R = .ok (t', rec) := by
  obtain ⟨⟨t₁, steps⟩, hsteps, h⟩ := except_bind_isOk hdry
  obtain ⟨d, hd, h⟩ := except_bind_isOk h
  obtain ⟨x, hx, h⟩ := except_bind_isOk h
  obtain ⟨q, hq, h⟩ := except_bind_isOk h
  obtain ⟨t₂, hdirs, hw⟩ := except_bind_isOk h
  have hresults : R.results.all StepResult.textsValid = true := by
    simp only [Report.textsValid, Bool.and_eq_true] at hR
    exact hR.2
  obtain ⟨hstexts, hsshort⟩ := stepRecords_texts hsteps hp hresults hints
  let record : RunRecord :=
    { runId := rid, pipeline := R.pipeline, root := p.root.toText
      status := if R.ok then .pass else .fail, firstFailure := R.firstFailure
      duration := x, stepsTotal := p.steps.length
      notRun := (p.steps.drop R.results.length).map (·.name), steps }
  have htexts : record.textsValid = true := textsValid_runRecord hrid hp hR hstexts
  have hshort : record.shortInts = true := by
    simp only [RunRecord.shortInts, Bool.and_eq_true, Bool.not_eq_true', record]
    exact ⟨⟨Value.isLongInt_eq_false_of_lt (by decide), hlen⟩, hsshort⟩
  obtain ⟨t₃, hjson⟩ := writeJson_eq_ok_of (RunRecord.validTexts_toValue htexts)
    (RunRecord.holdsLongInt_toValue hshort) hq hdirs hw
  refine ⟨t₃, record, ?_⟩
  simp only [record] at hjson
  simp only [writeReport, hsteps, hd, hx, hjson, bind, Except.bind, pure, Except.pure]
  rfl

end Store

end BuildGate
