import BuildGate.Proofs.Realpath
import BuildGate.Proofs.LogFiles
import BuildGate.Proofs.ReadBack
import BuildGate.Proofs.Stored

namespace BuildGate

open Fs Fs.Tree Text

namespace Fs.Tree

/-- `u` has one entry per path, and the links, the lookup fuel and the working directory of
`t`: what making directories and writing files keep. -/
structure SameLinks (t u : Tree) : Prop where
  distinct : u.Distinct
  linkAt_eq : ∀ cs, u.linkAt cs = t.linkAt cs
  lookupFuel_eq : ∀ cs, u.lookupFuel cs = t.lookupFuel cs
  cwd_eq : u.cwd = t.cwd

namespace SameLinks

variable {t u u' : Tree}

theorem refl (hd : t.Distinct) : SameLinks t t := ⟨hd, fun _ => rfl, fun _ => rfl, rfl⟩

theorem put {X : List String} {e : Entry} (h : SameLinks t u) (hc : u.Replaces X e) :
    SameLinks t (u.put X e) :=
  ⟨h.distinct.put, fun cs => (hc.linkAt_put cs).trans (h.linkAt_eq cs),
    fun cs => (lookupFuel_put h.distinct hc.ne_nil hc.old hc.new cs).trans (h.lookupFuel_eq cs),
    h.cwd_eq⟩

theorem makeDirs {cs : List String} (h : SameLinks t u) (hm : u.makeDirs cs = .ok u') :
    SameLinks t u' :=
  makeDirs_induction (SameLinks t) h (fun _ _ hv hX hnone => hv.put ⟨hX, .inl hnone, .inl rfl⟩) hm

theorem writeFile {cs : List String} {bytes : List UInt8} {mode : Nat} (h : SameLinks t u)
    (hw : u.writeFile cs bytes mode = .ok u') : SameLinks t u' := by
  obtain ⟨X, m, -, hc, rfl⟩ := writeFile_eq_ok hw
  exact h.put hc

theorem absolute_eq (h : SameLinks t u) (p : Path) : u.absolute p = t.absolute p := by
  unfold absolute
  rw [h.cwd_eq]

end SameLinks

theorem lookup_writeFile {t t' : Tree} {cs : List String} {bytes : List UInt8} {mode : Nat}
    (hd : t.Distinct) (hw : t.writeFile cs bytes mode = .ok t') :
    ∃ X m, t'.lookup true cs = .ok (X, some (.file bytes m)) := by
  obtain ⟨X, m, hlook, hc, rfl⟩ := writeFile_eq_ok hw
  refine ⟨X, m, ?_⟩
  unfold lookup at hlook ⊢
  rw [lookupFuel_put hd hc.ne_nil hc.old hc.new]
  exact walk_frame_at hc.ne_nil (fun _ h => hc.entryAt_of_ne h) hc.old
    (by rw [entryAt_put hc.ne_nil, if_pos rfl]) (fun h => hc.ne_nil (List.prefix_nil.mp h)) hlook

theorem readFile_of_lookup {t : Tree} {cs X : List String} {bytes : List UInt8} {m : Nat}
    (h : t.lookup true cs = .ok (X, some (.file bytes m))) : t.readFile cs = .ok bytes := by
  unfold readFile stat
  rw [h]

end Fs.Tree

namespace Fs.Tree.SameLinks

variable {st : Store} {p : Pipeline} {t u u' : Tree}

theorem writeBytes {rel : String} {bytes : List UInt8} {q : Path} (h : SameLinks t u)
    (hw : st.writeBytes u rel bytes = .ok (u', q)) : SameLinks t u' := by
  simp only [Store.writeBytes] at hw
  obtain ⟨_, -, hw⟩ := except_bind_eq_ok.mp hw
  obtain ⟨u₁, hdirs, hw⟩ := except_bind_eq_ok.mp hw
  obtain ⟨u₂, hwrite, hw⟩ := except_bind_eq_ok.mp hw
  cases hw
  exact (h.makeDirs (pathFault_eq_ok hdirs)).writeFile (pathFault_eq_ok hwrite)

theorem stepRecord {i : Nat} {r : StepResult} {e : StepRecord} (h : SameLinks t u)
    (hs : st.stepRecord p u i r = .ok (u', e)) : SameLinks t u' := by
  obtain ⟨s, -, u₁, out, err, d, x, hout, herr, -⟩ := Store.stepRecord_eq_ok hs
  exact (h.writeBytes hout).writeBytes herr

/-- Writing the logs of the results keeps the links. -/
theorem stepRecords {i : Nat} {rs : List StepResult} {es : List StepRecord} (h : SameLinks t u)
    (hs : st.stepRecords p u i rs = .ok (u', es)) : SameLinks t u' := by
  induction rs generalizing u i es with
  | nil =>
    cases hs
    exact h
  | cons r rs ih =>
    simp only [Store.stepRecords] at hs
    obtain ⟨⟨u₁, e⟩, he, hs⟩ := except_bind_eq_ok.mp hs
    obtain ⟨⟨u₂, es'⟩, hes, hs⟩ := except_bind_eq_ok.mp hs
    cases hs
    exact ih (h.stepRecord he) hes

end Fs.Tree.SameLinks

namespace Text

theorem readLines_of_return_not_mem {cs : List Char} (h : '\r' ∉ cs) : readLines cs = cs := by
  induction cs with
  | nil => rfl
  | cons c cs ih =>
    have hc : c ≠ '\r' := fun hc => h (hc ▸ List.mem_cons_self)
    rw [readLines.eq_4 c cs (fun _ h _ => hc h) hc, ih fun hm => h (List.mem_cons_of_mem _ hm)]

theorem decodeUtf8_of_encodeStrict {s : String} {bytes : List UInt8}
    (h : encodeStrict s = .ok bytes) : decodeUtf8 bytes = .ok (String.ofList (rawChars s.toList)) := by
  unfold encodeStrict at h
  dsimp only at h
  split at h
  · cases h
    exact decodeUtf8_encodeUtf8 _
  · cases h

end Text

theorem Value.Readable.return_not_mem_text {v : Value} (h : v.Readable) (n : Nat) :
    '\r' ∉ rawChars (Json.writeIndented n v ++ "\n").toList := by
  rw [Json.rawChars_writeIndented h.validTexts n]
  simp only [List.mem_append, List.mem_singleton, not_or]
  exact ⟨h.return_not_mem (some n) 0, by decide⟩

namespace Checked

variable {α β : Type}

@[simp] theorem under_ok (part : LocPart) (a : α) : (Checked.ok a).under part = .ok a := rfl

@[simp] theorem both_ok (a : α) (b : β) : (Checked.ok a).both (.ok b) = .ok (a, b) := rfl

@[simp] theorem map_ok (f : α → β) (a : α) : (Checked.ok a).map f = .ok (f a) := rfl

end Checked

@[simp] theorem checkInt_int (n : Int) : checkInt (.int n) = .ok n := rfl

@[simp] theorem checkFloat_float (x : Float) : checkFloat (.float x) = .ok x := rfl

@[simp] theorem checkText_str (s : String) : checkText (.str s) = .ok s := rfl

@[simp] theorem checkBool_bool (b : Bool) : checkBool (.bool b) = .ok b := rfl

@[simp] theorem checkOptText_optText (o : Option String) : checkOptText (optText o) = .ok o := by
  cases o <;> rfl

@[simp] theorem checkStatus_text (s : Status) : checkStatus (.str s.text) = .ok s := by
  cases s <;> rfl

@[simp] theorem checkFailureKind_name (k : Option FailureKind) :
    checkFailureKind (optText (k.map FailureKind.name)) = .ok k := by
  rcases k with _ | _ | _ <;> rfl

theorem checkItems_map {α : Type} {check : Value → Checked α} {f : α → Value} (i : Nat)
    {xs : List α} (h : ∀ x ∈ xs, check (f x) = .ok x) : checkItems check i (xs.map f) = .ok xs := by
  induction xs generalizing i with
  | nil => rfl
  | cons x xs ih =>
    rw [List.map_cons, checkItems, h x List.mem_cons_self,
      ih (i + 1) fun y hy => h y (List.mem_cons_of_mem _ hy)]
    rfl

@[simp] theorem checkList_strs (xs : List String) :
    checkList checkText (.list (xs.map .str)) = .ok xs :=
  checkItems_map 0 fun _ _ => rfl

@[simp] theorem checkStepRecord_toValue (e : StepRecord) : checkStepRecord e.toValue = .ok e := by
  simp [StepRecord.toValue, Value.object, checkStepRecord, field, Value.lookupEntry, Value.sameKey]

theorem readRunRecord_toValue (r : RunRecord) : readRunRecord r.toValue = .ok r := by
  have hsteps : checkList checkStepRecord (.list (r.steps.map StepRecord.toValue)) = .ok r.steps :=
    checkItems_map 0 fun e _ => checkStepRecord_toValue e
  simp [RunRecord.toValue, Value.object, readRunRecord, checkRunRecord, field, Value.lookupEntry,
    Value.sameKey, hsteps]

/-- Whether a time is a NaN. -/
def Seconds.isNaN : Seconds → Bool
  | .real x =>
    match Binary64.shape x with
    | .nan => true
    | _ => false
  | _ => false

def Report.hasNaNTime (R : Report) : Bool :=
  R.duration.isNaN || R.results.any fun r => r.duration.isNaN

theorem Seconds.shape_toFloat_round3 {s d : Seconds} (hs : s.isNaN = false)
    (hd : s.round3 = .ok d) : Binary64.shape d.toFloat ≠ .nan := by
  cases s with
  | whole n =>
    cases hd
    exact Binary64.shape_ofInt_ne_nan n
  | real x =>
    cases hd
    refine Decimal.shape_roundPlaces_ne_nan 3 fun hx => ?_
    simp [isNaN, hx] at hs
  | truth b =>
    cases hd
    exact Binary64.shape_ofInt_ne_nan _
  | notNumber v => cases hd

theorem readable_optText {o : Option String} (h : o.all (fun x => isValid x.toList) = true) :
    (optText o).Readable := by
  cases o with
  | none => exact .null
  | some x => exact .str (isValid_iff.mp (by simpa using h))

theorem readable_strs {l : List String} (h : l.all (fun x => isValid x.toList) = true) :
    (Value.list (l.map .str)).Readable := by
  refine .list fun v hv => ?_
  obtain ⟨x, hx, rfl⟩ := List.mem_map.mp hv
  exact .str (isValid_iff.mp (List.all_eq_true.mp h x hx))

theorem readable_failureKind (k : Option FailureKind) :
    (optText (k.map FailureKind.name)).Readable := by
  refine readable_optText ?_
  cases k with
  | none => rfl
  | some k => cases k <;> decide

theorem Value.holdsLongInt_of_mem_object {kvs : List (String × Value)}
    (h : (Value.object kvs).holdsLongInt = false) {kv : String × Value} (hkv : kv ∈ kvs) :
    kv.2.holdsLongInt = false :=
  (Value.entriesHoldLongInt_eq_false_iff.mp h (.str kv.1, kv.2)
    (List.mem_map_of_mem (f := fun p => (Value.str p.1, p.2)) hkv)).2

theorem StepRecord.readable_toValue {e : StepRecord} (ht : e.textsValid = true)
    (hl : e.toValue.holdsLongInt = false) (hn : Binary64.shape e.duration ≠ .nan) :
    e.toValue.Readable := by
  simp only [textsValid, Bool.and_eq_true] at ht
  obtain ⟨⟨⟨⟨⟨hname, hargv⟩, hcwd⟩, hlaunch⟩, hout⟩, herr⟩ := ht
  refine .object (fun kv hkv => ?_) (by simp) fun kv hkv => ?_
  · simp only [List.mem_cons, List.not_mem_nil, or_false] at hkv
    rcases hkv with rfl | rfl | rfl | rfl | rfl | rfl | rfl | rfl | rfl | rfl | rfl | rfl | rfl <;>
      exact valid_of_ascii (by simp)
  · have hint := Value.holdsLongInt_of_mem_object hl hkv
    simp only [List.mem_cons, List.not_mem_nil, or_false] at hkv
    rcases hkv with rfl | rfl | rfl | rfl | rfl | rfl | rfl | rfl | rfl | rfl | rfl | rfl | rfl
    · exact .int hint
    · exact .str (isValid_iff.mp hname)
    · exact readable_strs hargv
    · exact .str (isValid_iff.mp hcwd)
    · exact .int hint
    · exact .bool _
    · exact readable_failureKind _
    · exact readable_optText hlaunch
    · exact .float hn
    · exact readable_optText hout
    · exact readable_optText herr
    · exact .int hint
    · exact .int hint

theorem RunRecord.readable_toValue {r : RunRecord} (ht : r.textsValid = true)
    (hl : r.toValue.holdsLongInt = false) (hn : Binary64.shape r.duration ≠ .nan)
    (hsteps : ∀ e ∈ r.steps, Binary64.shape e.duration ≠ .nan) : r.toValue.Readable := by
  simp only [textsValid, Bool.and_eq_true] at ht
  obtain ⟨⟨⟨⟨⟨hid, hpipeline⟩, hroot⟩, hfirst⟩, hnotRun⟩, hsteptexts⟩ := ht
  refine .object (fun kv hkv => ?_) (by simp) fun kv hkv => ?_
  · simp only [List.mem_cons, List.not_mem_nil, or_false] at hkv
    rcases hkv with rfl | rfl | rfl | rfl | rfl | rfl | rfl | rfl | rfl | rfl <;>
      exact valid_of_ascii (by simp)
  · have hint := Value.holdsLongInt_of_mem_object hl hkv
    simp only [List.mem_cons, List.not_mem_nil, or_false] at hkv
    rcases hkv with rfl | rfl | rfl | rfl | rfl | rfl | rfl | rfl | rfl | rfl
    · exact .int hint
    · exact .str (isValid_iff.mp hid)
    · exact .str (isValid_iff.mp hpipeline)
    · exact .str (isValid_iff.mp hroot)
    · cases r.status <;> exact .str (valid_of_ascii (by simp [Status.text]))
    · exact readable_optText hfirst
    · exact .float hn
    · exact .int hint
    · exact readable_strs hnotRun
    · -- each step record reads back, its integers short as the whole list's are
      refine .list fun v hv => ?_
      obtain ⟨e, he, rfl⟩ := List.mem_map.mp hv
      exact StepRecord.readable_toValue (List.all_eq_true.mp hsteptexts e he)
        (Value.anyHoldsLongInt_eq_false_iff.mp hint _ hv) (hsteps e he)

namespace Store

variable {st : Store}

theorem resolvePath_of_path {t : Tree} {parts : List String} {q : Path}
    (h : st.path t parts = .ok q) :
    (∃ base, resolvePath t (t.absolute st.runDir) = .ok base) ∧
      ∃ real, resolvePath t (t.absolute (st.runDir.joinAll parts)) = .ok real := by
  cases hb : resolvePath t (t.absolute st.runDir) with
  | error e => simp [path_of_base_fault st t parts hb] at h
  | ok base =>
    cases hr : resolvePath t (t.absolute (st.runDir.joinAll parts)) with
    | error e =>
      cases e with
      | zero => simp [path_of_zero st t parts hb hr] at h
      | loop => simp [path_of_loop st t parts hb hr] at h
    | ok real => exact ⟨⟨base, rfl⟩, real, rfl⟩

theorem path_report_of_lookup {t u : Tree} {q : Path} {r : List String × Option Entry}
    (hsame : SameLinks t u) (hq : st.path t [reportFile] = .ok q)
    (hlook : u.lookup true (u.absolute q) = .ok r) : st.path u [reportFile] = .ok q := by
  obtain ⟨hqeq, hpre⟩ := path_ok_realpath st t [reportFile] hq
  obtain ⟨⟨base, hb⟩, real, hr⟩ := resolvePath_of_path hq
  rw [← hqeq] at hr
  have habs : t.absolute q = t.absolute st.runDir ++ [reportFile] := by
    rw [hqeq, joinAll_reportFile, absolute_below]
  rw [hsame.absolute_eq, habs] at hlook
  obtain ⟨P, o⟩ := r
  -- the lookup of the report went through the run directory, one step of fuel shorter
  have hfuel : u.lookupFuel (t.absolute st.runDir ++ [reportFile]) =
      u.lookupFuel (t.absolute st.runDir) + 1 := by
    rw [lookupFuel_eq, lookupFuel_eq, List.length_append, List.length_singleton]
    omega
  obtain ⟨D, hD⟩ := walk_of_append_plain plain_reportFile.1 hlook
  rw [hfuel] at hD
  have hDfuel : Fueled u (u.lookupFuel (t.absolute st.runDir) + 1) 0 (t.absolute st.runDir) :=
    (fueled_lookupFuel u _).of_le (Nat.le_succ _)
  have hbD : resolvePath u (u.absolute st.runDir) = .ok D := by
    rw [hsame.absolute_eq]
    exact resolvePath_of_walk (any_hasZero_of_resolvePath hb) hD hDfuel (Nat.le_refl _)
  have hrP : resolvePath u (u.absolute (st.runDir.joinAll [reportFile])) = .ok P := by
    rw [hsame.absolute_eq, ← hqeq, habs]
    exact resolvePath_of_lookup (by rw [← habs]; exact any_hasZero_of_resolvePath hr) hlook
  have hrealD : t.realpath (t.absolute st.runDir) = D :=
    realpath_of_walk_congr hsame.linkAt_eq (hsame.lookupFuel_eq _).symm hD hDfuel (Nat.le_refl _)
  have hrealP : t.realpath (t.absolute q) = P := by
    rw [habs]
    exact realpath_of_walk_congr hsame.linkAt_eq (hsame.lookupFuel_eq _).symm hlook
      (fueled_lookupFuel u _) (Nat.le_succ _)
  rw [path_of_resolved st u [reportFile] hbD hrP, ← hqeq, ← hrealD, ← hrealP,
    List.isPrefixOf_iff_prefix.mpr hpre, if_pos rfl]

theorem hasZero_of_pathFault {α : Type} {q : Path} {r : Except Nat α} {a : α}
    (h : pathFault q r = .ok a) : hasZero q.toText = false := by
  unfold pathFault atPath at h
  split at h
  · cases h
  · exact Bool.eq_false_iff.mpr ‹_›

theorem writeJson_eq_ok {u u' : Tree} {rel : String} {v : Value} {q : Path}
    (h : st.writeJson u rel v = .ok (u', q)) :
    st.path u [rel] = .ok q ∧ v.holdsLongInt = false ∧
      ∃ u₁ bytes, makeDirsAt u q.parent = .ok u₁ ∧
        encodeStrict (Json.writeIndented 2 v ++ "\n") = .ok bytes ∧
        pathFault q (u₁.writeFile (u₁.absolute q) bytes) = .ok u' := by
  simp only [writeJson] at h
  obtain ⟨q', hq', h⟩ := except_bind_eq_ok.mp h
  obtain ⟨u₁, hdirs, h⟩ := except_bind_eq_ok.mp h
  split at h
  · cases h
  rename_i hlong
  split at h
  · rename_i bytes henc
    obtain ⟨u₂, hwrite, h⟩ := except_bind_eq_ok.mp h
    cases h
    exact ⟨hq', Bool.eq_false_iff.mpr hlong, u₁, bytes, hdirs, henc, hwrite⟩
  · obtain ⟨_, -, h⟩ := except_bind_eq_ok.mp h
    cases h

theorem readTextAt_of_readFile {u : Tree} {q : Path} {bytes : List UInt8} {s : String}
    (hz : hasZero q.toText = false) (hread : u.readFile (u.absolute q) = .ok bytes)
    (hdec : decodeUtf8 bytes = .ok s) :
    readTextAt u q = .ok (String.ofList (readLines s.toList)) := by
  simp only [readTextAt, pathFault, atPath, hz, hread, hdec, Bool.false_eq_true, if_false,
    Except.mapError, bind, Except.bind, pure, Except.pure]

theorem readJson_writeJson_report {t t' : Tree} {v : Value} {q : Path} (hd : t.Distinct)
    (hv : v.Readable) (hw : st.writeJson t reportFile v = .ok (t', q)) :
    st.readJson t' reportFile = .ok v := by
  obtain ⟨hq, -, t₁, bytes, hdirs, henc, hwrite⟩ := writeJson_eq_ok hw
  have hs₁ : SameLinks t t₁ := (SameLinks.refl hd).makeDirs (pathFault_eq_ok hdirs)
  have hwf := pathFault_eq_ok hwrite
  have hs' : SameLinks t t' := hs₁.writeFile hwf
  obtain ⟨X, m, hlook⟩ := lookup_writeFile hs₁.distinct hwf
  rw [hs₁.absolute_eq, ← hs'.absolute_eq] at hlook
  have htext := readTextAt_of_readFile (hasZero_of_pathFault hwrite) (readFile_of_lookup hlook)
    (decodeUtf8_of_encodeStrict henc)
  rw [String.toList_ofList, readLines_of_return_not_mem (hv.return_not_mem_text 2)] at htext
  simp only [readJson, path_report_of_lookup hs' hq hlook, htext, Json.readDocument,
    Json.read_writeIndented hv 2, bind, Except.bind]
  rfl

variable {t t' : Tree} {rid : String} {p : Pipeline} {R : Report} {rec : RunRecord}

theorem writeReport_times (hnan : R.hasNaNTime = false)
    (h : st.writeReport t rid p R = .ok (t', rec)) :
    Binary64.shape rec.duration ≠ .nan ∧ ∀ e ∈ rec.steps, Binary64.shape e.duration ≠ .nan := by
  simp only [Report.hasNaNTime, Bool.or_eq_false_iff, List.any_eq_false,
    Bool.not_eq_true] at hnan
  have hrecords := (writeReport_eq_ok h).1
  obtain ⟨t₁, steps, d, x, q, -, hd, hx, rfl, -⟩ := writeReport_inv h
  refine ⟨?_, fun e he => ?_⟩
  · rw [recordFloat_eq_ok hx]
    exact Seconds.shape_toFloat_round3 hnan.1 hd
  · obtain ⟨r, hr, hrec⟩ := forall₂_exists_of_mem_right hrecords he
    obtain ⟨d', hd', heq⟩ := hrec.duration_eq
    rw [heq]
    exact Seconds.shape_toFloat_round3 (hnan.2 r hr) hd'

/-- A report `writeReport` stored, in a tree with one entry per path, reads back as the record
it returned, and checking that record's value gives the record again, when the run id, the
pipeline and the report hold valid texts and no time of the report is a NaN. -/
theorem readReport_writeReport (hd : t.Distinct) (hrid : isValid rid.toList = true)
    (hp : p.textsValid = true) (hR : R.textsValid = true) (hnan : R.hasNaNTime = false)
    (hw : st.writeReport t rid p R = .ok (t', rec)) :
    st.readReport t' = .ok rec ∧ readRunRecord rec.toValue = .ok rec := by
  obtain ⟨hdur, hsteps⟩ := writeReport_times hnan hw
  obtain ⟨t₁, steps, d, x, q, hrecords, -, -, rfl, hjson⟩ := writeReport_inv hw
  have hresults : R.results.all StepResult.textsValid = true := by
    simp only [Report.textsValid, Bool.and_eq_true] at hR
    exact hR.2
  have hreadable := RunRecord.readable_toValue
    (textsValid_runRecord hrid hp hR
      (stepRecords_all (fun _ _ _ _ _ he hr => stepRecord_textsValid he hp hr) hrecords hresults))
    (writeJson_eq_ok hjson).2.1 hdur hsteps
  have hread := readJson_writeJson_report ((SameLinks.refl hd).stepRecords hrecords).distinct
    hreadable hjson
  refine ⟨?_, readRunRecord_toValue _⟩
  simp only [readReport, hread, readRunRecord_toValue, bind, Except.bind, pure, Except.pure]

end Store

/-- A run whose first step, named beyond ASCII, could not be launched, timed by a whole number
of seconds, while the run as a whole lasted forever: its stored report reads back as the record
written. -/
theorem readReport_writeReport_after_launch_failure :
    ∃ t' rec, Store.writeReport ⟨Path.ofString "/out"⟩ ⟨[(["out"], .dir)], []⟩ "r1"
        ⟨"ci", Path.ofString "/repo", [{ name := "tëst", command := "x" },
          { name := "b", command := "y" }], Env.empty⟩
        { pipeline := "ci", ok := false, firstFailure := some "tëst",
          duration := .real Binary64.infinity,
          results := [{ name := "tëst", exitCode := 127, stdout := [], stderr := [65],
                        duration := .whole 0, launchError := some "No such file" }] } =
        .ok (t', rec) ∧
      Store.readReport ⟨Path.ofString "/out"⟩ t' = .ok rec ∧ readRunRecord rec.toValue = .ok rec := by
  obtain ⟨t', rec, hw⟩ : ∃ t' rec, Store.writeReport ⟨Path.ofString "/out"⟩
      ⟨[(["out"], .dir)], []⟩ "r1"
        ⟨"ci", Path.ofString "/repo", [{ name := "tëst", command := "x" },
          { name := "b", command := "y" }], Env.empty⟩
        { pipeline := "ci", ok := false, firstFailure := some "tëst",
          duration := .real Binary64.infinity,
          results := [{ name := "tëst", exitCode := 127, stdout := [], stderr := [65],
                        duration := .whole 0, launchError := some "No such file" }] } =
        .ok (t', rec) :=
    Store.writeReport_eq_ok_of "r1" (by decide +kernel) (by decide +kernel) (by decide +kernel)
      (by decide +kernel) (by decide +kernel) (by decide +kernel)
  have hd : Fs.Tree.Distinct ⟨[(["out"], .dir)], []⟩ := List.nodup_singleton _
  exact ⟨t', rec, hw, Store.readReport_writeReport hd (by decide +kernel) (by decide +kernel)
    (by decide +kernel) (by decide +kernel) hw⟩

end BuildGate
