import Mathlib
import BuildGate.Proofs.FileTree
import BuildGate.Proofs.ReportFile

namespace BuildGate

open Fs Fs.Tree

def logFile (i : Nat) (name suffix : String) : String := "logs/" ++ logStem i name ++ suffix

def logFiles : Nat → List StepResult → List String
  | _, [] => []
  | i, r :: rs =>
    logFile i r.name ".stdout.log" :: logFile i r.name ".stderr.log" :: logFiles (i + 1) rs

theorem length_logFiles (i : Nat) (rs : List StepResult) :
    (logFiles i rs).length = 2 * rs.length := by
  induction rs generalizing i with
  | nil => rfl
  | cons r rs ih =>
    simp only [logFiles, List.length_cons, ih]
    omega

def paddedDigits (i : Nat) : List Char :=
  if (Nat.toDigits 10 i).length < 2 then '0' :: Nat.toDigits 10 i else Nat.toDigits 10 i

theorem logStem_toList (i : Nat) (name : String) :
    (logStem i name).toList = paddedDigits i ++ '-' :: (safeFileName name "step").toList := by
  unfold logStem paddedDigits
  dsimp only
  rw [Nat.toString_eq_ofList_toDigits, String.length_ofList]
  split <;> simp

theorem dash_not_mem_paddedDigits (i : Nat) : '-' ∉ paddedDigits i := by
  have hdigits : '-' ∉ Nat.toDigits 10 i := fun h =>
    absurd (Nat.isDigit_of_mem_toDigits (by decide) (by decide) h) (by decide)
  unfold paddedDigits
  split
  · exact List.not_mem_cons_of_ne_of_not_mem (by decide) hdigits
  · exact hdigits

theorem ofDigitChars_paddedDigits (i : Nat) : Nat.ofDigitChars 10 (paddedDigits i) 0 = i := by
  unfold paddedDigits
  split
  · rw [Nat.ofDigitChars_cons]
    exact Nat.ofDigitChars_ten_toDigits
  · exact Nat.ofDigitChars_ten_toDigits

theorem slash_not_mem_collapseRuns (inRun : Bool) (cs : List Char) :
    '/' ∉ collapseRuns inRun cs := by
  induction cs generalizing inRun with
  | nil => simp [collapseRuns]
  | cons c cs ih =>
    unfold collapseRuns
    split
    · next hc =>
      refine List.not_mem_cons_of_ne_of_not_mem ?_ (ih false)
      rintro rfl
      exact absurd hc (by decide)
    · split
      · exact ih true
      · exact List.not_mem_cons_of_ne_of_not_mem (by decide) (ih true)

theorem slash_not_mem_safeFileName (name : String) : '/' ∉ (safeFileName name "step").toList := by
  unfold safeFileName
  dsimp only
  split
  · decide
  · rw [String.toList_ofList]
    exact fun h => slash_not_mem_collapseRuns false _ (mem_of_mem_stripEdges h)

theorem logFile_eq (i : Nat) (name suffix : String) :
    logFile i name suffix = "logs/" ++ (logStem i name ++ suffix) :=
  String.append_assoc

theorem dash_mem_logStem (i : Nat) (name suffix : String) :
    '-' ∈ (logStem i name ++ suffix).toList := by
  rw [String.toList_append, logStem_toList]
  simp

theorem slash_not_mem_logStem (i : Nat) (name : String) {suffix : String}
    (hs : '/' ∉ suffix.toList) : '/' ∉ (logStem i name ++ suffix).toList := by
  have hdigits : '/' ∉ paddedDigits i := by
    unfold paddedDigits
    have hd : '/' ∉ Nat.toDigits 10 i := fun h =>
      absurd (Nat.isDigit_of_mem_toDigits (by decide) (by decide) h) (by decide)
    split
    · exact List.not_mem_cons_of_ne_of_not_mem (by decide) hd
    · exact hd
  rw [String.toList_append, logStem_toList]
  simp only [List.mem_append, List.mem_cons, not_or]
  exact ⟨⟨hdigits, by decide, slash_not_mem_safeFileName name⟩, hs⟩

theorem logFile_index {i j : Nat} {a b s s' : String} (h : logFile i a s = logFile j b s') :
    i = j := by
  have hnum : ∀ k c x, Nat.ofDigitChars 10 (((logFile k c x).toList.drop 5).takeWhile
      (· != '-')) 0 = k := by
    intro k c x
    have hpos : ∀ y ∈ paddedDigits k, (y != '-') = true := fun y hy => by
      have := dash_not_mem_paddedDigits k
      simp only [bne_iff_ne, ne_eq]
      rintro rfl
      exact this hy
    rw [logFile_eq, String.toList_append, String.toList_append, logStem_toList]
    simp only [show ("logs/" : String).toList = ['l', 'o', 'g', 's', '/'] by decide,
      List.cons_append, List.nil_append, List.drop_succ_cons, List.drop_zero, List.append_assoc,
      List.takeWhile_append_of_pos hpos]
    rw [List.takeWhile_cons_of_neg (by decide), List.append_nil, ofDigitChars_paddedDigits]
  rw [← hnum i a s, ← hnum j b s', h]

theorem logFile_stdout_ne_stderr (i : Nat) (name : String) :
    logFile i name ".stdout.log" ≠ logFile i name ".stderr.log" := by
  intro h
  have h' := congrArg String.toList h
  simp only [logFile, String.toList_append] at h'
  exact absurd (List.append_cancel_left h') (by decide)

theorem mem_logFiles {i : Nat} {rs : List StepResult} {f : String} (h : f ∈ logFiles i rs) :
    ∃ j a s, i ≤ j ∧ f = logFile j a s ∧ (s = ".stdout.log" ∨ s = ".stderr.log") := by
  induction rs generalizing i with
  | nil => cases h
  | cons r rs ih =>
    simp only [logFiles, List.mem_cons] at h
    rcases h with rfl | rfl | h
    · exact ⟨i, _, _, Nat.le_refl i, rfl, .inl rfl⟩
    · exact ⟨i, _, _, Nat.le_refl i, rfl, .inr rfl⟩
    · obtain ⟨j, a, s, hj, rfl, hs⟩ := ih h
      exact ⟨j, a, s, by omega, rfl, hs⟩

theorem logFiles_nodup (i : Nat) (rs : List StepResult) : (logFiles i rs).Nodup := by
  induction rs generalizing i with
  | nil => exact List.nodup_nil
  | cons r rs ih =>
    have hlater : ∀ s, logFile i r.name s ∉ logFiles (i + 1) rs := by
      intro s hmem
      obtain ⟨j, a, s', hj, heq, -⟩ := mem_logFiles hmem
      have := logFile_index heq
      omega
    simp only [logFiles, List.nodup_cons, List.mem_cons, not_or]
    exact ⟨⟨logFile_stdout_ne_stderr i r.name, hlater _⟩, hlater _, ih (i + 1)⟩

theorem logFiles_inside {i : Nat} {rs : List StepResult} {f : String} (h : f ∈ logFiles i rs) :
    ∃ name, f = "logs/" ++ name ∧ '/' ∉ name.toList ∧ '-' ∈ name.toList := by
  obtain ⟨j, a, s, -, rfl, hs⟩ := mem_logFiles h
  have hslash : '/' ∉ s.toList := by
    rcases hs with rfl | rfl <;> decide
  exact ⟨_, logFile_eq j a s, slash_not_mem_logStem j a hslash, dash_mem_logStem j a s⟩

namespace Path

theorem ofString_of_head {s : String} (h : s.toList.head? ≠ some '/') :
    ofString s = ⟨"", components s⟩ := by
  have h0 : (s.toList.takeWhile (· == '/')).length = 0 := by
    cases hs : s.toList with
    | nil => rfl
    | cons c cs =>
      rw [hs] at h
      have hc : (c == '/') = false := by simpa using h
      simp [hc]
  simp [ofString, h0]

theorem joinText_of_head (d : Path) {s : String} (h : s.toList.head? ≠ some '/') :
    d.joinText s = ⟨d.root, d.parts ++ components s⟩ := by
  simp [joinText, join, isAbs, ofString_of_head h]

theorem components_of_not_slash {s : String} (hs : '/' ∉ s.toList) (h₁ : s ≠ "")
    (h₂ : s ≠ ".") : components s = [s] := by
  unfold components
  rw [List.splitOn_eq_singleton hs]
  simp [h₁, h₂]

theorem components_logs {name : String} (hs : '/' ∉ name.toList) (h₁ : name ≠ "")
    (h₂ : name ≠ ".") : components ("logs/" ++ name) = ["logs", name] := by
  have hlist : ("logs/" ++ name).toList = "logs".toList ++ '/' :: name.toList := by
    rw [String.toList_append, show ("logs/" : String).toList = "logs".toList ++ ['/'] by decide,
      List.append_assoc, List.singleton_append]
  unfold components
  rw [hlist, List.splitOn_append_cons_self_of_not_mem (by decide), List.splitOn_eq_singleton hs]
  simp [h₁, h₂]

end Path

theorem ne_of_dash_mem {name s : String} (hname : '-' ∈ name.toList) (hs : '-' ∉ s.toList) :
    name ≠ s := by
  rintro rfl
  exact hs hname

theorem components_logFile {name : String} (hslash : '/' ∉ name.toList)
    (hdash : '-' ∈ name.toList) : Path.components ("logs/" ++ name) = ["logs", name] :=
  Path.components_logs hslash (ne_of_dash_mem hdash (by decide)) (ne_of_dash_mem hdash (by decide))

theorem components_logFile_eq (i : Nat) (name : String) {suffix : String}
    (hs : '/' ∉ suffix.toList) :
    Path.components (logFile i name suffix) = ["logs", logStem i name ++ suffix] := by
  rw [logFile_eq, components_logFile (slash_not_mem_logStem i name hs) (dash_mem_logStem i name _)]

theorem head_logs (name : String) : ("logs/" ++ name).toList.head? ≠ some '/' := by
  rw [String.toList_append, show ("logs/" : String).toList = ['l', 'o', 'g', 's', '/'] by decide]
  simp

theorem absolute_below (u : Tree) (d : Path) (ps : List String) :
    u.absolute ⟨d.root, d.parts ++ ps⟩ = u.absolute d ++ ps := by
  unfold Tree.absolute Path.isAbs
  split <;> simp

theorem plain_logs : Plain "logs" := ⟨by decide, by decide, by decide⟩

/-- The run directory `d` leads to the directory `D`, below which there is no link, in a tree with
one entry per path. -/
structure RunDirAt (u : Tree) (d : Path) (D : List String) : Prop where
  lookup : u.lookup true (u.absolute d) = .ok (D, some .dir)
  noLinks : ∀ cs target, (cs, Entry.link target) ∈ u.entries → ¬D <+: cs
  distinct : u.Distinct

namespace RunDirAt

variable {u u' : Tree} {d : Path} {D : List String}

theorem put {X : List String} {e : Entry} (hR : RunDirAt u d D) (hc : u.Replaces X e) :
    RunDirAt (u.put X e) d D :=
  ⟨by rw [absolute_put]; exact hc.lookup_dir hR.distinct hR.lookup,
    fun cs target h => hR.noLinks cs target (hc.mem_link h), hR.distinct.put⟩

/-- Making directories keeps the run directory, and only puts directories where there were
none. -/
theorem makeDirs {cs : List String} (hR : RunDirAt u d D) (h : u.makeDirs cs = .ok u') :
    RunDirAt u' d D ∧ ChangedWithin u u' fun _ => False :=
  makeDirs_induction (fun v => RunDirAt v d D ∧ ChangedWithin u v fun _ => False)
    ⟨hR, .refl u _⟩
    (fun _ X ⟨hv, hch⟩ hX hnone =>
      ⟨hv.put ⟨hX, .inl hnone, .inl rfl⟩,
        (hch.trans (changedWithin_put_dir hX hnone)).mono fun _ h => by simp at h⟩) h

theorem not_link (hR : RunDirAt u d D) {cs : List String} (hcs : D <+: cs) (target : String) :
    u.entryAt cs ≠ some (.link target) := by
  intro h
  have hne : cs ≠ [] := by
    rintro rfl
    simp [entryAt] at h
  exact hR.noLinks cs target (mem_entries_of_entryAt h hne) hcs

theorem lookup_below (hR : RunDirAt u d D) (ns : List String) :
    ∃ fuel links, 1 ≤ fuel ∧
      u.lookup true (u.absolute d ++ ns) = u.walk true (fuel + ns.length) links D ns := by
  obtain ⟨fuel, links, hfuel, h⟩ := walk_append hR.lookup ns ns.length
  refine ⟨fuel, links, hfuel, ?_⟩
  rw [← h, Tree.lookup, lookupFuel_eq, lookupFuel_eq, List.length_append]
  congr 1
  omega

theorem lookup_file (hR : RunDirAt u d D) {f : String} (hf : Plain f) :
    u.lookup true (u.absolute d ++ [f]) = .ok (D ++ [f], u.entryAt (D ++ [f])) := by
  obtain ⟨fuel, links, hfuel, h⟩ := hR.lookup_below [f]
  obtain ⟨k, rfl⟩ : ∃ k, fuel = k + 1 := ⟨fuel - 1, by omega⟩
  rw [h]
  exact walk_last hf (hR.not_link (List.prefix_append _ _))

theorem lookup_log (hR : RunDirAt u d D) (hlogs : u.entryAt (D ++ ["logs"]) = some .dir)
    {f : String} (hf : Plain f) :
    u.lookup true (u.absolute d ++ ["logs", f]) =
      .ok (D ++ ["logs", f], u.entryAt (D ++ ["logs", f])) := by
  obtain ⟨fuel, links, hfuel, h⟩ := hR.lookup_below ["logs", f]
  obtain ⟨k, rfl⟩ : ∃ k, fuel = k + 1 := ⟨fuel - 1, by omega⟩
  rw [h, show k + 1 + ["logs", f].length = (k + 2) + 1 by simp, walk_dir plain_logs hlogs,
    walk_last hf (by simpa using hR.not_link (List.prefix_append D ["logs", f]))]
  simp

theorem lookup_log_eq_ok (hR : RunDirAt u d D) {f : String}
    (hf : ¬(f == "" || f == ".") = true ∧ ¬(f == "..") = true)
    {r : List String × Option Entry} (h : u.lookup true (u.absolute d ++ ["logs", f]) = .ok r) :
    u.entryAt (D ++ ["logs"]) = some .dir ∧ Plain f := by
  obtain ⟨fuel, links, hfuel, hw⟩ := hR.lookup_below ["logs", f]
  obtain ⟨k, rfl⟩ : ∃ k, fuel = k + 1 := ⟨fuel - 1, by omega⟩
  rw [hw, show k + 1 + ["logs", f].length = (k + 2) + 1 by simp, walk_cons_plain plain_logs] at h
  have hlast : ([f].all fun r => r == "" || r == ".") = false := by simpa using hf.1
  cases he : u.entryAt (D ++ ["logs"]) with
  | none =>
    rw [he, hlast] at h
    cases h
  | some en =>
    rw [he] at h
    cases en with
    | file b m =>
      dsimp only at h
      rw [hlast] at h
      cases h
    | link target => exact absurd he (hR.not_link (List.prefix_append _ _) target)
    | dir =>
      refine ⟨rfl, hf.1, hf.2, fun hlong => ?_⟩
      dsimp only at h
      rw [walk.eq_3, if_neg hf.1, if_neg hf.2, if_pos hlong] at h
      cases h

end RunDirAt

theorem not_dots_of_dash {name : String} (h : '-' ∈ name.toList) :
    ¬(name == "" || name == ".") = true ∧ ¬(name == "..") = true := by
  simp only [Bool.or_eq_true, beq_iff_eq, not_or]
  exact ⟨⟨ne_of_dash_mem h (by decide), ne_of_dash_mem h (by decide)⟩,
    ne_of_dash_mem h (by decide)⟩

theorem logs_ne_log (D : List String) (name : String) : D ++ ["logs"] ≠ D ++ ["logs", name] :=
  fun h => by simpa using congrArg List.length h

theorem log_inj {D : List String} {a b : String} (h : D ++ ["logs", a] = D ++ ["logs", b]) :
    a = b := by
  simpa using h

/-- The log `logs/name` below `D` holds `bytes`: `logs` is a directory there, and the name is one
an entry can have. -/
structure LogHeld (u : Tree) (D : List String) (name : String) (bytes : List UInt8) : Prop where
  logs : u.entryAt (D ++ ["logs"]) = some .dir
  plain : Plain name
  file : ∃ m, u.entryAt (D ++ ["logs", name]) = some (.file bytes m)

namespace LogHeld

variable {u u' : Tree} {D : List String} {name : String} {bytes : List UInt8}

/-- A log stays held through changes elsewhere. -/
theorem keep (h : LogHeld u D name bytes) {S : List String → Prop} (hch : ChangedWithin u u' S)
    (hlogs : ¬S (D ++ ["logs"])) (hname : ¬S (D ++ ["logs", name])) : LogHeld u' D name bytes := by
  obtain ⟨m, hm⟩ := h.file
  refine ⟨?_, h.plain, m, ?_⟩
  · rw [hch.entryAt_eq hlogs (by simp [h.logs]), h.logs]
  · rw [hch.entryAt_eq hname (by simp [hm]), hm]

/-- A held log is what reading its path below the run directory gives. -/
theorem readFile {d : Path} (hR : RunDirAt u d D) (h : LogHeld u D name bytes)
    (hslash : '/' ∉ name.toList) (hdash : '-' ∈ name.toList) :
    u.readFile (u.absolute (d.joinText ("logs/" ++ name))) = .ok bytes := by
  obtain ⟨m, hm⟩ := h.file
  rw [Path.joinText_of_head _ (head_logs name), components_logFile hslash hdash, absolute_below]
  unfold Tree.readFile stat
  rw [hR.lookup_log h.logs h.plain, hm]

end LogHeld

theorem pathFault_eq_ok {α : Type} {q : Path} {r : Except Nat α} {a : α}
    (h : pathFault q r = .ok a) : r = .ok a := by
  unfold pathFault atPath at h
  split at h
  · cases h
  · cases r with
    | error n => cases h
    | ok b =>
      cases h
      rfl

theorem relativeTo_log (d : Path) {name : String} (hslash : '/' ∉ name.toList)
    (hdash : '-' ∈ name.toList) :
    ((d.joinText ("logs/" ++ name)).relativeTo d).toText = "logs/" ++ name := by
  rw [Path.joinText_of_head _ (head_logs name), components_logFile hslash hdash]
  simp [Path.relativeTo, Path.toText, String.intercalate_cons_cons]

namespace Store

variable {st : Store} {u u' : Tree} {D : List String}

theorem writeBytes_log (hR : RunDirAt u st.runDir D) {name : String}
    (hslash : '/' ∉ name.toList) (hdash : '-' ∈ name.toList) {bytes : List UInt8} {q : Path}
    (h : st.writeBytes u ("logs/" ++ name) bytes = .ok (u', q)) :
    RunDirAt u' st.runDir D ∧ q = st.runDir.joinText ("logs/" ++ name) ∧
      LogHeld u' D name bytes ∧ ChangedWithin u u' (· = D ++ ["logs", name]) := by
  have hq := writeBytes_eq_ok h
  have hjoin : st.runDir.joinAll ["logs/" ++ name] =
      ⟨st.runDir.root, st.runDir.parts ++ ["logs", name]⟩ := by
    rw [show st.runDir.joinAll ["logs/" ++ name] = st.runDir.joinText ("logs/" ++ name) from rfl,
      Path.joinText_of_head _ (head_logs name), components_logFile hslash hdash]
  simp only [writeBytes] at h
  obtain ⟨q', -, h⟩ := except_bind_eq_ok.mp h
  obtain ⟨u₁, hdirs, h⟩ := except_bind_eq_ok.mp h
  obtain ⟨u₂, hwrite, h⟩ := except_bind_eq_ok.mp h
  cases h
  rw [hq, hjoin] at hdirs hwrite
  obtain ⟨hR₁, hch₁⟩ := hR.makeDirs (pathFault_eq_ok hdirs)
  obtain ⟨X, m, hlook, hc, rfl⟩ := writeFile_eq_ok (pathFault_eq_ok hwrite)
  rw [absolute_below] at hlook
  obtain ⟨hlogs, hplain⟩ := hR₁.lookup_log_eq_ok (not_dots_of_dash hdash) hlook
  rw [hR₁.lookup_log hlogs hplain] at hlook
  obtain rfl : D ++ ["logs", name] = X := congrArg Prod.fst (Except.ok.inj hlook)
  refine ⟨hR₁.put hc, hq, ⟨?_, hplain, m, ?_⟩, ?_⟩
  · rw [hc.entryAt_of_ne (logs_ne_log D name), hlogs]
  · rw [entryAt_put hc.ne_nil, if_pos rfl]
  · exact (hch₁.trans (changedWithin_put hc.ne_nil)).mono fun _ h => by simpa using h

theorem plain_reportFile : Plain reportFile := ⟨by decide, by decide, by decide⟩

/-- The report's path is one component below the run directory. -/
theorem joinAll_reportFile (d : Path) :
    d.joinAll [reportFile] = ⟨d.root, d.parts ++ [reportFile]⟩ := by
  rw [show d.joinAll [reportFile] = d.joinText reportFile from rfl,
    Path.joinText_of_head _ (by decide),
    Path.components_of_not_slash (by decide) (by decide) (by decide)]

theorem writeJson_report (hR : RunDirAt u st.runDir D) {v : Value} {q : Path}
    (h : st.writeJson u reportFile v = .ok (u', q)) :
    RunDirAt u' st.runDir D ∧ ChangedWithin u u' (· = D ++ [reportFile]) := by
  simp only [writeJson] at h
  obtain ⟨q', hq', h⟩ := except_bind_eq_ok.mp h
  rw [path_eq_ok hq', joinAll_reportFile] at h
  obtain ⟨u₁, hdirs, h⟩ := except_bind_eq_ok.mp h
  obtain ⟨hR₁, hch₁⟩ := hR.makeDirs (pathFault_eq_ok hdirs)
  split at h
  · cases h
  split at h
  · obtain ⟨u₂, hwrite, h⟩ := except_bind_eq_ok.mp h
    cases h
    obtain ⟨X, m, hlook, hc, rfl⟩ := writeFile_eq_ok (pathFault_eq_ok hwrite)
    rw [absolute_below, hR₁.lookup_file plain_reportFile] at hlook
    obtain rfl : D ++ [reportFile] = X := congrArg Prod.fst (Except.ok.inj hlook)
    exact ⟨hR₁.put hc, (hch₁.trans (changedWithin_put hc.ne_nil)).mono fun _ h => by simpa using h⟩
  · obtain ⟨_, -, h⟩ := except_bind_eq_ok.mp h
    cases h

theorem stepRecord_logs (hR : RunDirAt u st.runDir D) {p : Pipeline} {i : Nat} {r : StepResult}
    {e : StepRecord} (h : st.stepRecord p u i r = .ok (u', e)) :
    RunDirAt u' st.runDir D ∧
      ChangedWithin u u' (fun cs => cs = D ++ ["logs", logStem i r.name ++ ".stdout.log"] ∨
        cs = D ++ ["logs", logStem i r.name ++ ".stderr.log"]) ∧
      e.stdoutLog = some (logFile i r.name ".stdout.log") ∧
      e.stderrLog = some (logFile i r.name ".stderr.log") ∧
      LogHeld u' D (logStem i r.name ++ ".stdout.log") r.stdout ∧
      LogHeld u' D (logStem i r.name ++ ".stderr.log") r.stderr := by
  obtain ⟨s, -, u₁, out, err, -, -, hout, herr, -, -, rfl⟩ := stepRecord_eq_ok h
  have hout' : st.writeBytes u ("logs/" ++ (logStem i r.name ++ ".stdout.log")) r.stdout =
      .ok (u₁, out) := by
    rw [← String.append_assoc]
    exact hout
  have herr' : st.writeBytes u₁ ("logs/" ++ (logStem i r.name ++ ".stderr.log")) r.stderr =
      .ok (u', err) := by
    rw [← String.append_assoc]
    exact herr
  have hsl₁ : '/' ∉ (logStem i r.name ++ ".stdout.log").toList :=
    slash_not_mem_logStem i r.name (by decide)
  have hsl₂ : '/' ∉ (logStem i r.name ++ ".stderr.log").toList :=
    slash_not_mem_logStem i r.name (by decide)
  obtain ⟨hR₁, hq₁, hheld₁, hch₁⟩ := writeBytes_log hR hsl₁ (dash_mem_logStem i r.name _) hout'
  obtain ⟨hR₂, hq₂, hheld₂, hch₂⟩ := writeBytes_log hR₁ hsl₂ (dash_mem_logStem i r.name _) herr'
  have hne : logStem i r.name ++ ".stdout.log" ≠ logStem i r.name ++ ".stderr.log" := by
    intro heq
    apply logFile_stdout_ne_stderr i r.name
    rw [logFile_eq, logFile_eq, heq]
  refine ⟨hR₂, hch₁.trans hch₂, ?_, ?_,
    hheld₁.keep hch₂ (logs_ne_log D _) fun h => hne (log_inj h), hheld₂⟩
  · show some (out.relativeTo st.runDir).toText = _
    rw [hq₁, relativeTo_log _ hsl₁ (dash_mem_logStem i r.name _), logFile_eq]
  · show some (err.relativeTo st.runDir).toText = _
    rw [hq₂, relativeTo_log _ hsl₂ (dash_mem_logStem i r.name _), logFile_eq]

theorem stepRecords_logs {p : Pipeline} {i : Nat} {rs : List StepResult} {es : List StepRecord}
    (hR : RunDirAt u st.runDir D) (h : st.stepRecords p u i rs = .ok (u', es)) :
    RunDirAt u' st.runDir D ∧ es.length = rs.length ∧
      ChangedWithin u u' (fun cs => ∃ f ∈ logFiles i rs, cs = D ++ Path.components f) ∧
      ∀ j r e, rs[j]? = some r → es[j]? = some e →
        e.stdoutLog = some (logFile (i + j) r.name ".stdout.log") ∧
        e.stderrLog = some (logFile (i + j) r.name ".stderr.log") ∧
        LogHeld u' D (logStem (i + j) r.name ++ ".stdout.log") r.stdout ∧
        LogHeld u' D (logStem (i + j) r.name ++ ".stderr.log") r.stderr := by
  induction rs generalizing u i es with
  | nil =>
    cases h
    exact ⟨hR, rfl, .refl _ _, fun j r e hr => by simp at hr⟩
  | cons r rs ih =>
    simp only [stepRecords] at h
    obtain ⟨⟨u₁, e⟩, he, h⟩ := except_bind_eq_ok.mp h
    obtain ⟨⟨u₂, es'⟩, hes, h⟩ := except_bind_eq_ok.mp h
    cases h
    obtain ⟨hR₁, hch₁, hout, herr, hheld₁, hheld₂⟩ := stepRecord_logs hR he
    obtain ⟨hR₂, hlen, hch₂, hrest⟩ := ih hR₁ hes
    -- the later logs have larger numbers, so they land elsewhere
    have hother : ∀ s, ¬∃ f ∈ logFiles (i + 1) rs,
        D ++ ["logs", logStem i r.name ++ s] = D ++ Path.components f := by
      rintro s ⟨f, hf, heq⟩
      obtain ⟨name, rfl, hsl, hda⟩ := logFiles_inside hf
      rw [components_logFile hsl hda] at heq
      obtain ⟨j, a, s', hj, hfj, -⟩ := mem_logFiles hf
      rw [← log_inj heq, ← logFile_eq] at hfj
      have := logFile_index hfj
      omega
    have hlogs : ¬∃ f ∈ logFiles (i + 1) rs, D ++ ["logs"] = D ++ Path.components f := by
      rintro ⟨f, hf, heq⟩
      obtain ⟨name, rfl, hsl, hda⟩ := logFiles_inside hf
      rw [components_logFile hsl hda] at heq
      exact logs_ne_log D name heq
    refine ⟨hR₂, by simp [hlen], (hch₁.trans hch₂).mono fun cs hcs => ?_, ?_⟩
    · rcases hcs with (rfl | rfl) | ⟨f, hf, rfl⟩
      · exact ⟨_, List.mem_cons_self, by rw [components_logFile_eq i r.name (by decide)]⟩
      · exact ⟨_, List.mem_cons_of_mem _ List.mem_cons_self,
          by rw [components_logFile_eq i r.name (by decide)]⟩
      · exact ⟨f, List.mem_cons_of_mem _ (List.mem_cons_of_mem _ hf), rfl⟩
    · intro j r' e' hr he'
      cases j with
      | zero =>
        simp only [List.getElem?_cons_zero, Option.some.injEq] at hr he'
        subst hr he'
        exact ⟨hout, herr, hheld₁.keep hch₂ hlogs (hother _), hheld₂.keep hch₂ hlogs (hother _)⟩
      | succ j =>
        rw [show i + (j + 1) = i + 1 + j by omega]
        exact hrest j r' e' (by simpa using hr) (by simpa using he')

theorem writeReport_parts {t t' : Tree} {rid : String} {p : Pipeline} {R : Report}
    {rec : RunRecord} (h : st.writeReport t rid p R = .ok (t', rec)) :
    ∃ t₁ q, st.stepRecords p t 1 R.results = .ok (t₁, rec.steps) ∧
      st.writeJson t₁ reportFile rec.toValue = .ok (t', q) := by
  obtain ⟨t₁, steps, d, x, q, hsteps, -, -, rfl, hjson⟩ := writeReport_inv h
  exact ⟨t₁, q, hsteps, hjson⟩

end Store

/-- Storing a report in a run directory with no link below it, in a tree with one entry per
path, writes `2k` logs for the `k` results: `logs/NN-name.stdout.log` and `.stderr.log`, numbered
from one, pairwise distinct, each one component below `logs`, and none the event log or the
report. The record of each result names its two logs, and reading them back gives the result's
output and error output. Nothing else changed but the report and directories that were missing. -/
theorem writeReport_writes_step_logs {st : Store} {t t' : Tree} {D : List String} {rid : String}
    {p : Pipeline} {R : Report} {rec : RunRecord}
    (hd : t.lookup true (t.absolute st.runDir) = .ok (D, some .dir))
    (hlinks : ∀ cs target, (cs, Entry.link target) ∈ t.entries → ¬D <+: cs)
    (hdistinct : t.Distinct) (hw : st.writeReport t rid p R = .ok (t', rec)) :
    rec.steps.length = R.results.length ∧
      (logFiles 1 R.results).length = 2 * R.results.length ∧
      (logFiles 1 R.results).Nodup ∧
      (∀ f ∈ logFiles 1 R.results, ∃ name, Path.components f = ["logs", name] ∧ name ≠ ".." ∧
        f ≠ eventsFile ∧ f ≠ reportFile) ∧
      (∀ j r e, R.results[j]? = some r → rec.steps[j]? = some e →
        e.stdoutLog = some (logFile (j + 1) r.name ".stdout.log") ∧
        e.stderrLog = some (logFile (j + 1) r.name ".stderr.log") ∧
        t'.readFile (t'.absolute (st.runDir.joinText (logFile (j + 1) r.name ".stdout.log"))) =
          .ok r.stdout ∧
        t'.readFile (t'.absolute (st.runDir.joinText (logFile (j + 1) r.name ".stderr.log"))) =
          .ok r.stderr) ∧
      ChangedWithin t t' fun cs =>
        cs = D ++ [reportFile] ∨ ∃ f ∈ logFiles 1 R.results, cs = D ++ Path.components f := by
  obtain ⟨t₁, q, hsteps, hjson⟩ := st.writeReport_parts hw
  obtain ⟨hR₁, hlen, hch₁, hlogs⟩ := Store.stepRecords_logs ⟨hd, hlinks, hdistinct⟩ hsteps
  obtain ⟨hR₂, hch₂⟩ := Store.writeJson_report hR₁ hjson
  -- the report is written beside `logs`, so no log is touched by it
  have hrep : ∀ name, ¬D ++ ["logs", name] = D ++ [reportFile] :=
    fun name h => by simpa using congrArg List.length h
  have hrepLogs : ¬D ++ ["logs"] = D ++ [reportFile] := fun h => by
    simp only [List.append_cancel_left_eq, List.cons.injEq, and_true] at h
    exact absurd h (by decide)
  refine ⟨hlen, length_logFiles 1 _, logFiles_nodup 1 _, fun f hf => ?_,
    fun j r e hr he => ?_, (hch₁.trans hch₂).mono fun cs h => h.symm⟩
  · obtain ⟨name, rfl, hsl, hda⟩ := logFiles_inside hf
    have hdash : '-' ∈ ("logs/" ++ name).toList := by
      rw [String.toList_append]
      exact List.mem_append_right _ hda
    exact ⟨name, components_logFile hsl hda, ne_of_dash_mem hda (by decide),
      ne_of_dash_mem hdash (by decide), ne_of_dash_mem hdash (by decide)⟩
  · obtain ⟨hout, herr, hheld₁, hheld₂⟩ := hlogs j r e hr he
    rw [Nat.add_comm 1 j] at hout herr hheld₁ hheld₂
    refine ⟨hout, herr, ?_, ?_⟩
    · rw [logFile_eq]
      exact (hheld₁.keep hch₂ hrepLogs (hrep _)).readFile hR₂
        (slash_not_mem_logStem _ _ (by decide)) (dash_mem_logStem _ _ _)
    · rw [logFile_eq]
      exact (hheld₂.keep hch₂ hrepLogs (hrep _)).readFile hR₂
        (slash_not_mem_logStem _ _ (by decide)) (dash_mem_logStem _ _ _)

/-- A one-step report stored in the existing directory `/out`: the directory, its lack of links
and the tree's distinct paths hold, the report is written, and the step's output log reads back
as its output. -/
theorem writeReport_writes_step_logs_of_one_step :
    ∃ t' rec, Store.writeReport ⟨Path.ofString "/out"⟩ ⟨[(["out"], .dir)], []⟩ "r1"
        ⟨"ci", Path.ofString "/repo", [{ name := "a", command := "x" }], Env.empty⟩
        { pipeline := "ci", ok := true,
          results := [{ name := "a", exitCode := 0, stdout := [65], stderr := [],
                        duration := .whole 0 }] } = .ok (t', rec) ∧
      t'.readFile (t'.absolute ((Path.ofString "/out").joinText (logFile 1 "a" ".stdout.log"))) =
        .ok [65] := by
  obtain ⟨⟨D, o⟩, hd, hdir⟩ := @exists_eq_ok_of_match _ _
    ((⟨[(["out"], .dir)], []⟩ : Tree).lookup true
      ((⟨[(["out"], .dir)], []⟩ : Tree).absolute (Path.ofString "/out")))
    (fun r => r.2.any (· == .dir)) (by decide +kernel)
  have ho : o = some .dir := by
    rcases o with _ | _ | ⟨_, _⟩ | _ <;> first | rfl | cases hdir
  subst ho
  obtain ⟨t', rec, hw⟩ : ∃ t' rec, Store.writeReport ⟨Path.ofString "/out"⟩
      ⟨[(["out"], .dir)], []⟩ "r1"
        ⟨"ci", Path.ofString "/repo", [{ name := "a", command := "x" }], Env.empty⟩
        { pipeline := "ci", ok := true,
          results := [{ name := "a", exitCode := 0, stdout := [65], stderr := [],
                        duration := .whole 0 }] } = .ok (t', rec) :=
    Store.writeReport_eq_ok_of "r1" (by decide +kernel) (by decide +kernel) (by decide +kernel)
      (by decide +kernel) (by decide +kernel) (by decide +kernel)
  obtain ⟨hlen, -, -, -, hlogs, -⟩ := writeReport_writes_step_logs hd (by simp)
    (List.nodup_singleton _) hw
  have h0 : 0 < rec.steps.length := by
    rw [hlen]
    exact Nat.one_pos
  exact ⟨t', rec, hw, (hlogs 0 _ _ rfl (List.getElem?_eq_getElem h0)).2.2.1⟩

/-- Two results, the first timed by a whole number too large for a float: storing the report
fails once the first result's logs are written, so it does not write the logs of every result. -/
theorem writeReport_fails_on_time_beyond_floats :
    (Store.writeReport ⟨Path.ofString "/out"⟩ ⟨[(["out"], .dir)], []⟩ "r1"
        ⟨"ci", Path.ofString "/repo", [{ name := "a", command := "x" },
          { name := "b", command := "y" }], Env.empty⟩
        { pipeline := "ci", ok := true,
          results := [{ name := "a", exitCode := 0, stdout := [65], stderr := [],
                        duration := .whole (10 ^ 400) },
                      { name := "b", exitCode := 0, stdout := [66], stderr := [],
                        duration := .whole 0 }] }).isOk = false := by
  decide +kernel

end BuildGate
