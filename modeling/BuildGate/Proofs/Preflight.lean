import BuildGate.Doctor
import BuildGate.Proofs.Written
import BuildGate.Proofs.Build
import BuildGate.Proofs.ReportFile
import Mathlib.Data.List.TakeWhile

namespace BuildGate.Path

/-- A path in normal form: its root is none, `/` or `//`, and no component is empty or `.` or
holds a `/`. Reading a text always gives one. -/
structure Normal (p : Path) : Prop where
  root_mem : p.root = "" ∨ p.root = "/" ∨ p.root = "//"
  parts_normal : ∀ c ∈ p.parts, c ≠ "" ∧ c ≠ "." ∧ '/' ∉ c.toList

theorem not_mem_of_mem_splitOn {cs piece : List Char} (h : piece ∈ cs.splitOn '/') :
    '/' ∉ piece := by
  induction cs generalizing piece with
  | nil => simp_all
  | cons c cs ih =>
    rw [List.splitOn_eq_splitOnP, List.splitOnP_cons_eq_if_modifyHead,
      ← List.splitOn_eq_splitOnP] at h
    split at h
    · rcases List.mem_cons.mp h with rfl | h
      · simp
      · exact ih h
    · next hc =>
      obtain ⟨first, rest, hsplit⟩ := List.exists_cons_of_ne_nil (List.splitOn_ne_nil '/' cs)
      rw [hsplit, List.modifyHead_cons] at h
      rcases List.mem_cons.mp h with rfl | h
      · have hfirst := ih (hsplit ▸ List.mem_cons_self)
        simp only [beq_iff_eq] at hc
        simp [Ne.symm hc, hfirst]
      · exact ih (hsplit ▸ List.mem_cons_of_mem _ h)

theorem normal_of_mem_components {s c : String} (h : c ∈ components s) :
    c ≠ "" ∧ c ≠ "." ∧ '/' ∉ c.toList := by
  simp only [components, List.mem_filter, List.mem_map, Bool.and_eq_true, bne_iff_ne] at h
  obtain ⟨⟨piece, hpiece, rfl⟩, hne, hdot⟩ := h
  exact ⟨hne, hdot, by simpa using not_mem_of_mem_splitOn hpiece⟩

theorem normal_ofString (s : String) : (ofString s).Normal := by
  refine ⟨?_, fun c hc => normal_of_mem_components hc⟩
  simp only [ofString]
  split
  · exact .inl rfl
  · split
    · exact .inr (.inr rfl)
    · exact .inr (.inl rfl)

theorem Normal.join {p q : Path} (hp : p.Normal) (hq : q.Normal) : (p.join q).Normal := by
  unfold Path.join
  split
  · exact hq
  · refine ⟨hp.root_mem, fun c hc => ?_⟩
    rcases List.mem_append.mp hc with hc | hc
    · exact hp.parts_normal c hc
    · exact hq.parts_normal c hc

theorem components_intercalate {ps : List String}
    (h : ∀ c ∈ ps, c ≠ "" ∧ c ≠ "." ∧ '/' ∉ c.toList) : components ("/".intercalate ps) = ps := by
  cases ps with
  | nil => rfl
  | cons c cs =>
    have hsplit :
        ("/".intercalate (c :: cs)).toList.splitOn '/' = (c :: cs).map String.toList := by
      rw [String.toList_intercalate]
      exact List.splitOn_intercalate '/' (by simpa using fun c hc => (h c hc).2.2) (by simp)
    simp only [components, hsplit, List.map_map]
    rw [List.filter_eq_self.mpr]
    · simp
    · intro x hx
      obtain ⟨y, hy, rfl⟩ := List.mem_map.mp hx
      simpa using ⟨(h y hy).1, (h y hy).2.1⟩

theorem takeWhile_slash_intercalate {ps : List String}
    (h : ∀ c ∈ ps, c ≠ "" ∧ c ≠ "." ∧ '/' ∉ c.toList) :
    ("/".intercalate ps).toList.takeWhile (· == '/') = [] := by
  cases ps with
  | nil => rfl
  | cons c cs =>
    obtain ⟨hne, -, hslash⟩ := h c List.mem_cons_self
    obtain ⟨x, xs, hx⟩ := List.exists_cons_of_ne_nil (by simpa using hne : c.toList ≠ [])
    have hxslash : x ≠ '/' := fun hx' => hslash (hx ▸ hx' ▸ List.mem_cons_self)
    rw [String.toList_intercalate, List.map_cons, hx]
    cases cs with
    | nil => simp [hxslash]
    | cons d ds => simp [List.intercalate_cons_cons, hxslash]

theorem ofString_slashes_append {r t : String} (hr : ∀ c ∈ r.toList, c = '/')
    (ht : t.toList.takeWhile (· == '/') = []) :
    ofString (r ++ t) =
      ⟨if r.length == 0 then "" else if r.length == 2 then "//" else "/", components t⟩ := by
  have htake : (r ++ t).toList.takeWhile (· == '/') = r.toList := by
    rw [String.toList_append, List.takeWhile_append_of_pos (by simpa using hr), ht,
      List.append_nil]
  simp only [ofString, htake, String.length_toList]
  rw [String.toList_append, ← String.length_toList, List.drop_left, String.ofList_toList]

theorem ofString_toText {p : Path} (hp : p.Normal) : ofString p.toText = p := by
  obtain ⟨root, parts⟩ := p
  have htake := takeWhile_slash_intercalate hp.parts_normal
  have hcomps := components_intercalate hp.parts_normal
  have htext : ∀ r, r ≠ "" → toText ⟨r, parts⟩ = r ++ "/".intercalate parts := by
    intro r hr
    simp [toText, hr]
  rcases hp.root_mem with rfl | rfl | rfl
  · cases parts with
    | nil => rfl
    | cons c cs =>
      have htext' : toText ⟨"", c :: cs⟩ = "" ++ "/".intercalate (c :: cs) := by simp [toText]
      rw [htext', ofString_slashes_append (by simp) htake, hcomps]
      rfl
  · rw [htext "/" (by decide), ofString_slashes_append (by simp) htake, hcomps]
    rfl
  · rw [htext "//" (by decide), ofString_slashes_append (by simp) htake, hcomps]
    rfl

theorem components_append_slash (a b : List Char) :
    components (String.ofList (a ++ '/' :: b)) =
      components (String.ofList a) ++ components (String.ofList b) := by
  simp only [components, String.toList_ofList, List.splitOn_append_cons_self, List.map_append,
    List.filter_append]

theorem takeWhile_slash_eq_nil {cs : List Char} (h : cs.head? ≠ some '/') :
    cs.takeWhile (· == '/') = [] := by
  cases cs with
  | nil => rfl
  | cons c cs => exact List.takeWhile_cons_of_neg (by simpa using h)

/-- A text without `/` reads as a relative path of its components. -/
theorem ofString_of_not_mem {s : String} (h : '/' ∉ s.toList) :
    ofString s = ⟨"", components s⟩ := by
  have hs := @ofString_slashes_append "" s (by simp)
    (takeWhile_slash_eq_nil fun hh => h (List.mem_of_mem_head? hh))
  simpa using hs

theorem isAbs_ofString_of_head {s : String} (h : s.toList.head? = some '/') :
    (ofString s).isAbs = true := by
  obtain ⟨cs, hcs⟩ : ∃ cs, s.toList = '/' :: cs := by
    cases hs : s.toList with
    | nil => rw [hs] at h; cases h
    | cons c cs => rw [hs] at h; cases h; exact ⟨cs, rfl⟩
  have hlen : ((s.toList.takeWhile (· == '/')).length == 0) = false := by
    rw [hcs, List.takeWhile_cons_of_pos (by decide)]
    rfl
  simp only [ofString, isAbs, hlen, Bool.false_eq_true, if_false]
  split <;> rfl

theorem isAbs_join {p : Path} (hp : p.isAbs = true) (q : Path) : (p.join q).isAbs = true := by
  unfold Path.join
  split
  · assumption
  · exact hp

theorem mem_toText_of_isAbs {p : Path} (hp : p.Normal) (habs : p.isAbs = true) :
    '/' ∈ p.toText.toList := by
  obtain ⟨root, parts⟩ := p
  rcases hp.root_mem with rfl | rfl | rfl
  · cases habs
  · simp [toText]
  · simp [toText]

end BuildGate.Path

namespace BuildGate.Host

theorem startsWith_slash_iff (s : String) :
    s.startsWith "/" = true ↔ s.toList.head? = some '/' := by
  have hslash : "/".toList = ['/'] := rfl
  rw [String.startsWith_string_iff, hslash]
  cases s.toList with
  | nil => simp
  | cons c cs => simp [eq_comm]

theorem endsWith_slash_iff (s : String) : s.endsWith "/" = true ↔ s.toList.getLast? = some '/' := by
  have hslash : "/".toList = ['/'] := rfl
  simp only [String.endsWith, String.Slice.endsWith_string_iff, String.copy_toSlice, hslash]
  exact List.singleton_suffix_iff_getLast?_eq_some

theorem ofString_joinCommand {d cmd : String} (hd : d.toList.head? = some '/')
    (hcmd : '/' ∉ cmd.toList) :
    Path.ofString (joinCommand d cmd) = (Path.ofString d).joinText cmd := by
  obtain ⟨sl, rest, hsplit, hsl, hrest⟩ : ∃ sl rest, d.toList = sl ++ rest ∧ (∀ c ∈ sl, c = '/') ∧
      rest.head? ≠ some '/' := by
    refine ⟨d.toList.takeWhile (· == '/'), d.toList.dropWhile (· == '/'),
      List.takeWhile_append_dropWhile.symm, fun c hc => ?_, fun hh => ?_⟩
    · simpa using List.mem_takeWhile_imp hc
    · have := List.head?_dropWhile_not (· == '/') d.toList
      rw [hh] at this
      simp at this
  have hcmdRel : (Path.ofString cmd).isAbs = false := by
    rw [Path.ofString_of_not_mem hcmd]
    rfl
  have hd' : d = String.ofList sl ++ String.ofList rest := by
    rw [← String.toList_inj, String.toList_append, String.toList_ofList, String.toList_ofList,
      hsplit]
  have hofd := @Path.ofString_slashes_append (String.ofList sl) (String.ofList rest)
    (by simpa using hsl) (Path.takeWhile_slash_eq_nil (by simpa using hrest))
  rw [← hd'] at hofd
  have hne : d.isEmpty = false := by
    rw [Bool.eq_false_iff, ne_eq, String.isEmpty_iff]
    rintro rfl
    cases hd
  rw [Path.joinText, Path.join, if_neg (by simp [hcmdRel]), Path.ofString_of_not_mem hcmd, hofd, joinCommand,
    hne, Bool.false_or]
  dsimp only
  split
  · next hends =>
    have hlast : d.toList.getLast? = some '/' := (endsWith_slash_iff d).mp hends
    have htail : Path.components (String.ofList (rest ++ cmd.toList)) =
        Path.components (String.ofList rest) ++ Path.components cmd := by
      rcases List.eq_nil_or_concat rest with rfl | ⟨rest', x, rfl⟩
      · simp [Path.components]
      · rw [List.concat_eq_append] at hsplit ⊢
        have hx : x = '/' := by
          simpa [hsplit] using hlast
        subst hx
        rw [List.append_assoc, List.singleton_append, Path.components_append_slash,
          Path.components_append_slash, String.ofList_toList]
        simp [Path.components]
    have hhead : (rest ++ cmd.toList).head? ≠ some '/' := by
      cases rest with
      | nil => simpa using fun hh => hcmd (List.mem_of_mem_head? hh)
      | cons r rs => simpa using hrest
    have hlist : d ++ cmd = String.ofList sl ++ String.ofList (rest ++ cmd.toList) := by
      rw [← String.toList_inj]
      simp [hsplit]
    rw [hlist, Path.ofString_slashes_append (by simpa using hsl)
      (Path.takeWhile_slash_eq_nil (by simpa using hhead)), htail]
  · next hends =>
    have hnonempty : rest ≠ [] := by
      rintro rfl
      rw [List.append_nil] at hsplit
      obtain ⟨c, hc⟩ : ∃ c, d.toList.getLast? = some c := by
        cases hl : d.toList.getLast? with
        | none =>
          rw [List.getLast?_eq_none_iff] at hl
          rw [hl] at hd
          cases hd
        | some c => exact ⟨c, rfl⟩
      have hslash := hsl c (hsplit ▸ List.mem_of_getLast? hc)
      exact hends ((endsWith_slash_iff d).mpr (hslash ▸ hc))
    have hhead : (rest ++ '/' :: cmd.toList).head? ≠ some '/' := by
      obtain ⟨r, rs, rfl⟩ := List.exists_cons_of_ne_nil hnonempty
      simpa using hrest
    have hlist :
        d ++ "/" ++ cmd = String.ofList sl ++ String.ofList (rest ++ '/' :: cmd.toList) := by
      rw [← String.toList_inj]
      simp [hsplit]
    rw [hlist, Path.ofString_slashes_append (by simpa using hsl)
      (Path.takeWhile_slash_eq_nil (by simpa using hhead)), Path.components_append_slash,
      String.ofList_toList]

theorem firstExecutable_isSome_iff {h : World} {ps : List Path} {r : Option Path}
    (hr : h.firstExecutable ps = .ok r) : r.isSome ↔ ∃ q ∈ ps, h.isExecutable q = .ok true := by
  induction ps generalizing r with
  | nil =>
    cases hr
    simp
  | cons q ps ih =>
    simp only [World.firstExecutable] at hr
    obtain ⟨b, hb, hr⟩ := except_bind_eq_ok.mp hr
    cases b with
    | true =>
      cases hr
      exact ⟨fun _ => ⟨q, List.mem_cons_self, hb⟩, fun _ => rfl⟩
    | false =>
      rw [ih hr]
      constructor
      · rintro ⟨q', hq', hexec⟩
        exact ⟨q', List.mem_cons_of_mem _ hq', hexec⟩
      · rintro ⟨q', hq', hexec⟩
        rcases List.mem_cons.mp hq' with rfl | hq'
        · rw [hb] at hexec
          cases hexec
        · exact ⟨q', hq', hexec⟩

theorem which_isSome_iff {h : World} {cmd : String} {r : Option String}
    (hr : h.which cmd = .ok r) :
    r.isSome ↔ ∃ q ∈ h.whichPaths cmd, h.isExecutable q = .ok true := by
  obtain ⟨found, hfound, hr⟩ := except_bind_eq_ok.mp hr
  cases hr
  rw [Option.isSome_map]
  exact firstExecutable_isSome_iff hfound

end BuildGate.Host

namespace BuildGate

open Host (World)

theorem stepChecks_eq_ok {h : World} {p : Pipeline} {s : Step} {cs : List (DoctorItem × Bool)}
    (hs : stepChecks h p s = .ok cs) :
    ∃ cmd dir, cs.map Prod.fst = [cmd, dir] ∧ cmd.name = s.name ++ ": command" ∧
      dir.name = s.name ++ ": cwd" ∧
      (cmd.status = "OK" ↔
        ∃ q ∈ h.whichPaths (doctorCommand p s), h.isExecutable q = .ok true) := by
  unfold stepChecks at hs
  obtain ⟨found, hfound, hs⟩ := except_bind_eq_ok.mp hs
  obtain ⟨isDir, -, hs⟩ := except_bind_eq_ok.mp hs
  cases hs
  refine ⟨_, _, rfl, by cases found <;> rfl, by cases isDir <;> rfl, ?_⟩
  rw [← Host.which_isSome_iff hfound]
  cases found <;> simp

namespace DoctorState

theorem add_ok_eq_true (st : DoctorState) (c : DoctorItem × Bool) :
    (st.add c).ok = true ↔ st.ok = true ∧ c.2 = true := by
  rcases c with ⟨i, _ | _⟩ <;> simp [add]

theorem foldl_add (cs : List (DoctorItem × Bool)) (st : DoctorState) :
    (cs.foldl add st).items = st.items ++ cs.map Prod.fst ∧
      ((cs.foldl add st).ok = true ↔ st.ok = true ∧ ∀ c ∈ cs, c.2 = true) := by
  induction cs generalizing st with
  | nil => simp
  | cons c cs ih =>
    rw [List.foldl_cons, (ih (st.add c)).1, (ih (st.add c)).2, add_ok_eq_true]
    simp [add, and_assoc]

end DoctorState

/-- Checking the steps in turn records the checks of all the steps, in order. -/
theorem foldlM_stepChecks (h : World) (p : Pipeline) (steps : List Step) (st : DoctorState) :
    steps.foldlM (fun st s => do return (← stepChecks h p s).foldl DoctorState.add st) st =
      (fun css => css.flatten.foldl DoctorState.add st) <$> steps.mapM (stepChecks h p) := by
  have hf : ∀ (st : DoctorState) (s : Step),
      (do return (← stepChecks h p s).foldl DoctorState.add st) =
        (fun cs => cs.foldl DoctorState.add st) <$> stepChecks h p s :=
    fun st s => by cases stepChecks h p s <;> rfl
  rw [foldlM_eq_map_mapM hf]
  simp only [List.foldl_flatten]

/-- The doctor's report: the root check, the note when there are no steps, then the checks of
every step in order; it is `ok` exactly when every check passed. -/
theorem doctorReport_eq_ok {h : World} {p : Pipeline} {R : DoctorReport}
    (hR : doctorReport h p = .ok R) :
    ∃ root css, rootCheck h p = .ok root ∧
      List.Forall₂ (fun s cs => stepChecks h p s = .ok cs) p.steps css ∧
      R.items = root.1 :: ((if p.steps = [] then [noStepsItem] else []) ++
        css.flatten.map Prod.fst) ∧
      (R.ok = true ↔ root.2 = true ∧ ∀ c ∈ css.flatten, c.2 = true) := by
  unfold doctorReport at hR
  obtain ⟨root, hroot, hR⟩ := except_bind_eq_ok.mp hR
  dsimp only at hR
  rw [foldlM_stepChecks] at hR
  obtain ⟨st, hst, hR⟩ := except_bind_eq_ok.mp hR
  obtain ⟨css, hcss, rfl⟩ := except_map_eq_ok.mp hst
  cases hR
  -- the note leaves `ok` as it is: only checks clear it
  have hnote : ∀ st : DoctorState, (if p.steps.isEmpty then st.note noStepsItem else st).ok = st.ok ∧
      (if p.steps.isEmpty then st.note noStepsItem else st).items =
        st.items ++ (if p.steps = [] then [noStepsItem] else []) := fun st => by
    by_cases hs : p.steps = [] <;> simp [hs, DoctorState.note]
  obtain ⟨hitems, hok⟩ := DoctorState.foldl_add css.flatten
    (if p.steps.isEmpty then (({} : DoctorState).add root).note noStepsItem else ({} : DoctorState).add root)
  refine ⟨root, css, hroot, mapM_eq_ok_forall₂ hcss, ?_, ?_⟩
  · rw [hitems, (hnote _).2]
    simp [DoctorState.add]
  · rw [hok, (hnote _).1, DoctorState.add_ok_eq_true]
    simp

def launchPaths (cwd : Path) (searchPath cmd : String) : List Path :=
  (Host.candidates cmd searchPath).map fun c => cwd.join (Path.ofString c)

def Invocation.FindsExecutable (h : World) (inv : Invocation) : Prop :=
  ∃ q ∈ launchPaths inv.cwd ((inv.env.get? "PATH").getD "/bin:/usr/bin") inv.command,
    h.isExecutable q = .ok true

/-- The doctor and a run of the step `s` look for its command in the same places: the run's
`PATH` is the doctor's own, every directory on it is absolute, and the step's directory is an
absolute path in normal form. -/
structure Step.SameSearch (h : World) (p : Pipeline) (opts : RunOptions) (s : Step) : Prop where
  path_eq : (stepInvocation p opts s).env.get? "PATH" = h.env.get? "PATH"
  dirs_abs : ∀ d ∈ Host.searchDirs ((h.env.get? "PATH").getD ""), d.toList.head? = some '/'
  cwd_abs : (p.stepCwd s).isAbs = true
  cwd_normal : (p.stepCwd s).Normal

theorem whichPaths_eq_launchPaths {h : World} {p : Pipeline} {opts : RunOptions} {s : Step}
    (hsame : s.SameSearch h p opts) :
    h.whichPaths (doctorCommand p s) = launchPaths (p.stepCwd s)
      (((stepInvocation p opts s).env.get? "PATH").getD "/bin:/usr/bin") s.command := by
  unfold doctorCommand launchPaths Host.candidates
  by_cases hslash : '/' ∈ s.command.toList
  · have hcontains : s.command.toList.contains '/' = true := by simpa using hslash
    by_cases hstart : s.command.toList.head? = some '/'
    · -- an absolute command is taken as it is
      have hstarts : s.command.startsWith "/" = true := (Host.startsWith_slash_iff _).mpr hstart
      simp only [hcontains, hstarts, Bool.not_true, Bool.and_false, Bool.false_eq_true, if_false,
        if_true, Host.World.whichPaths, List.map_cons, List.map_nil]
      rw [Path.join, if_pos (Path.isAbs_ofString_of_head hstart)]
    · -- a relative one from the step's directory, whose text reads back
      have hstarts : s.command.startsWith "/" = false := by
        rw [Bool.eq_false_iff, ne_eq, Host.startsWith_slash_iff]
        exact hstart
      have hnormal := hsame.cwd_normal.join (Path.normal_ofString s.command)
      have hmem : ((p.stepCwd s).joinText s.command).toText.toList.contains '/' = true := by
        rw [Path.joinText]
        simpa using Path.mem_toText_of_isAbs hnormal (Path.isAbs_join hsame.cwd_abs _)
      simp only [hcontains, hstarts, Bool.not_false, Bool.and_true, if_true, Host.World.whichPaths,
        hmem, List.map_cons, List.map_nil]
      rw [Path.joinText, Path.ofString_toText hnormal]
  · -- a bare name is looked for in the directories of the one `PATH`, all absolute
    have hcontains : s.command.toList.contains '/' = false := by simpa using hslash
    obtain ⟨path, hpath⟩ : ∃ path, h.env.get? "PATH" = some path := by
      cases hp : h.env.get? "PATH" with
      | none =>
        have hempty := hsame.dirs_abs "" (by rw [hp]; exact List.mem_singleton_self _)
        cases hempty
      | some path => exact ⟨path, rfl⟩
    have hdirs := hsame.dirs_abs
    rw [hpath] at hdirs
    simp only [hcontains, Bool.false_and, Bool.false_eq_true, if_false, Host.World.whichPaths,
      hsame.path_eq, hpath, Option.getD_some]
    rw [List.filter_eq_self.mpr fun d hd => ?_, List.map_map]
    · refine List.map_congr_left fun d hd => ?_
      have habs : ((Path.ofString d).joinText s.command).isAbs = true :=
        Path.isAbs_join (Path.isAbs_ofString_of_head (hdirs d hd)) _
      simp only [Function.comp_apply]
      rw [Host.ofString_joinCommand (hdirs d hd) hslash, Path.join, if_pos habs]
    · have hhead := hdirs d hd
      cases hd' : d.toList with
      | nil => rw [hd'] at hhead; cases hhead
      | cons c cs =>
        have hne : d ≠ "" := fun h0 => by rw [h0] at hd'; cases hd'
        simpa [String.isEmpty_iff] using hne

def DoctorReport.ChecksCommands (R : DoctorReport) (h : World) (p : Pipeline)
    (opts : RunOptions) : Prop :=
  ∃ pre checks, R.items = pre ++ checks.flatten ∧ List.Forall₂ (fun s c => ∃ cmd dir,
    c = [cmd, dir] ∧ cmd.name = s.name ++ ": command" ∧ dir.name = s.name ++ ": cwd" ∧
    (cmd.status = "OK" ↔ ∃ q ∈ h.whichPaths (doctorCommand p s), h.isExecutable q = .ok true) ∧
    (s.SameSearch h p opts → (cmd.status = "OK" ↔ (stepInvocation p opts s).FindsExecutable h)))
    p.steps checks

/-- Every report the doctor gives checks the commands of the steps as `ChecksCommands` says,
for the options of any run. -/
theorem doctorReport_checks_commands {h : World} {p : Pipeline} {R : DoctorReport}
    (opts : RunOptions) (hR : doctorReport h p = .ok R) : R.ChecksCommands h p opts := by
  obtain ⟨root, css, -, hchecks, hitems, -⟩ := doctorReport_eq_ok hR
  refine ⟨_, css.map (·.map Prod.fst), by rw [hitems, ← List.map_flatten, List.cons_append],
    List.forall₂_map_right_iff.mpr (hchecks.imp fun s cs hc => ?_)⟩
  obtain ⟨cmd, dir, hcs, hname, hdir, hok⟩ := stepChecks_eq_ok hc
  refine ⟨cmd, dir, hcs, hname, hdir, hok, fun hsame => ?_⟩
  rw [hok, whichPaths_eq_launchPaths hsame]
  rfl

def trueOnPathHost : World :=
  { fs := ⟨[(["usr"], .dir), (["usr", "bin"], .dir),
      (["usr", "bin", "true"], .file (Host.programBytes "true") 0o755), (["repo"], .dir)], ["repo"]⟩
    env := ⟨[("PATH", "/usr/bin")]⟩ }

theorem doctorReport_checks_commands_of_true :
    ∃ R, doctorReport trueOnPathHost
        ⟨"ci", Path.ofString "/repo", [{ name := "a", command := "true" }], Env.empty⟩ = .ok R ∧
      R.ChecksCommands trueOnPathHost ⟨"ci", Path.ofString "/repo",
        [{ name := "a", command := "true" }], Env.empty⟩ { base := trueOnPathHost.env } := by
  obtain ⟨R, hR⟩ := exists_eq_ok_of_isOk (by decide +kernel :
    (doctorReport trueOnPathHost ⟨"ci", Path.ofString "/repo", [{ name := "a", command := "true" }],
      Env.empty⟩).isOk = true)
  exact ⟨R, hR, doctorReport_checks_commands _ hR⟩

/-- A step that sets its own `PATH` to a directory without its command passes the doctor, which
looks in its own `PATH`, and yet its run cannot launch it: exit code 127, with a launch error. -/
theorem doctor_passes_command_run_cannot_launch :
    ∃ R o w, doctorReport trueOnPathHost ⟨"ci", Path.ofString "/repo",
        [{ name := "a", command := "true", env := ⟨[("PATH", "/nonexistent")]⟩ }], Env.empty⟩ =
          .ok R ∧ (∃ i ∈ R.items, i.name = "a: command" ∧ i.status = "OK") ∧
      trueOnPathHost.execute (stepInvocation ⟨"ci", Path.ofString "/repo",
        [{ name := "a", command := "true", env := ⟨[("PATH", "/nonexistent")]⟩ }], Env.empty⟩
        { base := trueOnPathHost.env }
        { name := "a", command := "true", env := ⟨[("PATH", "/nonexistent")]⟩ }) = .ok (o, w) ∧
      o.returncode = 127 ∧ o.launchError.isSome = true := by
  obtain ⟨R, hR, hok⟩ := @exists_eq_ok_of_match _ _ (doctorReport trueOnPathHost
    ⟨"ci", Path.ofString "/repo",
      [{ name := "a", command := "true", env := ⟨[("PATH", "/nonexistent")]⟩ }], Env.empty⟩)
    (fun R => R.items.any fun i => i.name == "a: command" && i.status == "OK") (by decide +kernel)
  obtain ⟨⟨o, w⟩, hrun, hfail⟩ := @exists_eq_ok_of_match _ _ (trueOnPathHost.execute
    (stepInvocation ⟨"ci", Path.ofString "/repo",
        [{ name := "a", command := "true", env := ⟨[("PATH", "/nonexistent")]⟩ }], Env.empty⟩
      { base := trueOnPathHost.env }
      { name := "a", command := "true", env := ⟨[("PATH", "/nonexistent")]⟩ }))
    (fun r => r.1.returncode == 127 && r.1.launchError.isSome) (by decide +kernel)
  simp only [List.any_eq_true, Bool.and_eq_true, beq_iff_eq] at hok hfail
  exact ⟨R, o, w, hR, hok, hrun, hfail⟩

end BuildGate
