import BuildGate.Proofs.CliSteps
import BuildGate.Proofs.Markup
import BuildGate.Proofs.Run
import BuildGate.Proofs.ReportFile

namespace BuildGate.Cli

open Host (World)
open Console

theorem runIdOf_given {id : String} (h : id ≠ "") (s : Session) :
    (runIdOf (some id)).run.run s = (.ok id, s) := by
  have : id.isEmpty = false := by simpa using h
  simp [runIdOf, this]
  rfl

theorem runIdOf_frame {given : Option String} {s s' : Session} {r : Except Stop String}
    (h : (runIdOf given).run.run s = (r, s')) : s' = { s with draws := s'.draws } := by
  have hnew : ∀ {r s'}, newRunId.run.run s = (r, s') → s' = { s with draws := s'.draws } := by
    intro r s' h
    obtain rfl : { s with draws := s.draws.drop 4 } = s' := congrArg Prod.snd h
    rfl
  unfold runIdOf at h
  split at h
  · split at h
    · exact hnew h
    · cases h
      rfl
  · exact hnew h

theorem printMarkup_configError (w : Nat) (msg : String) :
    ∃ text, printMarkup w ("[red]Configuration error:[/red] " ++ escapeMarkup msg) = .ok text := by
  obtain ⟨bs, hbs, hesc⟩ := escapeMarkup_toList msg
  have hred := tagAt_append (by decide : tagAt "[red]".toList = some ("[red]".toList, []))
  have hclose := tagAt_append (by decide : tagAt "[/red]".toList = some ("[/red]".toList, []))
  have hplain : ∀ c ∈ "Configuration error:".toList, c ≠ '\\' ∧ c ≠ '[' := by simp
  have hlist : ("[red]Configuration error:[/red] " ++ escapeMarkup msg).toList =
      "[red]".toList ++ ("Configuration error:".toList ++ ("[/red]".toList ++
        (' ' :: (escapeFrom (msg.length + 1) msg.toList ++ bs)))) := by
    simp [hesc]
  obtain ⟨g, hfuel⟩ : ∃ g, ("[red]Configuration error:[/red] " ++ escapeMarkup msg).length + 1 =
      ((g + 1) + 1 + "Configuration error:".toList.length) + 1 := by
    refine ⟨(escapeMarkup msg).length + 10, ?_⟩
    have hline : "[red]Configuration error:[/red] ".length = 32 := by decide
    have hword : "Configuration error:".toList.length = 20 := by decide
    rw [String.length_append, hline, hword]
    omega
  have hpieces := piecesFrom_escapeFrom_isText (Nat.lt_succ_self msg.length) hbs
  have hrender : ∃ out, renderPieces [] (pieces ("[red]Configuration error:[/red] " ++
      escapeMarkup msg)) = .ok out := by
    unfold pieces
    rw [hlist, hfuel, piecesFrom_tag (hred _), piecesFrom_plain_append hplain,
      piecesFrom_tag (hclose _),
      piecesFrom_cons_of_none (by decide) (tagAt_cons_of_ne (by decide) _)]
    have hword : ([] ++ "Configuration error:".toList).isEmpty = false := by decide
    have hopen : (List.drop 1 "[red]".toList).dropLast = ['r', 'e', 'd'] := by decide
    have hclose' : (List.drop 1 "[/red]".toList).dropLast = ['/', 'r', 'e', 'd'] := by decide
    have key : ∀ (p₀ p₁ p₂ : Nat) (acc cs : List Char), ∃ out, renderPieces []
        (.tag ['r', 'e', 'd'] p₀ :: .text cs :: .tag ['/', 'r', 'e', 'd'] p₁ ::
          piecesFrom p₂ acc g (escapeFrom (msg.length + 1) msg.toList ++ bs)) = .ok out := by
      intro p₀ p₁ p₂ acc cs
      obtain ⟨out, hout⟩ := renderPieces_of_isText [] (hpieces p₂ acc g)
      have hr : Text.isBlank 'r' = false := by decide
      have hd : Text.isBlank 'd' = false := by decide
      simp [renderPieces, eraseOpen, closeTag, hout, hr, hd]
    rw [if_pos (show ([] : List Char).isEmpty = true from rfl), hword,
      if_neg Bool.false_ne_true, hopen, hclose']
    exact key _ _ _ _ _
  obtain ⟨plain, hplain'⟩ := renderMarkup_eq_ok_of_pieces hrender
  exact ⟨_, by rw [printMarkup, hplain']; rfl⟩

theorem run_loadFor_ok {repo : Path} {file : Option Path} {s : Session} {parts : List String}
    {p : Pipeline} (hroot : resolveIn s.host.fs repo = .ok parts)
    (hload : loadPipelineFile s.host.fs (file.getD (defaultPipelineFile repo))
      (some ⟨"/", parts⟩) s.host.env = .ok p) :
    (loadFor repo file).run.run s = (.ok p, s) := by
  unfold loadFor
  rw [run_bind_ok (run_host s)]
  dsimp only
  rw [hroot, run_bind_ok (run_liftFault (.ok parts) s)]
  simp only [hload]
  rfl

theorem run_loadFor_config {repo : Path} {file : Option Path} {s : Session}
    {parts : List String} {e : ConfigError} (hroot : resolveIn s.host.fs repo = .ok parts)
    (hload : loadPipelineFile s.host.fs (file.getD (defaultPipelineFile repo))
      (some ⟨"/", parts⟩) s.host.env = .error (.config e)) :
    ∃ text, printMarkup (consoleWidth s.host.env)
        ("[red]Configuration error:[/red] " ++ escapeMarkup e.message) = .ok text ∧
      (loadFor repo file).run.run s = (.error (.exit 2),
        { s with host := { s.host with stdout := s.host.stdout ++ Host.textBytes text } }) := by
  obtain ⟨text, htext⟩ := printMarkup_configError (consoleWidth s.host.env) e.message
  refine ⟨text, htext, ?_⟩
  unfold loadFor
  rw [run_bind_ok (run_host s)]
  dsimp only
  rw [hroot, run_bind_ok (run_liftFault (.ok parts) s)]
  simp only [hload]
  rw [run_bind_ok (by rw [run_say, htext])]
  rfl

/-- A pipeline read from a file is sound: it was built from the file's document. -/
theorem loadPipelineFile_sound {t : Fs.Tree} {path : Path} {root : Option Path} {base : Env}
    {p : Pipeline} (h : loadPipelineFile t path root base = .ok p) : p.Sound := by
  obtain ⟨data, -, h⟩ := except_bind_eq_ok.mp h
  dsimp only at h
  split at h
  · exact (buildPipeline_sound h).2
  · obtain ⟨root', -, h⟩ := except_bind_eq_ok.mp h
    exact (buildPipeline_sound h).2

theorem openStore_cases {a : RunArgs} {rid : String} {s s' : Session}
    {r : Except Stop (Store × EventLog)} (h : (openStore a rid).run.run s = (r, s')) :
    (∃ g, r = .error (.fault g)) ∨ ∃ log,
      r = .ok (⟨(artifactsRoot a.repo a.artifactsDir).joinText rid⟩, log) ∧
        s' = { s with host := { s.host with fs := s'.host.fs } } := by
  unfold openStore at h
  rw [run_bind_ok (run_host s)] at h
  rcases run_liftFault_bind_cases h with ⟨g, -, rfl, -⟩ | ⟨t₁, -, h⟩
  · exact .inl ⟨g, rfl⟩
  rw [run_bind_ok (run_setTree t₁ s)] at h
  dsimp only at h
  rw [run_bind_ok (run_host _)] at h
  rcases run_liftFault_bind_cases h with ⟨g, -, rfl, -⟩ | ⟨t₂, -, h⟩
  · exact .inl ⟨g, rfl⟩
  rw [run_bind_ok (run_setTree t₂ _), run_bind_ok (run_host _)] at h
  dsimp only at h
  rcases run_liftFault_bind_cases h with ⟨g, -, rfl, -⟩ | ⟨events, -, h⟩
  · exact .inl ⟨g, rfl⟩
  cases h
  exact .inr ⟨_, rfl, rfl⟩

theorem run_openStore_fault {a : RunArgs} {rid : String} {s : Session} {g : Fault}
    (hg : makeDirsAt s.host.fs (artifactsRoot a.repo a.artifactsDir) = .error g) :
    (openStore a rid).run.run s = (.error (.fault g), s) := by
  unfold openStore
  rw [run_bind_ok (run_host s), hg]
  rfl

theorem openRunStore_cases {a : RunArgs} {rid : String} {s s' : Session}
    {r : Except Stop (Option (Store × EventLog))} (h : (openRunStore a rid).run.run s = (r, s')) :
    (a.noArtifacts = true ∧ r = .ok none ∧ s' = s) ∨ (a.noArtifacts = false ∧
      ((∃ g, r = .error (.fault g)) ∨ ∃ log,
        r = .ok (some (⟨(artifactsRoot a.repo a.artifactsDir).joinText rid⟩, log)) ∧
          s' = { s with host := { s.host with fs := s'.host.fs } })) := by
  unfold openRunStore at h
  cases hno : a.noArtifacts with
  | true =>
    rw [hno, if_pos rfl] at h
    cases h
    exact .inl ⟨rfl, rfl, rfl⟩
  | false =>
    rw [hno, if_neg Bool.false_ne_true, ← bind_pure_comp] at h
    refine .inr ⟨rfl, ?_⟩
    rcases run_bind_cases h with ⟨e, he, rfl⟩ | ⟨x, s₁, hx, h⟩
    · rcases openStore_cases he with ⟨g, hg⟩ | ⟨log, hlog, -⟩
      · cases hg
        exact .inl ⟨g, rfl⟩
      · cases hlog
    · cases h
      rcases openStore_cases hx with ⟨g, hg⟩ | ⟨log, hlog, hs⟩
      · cases hg
      · cases hlog
        exact .inr ⟨log, rfl, hs⟩

theorem showReport_rows {p : Pipeline} {R : Report} {s s' : Session}
    (h : (showReport p R).run.run s = (.ok (), s')) : ∃ rows, runRows p R = .ok rows := by
  unfold showReport at h
  rcases run_liftFault_bind_cases h with ⟨g, -, h, -⟩ | ⟨t, ht, -⟩
  · cases h
  · obtain ⟨rows, hrows, -⟩ := except_bind_eq_ok.mp ht
    exact ⟨rows, hrows⟩

theorem toString_int_chars (i : Int) : ∀ c ∈ (toString i).toList, c = '-' ∨ c.isDigit = true := by
  intro c hc
  have hnat : ∀ n : Nat, ∀ c ∈ (toString n).toList, c.isDigit = true := fun n c hc => by
    rw [Nat.toString_eq_ofList_toDigits, String.toList_ofList] at hc
    exact Nat.isDigit_of_mem_toDigits (by decide) (by decide) hc
  cases i with
  | ofNat n => exact .inr (hnat n c hc)
  | negSucc n =>
    have : toString (Int.negSucc n) = "-" ++ toString (n + 1) := rfl
    rw [this, String.toList_append] at hc
    rcases List.mem_append.mp hc with hc | hc
    · simp at hc
      exact .inl hc
    · exact .inr (hnat _ c hc)

theorem exitText_plain (code : Int) :
    ∀ c ∈ (" (exit " ++ toString code ++ ")").toList, c ≠ '\\' ∧ c ≠ '[' ∧ c ≠ ':' := by
  intro c hc
  simp only [String.toList_append, List.mem_append] at hc
  rcases hc with (hc | hc) | hc
  · revert c hc
    simp
  · rcases toString_int_chars code c hc with rfl | hd
    · decide
    · refine ⟨?_, ?_, ?_⟩ <;> rintro rfl <;> cases hd
  · revert c hc
    simp

theorem plain_of_nameChars {name : String} (h : ∀ c ∈ name.toList, isNameChar c = true) :
    ∀ c ∈ name.toList, c ≠ '\\' ∧ c ≠ '[' ∧ c ≠ ':' := by
  intro c hc
  have h := h c hc
  refine ⟨?_, ?_, ?_⟩ <;> rintro rfl <;> cases h

theorem pieces_verdict {name : String} (hname : ∀ c ∈ name.toList, c ≠ '\\' ∧ c ≠ '[')
    {tail : String} (htail : ∀ c ∈ tail.toList, c ≠ '\\' ∧ c ≠ '[') (htail' : tail ≠ "") :
    ∃ p₀ p₁ p₂ p₃, pieces ("[red]FAIL[/red] first failing step: [bold]" ++ name ++ "[/bold]" ++
      tail) = .tag ['r', 'e', 'd'] p₀ :: .text ['F', 'A', 'I', 'L'] :: .tag ['/', 'r', 'e', 'd'] p₁ ::
        .text [' ', 'f', 'i', 'r', 's', 't', ' ', 'f', 'a', 'i', 'l', 'i', 'n', 'g', ' ', 's', 't',
          'e', 'p', ':', ' '] :: .tag ['b', 'o', 'l', 'd'] p₂ ::
          ((if name.toList.isEmpty then [] else [.text name.toList]) ++
            .tag ['/', 'b', 'o', 'l', 'd'] p₃ :: [.text tail.toList]) := by
  have hred := tagAt_append (by decide :
    tagAt ['[', 'r', 'e', 'd', ']'] = some (['[', 'r', 'e', 'd', ']'], []))
  have hunred := tagAt_append (by decide :
    tagAt ['[', '/', 'r', 'e', 'd', ']'] = some (['[', '/', 'r', 'e', 'd', ']'], []))
  have hbold := tagAt_append (by decide :
    tagAt ['[', 'b', 'o', 'l', 'd', ']'] = some (['[', 'b', 'o', 'l', 'd', ']'], []))
  have hunbold := tagAt_append (by decide :
    tagAt ['[', '/', 'b', 'o', 'l', 'd', ']'] = some (['[', '/', 'b', 'o', 'l', 'd', ']'], []))
  have hlist : ("[red]FAIL[/red] first failing step: [bold]" ++ name ++ "[/bold]" ++ tail).toList =
      ['[', 'r', 'e', 'd', ']'] ++ (['F', 'A', 'I', 'L'] ++ (['[', '/', 'r', 'e', 'd', ']'] ++
        ([' ', 'f', 'i', 'r', 's', 't', ' ', 'f', 'a', 'i', 'l', 'i', 'n', 'g', ' ', 's', 't', 'e',
          'p', ':', ' '] ++ (['[', 'b', 'o', 'l', 'd', ']'] ++ (name.toList ++
            (['[', '/', 'b', 'o', 'l', 'd', ']'] ++ (tail.toList ++ []))))))) := by
    simp
  obtain ⟨g, hfuel⟩ : ∃ g, ("[red]FAIL[/red] first failing step: [bold]" ++ name ++ "[/bold]" ++
      tail).length + 1 = (((((((((g + 1) + tail.toList.length) + 1) + name.toList.length) + 1) +
        [' ', 'f', 'i', 'r', 's', 't', ' ', 'f', 'a', 'i', 'l', 'i', 'n', 'g', ' ', 's', 't', 'e',
          'p', ':', ' '].length) + 1) + ['F', 'A', 'I', 'L'].length) + 1) := by
    refine ⟨20, ?_⟩
    have h1 : "[red]FAIL[/red] first failing step: [bold]".length = 42 := by decide
    have h2 : "[/bold]".length = 7 := by decide
    simp only [String.length_append, String.length_toList, h1, h2, List.length_cons,
      List.length_nil]
    omega
  unfold pieces
  rw [hlist, hfuel, piecesFrom_tag (hred _), piecesFrom_plain_append (by simp),
    piecesFrom_tag (hunred _), piecesFrom_plain_append (by simp), piecesFrom_tag (hbold _),
    piecesFrom_plain_append hname, piecesFrom_tag (hunbold _), piecesFrom_plain_append htail,
    piecesFrom_nil_succ]
  have hne : tail.toList.isEmpty = false := by simpa using htail'
  simp only [List.isEmpty_nil, if_true, List.nil_append, hne, Bool.false_eq_true, if_false]
  exact ⟨_, _, _, _, rfl⟩

theorem renderPieces_verdict {name tail : List Char}
    (hname : ∀ c ∈ name, c ≠ '\\' ∧ c ≠ '[' ∧ c ≠ ':') (htail : ∀ c ∈ tail, c ≠ '\\' ∧ c ≠ '[' ∧ c ≠ ':')
    (p₀ p₁ p₂ p₃ : Nat) :
    renderPieces [] (.tag ['r', 'e', 'd'] p₀ :: .text ['F', 'A', 'I', 'L'] ::
      .tag ['/', 'r', 'e', 'd'] p₁ :: .text [' ', 'f', 'i', 'r', 's', 't', ' ', 'f', 'a', 'i', 'l',
        'i', 'n', 'g', ' ', 's', 't', 'e', 'p', ':', ' '] :: .tag ['b', 'o', 'l', 'd'] p₂ ::
        ((if name.isEmpty then [] else [.text name]) ++ .tag ['/', 'b', 'o', 'l', 'd'] p₃ ::
          [.text tail])) =
      .ok (['F', 'A', 'I', 'L'] ++ [' ', 'f', 'i', 'r', 's', 't', ' ', 'f', 'a', 'i', 'l', 'i', 'n',
        'g', ' ', 's', 't', 'e', 'p', ':', ' '] ++ name ++ tail) := by
  have hF : replaceEmoji (unescapeBrackets ['F', 'A', 'I', 'L']) = ['F', 'A', 'I', 'L'] :=
    renderText_of_plain (by simp)
  have hM : replaceEmoji (unescapeBrackets [' ', 'f', 'i', 'r', 's', 't', ' ', 'f', 'a', 'i', 'l',
      'i', 'n', 'g', ' ', 's', 't', 'e', 'p', ':', ' ']) = [' ', 'f', 'i', 'r', 's', 't', ' ', 'f',
        'a', 'i', 'l', 'i', 'n', 'g', ' ', 's', 't', 'e', 'p', ':', ' '] := by decide +kernel
  have hr : Text.isBlank 'r' = false := by decide
  have hd : Text.isBlank 'd' = false := by decide
  have hb : Text.isBlank 'b' = false := by decide
  by_cases hn : name.isEmpty = true
  · rw [List.isEmpty_iff.mp hn]
    simp [renderPieces, eraseOpen, closeTag, hF, hM, renderText_of_plain htail, hr, hd, hb]
  · simp [renderPieces, eraseOpen, closeTag, hF, hM, renderText_of_plain hname,
      renderText_of_plain htail, hr, hd, hb, hn]

theorem renderMarkup_verdict {name : String} (hname : ∀ c ∈ name.toList, isNameChar c = true)
    (code : Int) :
    renderMarkup ("[red]FAIL[/red] first failing step: [bold]" ++ name ++ "[/bold] (exit " ++
      toString code ++ ")") =
        .ok ("FAIL first failing step: " ++ name ++ " (exit " ++ toString code ++ ")") := by
  have hplain := plain_of_nameChars hname
  have htail := exitText_plain code
  have hassoc : "[red]FAIL[/red] first failing step: [bold]" ++ name ++ "[/bold] (exit " ++
      toString code ++ ")" = "[red]FAIL[/red] first failing step: [bold]" ++ name ++ "[/bold]" ++
        (" (exit " ++ toString code ++ ")") := by
    simp only [String.append_assoc]
    rfl
  obtain ⟨p₀, p₁, p₂, p₃, hp⟩ := pieces_verdict
    (fun c hc => ⟨(hplain c hc).1, (hplain c hc).2.1⟩) (fun c hc => ⟨(htail c hc).1, (htail c hc).2.1⟩)
    (by simp)
  unfold renderMarkup
  rw [hassoc, if_neg (by simp), hp, renderPieces_verdict hplain htail]
  rw [Except.map, Except.ok.injEq, ← String.toList_inj]
  simp

theorem showReport_ends_with_failure {p : Pipeline} {R : Report} {f : StepResult}
    {s s' : Session} (h : (showReport p R).run.run s = (.ok (), s'))
    (hf : R.failedResult = some f) (hname : ∀ c ∈ f.name.toList, isNameChar c = true) :
    ∃ before, s'.host.stdout = before ++ Host.textBytes (printPlain (consoleWidth s.host.env)
      ("FAIL first failing step: " ++ f.name ++ " (exit " ++ toString f.exitCode ++ ")")) ++
      (if failureOutput f = [] then [] else Host.textBytes (writeRaw (consoleWidth s.host.env)
        (dropEndBreaks (Text.decodeLossy (failureOutput f))))) := by
  unfold BuildGate.Cli.showReport at h
  obtain ⟨t, s₁, ht, h⟩ := run_bind_eq_ok h
  obtain ⟨_, s₂, htable, h⟩ := run_bind_eq_ok h
  simp only [hf] at h
  obtain ⟨_, s₃, hsay, h⟩ := run_bind_eq_ok h
  have henv : s₂.host.env = s.host.env := by
    rw [((Printing.sayTable t).only_prints.host_eq htable).2,
      ((Printing.liftFault _).only_prints.host_eq ht).2]
  have hprint : printMarkup (consoleWidth s₂.host.env) ("[red]FAIL[/red] first failing step: [bold]" ++
      f.name ++ "[/bold] (exit " ++ toString f.exitCode ++ ")") = .ok (printPlain
        (consoleWidth s₂.host.env) ("FAIL first failing step: " ++ f.name ++ " (exit " ++
          toString f.exitCode ++ ")")) := by
    rw [printMarkup, renderMarkup_verdict hname]
    rfl
  rw [run_say, hprint] at hsay
  simp only at hsay
  obtain ⟨-, rfl⟩ := hsay
  by_cases hout : failureOutput f = []
  · rw [if_neg (by simp [hout])] at h
    cases h
    exact ⟨s₂.host.stdout, by simp [hout, henv]⟩
  · rw [if_pos (by simpa using hout), run_sayRaw] at h
    cases h
    exact ⟨s₂.host.stdout, by simp [hout, henv]⟩

theorem keepReport_cases {rid : String} {p : Pipeline} {R : Report}
    {opened : Option (Store × EventLog)} {s s' : Session} {r : Except Stop Unit}
    (h : (keepReport rid p R opened).run.run s = (r, s')) :
    (∃ g, r = .error (.fault g)) ∨ r = .ok () ∧ (∃ after, s'.host.stdout = s.host.stdout ++ after) ∧
      (opened = none → s' = s) ∧ ∀ store log, opened = some (store, log) →
        ∃ t rec, store.writeReport s.host.fs rid p R = .ok (t, rec) ∧ s'.host.fs = t := by
  cases opened with
  | none =>
    cases h
    exact .inr ⟨rfl, ⟨[], by simp⟩, fun _ => rfl, by simp⟩
  | some opened =>
    obtain ⟨store, log⟩ := opened
    simp only [keepReport] at h
    rw [run_bind_ok (run_host s)] at h
    rcases run_liftFault_bind_cases h with ⟨g, -, rfl, -⟩ | ⟨⟨t, rec⟩, hw, h⟩
    · exact .inl ⟨g, rfl⟩
    dsimp only at h
    rw [run_bind_ok (run_setTree t s), run_say] at h
    split at h
    · cases h
      refine .inr ⟨rfl, ⟨_, rfl⟩, by simp, ?_⟩
      intro store' log' hopened
      cases hopened
      exact ⟨t, rec, hw, rfl⟩
    · cases h
      exact .inl ⟨_, rfl⟩

theorem run_exitUnless (ok : Bool) (s : Session) :
    (if !ok then exitWith 1 else pure () : CliM Unit).run.run s =
      (if ok then .ok () else .error (.exit 1), s) := by
  cases ok <;> rfl

theorem find?_name_getLast {l : List StepResult} {r : StepResult}
    (hnd : (l.map (·.name)).Nodup) (hr : l.getLast? = some r) :
    l.find? (·.name == r.name) = some r := by
  obtain ⟨ys, rfl⟩ := List.getLast?_eq_some_iff.mp hr
  have hnot : r.name ∉ ys.map (·.name) := by
    rw [List.map_append, List.map_singleton, List.nodup_append] at hnd
    exact fun hmem => hnd.2.2 _ hmem _ (List.mem_singleton_self _) rfl
  have hnone : ys.find? (·.name == r.name) = none := by
    refine List.find?_eq_none.mpr fun x hx hname => hnot ?_
    exact List.mem_map.mpr ⟨x, hx, by simpa using hname⟩
  simp [List.find?_append, hnone]

theorem name_mem_of_stops {R : Report} {p : Pipeline} {opts : RunOptions}
    {calls : List (Invocation × Outcome)} (hR : R.StopsAtFirstFailure p opts calls) {r : StepResult}
    (hr : r ∈ R.results) : r.name ∈ p.steps.map (·.name) := by
  have hmem : r.name ∈ R.results.map (·.name) := List.mem_map_of_mem hr
  rw [hR.settled.names, List.map_take] at hmem
  exact List.mem_of_mem_take hmem

theorem failedResult_eq_getLast {R : Report} {p : Pipeline} {opts : RunOptions}
    {calls : List (Invocation × Outcome)} (hR : R.StopsAtFirstFailure p opts calls)
    (hnd : (p.steps.map (·.name)).Nodup) (hfail : R.ok = false) :
    ∃ f, R.failedResult = some f ∧ R.results.getLast? = some f := by
  obtain ⟨r, hr, -, hname⟩ := hR.last_failed hfail
  have hnd' : (R.results.map (·.name)).Nodup := by
    rw [hR.settled.names, List.map_take]
    exact hnd.sublist (List.take_sublist _ _)
  refine ⟨r, ?_, hr⟩
  rw [Report.failedResult, hname, Option.bind_some, Report.resultFor]
  exact find?_name_getLast hnd' hr

theorem map_eq_map_of_forall₂ {α β γ : Type} {R : α → β → Prop} {xs : List α} {ys : List β}
    {f : α → γ} {g : β → γ} (h : List.Forall₂ R xs ys) (hfg : ∀ x y, R x y → f x = g y) :
    xs.map f = ys.map g := by
  have heq : List.Forall₂ (· = ·) (xs.map f) (ys.map g) :=
    List.forall₂_map_left_iff.mpr (List.forall₂_map_right_iff.mpr (h.imp hfg))
  rwa [List.forall₂_eq_eq_eq] at heq

theorem runRows_steps {p : Pipeline} {R : Report} {rows : List RunRow}
    (hnames : R.results.map (·.name) = (p.steps.take R.results.length).map (·.name))
    (h : runRows p R = .ok rows) :
    rows.map (·.step) = p.steps.map (·.name) ∧
      rows.map (·.state) = R.results.map stateOf ++
        List.replicate (p.steps.length - R.results.length) .notRun := by
  unfold runRows at h
  obtain ⟨ran, hran, h⟩ := except_bind_eq_ok.mp h
  cases h
  have hrow : List.Forall₂ (fun x row => x.name = row.step ∧ stateOf x = row.state) R.results ran :=
    (mapM_eq_ok_forall₂ hran).imp fun x row hx => by
      obtain ⟨t, -, hx⟩ := except_bind_eq_ok.mp hx
      cases hx
      exact ⟨rfl, rfl⟩
  have hstep := map_eq_map_of_forall₂ hrow fun _ _ h => h.1
  have hstate := map_eq_map_of_forall₂ hrow fun _ _ h => h.2
  constructor
  · have hname : ((·.step) ∘ fun s : Step =>
        ({ step := s.name, state := .notRun, exit := "-", time := "-" } : RunRow)) = (·.name) := rfl
    rw [List.map_append, ← hstep, hnames, List.map_map, hname, ← List.map_append,
      List.take_append_drop]
  · have hstate' : ((·.state) ∘ fun s : Step =>
        ({ step := s.name, state := .notRun, exit := "-", time := "-" } : RunRow)) =
          fun _ => .notRun := rfl
    rw [List.map_append, ← hstate, List.map_map, hstate', List.map_const', List.length_drop]

/-- How a run of `p` under the run id `rid` ends once the pipeline has run to the outcome `out`
and no fault stopped it; `store` is where the run keeps its artifacts, if anywhere. The command
fails exactly when the report does. Its table has one row per step of the pipeline, in order:
the steps that ran in the state of their result, the others not run. A failed report's failing
result is its last one, named with its exit code on the verdict line, which the step's error
output follows. The tree is the one writing
the report into the store leaves, or the run's own when there is no store. -/
structure RunFinished (rid : String) (p : Pipeline) (store : Option Store)
    (out : RunOutput World) (r : Except Stop Unit) (s' : Session) : Prop where
  exit_eq : r = if out.report.ok then .ok () else .error (.exit 1)
  rows : ∃ rows, runRows p out.report = .ok rows ∧ rows.map (·.step) = p.steps.map (·.name) ∧
    rows.map (·.state) = out.report.results.map stateOf ++
      List.replicate (p.steps.length - out.report.results.length) .notRun
  failed : out.report.ok = false → ∃ f, out.report.failedResult = some f ∧
    out.report.results.getLast? = some f ∧ ∃ before after,
      s'.host.stdout = before ++ Host.textBytes (printPlain (consoleWidth out.world.env)
        ("FAIL first failing step: " ++ f.name ++ " (exit " ++ toString f.exitCode ++ ")")) ++
        (if failureOutput f = [] then [] else Host.textBytes (writeRaw (consoleWidth out.world.env)
          (dropEndBreaks (Text.decodeLossy (failureOutput f))))) ++ after
  stored : ∀ st, store = some st → ∃ t rec,
    st.writeReport out.world.fs rid p out.report = .ok (t, rec) ∧ s'.host.fs = t
  kept : store = none → s'.host.fs = out.world.fs

theorem runLoaded_finished {a : RunArgs} {rid : String} {p : Pipeline}
    {opened : Option (Store × EventLog)} {s s' : Session} {r : Except Stop Unit}
    (hp : p.Sound) (h : (runLoaded a rid p opened).run.run s = (r, s'))
    (hr : ∀ g, r ≠ .error (.fault g)) :
    ∃ out, (∃ sink, runPipeline p
        { base := s.host.env, live := !a.quiet, timeout := a.timeout.map .real } World.runner
        sink (logSink s.verbose s.started) s.host = .ok out) ∧
      RunFinished rid p (opened.map Prod.fst) out r s' := by
  unfold runLoaded at h
  rw [run_bind_ok (run_get s)] at h
  dsimp only at h
  rcases run_liftFault_bind_cases h with ⟨g, -, rfl, -⟩ | ⟨out, hrun, h⟩
  · exact absurd rfl (hr g)
  refine ⟨out, ⟨_, hrun⟩, ?_⟩
  rw [run_bind_ok (run_modify _ s)] at h
  obtain ⟨_, s₁, hshow, h⟩ := (Printing.showReport p out.report).stops_on_fault.bind_eq h hr
  -- keeping the report can only end well here: a fault would be the command's
  rcases run_bind_cases h with ⟨e, hkeep, rfl⟩ | ⟨_, s₂, hkeep, h⟩
  · rcases keepReport_cases hkeep with ⟨g, hg⟩ | ⟨hok, -⟩
    · cases hg
      exact absurd rfl (hr g)
    · cases hok
  rcases keepReport_cases hkeep with ⟨g, hg⟩ | ⟨-, ⟨after, hafter⟩, hnone, hsome⟩
  · cases hg
  rw [run_exitUnless] at h
  cases h
  obtain ⟨calls, hstops⟩ := runPipeline_eq_ok_stops _ _ hrun
  have hfs : s₁.host.fs = out.world.fs :=
    ((Printing.showReport p out.report).only_prints.host_eq hshow).1
  obtain ⟨rows, hrows⟩ := showReport_rows hshow
  refine ⟨rfl, ⟨rows, hrows, runRows_steps hstops.settled.names hrows⟩, ?_, ?_, ?_⟩
  · intro hfail
    obtain ⟨f, hf, hlast⟩ := failedResult_eq_getLast hstops hp.names_nodup hfail
    have hname : ∀ c ∈ f.name.toList, isNameChar c = true := by
      obtain ⟨st, hst, heq⟩ := List.mem_map.mp (name_mem_of_stops hstops (List.mem_of_getLast? hlast))
      rw [← heq]
      exact (hp.steps_sound st hst).name_chars
    obtain ⟨before, hbefore⟩ := showReport_ends_with_failure hshow hf hname
    exact ⟨f, hf, hlast, before, after, by rw [hafter, hbefore]⟩
  · intro st hst
    obtain ⟨⟨st', log⟩, hopened, rfl⟩ := Option.map_eq_some_iff.mp hst
    obtain ⟨t, rec, hw, ht⟩ := hsome st' log hopened
    exact ⟨t, rec, by rwa [hfs] at hw, ht⟩
  · intro hst
    rw [hnone (Option.map_eq_none_iff.mp hst), hfs]

theorem run_runCommand_of_valid {a : RunArgs} {s s₁ : Session} {rid : String}
    (hid : (runIdOf a.runId).run.run s = (.ok rid, s₁)) (hvalid : isValidName rid = true) :
    (runCommand a).run.run s = (loadFor a.repo a.file >>= fun p =>
      openRunStore a rid >>= runLoaded a rid p).run.run s₁ := by
  unfold runCommand
  rw [run_bind_ok hid]
  simp only [checkRunId, hvalid, if_true]

/-- How `run` starts from the session `s`: the run id `rid` is drawn, leaving the session `s₁`,
and is valid, and the repository resolves to the components `parts`. -/
structure RunStart (a : RunArgs) (s : Session) (rid : String) (s₁ : Session)
    (parts : List String) : Prop where
  drawn : (runIdOf a.runId).run.run s = (.ok rid, s₁)
  valid : isValidName rid = true
  resolved : resolveIn s.host.fs a.repo = .ok parts

theorem RunStart.host_eq {a : RunArgs} {s s₁ : Session} {rid : String} {parts : List String}
    (h : RunStart a s rid s₁ parts) : s₁.host = s.host := by
  rw [runIdOf_frame h.drawn]

theorem runCommand_bad_id {a : RunArgs} {id : String} (hid : a.runId = some id) (hne : id ≠ "")
    (hbad : isValidName id = false) (s : Session) :
    (runCommand a).run.run s = (.error (.usage (helpOf .run) (.invalid badRunIdMessage)), s) := by
  unfold runCommand
  rw [hid, run_bind_ok (runIdOf_given hne s)]
  simp [checkRunId, hbad, Fault.message]
  rfl

theorem runCommand_config_error {a : RunArgs} {s s₁ : Session} {rid : String}
    {parts : List String} {e : ConfigError} (hstart : RunStart a s rid s₁ parts)
    (hload : loadPipelineFile s.host.fs (a.file.getD (defaultPipelineFile a.repo))
      (some ⟨"/", parts⟩) s.host.env = .error (.config e)) :
    ∃ text, printMarkup (consoleWidth s.host.env)
        ("[red]Configuration error:[/red] " ++ escapeMarkup e.message) = .ok text ∧
      (runCommand a).run.run s = (.error (.exit 2),
        { s₁ with host := { s.host with stdout := s.host.stdout ++ Host.textBytes text } }) := by
  have hhost := hstart.host_eq
  obtain ⟨text, htext, hrun⟩ := run_loadFor_config
    (by rw [hhost]; exact hstart.resolved : resolveIn s₁.host.fs a.repo = .ok parts)
    (by rw [hhost]; exact hload : loadPipelineFile s₁.host.fs
      (a.file.getD (defaultPipelineFile a.repo)) (some ⟨"/", parts⟩) s₁.host.env =
        .error (.config e))
  rw [hhost] at htext hrun
  refine ⟨text, htext, ?_⟩
  rw [run_runCommand_of_valid hstart.drawn hstart.valid, run_bind_error hrun]

theorem runCommand_store_fault {a : RunArgs} {s s₁ : Session} {rid : String}
    {parts : List String} {p : Pipeline} {g : Fault} (hstart : RunStart a s rid s₁ parts)
    (hload : loadPipelineFile s.host.fs (a.file.getD (defaultPipelineFile a.repo))
      (some ⟨"/", parts⟩) s.host.env = .ok p) (hkeep : a.noArtifacts = false)
    (hg : makeDirsAt s.host.fs (artifactsRoot a.repo a.artifactsDir) = .error g) :
    (runCommand a).run.run s = (.error (.fault g), s₁) := by
  have hhost := hstart.host_eq
  have hopen : (openRunStore a rid).run.run s₁ = (.error (.fault g), s₁) := by
    unfold openRunStore
    rw [hkeep, if_neg Bool.false_ne_true, ← bind_pure_comp,
      run_bind_error (run_openStore_fault (by rw [hhost]; exact hg))]
  have hloaded := run_loadFor_ok
    (by rw [hhost]; exact hstart.resolved : resolveIn s₁.host.fs a.repo = .ok parts)
    (by rw [hhost]; exact hload : loadPipelineFile s₁.host.fs
      (a.file.getD (defaultPipelineFile a.repo)) (some ⟨"/", parts⟩) s₁.host.env = .ok p)
  rw [run_runCommand_of_valid hstart.drawn hstart.valid, run_bind_ok hloaded,
    run_bind_error hopen]

theorem runCommand_finished {a : RunArgs} {s s₁ : Session} {rid : String}
    {parts : List String} {p : Pipeline} {r : Except Stop Unit} {s' : Session}
    (hstart : RunStart a s rid s₁ parts)
    (hload : loadPipelineFile s.host.fs (a.file.getD (defaultPipelineFile a.repo))
      (some ⟨"/", parts⟩) s.host.env = .ok p)
    (h : (runCommand a).run.run s = (r, s')) (hr : ∀ g, r ≠ .error (.fault g)) :
    ∃ out, (∃ sink w, w = { s.host with fs := w.fs } ∧ runPipeline p
        { base := s.host.env, live := !a.quiet, timeout := a.timeout.map .real } World.runner
        sink (logSink s.verbose s.started) w = .ok out) ∧
      RunFinished rid p (if a.noArtifacts then none
        else some ⟨(artifactsRoot a.repo a.artifactsDir).joinText rid⟩) out r s' := by
  have hs₁ := runIdOf_frame hstart.drawn
  have hhost := hstart.host_eq
  have hloaded := run_loadFor_ok
    (by rw [hhost]; exact hstart.resolved : resolveIn s₁.host.fs a.repo = .ok parts)
    (by rw [hhost]; exact hload : loadPipelineFile s₁.host.fs
      (a.file.getD (defaultPipelineFile a.repo)) (some ⟨"/", parts⟩) s₁.host.env = .ok p)
  rw [run_runCommand_of_valid hstart.drawn hstart.valid, run_bind_ok hloaded] at h
  rcases run_bind_cases h with ⟨e, hopen, rfl⟩ | ⟨opened, s₂, hopen, h⟩
  · -- opening the store stops only on faults
    rcases openRunStore_cases hopen with ⟨-, hok, -⟩ | ⟨-, ⟨g, hg⟩ | ⟨log, hok, -⟩⟩
    · cases hok
    · cases hg
      exact absurd rfl (hr g)
    · cases hok
  obtain ⟨hs₂, hstore⟩ :
      s₂ = { s with draws := s₂.draws, host := { s.host with fs := s₂.host.fs } } ∧
      opened.map Prod.fst = if a.noArtifacts then none
        else some ⟨(artifactsRoot a.repo a.artifactsDir).joinText rid⟩ := by
    rcases openRunStore_cases hopen with ⟨hno, hok, rfl⟩ | ⟨hno, ⟨g, hg⟩ | ⟨log, hok, hs₂⟩⟩
    · cases hok
      rw [hno, if_pos rfl, hs₁]
      exact ⟨rfl, rfl⟩
    · cases hg
    · cases hok
      rw [hno, if_neg Bool.false_ne_true, hs₂, hs₁]
      exact ⟨rfl, rfl⟩
  obtain ⟨out, ⟨sink, hrun⟩, hfin⟩ :=
    runLoaded_finished (loadPipelineFile_sound hload) h hr
  rw [hstore] at hfin
  rw [hs₂] at hrun
  exact ⟨out, ⟨sink, _, rfl, hrun⟩, hfin⟩

/-- What `run` does from the session `s`, stage by stage. A non-empty run id that is not valid
is a usage error, with nothing changed. Once a valid id is drawn: a pipeline that fails to load
with a configuration error has that error printed, escaped, and the command exits 2 having only
printed; an artifacts root that cannot be made stops it with that fault before any step runs,
with nothing changed; and a run that no fault stops ran the pipeline from the session's host and
finished as `RunFinished` says, keeping its report in the run's directory under the artifacts
root unless it keeps no artifacts. -/
structure RunContract (a : RunArgs) (s : Session) : Prop where
  bad_id : ∀ id, a.runId = some id → id ≠ "" → isValidName id = false →
    (runCommand a).run.run s = (.error (.usage (helpOf .run) (.invalid badRunIdMessage)), s)
  config_error : ∀ rid s₁ parts e, RunStart a s rid s₁ parts →
    loadPipelineFile s.host.fs (a.file.getD (defaultPipelineFile a.repo)) (some ⟨"/", parts⟩)
      s.host.env = .error (.config e) →
    ∃ text, printMarkup (consoleWidth s.host.env)
        ("[red]Configuration error:[/red] " ++ escapeMarkup e.message) = .ok text ∧
      (runCommand a).run.run s = (.error (.exit 2),
        { s₁ with host := { s.host with stdout := s.host.stdout ++ Host.textBytes text } })
  store_fault : ∀ rid s₁ parts p g, RunStart a s rid s₁ parts →
    loadPipelineFile s.host.fs (a.file.getD (defaultPipelineFile a.repo)) (some ⟨"/", parts⟩)
      s.host.env = .ok p → a.noArtifacts = false →
    makeDirsAt s.host.fs (artifactsRoot a.repo a.artifactsDir) = .error g →
    (runCommand a).run.run s = (.error (.fault g), s₁)
  finished : ∀ rid s₁ parts p r s', RunStart a s rid s₁ parts →
    loadPipelineFile s.host.fs (a.file.getD (defaultPipelineFile a.repo)) (some ⟨"/", parts⟩)
      s.host.env = .ok p → (runCommand a).run.run s = (r, s') → (∀ g, r ≠ .error (.fault g)) →
    ∃ out, (∃ sink w, w = { s.host with fs := w.fs } ∧ runPipeline p
        { base := s.host.env, live := !a.quiet, timeout := a.timeout.map .real } World.runner
        sink (logSink s.verbose s.started) w = .ok out) ∧
      RunFinished rid p (if a.noArtifacts then none
        else some ⟨(artifactsRoot a.repo a.artifactsDir).joinText rid⟩) out r s'

/-- `run` keeps its contract from every session, for every choice of options. -/
theorem runCommand_contract (a : RunArgs) (s : Session) : RunContract a s where
  bad_id _ hid hne hbad := runCommand_bad_id hid hne hbad s
  config_error _ _ _ _ hstart hload := runCommand_config_error hstart hload
  store_fault _ _ _ _ _ hstart hload hkeep hg := runCommand_store_fault hstart hload hkeep hg
  finished _ _ _ _ _ _ hstart hload h hr := runCommand_finished hstart hload h hr

def runsFileRepo : Fs.Tree :=
  ⟨[(["repo"], .dir), (["repo", ".gaterun"], .dir),
    (["repo", ".gaterun", "pipeline.yaml"],
      .file (Text.encodeUtf8 "steps:\n- name: a\n  command: \"true\"\n") 420),
    (["repo", ".gaterun", "runs"], .file [] 420)], ["repo"]⟩

def quietRunArgs : RunArgs :=
  ⟨Path.ofString ".", none, Path.ofString ".gaterun/runs", some "r1", false, true, none⟩

/-- When the artifacts root is a file, the pipeline loads with its one step, yet `run` stops
with the fault of making that directory, before the step runs and with nothing changed. -/
theorem runCommand_faults_when_artifacts_root_is_a_file :
    ∃ p g, loadPipelineFile runsFileRepo (defaultPipelineFile quietRunArgs.repo)
        (some ⟨"/", ["repo"]⟩) Env.empty = .ok p ∧ p.steps.map (·.name) = ["a"] ∧
      makeDirsAt runsFileRepo (artifactsRoot quietRunArgs.repo quietRunArgs.artifactsDir) =
        .error g ∧
      (runCommand quietRunArgs).run.run { host := { fs := runsFileRepo, env := Env.empty } } =
        (.error (.fault g), { host := { fs := runsFileRepo, env := Env.empty } }) := by
  obtain ⟨p, hp, hnames⟩ := @exists_eq_ok_of_match _ _
    (loadPipelineFile runsFileRepo (defaultPipelineFile quietRunArgs.repo)
      (some ⟨"/", ["repo"]⟩) Env.empty) (fun q => q.steps.map (·.name) == ["a"]) (by decide +kernel)
  obtain ⟨g, hg⟩ : ∃ g, makeDirsAt runsFileRepo
      (artifactsRoot quietRunArgs.repo quietRunArgs.artifactsDir) = .error g := by
    have hfails : (makeDirsAt runsFileRepo
        (artifactsRoot quietRunArgs.repo quietRunArgs.artifactsDir)).isOk = false := by
      decide +kernel
    cases h : makeDirsAt runsFileRepo (artifactsRoot quietRunArgs.repo quietRunArgs.artifactsDir)
    · exact ⟨_, rfl⟩
    · rw [h] at hfails
      cases hfails
  obtain ⟨parts, hparts, hrepo⟩ := @exists_eq_ok_of_match _ _
    (resolveIn runsFileRepo quietRunArgs.repo) (· == ["repo"]) (by decide +kernel)
  rw [beq_iff_eq] at hnames hrepo
  subst hrepo
  have hstart : RunStart quietRunArgs { host := { fs := runsFileRepo, env := Env.empty } } "r1"
      { host := { fs := runsFileRepo, env := Env.empty } } ["repo"] :=
    ⟨runIdOf_given (by decide) _, by decide, hparts⟩
  exact ⟨p, g, hp, hnames, hg, runCommand_store_fault hstart hp rfl hg⟩

end BuildGate.Cli
