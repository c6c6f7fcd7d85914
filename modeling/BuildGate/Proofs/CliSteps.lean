import BuildGate.Cli.Commands

namespace BuildGate.Cli

open Console

section Run

variable {α β : Type}

@[simp] theorem run_pure (a : α) (s : Session) : (pure a : CliM α).run.run s = (.ok a, s) := rfl

@[simp] theorem run_throw (e : Stop) (s : Session) : (throw e : CliM α).run.run s = (.error e, s) :=
  rfl

@[simp] theorem run_get (s : Session) : (get : CliM Session).run.run s = (.ok s, s) := rfl

@[simp] theorem run_modify (f : Session → Session) (s : Session) :
    (modify f : CliM Unit).run.run s = (.ok (), f s) := rfl

@[simp] theorem run_liftFault (r : Except Fault α) (s : Session) :
    (liftFault r).run.run s = (r.mapError .fault, s) := by
  cases r <;> rfl

theorem run_host (s : Session) : host.run.run s = (.ok s.host, s) := rfl

theorem run_setTree (t : Fs.Tree) (s : Session) :
    (setTree t).run.run s = (.ok (), { s with host := { s.host with fs := t } }) := rfl

theorem run_writeOut (t : String) (s : Session) :
    (writeOut t).run.run s =
      (.ok (), { s with host := { s.host with stdout := s.host.stdout ++ Host.textBytes t } }) :=
  rfl

theorem run_sayRaw (t : String) (s : Session) :
    (sayRaw t).run.run s = (.ok (), { s with host := { s.host with
      stdout := s.host.stdout ++ Host.textBytes (writeRaw (consoleWidth s.host.env) t) } }) := rfl

theorem run_width (s : Session) : width.run.run s = (.ok (consoleWidth s.host.env), s) := rfl

theorem run_bind_ok {x : CliM α} {f : α → CliM β} {s s₁ : Session} {a : α}
    (h : x.run.run s = (.ok a, s₁)) : (x >>= f).run.run s = (f a).run.run s₁ := by
  rw [ExceptT.run_bind, StateT.run_bind, h]
  rfl

theorem run_bind_error {x : CliM α} {f : α → CliM β} {s s₁ : Session} {e : Stop}
    (h : x.run.run s = (.error e, s₁)) : (x >>= f).run.run s = (.error e, s₁) := by
  rw [ExceptT.run_bind, StateT.run_bind, h]
  rfl

/-- What running two steps one after the other can come to: the first stops, or it ends and
the second runs from where it left the session. -/
theorem run_bind_cases {x : CliM α} {f : α → CliM β} {s s' : Session} {r : Except Stop β}
    (h : (x >>= f).run.run s = (r, s')) :
    (∃ e, x.run.run s = (.error e, s') ∧ r = .error e) ∨
      ∃ a s₁, x.run.run s = (.ok a, s₁) ∧ (f a).run.run s₁ = (r, s') := by
  rcases hx : x.run.run s with ⟨_ | a, s₁⟩
  · rw [run_bind_error hx] at h
    cases h
    exact .inl ⟨_, rfl, rfl⟩
  · exact .inr ⟨a, s₁, rfl, by rw [← h, run_bind_ok hx]⟩

/-- When two steps end one after the other, the first ended. -/
theorem run_bind_eq_ok {x : CliM α} {f : α → CliM β} {s s' : Session} {b : β}
    (h : (x >>= f).run.run s = (.ok b, s')) :
    ∃ a s₁, x.run.run s = (.ok a, s₁) ∧ (f a).run.run s₁ = (.ok b, s') := by
  rcases run_bind_cases h with ⟨e, -, he⟩ | hok
  · cases he
  · exact hok

/-- A result lifted into a command either stops it with its fault, leaving the session as it
was, or hands its value on. -/
theorem run_liftFault_bind_cases {r : Except Fault α} {f : α → CliM β}
    {s s' : Session} {res : Except Stop β} (h : (liftFault r >>= f).run.run s = (res, s')) :
    (∃ g, r = .error g ∧ res = .error (.fault g) ∧ s' = s) ∨
      ∃ a, r = .ok a ∧ (f a).run.run s = (res, s') := by
  cases r with
  | ok a => exact .inr ⟨a, rfl, h⟩
  | error g =>
    cases h
    exact .inl ⟨g, rfl, rfl, rfl⟩

theorem run_say (m : String) (s : Session) :
    (say m).run.run s =
      match printMarkup (consoleWidth s.host.env) m with
      | .ok t =>
        (.ok (), { s with host := { s.host with stdout := s.host.stdout ++ Host.textBytes t } })
      | .error e => (.error (.fault (.other "MarkupError" e.message)), s) := by
  simp only [say, width, bind_assoc, pure_bind]
  rw [run_bind_ok (run_get s)]
  cases printMarkup (consoleWidth s.host.env) m <;> rfl

end Run

section Printing

variable {α β : Type}

def OnlyPrints (x : CliM α) : Prop :=
  ∀ s r s', x.run.run s = (r, s') →
    ∃ out, s' = { s with host := { s.host with stdout := s.host.stdout ++ out } }

def StopsOnFault (x : CliM α) : Prop :=
  ∀ s e s', x.run.run s = (.error e, s') → ∃ g, e = .fault g

theorem OnlyPrints.pure (a : α) : OnlyPrints (pure a : CliM α) := by
  intro s r s' h
  cases h
  exact ⟨[], by simp⟩

theorem StopsOnFault.pure (a : α) : StopsOnFault (pure a : CliM α) := by
  intro s e s' h
  cases h

theorem OnlyPrints.bind {x : CliM α} {f : α → CliM β} (hx : OnlyPrints x)
    (hf : ∀ a, OnlyPrints (f a)) : OnlyPrints (x >>= f) := by
  intro s r s' h
  rcases run_bind_cases h with ⟨e, he, -⟩ | ⟨a, s₁, ha, hrest⟩
  · exact hx s _ s' he
  · obtain ⟨out₁, rfl⟩ := hx s _ s₁ ha
    obtain ⟨out₂, rfl⟩ := hf a _ r s' hrest
    exact ⟨out₁ ++ out₂, by simp⟩

theorem StopsOnFault.bind {x : CliM α} {f : α → CliM β} (hx : StopsOnFault x)
    (hf : ∀ a, StopsOnFault (f a)) : StopsOnFault (x >>= f) := by
  intro s e s' h
  rcases run_bind_cases h with ⟨e', he, heq⟩ | ⟨a, s₁, -, hrest⟩
  · cases heq
    exact hx s e s' he
  · exact hf a s₁ e s' hrest

/-- Once a step that stops only on faults is followed by the rest of a command, the command
ends in something other than a fault only if the step ended. -/
theorem StopsOnFault.bind_eq {x : CliM α} {f : α → CliM β} {s s' : Session}
    {r : Except Stop β} (hx : StopsOnFault x) (h : (x >>= f).run.run s = (r, s'))
    (hr : ∀ g, r ≠ .error (.fault g)) :
    ∃ a s₁, x.run.run s = (.ok a, s₁) ∧ (f a).run.run s₁ = (r, s') := by
  rcases run_bind_cases h with ⟨e, he, rfl⟩ | hok
  · obtain ⟨g, rfl⟩ := hx s e s' he
    exact absurd rfl (hr g)
  · exact hok

theorem OnlyPrints.liftFault (r : Except Fault α) : OnlyPrints (liftFault r) := by
  intro s r' s' h
  rw [run_liftFault] at h
  cases h
  exact ⟨[], by simp⟩

theorem StopsOnFault.liftFault (r : Except Fault α) : StopsOnFault (liftFault r) := by
  intro s e s' h
  cases r with
  | ok a => cases h
  | error g => cases h; exact ⟨g, rfl⟩

theorem OnlyPrints.map {x : CliM α} (f : α → β) (hx : OnlyPrints x) : OnlyPrints (f <$> x) := by
  rw [← bind_pure_comp]
  exact hx.bind fun a => OnlyPrints.pure _

theorem StopsOnFault.map {x : CliM α} (f : α → β) (hx : StopsOnFault x) :
    StopsOnFault (f <$> x) := by
  rw [← bind_pure_comp]
  exact hx.bind fun a => StopsOnFault.pure _

theorem OnlyPrints.mapM {f : α → CliM β} (hf : ∀ a, OnlyPrints (f a)) :
    ∀ l : List α, OnlyPrints (l.mapM f)
  | [] => by rw [List.mapM_nil]; exact OnlyPrints.pure _
  | a :: l => by
    rw [List.mapM_cons]
    exact (hf a).bind fun _ => (OnlyPrints.mapM hf l).bind fun _ => OnlyPrints.pure _

theorem StopsOnFault.mapM {f : α → CliM β} (hf : ∀ a, StopsOnFault (f a)) :
    ∀ l : List α, StopsOnFault (l.mapM f)
  | [] => by rw [List.mapM_nil]; exact StopsOnFault.pure _
  | a :: l => by
    rw [List.mapM_cons]
    exact (hf a).bind fun _ => (StopsOnFault.mapM hf l).bind fun _ => StopsOnFault.pure _

/-- A step that only prints keeps the host's file tree and environment. -/
theorem OnlyPrints.host_eq {α : Type} {x : CliM α} (hx : OnlyPrints x) {s s' : Session}
    {r : Except Stop α} (h : x.run.run s = (r, s')) :
    s'.host.fs = s.host.fs ∧ s'.host.env = s.host.env := by
  obtain ⟨out, rfl⟩ := hx s r s' h
  exact ⟨rfl, rfl⟩

/-- A step that writes to standard output, changes nothing else, and stops only on faults. -/
structure Printing {α : Type} (x : CliM α) : Prop where
  only_prints : OnlyPrints x
  stops_on_fault : StopsOnFault x

theorem Printing.pure (a : α) : Printing (pure a : CliM α) :=
  ⟨OnlyPrints.pure a, StopsOnFault.pure a⟩

theorem Printing.bind {x : CliM α} {f : α → CliM β} (hx : Printing x) (hf : ∀ a, Printing (f a)) :
    Printing (x >>= f) :=
  ⟨hx.1.bind fun a => (hf a).1, hx.2.bind fun a => (hf a).2⟩

theorem Printing.map {x : CliM α} (f : α → β) (hx : Printing x) : Printing (f <$> x) :=
  ⟨hx.1.map f, hx.2.map f⟩

theorem Printing.mapM {f : α → CliM β} (hf : ∀ a, Printing (f a)) (l : List α) :
    Printing (l.mapM f) :=
  ⟨OnlyPrints.mapM (fun a => (hf a).1) l, StopsOnFault.mapM (fun a => (hf a).2) l⟩

theorem Printing.liftFault (r : Except Fault α) : Printing (liftFault r) :=
  ⟨OnlyPrints.liftFault r, StopsOnFault.liftFault r⟩

end Printing

theorem Printing.width : Printing width := by
  refine ⟨fun s r s' h => ?_, fun s e s' h => ?_⟩ <;> rw [run_width] at h <;> cases h
  exact ⟨[], by simp⟩

theorem Printing.writeOut (t : String) : Printing (writeOut t) := by
  refine ⟨fun s r s' h => ?_, fun s e s' h => ?_⟩ <;> rw [run_writeOut] at h <;> cases h
  exact ⟨_, rfl⟩

theorem Printing.sayRaw (t : String) : Printing (sayRaw t) := by
  refine ⟨fun s r s' h => ?_, fun s e s' h => ?_⟩ <;> rw [run_sayRaw] at h <;> cases h
  exact ⟨_, rfl⟩

theorem Printing.say (m : String) : Printing (say m) := by
  refine ⟨fun s r s' h => ?_, fun s e s' h => ?_⟩ <;> rw [run_say] at h <;> split at h <;> cases h
  · exact ⟨_, rfl⟩
  · exact ⟨[], by simp⟩
  · exact ⟨_, rfl⟩

theorem Printing.cellText (m : String) : Printing (cellText m) := by
  unfold BuildGate.Cli.cellText
  split
  · exact Printing.pure _
  · refine ⟨fun s r s' h => ?_, fun s e s' h => ?_⟩ <;> cases h
    · exact ⟨[], by simp⟩
    · exact ⟨_, rfl⟩

theorem Printing.sayTable (t : Table) : Printing (sayTable t) := by
  unfold BuildGate.Cli.sayTable
  dsimp only
  have hrows : ∀ title, Printing (do
      let rows ← t.rows.mapM fun r => r.mapM Cli.cellText
      let w ← Cli.width
      Cli.writeOut (linesText ({ t with title, rows }.render w))) := fun title =>
    (Printing.mapM (fun r => Printing.mapM (fun _ => Printing.cellText _) r) _).bind fun _ =>
      Printing.width.bind fun _ => Printing.writeOut _
  split
  · exact ((Printing.cellText _).map _).bind hrows
  · exact (Printing.pure _).bind hrows

theorem Printing.showReport (p : Pipeline) (R : Report) : Printing (showReport p R) := by
  unfold BuildGate.Cli.showReport
  refine (Printing.liftFault _).bind fun t => (Printing.sayTable t).bind fun _ => ?_
  split
  · exact (Printing.liftFault _).bind fun _ => Printing.say _
  · refine (Printing.say _).bind fun _ => ?_
    dsimp only
    split
    · exact Printing.sayRaw _
    · exact Printing.pure _

end BuildGate.Cli
