import ExMode.Delegate
import ExMode.Proofs.Command

/-!
# ExMode.Proofs.Session

What one command line does to the buffer.  A line whose command is run here leaves
the editor that a turn of that command leaves (`turn_of_performed`); a line that is
handed to a program leaves the buffer alone or adopts the text that the program
left, and every other line leaves the buffer alone (`adopts_of_not_performed`).

`performed?` says which of the two happens.  What it gives is settled before the
command is run, by the recorded line alone.
-/

namespace ExMode

/-! ## the parts of a session -/

namespace Action

/-- What commands act on stays as it is. -/
abbrev KeepsEditor {α : Type} (act : Action α) : Prop := ∀ e, Keeps (fun s => s.editor = e) act

theorem keepsEditor_emit (event : Event) : KeepsEditor (emit event) := fun _ _ hs => hs

theorem keepsEditor_setStatus (t : Text) (isError : Bool) : KeepsEditor (setStatus t isError) :=
  keepsEditor_emit _

theorem keepsEditor_log (level : LogLevel) (t : Text) : KeepsEditor (log level t) :=
  keepsEditor_emit _

/-- Whatever holds of the editor still holds after an action that keeps it. -/
theorem KeepsEditor.keeps {α : Type} {act : Action α} (h : KeepsEditor act)
    (Q : Editor → Prop) : Keeps (fun s => Q s.editor) act := by
  intro s hs
  have heq : (runFrom act s).2.editor = s.editor := h s.editor s rfl
  rwa [heq]

theorem runFrom_editing {α : Type} (act : Edit α) (s : Session) :
    runFrom (editing act) s =
      (.ok (runFrom act s.editor).1, { s with editor := (runFrom act s.editor).2 }) := rfl

theorem runFrom_recording {α : Type} (act : History.Recording α) (s : Session) :
    runFrom (recording act) s =
      let x := runFrom act ⟨s.history, s.editor.disk, []⟩
      (x.1, { s with
        history := x.2.history
        editor := { s.editor with disk := x.2.disk }
        journal := s.journal ++ x.2.log.map Event.log }) := by
  simp only [recording, runFrom_bind, runFrom_get]
  rcases h : runFrom act ⟨s.history, s.editor.disk, []⟩ with ⟨result, r⟩
  rw [show act.run.run ⟨s.history, s.editor.disk, []⟩ = (result, r) from h]
  simp only [runFrom_bind, runFrom_set, runFrom_ofExcept]

/-- The history has a disk to work on, but no buffer. -/
theorem keeps_recording {α : Type} (act : History.Recording α) (b : Buffer) :
    Keeps (fun s => s.editor.buffer = b) (recording act) := by
  intro s hs
  rw [runFrom_recording]
  exact hs

end Action

namespace Delegate

/-- What a program can make of a buffer: nothing, or a buffer with the lines of some text. -/
def Adopts (b b' : Buffer) : Prop := b' = b ∨ ∃ t, b' = adoptLines b (Buffer.linesOf t)

theorem adopts_answer {settings : DelegationSettings} {command : Text} {b b' : Buffer} {file : Path}
    {d : Disk} {report : RunReport} {reply : Reply}
    (h : answer settings command b file d report = .ok (reply, b')) : Adopts b b' := by
  cases report with
  | notStarted e =>
    cases h
    exact Or.inl rfl
  | timedOut =>
    cases h
    exact Or.inl rfl
  | exited code output errors =>
    simp only [answer] at h
    split at h
    · cases h
      exact Or.inl rfl
    · obtain ⟨left, -, h⟩ := bind_eq_ok.1 h
      cases h
      exact Or.inr ⟨left, rfl⟩

theorem adopts_runProgram (interpreter : Interpreter) (settings : DelegationSettings)
    (program raw : Text) (e : Editor) :
    Adopts e.buffer (runFrom (runProgram interpreter settings program raw) e).2.buffer := by
  simp only [runProgram, runFrom_bind, runFrom_get]
  split
  rename_i ready d _
  cases ready with
  | error fault => exact Or.inl rfl
  | ok _ =>
    dsimp only
    split
    · exact Or.inl rfl
    · generalize interpreter _ settings.timeout d = x
      obtain ⟨report, left⟩ := x
      dsimp only
      cases h :
          answer settings (commandOf raw) e.buffer (bufferPath (scratch e.disk)) left report with
      | error fault => exact Or.inl rfl
      | ok y => exact adopts_answer h

theorem adopts_run (interpreter : Interpreter) (settings : DelegationSettings) (raw : Text)
    (s : Session) :
    Adopts s.editor.buffer (runFrom (run interpreter settings raw) s).2.editor.buffer := by
  simp only [run, runFrom_bind, runFrom_get]
  cases s.interpreter with
  | none => exact Or.inl rfl
  | some program =>
    simp only [runFrom_bind, Action.runFrom_editing, runFrom_ofExcept]
    exact adopts_runProgram interpreter settings program raw s.editor

/-- A program that lines are handed to has an editor to work on, and nothing else. -/
theorem run_eq (interpreter : Interpreter) (settings : DelegationSettings) (raw : Text)
    (s : Session) :
    (runFrom (run interpreter settings raw) s).2 =
      { s with editor := (runFrom (run interpreter settings raw) s).2.editor } := by
  simp only [run, runFrom_bind, runFrom_get]
  split
  · rfl
  · simp only [runFrom_bind, Action.runFrom_editing, runFrom_ofExcept]

end Delegate

namespace Engine

/-! ## the steps of a command line -/

variable {e : Engine} {raw : Text} {s : Session}

/-- The engine of the built-in table, with a program to hand lines to if there is one. -/
def builtIn (settings : Settings) (homes : List (Text × Text)) (program : Option Interpreter) :
    Engine where
  settings := settings
  parse := (Table.ofExtra homes []).parse
  gateway := program.map fun p => Delegate.gateway p settings.delegation

/-- The session after a command line. -/
def after (e : Engine) (raw : Text) (s : Session) : Session := (runFrom (e.run raw) s).2

theorem keeps_record (e : Engine) (raw : Text) (b : Buffer) :
    Keeps (fun s => s.editor.buffer = b) (e.record raw) := by
  unfold record
  refine keeps_bind (fun _ hs => hs) fun _ => ?_
  refine keeps_bind (Action.keeps_recording _ b) fun _ => ?_
  refine keeps_bind (fun _ hs => hs) fun _ => ?_
  split
  · exact fun _ hs => hs
  · exact keeps_pure _

theorem runFrom_gatewayIf (e : Engine) (wanted : Bool) (s : Session) :
    runFrom (e.gatewayIf wanted) s = (.ok (if wanted then e.activeGateway? s else none), s) := rfl

theorem runFrom_perform (raw : Text) (c : Command) (range : Option LineRange) (s : Session) :
    runFrom (perform raw c range) s =
      let x := runFrom (c.perform s.history.entries range) s.editor
      (x.1, { s with editor := x.2, journal := s.journal ++ [.performed raw range] }) := by
  simp only [perform, Action.emit, runFrom_bind, runFrom_modify, runFrom_get,
    Action.runFrom_editing, runFrom_ofExcept]

theorem keepsEditor_publish (o : Outcome) : Action.KeepsEditor (publish o) := by
  intro ed
  unfold publish
  split
  · exact Action.keepsEditor_setStatus _ _ ed
  · exact keeps_pure _

theorem keepsEditor_reportFault (raw : Text) (fault : Fault) :
    Action.KeepsEditor (reportFault raw fault) := by
  intro ed
  unfold reportFault
  split
  · exact Action.keepsEditor_setStatus _ _ ed
  · exact keeps_bind (Action.keepsEditor_log _ _ ed) fun _ => Action.keepsEditor_setStatus _ _ ed

/-- Handing a line to a program changes the buffer in no other way than the program does. -/
theorem adopts_delegate {settings : Settings} {homes : List (Text × Text)}
    {program : Option Interpreter} {g : Gateway}
    (hg : (builtIn settings homes program).gateway = some g) (raw : Text) (s : Session) :
    Delegate.Adopts s.editor.buffer (runFrom (delegate g raw) s).2.editor.buffer := by
  obtain ⟨p, -, rfl⟩ := Option.map_eq_some_iff.1 hg
  exact Delegate.adopts_run p settings.delegation raw _

/-! ## routes -/

/-- The way to an interpreter that a command takes now, if it takes one. -/
def wayOut? (e : Engine) (c : Command) (s : Session) : Option Gateway :=
  if c.isDelegable then e.activeGateway? s else none

/-- The command that a line runs here, what comes of it, and the editor that it leaves. -/
def performed? (e : Engine) (raw : Text) (s : Session) :
    Option (Command × Except Fault Outcome × Editor) :=
  if raw = [] then none
  else match runFrom (e.record raw) s with
    | (.error _, _) => none
    | (.ok _, s) =>
      match e.parse raw with
      | .ok (.command c range) =>
        match e.wayOut? c s with
        | some _ => none
        | none => some (c, runFrom (c.perform s.history.entries range) s.editor)
      | _ => none

/-- A command that is run here decides what the editor looks like after the line. -/
theorem editor_execute {c : Command} {range : Option LineRange} (h : e.wayOut? c s = none) :
    (runFrom (e.execute raw c range) s).2.editor =
      (runFrom (c.perform s.history.entries range) s.editor).2 := by
  generalize hed : (runFrom (c.perform s.history.entries range) s.editor).2 = ed
  unfold execute
  refine runFrom_tryCatch_of_keeps (P := fun t : Session => t.editor = ed) ?_ fun fault =>
    keepsEditor_reportFault raw fault ed
  rw [runFrom_bind, runFrom_gatewayIf, show (if c.isDelegable then _ else _) = none from h]
  refine runFrom_bind_of_keeps (P := fun t : Session => t.editor = ed) ?_ fun o =>
    keepsEditor_publish o ed
  rw [runFrom_perform]
  exact hed

/-- A line that is not empty is recorded, and then takes its route unless that failed. -/
theorem after_of_ne_nil (h : raw ≠ []) :
    e.after raw s = match runFrom (e.record raw) s with
      | (.ok _, s') => (runFrom (e.dispatch raw) s').2
      | (.error _, s') => s' := by
  simp only [after, run, if_pos h, runFrom_bind]
  rcases runFrom (e.record raw) s with ⟨_ | _, s'⟩ <;> rfl

theorem buffer_record (e : Engine) (raw : Text) (s : Session) :
    (runFrom (e.record raw) s).2.editor.buffer = s.editor.buffer :=
  keeps_record e raw _ s rfl

/-- A command that is run here is run on what recording the line left. -/
theorem performed?_eq_some {c : Command} {r : Except Fault Outcome} {ed : Editor}
    (h : e.performed? raw s = some (c, r, ed)) :
    raw ≠ [] ∧ ∃ s' range, runFrom (e.record raw) s = (.ok (), s') ∧
      e.parse raw = .ok (.command c range) ∧ e.wayOut? c s' = none ∧
      runFrom (c.perform s'.history.entries range) s'.editor = (r, ed) := by
  unfold performed? at h
  split at h
  · cases h
  rename_i hraw
  split at h
  · cases h
  rename_i s' hrecord
  split at h
  · rename_i c' range hparse
    split at h
    · cases h
    · rename_i hroute
      simp only [Option.some.injEq, Prod.mk.injEq] at h
      obtain ⟨rfl, hrun⟩ := h
      exact ⟨hraw, s', range, hrecord, hparse, hroute, hrun⟩
  · cases h

/-- A command that is run here is run on the buffer that the line found, and the editor that it
leaves is the one after the line. -/
theorem run_of_performed {c : Command} {r : Except Fault Outcome} {ed : Editor}
    (h : e.performed? raw s = some (c, r, ed)) :
    (e.after raw s).editor = ed ∧ ∃ past range, ∃ start : Editor,
      start.buffer = s.editor.buffer ∧ e.parse raw = .ok (.command c range) ∧
      runFrom (c.perform past range) start = (r, ed) := by
  obtain ⟨hraw, s', range, hrecord, hparse, hroute, hrun⟩ := performed?_eq_some h
  have hbuffer := buffer_record e raw s
  rw [hrecord] at hbuffer
  refine ⟨?_, s'.history.entries, range, s'.editor, hbuffer, hparse, hrun⟩
  rw [after_of_ne_nil hraw, hrecord]
  simp only [dispatch, hparse]
  rw [editor_execute hroute, hrun]

/-- A command that is run here is the one that the line was read as. -/
theorem parse_of_performed {x : Command × Except Fault Outcome × Editor}
    (h : e.performed? raw s = some x) : ∃ range, e.parse raw = .ok (.command x.1 range) := by
  obtain ⟨-, past, range, start, -, hparse, -⟩ := run_of_performed h
  exact ⟨range, hparse⟩

section

variable {settings : Settings} {homes : List (Text × Text)} {program : Option Interpreter}

theorem turn_of_performed {c : Command} {r : Except Fault Outcome} {ed : Editor}
    (h : (builtIn settings homes program).performed? raw s = some (c, r, ed)) :
    ((builtIn settings homes program).after raw s).editor = ed ∧
      ∃ start : Editor, start.buffer = s.editor.buffer ∧ Command.Turn start c r ed := by
  obtain ⟨heditor, past, range, start, hstart, hparse, hrun⟩ := run_of_performed h
  have hturn := Command.turn_perform (Table.isBuiltIn_of_parse hparse) past range start
  rw [hrun] at hturn
  exact ⟨heditor, start, hstart, hturn⟩

theorem gateway_of_wanted {wanted : Bool} {g : Gateway}
    (h : (if wanted then e.activeGateway? s else none) = some g) : e.gateway = some g := by
  split at h
  · unfold activeGateway? at h
    split at h
    · exact Option.eq_some_of_filter_eq_some h
    · cases h
  · cases h

theorem adopts_execute {c : Command} {range : Option LineRange} {g : Gateway}
    (h : (builtIn settings homes program).wayOut? c s = some g) :
    Delegate.Adopts s.editor.buffer
      (runFrom ((builtIn settings homes program).execute raw c range) s).2.editor.buffer := by
  have hg := gateway_of_wanted h
  let Q (ed : Editor) : Prop := Delegate.Adopts s.editor.buffer ed.buffer
  unfold execute
  refine runFrom_tryCatch_of_keeps (P := fun t : Session => Q t.editor) ?_ fun fault =>
    (keepsEditor_reportFault raw fault).keeps Q
  rw [runFrom_bind, runFrom_gatewayIf, show (if c.isDelegable then _ else _) = some g from h]
  exact runFrom_bind_of_keeps (P := fun t : Session => Q t.editor) (adopts_delegate hg raw s)
    fun reply => (Action.keepsEditor_setStatus _ _).keeps Q

theorem adopts_refuse (error : CommandError) (raw : Text) (s : Session) :
    Delegate.Adopts s.editor.buffer
      (runFrom ((builtIn settings homes program).refuse raw error) s).2.editor.buffer := by
  let Q (ed : Editor) : Prop := Delegate.Adopts s.editor.buffer ed.buffer
  unfold refuse
  rw [runFrom_bind, runFrom_gatewayIf]
  cases hroute : (if decide (error.code = .notAnEditorCommand) then
      (builtIn settings homes program).activeGateway? s else none) with
  | none => exact (Action.keepsEditor_log _ _).keeps Q s (Or.inl rfl)
  | some g =>
    have hg := gateway_of_wanted hroute
    refine runFrom_tryCatch_of_keeps (P := fun t : Session => Q t.editor) ?_ fun fault =>
      keeps_bind ((Action.keepsEditor_log _ _).keeps Q) fun _ =>
        (Action.keepsEditor_setStatus _ _).keeps Q
    exact runFrom_bind_of_keeps (P := fun t : Session => Q t.editor) (adopts_delegate hg raw s)
      fun reply => (Action.keepsEditor_setStatus _ _).keeps Q

/-- A line that runs no command here leaves the buffer to a program, if to anybody. -/
theorem adopts_of_not_performed (h : (builtIn settings homes program).performed? raw s = none) :
    Delegate.Adopts s.editor.buffer
      ((builtIn settings homes program).after raw s).editor.buffer := by
  unfold performed? at h
  split at h
  · rename_i hraw
    subst hraw
    exact Or.inl rfl
  rename_i hraw
  have hbuffer := buffer_record (builtIn settings homes program) raw s
  rw [after_of_ne_nil hraw, ← hbuffer]
  split at h
  · rename_i s' hrecord
    rw [hrecord]
    exact Or.inl rfl
  rename_i s' hrecord
  rw [hrecord]
  simp only [dispatch]
  split at h
  · rename_i c range hparse
    rw [hparse]
    split at h
    · rename_i g hroute
      exact adopts_execute hroute
    · cases h
  · rename_i hparse
    split
    · rw [runFrom_bind]
      exact adopts_refuse _ raw _
    · exact adopts_refuse _ raw s'
    · rename_i c range hc
      exact absurd hc (hparse c range)

theorem wellFormed_of_adopts {b b' : Buffer} (h : Delegate.Adopts b b') (hb : b.WellFormed) :
    b'.WellFormed := by
  obtain rfl | ⟨t, rfl⟩ := h
  · exact hb
  · unfold Delegate.adoptLines
    split
    · exact hb
    · exact Buffer.wellFormed_replaceLines hb (fun _ hl => Buffer.newline_not_mem_linesOf hl) _ _

/-- A command line leaves a well-formed buffer well-formed. -/
theorem wellFormed_after (h : s.editor.buffer.WellFormed) :
    ((builtIn settings homes program).after raw s).editor.buffer.WellFormed := by
  cases hp : (builtIn settings homes program).performed? raw s with
  | none => exact wellFormed_of_adopts (adopts_of_not_performed hp) h
  | some x =>
    obtain ⟨c, r, ed⟩ := x
    obtain ⟨heditor, start, hstart, hturn⟩ := turn_of_performed hp
    rw [heditor]
    exact hturn.wellFormed (hstart ▸ h)

end

/-! ## what outlasts a line -/

section

variable {P : Session → Prop}

/-- What outlasts every entry to the journal, the command of the line and an interpreter outlasts
whatever becomes of a recorded line. -/
theorem keeps_dispatch (hemit : ∀ event, Keeps P (Action.emit event))
    (hperform : ∀ c range, e.parse raw = .ok (.command c range) → Keeps P (perform raw c range))
    (hgateway : ∀ g, e.gateway = some g → Keeps P (g.run raw)) : Keeps P (e.dispatch raw) := by
  have hsay {t u : Text} {level : LogLevel} {isError : Bool} :
      Keeps P (do Action.log level t; Action.setStatus u isError) :=
    keeps_bind (hemit _) fun _ => hemit _
  have hdelegate {g : Gateway} (hg : e.gateway = some g) : Keeps P (delegate g raw) :=
    keeps_bind (hemit _) fun _ => hgateway g hg
  have hpublish (o : Outcome) : Keeps P (publish o) := by
    unfold publish
    split
    · exact hemit _
    · exact keeps_pure _
  have hreport (fault : Fault) : Keeps P (reportFault raw fault) := by
    unfold reportFault
    split
    · exact hemit _
    · exact hsay
  have hway {α : Type} {wanted : Bool} {f : Option Gateway → Action α} (hnone : Keeps P (f none))
      (hsome : ∀ g, e.gateway = some g → Keeps P (f (some g))) :
      Keeps P (e.gatewayIf wanted >>= f) := by
    intro s hs
    rw [runFrom_bind, runFrom_gatewayIf]
    cases hroute : (if wanted then e.activeGateway? s else none) with
    | none => exact hnone s hs
    | some g => exact hsome g (gateway_of_wanted hroute) s hs
  have hrefuse (error : CommandError) : Keeps P (e.refuse raw error) :=
    hway (hemit _) fun g hg =>
      keeps_tryCatch (keeps_bind (hdelegate hg) fun _ => hemit _) fun _ => hsay
  unfold dispatch
  split
  · exact keeps_bind (hemit _) fun _ => hrefuse _
  · exact hrefuse _
  · rename_i c range hparse
    exact keeps_tryCatch (hway (keeps_bind (hperform c range hparse) hpublish) fun g hg =>
      keeps_bind (hdelegate hg) fun _ => hemit _) hreport

end

end Engine

/-! ## runs -/

namespace Session

variable {settings : Settings} {homes : List (Text × Text)} {s : Session}

/-- The session after some command lines, each with the program that it can be handed to. -/
def afterAll (settings : Settings) (homes : List (Text × Text))
    (lines : List (Text × Option Interpreter)) (s : Session) : Session :=
  lines.foldl (fun s line => (Engine.builtIn settings homes line.2).after line.1 s) s

/-- What one command line keeps, every run keeps. -/
theorem afterAll_induction {P : Session → Prop}
    (hstep : ∀ raw program s, P s → P ((Engine.builtIn settings homes program).after raw s))
    (hs : P s) (lines : List (Text × Option Interpreter)) :
    P (s.afterAll settings homes lines) := by
  induction lines generalizing s with
  | nil => exact hs
  | cons line lines ih => exact ih (hstep line.1 line.2 s hs)

/-- Buffers made from texts are well-formed, and from a well-formed buffer no run of command lines
leads out: the buffer stays well-formed, every span that commands act on starts and ends on lines of
the buffer, and no command asks for a line that is not there. -/
theorem wellFormed_afterAll :
    (∀ (t : Text) (path : Option Path), (Buffer.ofText t path).WellFormed) ∧
    ∀ (s : Session), s.editor.buffer.WellFormed →
      ∀ (settings : Settings) (homes : List (Text × Text))
        (lines : List (Text × Option Interpreter)),
      let s' := s.afterAll settings homes lines
      let b := s'.editor.buffer
      b.WellFormed ∧
      (∀ range count span, b.span range count = .ok span →
        0 ≤ span.first ∧ span.first < b.lines.length ∧ span.last < b.lines.length) ∧
      (∀ (range : LineRange) span, range.resolveClamped b = .ok span → span.Within b) ∧
      ∀ raw c parsed, (Table.ofExtra homes []).parse raw = .ok (.command c parsed) →
        ∀ past range (e : Editor), e.buffer = b →
          (runFrom (c.perform past range) e).1 ≠ .error .noSuchItem := by
  refine ⟨Buffer.wellFormed_ofText, fun s hs settings homes lines => ?_⟩
  have hb : (s.afterAll settings homes lines).editor.buffer.WellFormed :=
    afterAll_induction (P := fun s => s.editor.buffer.WellFormed)
      (fun raw program s h => Engine.wellFormed_after h) hs lines
  refine ⟨hb, ?_, ?_, ?_⟩
  · intro range count span hspan
    obtain ⟨h0, h1, -, h2, -⟩ := Buffer.span_mem hb hspan
    exact ⟨h0, h1, h2⟩
  · intro range span hspan
    exact LineRange.within_of_resolveClamped hb.ne_nil hspan
  · intro raw c parsed hparse past range e he
    have hturn := Command.turn_perform (Table.isBuiltIn_of_parse hparse) past range e
    exact hturn.ne_noSuchItem (he ▸ hb)

/-- A mark behind the buffer is refused, and a substitution splits a line. -/
theorem wellFormed_afterAll_split :
    let b : Buffer := { Buffer.ofText "a\nb".toList none with marks := [('m', 99)] }
    let s := start ⟨b, Registers.empty, ⟨[], [], [], [], .standard⟩⟩ (History.new (.memory []))
    let lines := [("'m,$d".toList, none), ("%s/b/x\\ry/".toList, none)]
    b.WellFormed ∧
      (s.afterAll .standard [] lines).editor.buffer.lines =
        ["a".toList, "x".toList, "y".toList] ∧
      (s.afterAll .standard [] lines).editor.buffer.WellFormed := by
  intro b s lines
  have hb : b.WellFormed := ⟨by decide, by decide, by decide, by decide⟩
  exact ⟨hb, by decide +kernel, (wellFormed_afterAll.2 s hb .standard [] lines).1⟩

end Session

end ExMode
