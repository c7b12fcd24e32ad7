import ExMode.Proofs.Completion
import ExMode.Proofs.Cursor

/-!
# ExMode.Proofs.Box

What opening and closing the box do to the mode of the editor, and what ends completion.  Both are
matters of the box alone: recording a line, running it and looking after the history have no part in
them (`Session.IgnoresRecords`, `Use.keeps_after`), and what a command or an interpreter from
outside may do is asked for.

The mode to return to is remembered once.  Opening the box again while it is open remembers
the mode of the open box instead, and closing it does not lead out of that any more.

Doing anything else at the box ends completion, except for submitting a line that is refused, and
for a step along the history when there is none: then the candidates of an older text stay.

* `Use.modes_after`, `Use.modes_foldl` — the mode and the one to return to, after one use and
  after any number of them;
* `Session.mode_restored` — what closing the box returns to;
* `Use.completion_after`, `Use.completion_foldl` — the completion that is under way;
* `Session.completion_ended` — what the next press of the key gives.
-/

namespace ExMode

/-! ## what has no part in it -/

/-- Whether something has nothing to do with the history, the disk, the registers and the
journal. -/
def Session.IgnoresRecords (P : Session → Prop) : Prop :=
  ∀ (s : Session) history i disk registers journal, P s → P { s with
    history := history
    historyIndex := i
    editor := { s.editor with disk := disk, registers := registers }
    journal := journal }

namespace Session.IgnoresRecords

variable {P : Session → Prop}

theorem emit (h : IgnoresRecords P) (event : Event) : Keeps P (Action.emit event) := fun s hs =>
  h s s.history s.historyIndex s.editor.disk s.editor.registers _ hs

theorem atIndex (h : IgnoresRecords P) {s : Session} (hs : P s) (i : Int) : P (s.atIndex i) :=
  h s s.history _ s.editor.disk s.editor.registers s.journal hs

theorem recording {α : Type} (h : IgnoresRecords P) (act : History.Recording α) :
    Keeps P (Action.recording act) := by
  intro s hs
  rw [Action.runFrom_recording]
  exact h s _ s.historyIndex _ s.editor.registers _ hs

theorem record (h : IgnoresRecords P) (e : Engine) (raw : Text) : Keeps P (e.record raw) := by
  refine keeps_bind (h.emit _) fun _ => keeps_bind (h.recording _) fun _ =>
    keeps_bind (fun _ hs => h.atIndex hs _) fun _ => ?_
  split
  · exact fun s hs => h s s.history s.historyIndex s.editor.disk _ s.journal hs
  · exact keeps_pure _

theorem offerHistory (h : IgnoresRecords P) (e : Engine) (initial : Text) :
    Keeps P (e.offerHistory initial) :=
  keeps_bind (h.recording _) fun _ => keeps_bind (fun _ hs => h.atIndex hs _) fun _ =>
    keeps_bind (fun _ hs => hs) fun _ => keeps_bind (h.emit _) fun _ => keeps_pure _

theorem load (h : IgnoresRecords P) : Keeps P Action.load :=
  keeps_bind (h.recording _) fun _ _ hs => h.atIndex hs _

theorem run (h : IgnoresRecords P) {e : Engine} {raw : Text}
    (hdispatch : Keeps P (e.dispatch raw)) : Keeps P (e.run raw) := by
  unfold Engine.run
  split
  · exact keeps_bind (h.record e raw) fun _ => hdispatch
  · exact keeps_pure _

end Session.IgnoresRecords

namespace Use

/-- Whether something is done at the box. -/
def atBox : Use → Bool
  | .openBox | .closeBox | .up | .down | .complete _ _ | .submit _ | .browseHistory _ _ => true
  | _ => false

/-- What outlasts whatever becomes of a recorded line outlasts what is not done at the box. -/
theorem keeps_after {P : Session → Prop} {e : Engine} {t : Table} {s : Session}
    (h : Session.IgnoresRecords P)
    (hdispatch : ∀ raw, Keeps P (e.dispatch raw)) {u : Use} (hu : u.atBox = false) (hs : P s) :
    P (u.after e t s) := by
  cases u with
  | load => exact h.load s hs
  | run raw => exact h.run (hdispatch raw) s hs
  | showHistory initial choice =>
    exact keeps_bind (h.offerHistory e initial) (fun _ => keeps_pure _) s hs
  | add entry => exact h.recording _ s hs
  | clear => exact h.recording _ s hs
  | openBox | closeBox | up | down | complete | submit | browseHistory => cases hu

end Use

/-! ## the mode -/

/-- The mode of the editor, and the mode to return to from the command line. -/
def Session.modes (s : Session) : Mode × Mode := (s.mode, s.previousMode)

theorem Session.ignoresRecords_modes (m : Mode × Mode) : IgnoresRecords fun s => s.modes = m :=
  fun _ _ _ _ _ _ hs => hs

/-- No command of the library alters the mode. -/
theorem Command.Turn.mode_eq {ed ed' : Editor} {c : Command} {r : Except Fault Outcome}
    (h : Turn ed c r ed') : ed'.buffer.mode = ed.buffer.mode := by
  cases h <;> rfl

/-- No program alters the mode. -/
theorem Delegate.Adopts.mode_eq {b b' : Buffer} (h : Adopts b b') : b'.mode = b.mode := by
  obtain rfl | ⟨t, rfl⟩ := h
  · rfl
  · unfold adoptLines
    split <;> rfl

/-- Whether nobody but the box alters the mode: neither an interpreter nor a command from
outside. -/
structure Engine.KeepsMode (e : Engine) : Prop where
  gateway : ∀ g, e.gateway = some g → ∀ raw m, Keeps (fun s => s.modes = m) (g.run raw)
  foreign : ∀ raw f parsed, e.parse raw = .ok (.command (.foreign f) parsed) →
    ∀ range m, Keeps (fun ed => ed.buffer.mode = m) (f.perform range)

namespace Engine

theorem KeepsMode.keeps_perform {e : Engine} (he : e.KeepsMode) {raw : Text} {c : Command}
    {parsed : Option LineRange} (h : e.parse raw = .ok (.command c parsed)) (past : List Text)
    (range : Option LineRange) (m : Mode) :
    Keeps (fun ed => ed.buffer.mode = m) (c.perform past range) := by
  cases c with
  | foreign f => exact he.foreign raw f parsed h range m
  | goto | delete | yank | print | substitute | write | quit | history | registers =>
    rintro ed rfl
    exact (Command.turn_perform (fun f hf => by cases hf) past range ed).mode_eq

/-- Whatever becomes of a recorded line, the mode stays, and so does the one to return to. -/
theorem KeepsMode.modes_dispatch {e : Engine} (he : e.KeepsMode) (m : Mode × Mode) (raw : Text) :
    Keeps (fun s => s.modes = m) (e.dispatch raw) := by
  refine keeps_dispatch (Session.ignoresRecords_modes m).emit (fun c range h => ?_)
    fun g hg => he.gateway g hg raw m
  rintro s rfl
  rw [runFrom_perform]
  exact Prod.ext (he.keeps_perform h _ range s.mode s.editor rfl) rfl

/-- The commands of the built-in table leave the mode alone, and so does a program that lines are
handed to. -/
theorem keepsMode_builtIn (settings : Settings) (homes : List (Text × Text))
    (program : Option Interpreter) : (builtIn settings homes program).KeepsMode where
  gateway := by
    rintro g hg raw m s rfl
    obtain ⟨p, -, rfl⟩ := Option.map_eq_some_iff.1 hg
    refine Prod.ext (Delegate.adopts_run p settings.delegation raw s).mode_eq ?_
    show (runFrom (Delegate.run p settings.delegation raw) s).2.previousMode = s.previousMode
    rw [Delegate.run_eq]
  foreign := by
    intro raw f parsed h
    exact absurd rfl (Table.isBuiltIn_of_parse h f)

end Engine

namespace InputBox

/-- Completing a text has nothing to do with the mode. -/
theorem modes_complete (t : Table) (typed : Text) (reverse : Bool) (s : Session) :
    (runFrom (complete t typed reverse) s).2.modes = s.modes := by
  obtain ⟨c, key, h⟩ := snd_complete t typed reverse s
  rw [h]
  rfl

theorem modes_enter (e : Engine) (raw : Text) (m : Mode × Mode) :
    Keeps (fun s => s.modes = m) (enter e raw) := by
  refine keeps_get_bind fun s hs => ?_
  split
  · exact keeps_bind ((Session.ignoresRecords_modes m).emit _) (fun _ => keeps_pure _) s hs
  · refine runFrom_bind_of_keeps (P := fun s : Session => s.modes = m) hs fun _ => ?_
    split
    · exact keeps_bind ((Session.ignoresRecords_modes m).record e raw) fun _ => keeps_pure _
    · exact keeps_pure _

end InputBox

namespace Use

variable {e : Engine} {t : Table}

/-- What is done to the mode and the one to return to. -/
def shift : Mode × Mode → Use → Mode × Mode
  | m, .openBox => (.commandLine, m.1)
  | m, .closeBox => (m.2, m.2)
  | m, _ => m

/-- Whether the box is opened. -/
def opens : Use → Bool
  | .openBox => true
  | _ => false

/-- Only opening and closing the box have to do with the mode. -/
theorem modes_after (he : e.KeepsMode) (u : Use) (s : Session) :
    (u.after e t s).modes = shift s.modes u := by
  have hignores := Session.ignoresRecords_modes s.modes
  have hdispatch := he.modes_dispatch s.modes
  cases u with
  | openBox => rfl
  | closeBox => rfl
  | up =>
    rw [after, InputBox.runFrom_historyUp]
    split
    · rfl
    · split <;> rfl
  | down =>
    rw [after, InputBox.runFrom_historyDown]
    split <;> rfl
  | complete typed reverse => exact InputBox.modes_complete t typed reverse s
  | submit raw =>
    exact InputBox.of_submit hignores.emit (fun _ hs => hs) (hdispatch raw)
      (InputBox.modes_enter e raw s.modes s rfl)
  | browseHistory typed choice =>
    exact keeps_bind (keeps_bind (fun _ hs => hs) fun _ => hignores.offerHistory e typed)
      (fun _ => keeps_pure _) s rfl
  | load | run | showHistory | add | clear => exact keeps_after hignores hdispatch rfl rfl

/-- The modes after any number of uses. -/
theorem modes_foldl (he : e.KeepsMode) (uses : List Use) (s : Session) :
    (uses.foldl (Use.after e t) s).modes = uses.foldl shift s.modes :=
  (List.foldl_hom Session.modes fun s u => (modes_after he u s).symm).symm

/-- Opening the box for the first time remembers the mode, opening it again forgets it. -/
theorem foldl_shift {uses : List Use} (hclose : .closeBox ∉ uses) (m : Mode × Mode) :
    uses.foldl shift m = match uses.countP opens with
      | 0 => m
      | 1 => (.commandLine, m.1)
      | _ => (.commandLine, .commandLine) := by
  induction uses generalizing m with
  | nil => rfl
  | cons u uses ih =>
    rw [List.mem_cons, not_or] at hclose
    rw [List.foldl_cons, ih hclose.2, List.countP_cons]
    cases u with
    | closeBox => exact absurd rfl hclose.1
    -- what the rest starts from is `(.commandLine, m.1)`, so that opening once more forgets `m.1`
    | openBox => rcases uses.countP opens with _ | _ | n <;> rfl
    | load | run | showHistory | browseHistory | up | down | complete | submit | add | clear => rfl

end Use

/-- Whatever is done with a session but opening and closing the box, the mode stays.  Closing the
box returns to the mode from before it was opened, whatever else was done since, if it was opened
once.  If it was opened again before it is closed, that mode is lost, and closing the box does not
leave the command line. -/
theorem Session.mode_restored {e : Engine} (he : e.KeepsMode) (t : Table) :
    (∀ (u : Use) (s : Session), u ≠ .openBox → u ≠ .closeBox → (u.after e t s).mode = s.mode) ∧
    ∀ (s : Session) (uses : List Use), .closeBox ∉ uses →
      (Use.closeBox.after e t (uses.foldl (Use.after e t) s)).mode =
        match uses.countP Use.opens with
        | 0 => s.previousMode
        | 1 => s.mode
        | _ => .commandLine := by
  constructor
  · intro u s hopen hclose
    refine congrArg Prod.fst (Use.modes_after he u s) |>.trans ?_
    cases u with
    | openBox => exact absurd rfl hopen
    | closeBox => exact absurd rfl hclose
    | load | run | showHistory | browseHistory | up | down | complete | submit | add | clear => rfl
  · intro s uses hclose
    have hmodes : (uses.foldl (Use.after e t) s).modes = _ :=
      (Use.modes_foldl he uses s).trans (Use.foldl_shift hclose s.modes)
    refine congrArg Prod.snd hmodes |>.trans ?_
    rcases uses.countP Use.opens with _ | _ | n <;> rfl

/-- While inserting, a text is completed, the box is opened, a line is submitted that deletes one,
and the history is looked through. -/
theorem Session.mode_restored_insert :
    let buffer : Buffer := { Buffer.ofText "a\nb".toList none with mode := .insert }
    let s := start ⟨buffer, Registers.empty, ⟨[], [], [], [], .standard⟩⟩ (.new (.memory []))
    let e := Engine.builtIn .standard [] none
    let t := Table.ofExtra [] []
    let uses : List Use := [.complete "d".toList false, .openBox, .submit "d".toList, .up,
      .browseHistory "y".toList (some 0)]
    let opened := uses.foldl (Use.after e t) s
    e.KeepsMode ∧ (Use.closeBox.after e t opened).mode = .insert ∧
      ((Use.submit "d".toList).after e t opened).mode = opened.mode := by
  intro buffer s e t uses opened
  have he : e.KeepsMode := Engine.keepsMode_builtIn .standard [] none
  obtain ⟨hkept, hclosed⟩ := mode_restored he t
  exact ⟨he, hclosed s uses (by simp [uses]), hkept _ opened nofun nofun⟩

/-- While inserting, the box is opened twice and closed. -/
theorem Session.mode_lost_reopened :
    let buffer : Buffer := { Buffer.ofText "a".toList none with mode := .insert }
    let s := start ⟨buffer, Registers.empty, ⟨[], [], [], [], .standard⟩⟩ (.new (.memory []))
    let after := [.openBox, .openBox, .closeBox].foldl
      (Use.after (Engine.builtIn .standard [] none) (Table.ofExtra [] [])) s
    s.mode = .insert ∧ after.mode = .commandLine := by
  intro buffer s after
  exact ⟨rfl, rfl⟩

/-! ## completion -/

namespace InputBox

/-- Completing a text goes by that text alone: by the candidates for it, of which it shows the
first, or the last one when going backwards. -/
structure CompletesAfresh (t : Table) (typed : Text) (reverse : Bool) (s : Session) : Prop where
  failing : ∀ f, candidates t s.editor.disk typed = .error f →
    runFrom (complete t typed reverse) s =
      (.error f, { s with lastKey := if reverse then "<S-Tab>".toList else "<Tab>".toList })
  lacking : ∀ position, candidates t s.editor.disk typed = .ok (position, []) →
    runFrom (complete t typed reverse) s =
      (.ok typed, { s with lastKey := if reverse then "<S-Tab>".toList else "<Tab>".toList })
  showing : ∀ position items c, candidates t s.editor.disk typed = .ok (position, items) →
    (if reverse then items.getLast? else items.head?) = some c →
    runFrom (complete t typed reverse) s = (.ok (typed.take position ++ c),
      { s with
        lastKey := if reverse then "<S-Tab>".toList else "<Tab>".toList
        completion := ⟨if reverse then items.length - 1 else 0, items, position, typed⟩ })

theorem completesAfresh {s : Session} (h : s.completion = .none) (t : Table) (typed : Text)
    (reverse : Bool) : CompletesAfresh t typed reverse s where
  failing := by
    intro f hf
    simp only [complete, runFrom_bind, runFrom_modify, runFrom_get, h, hf]
    rfl
  lacking := fun position hitems => runFrom_complete_of_nothing (by rw [h]; rfl) hitems
  showing := fun position items c hitems hc =>
    runFrom_complete_of_first (by rw [h]; rfl) hitems hc

end InputBox

/-- Whether an interpreter leaves completion alone. -/
def Engine.KeepsCompletion (e : Engine) : Prop :=
  ∀ g, e.gateway = some g → ∀ raw c, Keeps (fun s => s.completion = c) (g.run raw)

theorem Session.ignoresRecords_completion (c : Completion) :
    IgnoresRecords fun s => s.completion = c :=
  fun _ _ _ _ _ _ hs => hs

namespace Engine

variable {e : Engine}

theorem keepsCompletion_builtIn (settings : Settings) (homes : List (Text × Text))
    (program : Option Interpreter) : (builtIn settings homes program).KeepsCompletion := by
  rintro g hg raw c s rfl
  obtain ⟨p, -, rfl⟩ := Option.map_eq_some_iff.1 hg
  show (runFrom (Delegate.run p settings.delegation raw) s).2.completion = s.completion
  rw [Delegate.run_eq]

/-- Whatever becomes of a recorded line, completion goes on. -/
theorem KeepsCompletion.completion_dispatch (he : e.KeepsCompletion) (c : Completion) (raw : Text) :
    Keeps (fun s => s.completion = c) (e.dispatch raw) := by
  refine keeps_dispatch (Session.ignoresRecords_completion c).emit (fun _ _ _ => ?_)
    fun g hg => he g hg raw c
  rintro s rfl
  rw [runFrom_perform]

end Engine

namespace InputBox

/-- A line that is admitted ends completion, even if it cannot be recorded. -/
theorem completion_enter {s : Session} (h : s.inFlight = false) (e : Engine) (raw : Text) :
    (runFrom (enter e raw) s).2.completion = .none := by
  simp only [enter, runFrom_bind, runFrom_get, h, Bool.false_eq_true, if_false, runFrom_modify]
  split
  · exact runFrom_bind_of_keeps (P := fun s : Session => s.completion = .none)
      ((Session.ignoresRecords_completion .none).record e raw _ rfl) fun _ => keeps_pure _
  · rfl

/-- A line that is refused leaves completion alone. -/
theorem completion_enter_of_inFlight {s : Session} (h : s.inFlight = true) (e : Engine)
    (raw : Text) : (runFrom (enter e raw) s).2.completion = s.completion := by
  simp only [enter, runFrom_bind, runFrom_get, h, if_true, Action.log, Action.emit, runFrom_modify,
    runFrom_pure]

/-- Looking through the history ends completion before anything is chosen. -/
theorem completion_offerHistory (e : Engine) (typed : Text) (s : Session) :
    (runFrom (offerHistory e typed) s).2.completion = .none :=
  runFrom_bind_of_keeps (P := fun s : Session => s.completion = .none) rfl fun _ =>
    (Session.ignoresRecords_completion .none).offerHistory e typed

end InputBox

namespace Use

variable {e : Engine} {t : Table} {s : Session}

/-- Whether the key is pressed that completes a text. -/
def presses : Use → Bool
  | .complete _ _ => true
  | _ => false

/-- Whether completion is ended: anything else at the box does that, but for a line that is refused
and a step along a history in which there is nothing. -/
def ends (s : Session) : Use → Bool
  | .openBox | .closeBox | .browseHistory _ _ => true
  | .submit _ => !s.inFlight
  | .up | .down => !s.history.browsable.isEmpty
  | _ => false

/-- Completion is ended or goes on. -/
theorem completion_after (he : e.KeepsCompletion) {u : Use} (hu : u.presses = false) :
    (u.after e t s).completion = if u.ends s then .none else s.completion := by
  have hdispatch := he.completion_dispatch s.completion
  cases u with
  | complete => cases hu
  | openBox => rfl
  | closeBox => rfl
  | up =>
    rw [after, InputBox.runFrom_historyUp]
    by_cases hb : s.history.browsable = []
    · simp [ends, hb]
    · rw [if_neg hb, ends, List.isEmpty_eq_false_iff.2 hb]
      split <;> rfl
  | down =>
    rw [after, InputBox.runFrom_historyDown]
    by_cases hb : s.history.browsable = []
    · simp [ends, hb]
    · rw [if_neg hb, ends, List.isEmpty_eq_false_iff.2 hb]
      rfl
  | submit raw =>
    -- what admitting or refusing the line leaves, running it keeps
    have hsubmit (c : Completion) (henter : (runFrom (InputBox.enter e raw) s).2.completion = c) :
        (runFrom (InputBox.submit e raw) s).2.completion = c :=
      InputBox.of_submit (Session.ignoresRecords_completion c).emit (fun _ hs => hs)
        (he.completion_dispatch c raw) henter
    cases hflight : s.inFlight with
    | true =>
      rw [ends, hflight]
      exact hsubmit _ (InputBox.completion_enter_of_inFlight hflight e raw)
    | false =>
      rw [ends, hflight]
      exact hsubmit _ (InputBox.completion_enter hflight e raw)
  | browseHistory typed choice =>
    exact runFrom_bind_of_keeps (P := fun s : Session => s.completion = .none)
      (InputBox.completion_offerHistory e typed s) fun _ => keeps_pure _
  | load | run | showHistory | add | clear =>
    exact keeps_after (Session.ignoresRecords_completion _) hdispatch rfl rfl

/-- Once ended, completion stays so until the key is pressed. -/
theorem completion_foldl (he : e.KeepsCompletion) {uses : List Use}
    (huses : ∀ u ∈ uses, u.presses = false) (h : s.completion = .none) :
    (uses.foldl (Use.after e t) s).completion = .none := by
  induction uses generalizing s with
  | nil => exact h
  | cons u uses ih =>
    obtain ⟨hu, huses⟩ := List.forall_mem_cons.1 huses
    refine ih huses ?_
    rw [completion_after he hu, h, ite_self]

end Use

/-- Whatever else is done ends completion in its first step if it is done at the box, but for a line
that is refused and a step along a history in which there is nothing; and nothing else has to do
with completion, running a submitted line included.  Once completion is ended, the next press of the
key goes by the text that it is given, whatever else comes before it. -/
theorem Session.completion_ended {e : Engine} (he : e.KeepsCompletion) (t : Table) :
    (∀ (s : Session) raw, s.inFlight = false →
      (runFrom (InputBox.enter e raw) s).2.completion = .none) ∧
    (∀ (s : Session) raw, (runFrom (InputBox.finish e raw) s).2.completion = s.completion) ∧
    (∀ (s : Session) typed, (runFrom (InputBox.offerHistory e typed) s).2.completion = .none) ∧
    (∀ (s : Session) (u : Use), u.presses = false →
      (u.after e t s).completion = if u.ends s then .none else s.completion) ∧
    ∀ (s : Session) (uses : List Use) typed reverse, s.completion = .none →
      (∀ u ∈ uses, u.presses = false) →
      InputBox.CompletesAfresh t typed reverse (uses.foldl (Use.after e t) s) := by
  refine ⟨fun s raw h => InputBox.completion_enter h e raw, fun s raw => ?_,
    fun s typed => InputBox.completion_offerHistory e typed s,
    fun s u hu => Use.completion_after he hu, fun s uses typed reverse hs huses => ?_⟩
  · unfold InputBox.finish
    split
    · exact he.completion_dispatch s.completion raw s rfl
    · rfl
  · exact InputBox.completesAfresh (Use.completion_foldl he huses hs) t typed reverse

/-- The command that starts with `de` is offered, a line is submitted, and after a step along the
history the command that starts with `su` is offered. -/
theorem Session.completion_ended_submitted :
    let editor : Editor :=
      ⟨Buffer.ofText "a".toList none, Registers.empty, ⟨[], [], [], [], .standard⟩⟩
    let e := Engine.builtIn .standard [] none
    let t := Table.ofExtra [] []
    let s := (Use.complete "de".toList false).after e t (start editor (.new (.memory [])))
    let ended := (Use.submit "d".toList).after e t s
    let s' := [Use.add "x".toList, Use.up].foldl (Use.after e t) ended
    e.KeepsCompletion ∧ s.completion.isActive = true ∧ ended.completion = .none ∧
      ∃ s'', runFrom (InputBox.complete t "su".toList true) s' = (.ok "substitute".toList, s'') := by
  intro editor e t s ended s'
  have he : e.KeepsCompletion := Engine.keepsCompletion_builtIn .standard [] none
  obtain ⟨-, -, -, hafter, hafresh⟩ := completion_ended he t
  have hended : ended.completion = .none :=
    (hafter s (.submit "d".toList) rfl).trans (if_pos (by decide +kernel))
  have hshown := (hafresh ended [.add "x".toList, .up] "su".toList true hended
    (by simp [Use.presses])).showing 0 ["substitute".toList] "substitute".toList
    (by decide +kernel) rfl
  rw [List.take_zero, List.nil_append] at hshown
  exact ⟨he, by decide +kernel, hended, _, hshown⟩

/-- The command that starts with `de` is offered, and a step along an empty history does not end
that: it is still what is shown when the key is pressed for `su`. -/
theorem Session.completion_outlasts_up :
    let editor : Editor :=
      ⟨Buffer.ofText "a".toList none, Registers.empty, ⟨[], [], [], [], .standard⟩⟩
    let t := Table.ofExtra [] []
    let s := [Use.complete "de".toList false, Use.up].foldl
      (Use.after (Engine.builtIn .standard [] none) t) (start editor (.new (.memory [])))
    s.completion.command = "de".toList ∧
      (runFrom (InputBox.complete t "su".toList false) s).1 = .ok "delete".toList := by
  intro editor t s
  exact ⟨by decide +kernel, by decide +kernel⟩

end ExMode
