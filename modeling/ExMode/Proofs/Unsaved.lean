import ExMode.Proofs.Session

/-!
# ExMode.Proofs.Unsaved

Edits are not lost silently.  Beside a session the lines are tracked that the
file of its buffer is known to hold: those at the start, and after every line
that wrote the buffer to its own file those of the buffer.

* `unmodified_after` — what a line must have done for the buffer to be unmodified;
* `quitRequested_after` — what a line must have done to quit;
* `unmodifiedIsSaved_run` — after any run, a buffer that counts as unmodified holds the saved
  lines.
-/

namespace ExMode

namespace Engine

variable {settings : Settings} {homes : List (Text × Text)} {program : Option Interpreter}
  {raw : Text} {s : Session}

/-- The file that a line wrote the buffer to, if it did. -/
def wrote? (e : Engine) (raw : Text) (s : Session) : Option Path :=
  match e.performed? raw s with
  | some (c, r, _) => Command.writtenTo? s.editor.buffer c r
  | none => none

/-- An unmodified buffer was unmodified before and holds the same lines, or its own file was just
written. -/
theorem unmodified_after
    (hm : ((builtIn settings homes program).after raw s).editor.buffer.modified = false) :
    (s.editor.buffer.modified = false ∧
      ((builtIn settings homes program).after raw s).editor.buffer.lines = s.editor.buffer.lines) ∨
    ∃ p, (builtIn settings homes program).wrote? raw s = some p ∧
      ((builtIn settings homes program).after raw s).editor.buffer.path = some p := by
  unfold wrote?
  cases hp : (builtIn settings homes program).performed? raw s with
  | none =>
    obtain h | ⟨t, h⟩ := adopts_of_not_performed hp
    · rw [h] at hm ⊢
      exact Or.inl ⟨hm, rfl⟩
    · rw [h] at hm ⊢
      unfold Delegate.adoptLines at hm ⊢
      split at hm
      · rename_i hlines
        rw [if_pos hlines]
        exact Or.inl ⟨hm, rfl⟩
      · cases hm
  | some x =>
    obtain ⟨c, r, ed⟩ := x
    obtain ⟨heditor, start, hstart, hturn⟩ := turn_of_performed hp
    rw [heditor] at hm ⊢
    rw [← hstart]
    exact hturn.unmodified hm

/-- A line that asks to quit forces it, or finds nothing to save, or writes the whole buffer. -/
theorem quitRequested_after (h0 : s.editor.buffer.quitRequested = false)
    (h1 : ((builtIn settings homes program).after raw s).editor.buffer.quitRequested = true) :
    (∃ range, (builtIn settings homes program).parse raw = .ok (.command (.quit true) range)) ∨
    s.editor.buffer.modified = false ∨
    ∃ p, (builtIn settings homes program).wrote? raw s = some p ∧
      ((builtIn settings homes program).after raw s).editor.disk.readBytes p =
        .ok (Utf8.encode s.editor.buffer.text) := by
  unfold wrote?
  cases hp : (builtIn settings homes program).performed? raw s with
  | none =>
    have : ((builtIn settings homes program).after raw s).editor.buffer.quitRequested =
        s.editor.buffer.quitRequested := by
      rcases adopts_of_not_performed hp with h | ⟨t, h⟩ <;> rw [h]
      unfold Delegate.adoptLines
      split <;> rfl
    rw [this, h0] at h1
    cases h1
  | some x =>
    obtain ⟨c, r, ed⟩ := x
    obtain ⟨heditor, start, hstart, hturn⟩ := turn_of_performed hp
    rw [heditor] at h1 ⊢
    rw [← hstart] at h0 ⊢
    obtain rfl | h | h := hturn.quitRequested h0 h1
    · exact Or.inl (parse_of_performed hp)
    · exact Or.inr (Or.inl h)
    · exact Or.inr (Or.inr h)

/-- A line whose write failed leaves the buffer alone. -/
theorem buffer_after_of_isFailure {c : Command} {r : Except Fault Outcome} {ed : Editor}
    (hp : (builtIn settings homes program).performed? raw s = some (c, r, ed))
    (hr : Command.isFailure r = true) :
    ((builtIn settings homes program).after raw s).editor.buffer = s.editor.buffer := by
  obtain ⟨heditor, start, hstart, hturn⟩ := turn_of_performed hp
  rw [heditor, (hturn.eq_of_isFailure hr).1, hstart]

end Engine

/-! ## tracking what is saved -/

/-- A session with the lines that the file of its buffer is known to hold. -/
structure Tracked where
  session : Session
  saved : List Text

namespace Tracked

variable {settings : Settings} {homes : List (Text × Text)} {t : Tracked}

/-- A session whose buffer was just loaded. -/
def start (s : Session) : Tracked := ⟨s, s.editor.buffer.lines⟩

/-- Run a line, and take note when it wrote the buffer to the file of the buffer. -/
def step (e : Engine) (raw : Text) (t : Tracked) : Tracked :=
  let s := e.after raw t.session
  match e.wrote? raw t.session with
  | none => ⟨s, t.saved⟩
  | some p => ⟨s, if s.editor.buffer.path = some p then s.editor.buffer.lines else t.saved⟩

/-- Run some lines, each with the program that it can be handed to. -/
def run (settings : Settings) (homes : List (Text × Text))
    (lines : List (Text × Option Interpreter)) (t : Tracked) : Tracked :=
  lines.foldl (fun t line => t.step (Engine.builtIn settings homes line.2) line.1) t

/-- A buffer that counts as unmodified holds the saved lines. -/
def UnmodifiedIsSaved (t : Tracked) : Prop :=
  t.session.editor.buffer.modified = false → t.session.editor.buffer.lines = t.saved

theorem session_step (e : Engine) (raw : Text) (t : Tracked) :
    (t.step e raw).session = e.after raw t.session := by
  unfold step
  dsimp only
  split <;> rfl

theorem unmodifiedIsSaved_step (h : t.UnmodifiedIsSaved) (raw : Text)
    (program : Option Interpreter) :
    (t.step (Engine.builtIn settings homes program) raw).UnmodifiedIsSaved := by
  intro hm
  rw [session_step] at hm ⊢
  obtain ⟨hold, hlines⟩ | ⟨p, hp, hpath⟩ := Engine.unmodified_after hm
  · -- nothing was edited, so it does not matter whether the lines were saved again
    have hsaved := h hold
    unfold step
    dsimp only
    split
    · rw [hlines, hsaved]
    · dsimp only
      split
      · rfl
      · rw [hlines, hsaved]
  · simp only [step, hp, hpath, if_true]

theorem unmodifiedIsSaved_run (h : t.UnmodifiedIsSaved) (lines : List (Text × Option Interpreter)) :
    (t.run settings homes lines).UnmodifiedIsSaved := by
  induction lines generalizing t with
  | nil => exact h
  | cons line lines ih => exact ih (unmodifiedIsSaved_step h line.1 line.2)

/-- No run of command lines loses edits silently: a buffer that counts as unmodified holds the saved
lines; a line asks to quit only if it forces that, finds the buffer unmodified or writes all of it
to a file; and a write that fails leaves the buffer alone. -/
theorem edits_accounted (s : Session) (settings : Settings) (homes : List (Text × Text))
    (lines : List (Text × Option Interpreter)) :
    let t := (start s).run settings homes lines
    let b := t.session.editor.buffer
    (b.modified = false → b.lines = t.saved) ∧
    ∀ raw program,
      let e := Engine.builtIn settings homes program
      let after := (e.after raw t.session).editor
      (b.quitRequested = false → after.buffer.quitRequested = true →
        (∃ range, e.parse raw = .ok (.command (.quit true) range)) ∨
        b.modified = false ∨
        ∃ p, e.wrote? raw t.session = some p ∧
          after.disk.readBytes p = .ok (Utf8.encode b.text)) ∧
      ∀ target quitAfter onlyIfModified r ed,
        e.performed? raw t.session = some (.write target quitAfter onlyIfModified, r, ed) →
        Command.isFailure r = true → after.buffer = b := by
  intro t b
  refine ⟨unmodifiedIsSaved_run (fun _ => rfl) lines, fun raw program => ⟨?_, ?_⟩⟩
  · exact fun h0 h1 => Engine.quitRequested_after h0 h1
  · intro target quitAfter onlyIfModified r ed hp hr
    exact Engine.buffer_after_of_isFailure hp hr

/-- The disk is full at first; then an edit is written to another file and quitting is refused, it
is written to the file of the buffer, and quitting is not refused any more. -/
theorem edits_accounted_full :
    let b := Buffer.ofText "a".toList (some (Path.ofText "/f".toList))
    let d : Disk := ⟨[], [], [], [some .noSpace], .standard⟩
    let s := Session.start ⟨b, Registers.empty, d⟩ (History.new (.memory []))
    let lines := [("s/a/b/".toList, none), ("w".toList, none), ("w /g".toList, none),
      ("q".toList, none), ("w".toList, none)]
    ((start s).run .standard [] lines).session.editor.buffer.modified = false ∧
      ((start s).run .standard [] lines).session.editor.buffer.lines =
        ((start s).run .standard [] lines).saved ∧
      ((start s).run .standard [] lines).saved = ["b".toList] := by
  intro b d s lines
  have hm : ((start s).run .standard [] lines).session.editor.buffer.modified = false := by
    decide +kernel
  obtain ⟨hlines, -⟩ := edits_accounted s .standard [] lines
  exact ⟨hm, hlines hm, by decide +kernel⟩

end Tracked

end ExMode
