import ExMode.Command
import ExMode.History

/-!
# ExMode.Session

A session at the command line: the editor, the history and where one is in it,
the completion under way, and whether a submitted line is still running.

What a session does that can be seen from outside is written to its journal in
the order in which it happens: lines taken into the history, commands run here
or handed to an interpreter, texts put on the status line, log lines, and
questions put to whoever types.
-/

namespace ExMode

/-- Candidates for what was typed, while one of them is shown. -/
structure Completion where
  index : Nat
  items : List Text
  /-- How much of the text in front of the candidates is kept. -/
  position : Nat
  /-- The text before completion began. -/
  command : Text
  deriving DecidableEq, Repr

namespace Completion

/-- No candidates. -/
def none : Completion := ⟨0, [], 0, []⟩

/-- Whether candidates are being shown. -/
def isActive (c : Completion) : Bool := ! c.items.isEmpty

end Completion

/-- Something that can be seen from outside. -/
inductive Event where
  /-- A text was put on the status line. -/
  | status (text : Text) (isError : Bool)
  | log (line : LogLine)
  /-- A line was taken into the history. -/
  | recorded (raw : Text)
  /-- The command of a line was run here. -/
  | performed (raw : Text) (range : Option LineRange)
  /-- A line was handed to an interpreter. -/
  | delegated (raw : Text)
  /-- A line was asked for, with some text to start from. -/
  | prompted (prompt initial : Text)
  /-- A choice was asked for. -/
  | offered (items : List Text) (placeholder : Text)
  /-- A line was submitted; while another one was running it was not accepted. -/
  | submitted (accepted : Bool)
  /-- A text was shown on the console, apart from the status line. -/
  | printed (text : Text)
  deriving DecidableEq, Repr

/-- The state of a session. -/
structure Session where
  editor : Editor
  history : History
  /-- Where one is in the history; at its end when not looking at an entry. -/
  historyIndex : Nat
  completion : Completion
  lastKey : Text
  /-- The mode to return to from the command line. -/
  previousMode : Mode
  /-- Whether a submitted line is still running. -/
  inFlight : Bool
  /-- The program that lines are delegated to, once it was found. -/
  interpreter : Option Text
  journal : List Event

/-- What happens in a session, which may stop with a fault. -/
abbrev Action := ExceptT Fault (StateM Session)

namespace Session

/-- A session in which nothing happened yet. -/
def start (editor : Editor) (history : History) : Session where
  editor := editor
  history := history
  historyIndex := 0
  completion := .none
  lastKey := []
  previousMode := .normal
  inFlight := false
  interpreter := none
  journal := []

/-- The mode of the editor. -/
def mode (s : Session) : Mode := s.editor.buffer.mode

/-- The session with the editor in another mode. -/
def withMode (s : Session) (m : Mode) : Session :=
  { s with editor := { s.editor with buffer := { s.editor.buffer with mode := m } } }

/-- The session at another place in its history, as far as the history reaches. -/
def atIndex (s : Session) (i : Int) : Session :=
  { s with historyIndex := (max 0 (min i s.history.entries.length)).toNat }

/-- The session at the end of its history. -/
def atEnd (s : Session) : Session := s.atIndex s.history.entries.length

/-- The session without completion. -/
def withoutCompletion (s : Session) : Session := { s with completion := .none }

end Session

namespace Action

/-- Add to the journal. -/
def emit (e : Event) : Action Unit := modify fun s => { s with journal := s.journal ++ [e] }

/-- Put a text on the status line. -/
def setStatus (t : Text) (isError : Bool) : Action Unit := emit (.status t isError)

/-- Add a line to the log. -/
def log (level : LogLevel) (t : Text) : Action Unit := emit (.log ⟨level, t⟩)

/-- Let the editor do something, and give what came of it. -/
def editing {α : Type} (act : Edit α) : Action (Except Fault α) := do
  let s ← get
  let (result, e) := act.run.run s.editor
  set { s with editor := e }
  return result

/-- Do something with the disk. -/
def onDisk {α : Type} (act : OnDisk α) : Action α := do
  let s ← get
  let (result, d) := act.run.run s.editor.disk
  set { s with editor := { s.editor with disk := d } }
  MonadExcept.ofExcept result

/-- Do something with the history. -/
def recording {α : Type} (act : History.Recording α) : Action α := do
  let s ← get
  let (result, r) := act.run.run ⟨s.history, s.editor.disk, []⟩
  set { s with
    history := r.history
    editor := { s.editor with disk := r.disk }
    journal := s.journal ++ r.log.map Event.log }
  MonadExcept.ofExcept result

/-- Load the history of earlier sessions, and go to its end. -/
def load : Action Unit := do
  recording History.Recording.load
  modify Session.atEnd

end Action

end ExMode
