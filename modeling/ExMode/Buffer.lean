import ExMode.Fault
import ExMode.Keyed
import ExMode.Span
import ExMode.Text.Line

/-!
# ExMode.Buffer

The text being edited: its lines, the cursor, the marks, the file it belongs to
and the flags that commands look at.  Lines are numbered from zero here and from
one on the command line.

A buffer may be handed over with its cursor anywhere, so positions are integers,
and lines are cut by the rules of `Span`.
-/

namespace ExMode

/-- The editing modes that the command line knows about. -/
inductive Mode where
  | normal
  | insert
  | visual
  | commandLine
  deriving DecidableEq, Repr

/-- The text being edited, and the state of its editor. -/
structure Buffer where
  lines : List Text
  cursor : Int
  marks : Keyed Char Int
  path : Option Path
  modified : Bool
  mode : Mode
  quitRequested : Bool
  deriving DecidableEq, Repr

namespace Buffer

/-- A buffer of one empty line. -/
def empty : Buffer := ⟨[[]], 0, [], none, false, .normal, false⟩

/-- The lines of a text, at least one. -/
def linesOf (t : Text) : List Text :=
  match t.splitLines with
  | [] => [[]]
  | ls => ls

/-- A buffer holding a text, the cursor on its first line. -/
def ofText (t : Text) (path : Option Path) : Buffer :=
  { empty with lines := linesOf t, path := path }

/-- The number of lines. -/
def lineCount (b : Buffer) : Nat := b.lines.length

/-- The text of a buffer; it ends with a line feed. -/
def text (b : Buffer) : Text := Text.joinWith ['\n'] b.lines ++ ['\n']

/-- The buffer with its cursor brought onto one of its lines. -/
def clampCursor (b : Buffer) : Buffer :=
  { b with cursor := max 0 (min b.cursor (b.lines.length - 1)) }

/-- The buffer with the lines from `first` to `last` replaced.  A buffer always keeps a line. -/
def replaceLines (b : Buffer) (first last : Int) (new : List Text) : Buffer :=
  let lines := match Span.splice b.lines first (last + 1) new with
    | [] => [[]]
    | ls => ls
  clampCursor { b with lines := lines, modified := true }

/-- The lines from `first` to `last`. -/
def linesBetween (b : Buffer) (first last : Int) : List Text :=
  Span.slice b.lines first (last + 1)

/-- A buffer fit for editing: it has a line, the cursor is on one, and no line is two. -/
structure WellFormed (b : Buffer) : Prop where
  ne_nil : b.lines ≠ []
  cursor_nonneg : 0 ≤ b.cursor
  cursor_lt : b.cursor < b.lines.length
  no_newline : ∀ l ∈ b.lines, '\n' ∉ l

theorem linesOf_ne_nil (t : Text) : linesOf t ≠ [] := by
  unfold linesOf
  split
  · simp
  · rename_i h
    exact h

/-- The text of a buffer with lines is each line followed by a line feed. -/
theorem text_eq_unlines {b : Buffer} (h : b.lines ≠ []) : b.text = Text.unlines b.lines := by
  suffices ∀ ls : List Text, ls ≠ [] →
      Text.joinWith ['\n'] ls ++ ['\n'] = Text.unlines ls from this _ h
  intro ls
  induction ls with
  | nil => simp
  | cons l ms ih =>
    intro _
    cases ms with
    | nil => simp [Text.joinWith, Text.unlines]
    | cons m ms =>
      have := ih (by simp)
      simp only [Text.joinWith, Text.unlines, List.flatMap_cons, List.append_assoc] at this ⊢
      simp [this]

end Buffer

end ExMode
