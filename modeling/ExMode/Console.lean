import ExMode.Console.Markup
import ExMode.Runtime
import ExMode.Text.Cell
import ExMode.Text.Line

/-!
# ExMode.Console

What a console shows: lines, tables and panels.  Control characters that would
move the cursor are left out, and tabs become blanks up to the next eighth cell.
A status line is shown as it is, everything else may hold markup.

A table is as wide as its columns need, and a title above it is wrapped to that
width; a word of the title that is too long for it is broken.  In a cell such a
word is cut short: that happens only to tabs, which a column does not reckon with.
-/

namespace ExMode.Console

/-! ## lines -/

/-- Whether a character would move the cursor of a terminal in a way that is not wanted. -/
def movesCursor (c : Char) : Bool :=
  c == '\x07' || c == '\x08' || c == '\x0b' || c == '\x0c' || c == '\r'

/-- A line without tabs, the first `used` cells of which are taken. -/
def expandTabs (used : Nat) : Text → Text
  | [] => []
  | '\t' :: r =>
    let n := 8 - used % 8
    List.replicate n ' ' ++ expandTabs (used + n) r
  | c :: r => c :: expandTabs (used + cellWidth c) r

/-- The lines that a text is shown as. -/
def shownLines (t : Text) : List Text :=
  (Text.splitOn '\n' (t.filter fun c => ! movesCursor c)).map (expandTabs 0)

/-- A text that is shown, with the end of its last line. -/
def shown (t : Text) : Text := Text.joinWith ['\n'] (shownLines t) ++ ['\n']

/-- A text without markup. -/
def line (t : Text) : Text := shown (showPictographs t)

/-- A text with markup. -/
def markupLine (t : Text) : Except Fault Text := do return shown (← shownMarkup t)

/-- What a console shows of a text with markup, unless it fails on the looks that the tags in it ask
for. -/
def display (r : Runtime) (t : Text) : Except Fault Text :=
  match r.unshown.get? t with
  | some fault => .error fault
  | none => markupLine t

example : line "a\tb\x0c".toList = "a       b\n".toList := by decide +kernel

/-! ## wrapping -/

/-- The words of a text, each with the blanks that follow it; leading blanks belong to the first
one. -/
def words (t : Text) : List Text :=
  match t.splitBy fun a b => ! (isBlank a && ! isBlank b) with
  | g :: w :: r => if g.all isBlank then (g ++ w) :: r else g :: w :: r
  | gs => gs

/-- The parts of a long word that fit, given the part that is being filled and its cells. -/
def chop (width : Nat) (current : Text) (used : Nat) : Text → List Text
  | [] => [current]
  | c :: r =>
    if used + cellWidth c > width then current :: chop width [c] (cellWidth c) r
    else chop width (current ++ [c]) (used + cellWidth c) r

/-- The lines that words fill, given the line that is being filled.  A word that is too long for a
line is broken if `breaking`, and stands alone otherwise. -/
def fill (breaking : Bool) (width : Nat) (current : Text) : List Text → List Text
  | [] => [current]
  | w :: ws =>
    let n := Text.cells (Text.trimRight w)
    let before := if current = [] then [] else [current]
    if Text.cells current + n ≤ width then fill breaking width (current ++ w) ws
    else if n > width ∧ breaking then
      let parts := chop width [] 0 w
      before ++ parts.dropLast ++ fill breaking width (parts.getLast?.getD []) ws
    else before ++ fill breaking width w ws

/-- A line without the blanks at its end that make it longer than a width. -/
def trimTo (width : Nat) (t : Text) : Text :=
  t.take (t.length - min (t.length - width) (t.length - (Text.trimRight t).length))

/-- The lines of a text in a width. -/
def wrap (breaking : Bool) (width : Nat) (t : Text) : List Text :=
  (fill breaking width [] (words t)).map (trimTo width)

/-- The part at the front of a text that has so many cells. -/
def front (width : Nat) : Text → Text
  | [] => []
  | c :: r =>
    if cellWidth c ≤ width then c :: front (width - cellWidth c) r else List.replicate width ' '

/-- A line cut short so that it fits. -/
def cutTo (width : Nat) (t : Text) : Text :=
  if Text.cells t ≤ width then t else front (width - 1) t ++ ['…']

example : (wrap true 10 "Vim command history".toList).map (String.ofList ∘ Text.trimRight) =
    ["Vim", "command", "history"] := by decide +kernel
example : (wrap true 8 "an extraordinary title".toList).map (String.ofList ∘ Text.trimRight) =
    ["an", "extraord", "inary", "title"] := by decide +kernel

/-! ## tables -/

/-- A text with blanks up to a width. -/
def padded (width : Nat) (t : Text) : Text := t ++ List.replicate (width - Text.cells t) ' '

/-- A text in the middle of a width. -/
def centred (width : Nat) (t : Text) : Text :=
  padded width (List.replicate ((width - Text.cells t) / 2) ' ' ++ t)

/-- A horizontal line: its left end, what it is made of, what divides columns, and its right end. -/
def rule (left fill divider right : Char) (widths : List Nat) : Text :=
  left :: Text.joinWith [divider] (widths.map fun w => List.replicate (w + 2) fill) ++ [right]

/-- The cells that the lines of a text need, tabs left out. -/
def needed (t : Text) : Nat := ((Text.splitLines t).map Text.cells).max?.getD 0

/-- The widths of the columns of a table. -/
def columnWidths (rows : List (List Text)) : List Nat :=
  match rows with
  | [] => []
  | row :: _ => (List.range row.length).map fun i =>
    (rows.map fun row => needed (row[i]?.getD [])).max?.getD 0

/-- The lines of a row of cells. -/
def rowLines (edge : Char) (widths : List Nat) (row : List Text) : List Text :=
  let cells := (row.zip widths).map fun (t, w) =>
    ((shownLines t).flatMap fun l => (wrap false w l).map (cutTo w), w)
  let height := (cells.map fun x => x.1.length).max?.getD 0
  (List.range height).map fun i =>
    let parts := cells.map fun (ls, w) => ' ' :: padded w (ls[i]?.getD []) ++ [' ']
    edge :: Text.joinWith [edge] parts ++ [edge]

/-- A table with a title above it. -/
def table (title : Text) (headers : List Text) (rows : List (List Text)) : Except Fault Text := do
  let read (row : List Text) : Except Fault (List Text) :=
    row.mapM fun t => do return (← shownMarkup t).filter fun c => ! movesCursor c
  let top ← read headers
  let body ← rows.mapM read
  let title ← shownMarkup title
  let widths := columnWidths (top :: body)
  let width := widths.foldl (fun n w => n + w + 3) 1
  let titleLines := if title = [] then [] else
    ((shownLines title).flatMap (wrap true width)).map fun l => centred width (Text.trimRight l)
  let tableLines := rule '┏' '━' '┳' '┓' widths :: rowLines '┃' widths top ++
    [rule '┡' '━' '╇' '┩' widths] ++ body.flatMap (rowLines '│' widths) ++
    [rule '└' '─' '┴' '┘' widths]
  return (titleLines ++ tableLines).flatMap (· ++ ['\n'])

/-- A framed text with a title in its frame. -/
def panel (title body : Text) : Except Fault Text := do
  let lines := shownLines (← shownMarkup body)
  let width := (lines.map Text.cells).max?.getD 0
  let width := max width (Text.cells title)
  let front := "╭─ ".toList ++ title ++ [' ']
  let top := front ++ List.replicate (width + 3 - Text.cells front) '─' ++ ['╮']
  let bottom := rule '╰' '─' '─' '╯' [width]
  let inside := lines.map fun l => "│ ".toList ++ padded width l ++ " │".toList
  return (top :: inside ++ [bottom]).flatMap (· ++ ['\n'])

end ExMode.Console
