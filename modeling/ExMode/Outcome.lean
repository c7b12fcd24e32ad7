import ExMode.Register

/-!
# ExMode.Outcome

What a command that ran to its end has to tell: the facts, from which the
status-line message, the short code and whether it counts as an error are all
derived.  A command reports on lines only when there are more than two of them.
-/

namespace ExMode

/-- The result of a command. -/
inductive Outcome where
  | nothing
  /-- The cursor went to a line, counted from one. -/
  | moved (line : Int)
  /-- Lines were printed; `first` and `last` are counted from one. -/
  | printed (first last : Int) (lines : List Text)
  | deleted (count : Nat)
  | yanked (count : Nat)
  /-- So many places were substituted on so many lines. -/
  | substituted (hits lines : Nat)
  /-- So many places would be substituted on so many lines. -/
  | counted (hits lines : Nat)
  | historyListed (entries : List Text)
  | registersListed (items : List (Text × Contents))
  | quitting
  /-- There was nothing to write. -/
  | writeSkipped
  | written (path : Text) (lines bytes : Nat)
  /-- The command was refused. -/
  | failed (error : CommandError)
  /-- A command from outside the library said this. -/
  | foreign (isError : Bool) (message : Text)
  deriving DecidableEq, Repr

/-- A report on `count` things, made only when there are more than two. -/
def report (count : Int) (what : Text) : Text :=
  if count ≤ 2 then [] else Text.ofInt count ++ ' ' :: what

namespace Outcome

/-- Whether the result is an error. -/
def isError : Outcome → Bool
  | .failed _ => true
  | .foreign e _ => e
  | _ => false

/-- A short code for the result that does not depend on its details. -/
def code : Outcome → Text
  | .nothing => "ok".toList
  | .moved _ => "cursor_moved".toList
  | .printed _ _ _ => "lines_printed".toList
  | .deleted _ => "lines_deleted".toList
  | .yanked _ => "lines_yanked".toList
  | .substituted _ _ => "lines_substituted".toList
  | .counted _ _ => "matches_counted".toList
  | .historyListed _ => "history_listed".toList
  | .registersListed _ => "registers_listed".toList
  | .quitting => "quit_requested".toList
  | .writeSkipped => "write_skipped".toList
  | .written _ _ _ => "file_written".toList
  | .failed e => e.code.label
  | .foreign true _ => "error".toList
  | .foreign false _ => "ok".toList

/-- The numbered history entries below a heading, the newest one marked. -/
def historyRows (entries : List Text) : List Text :=
  "      #  cmd history".toList ::
    (List.range entries.length).zipWith (fun i entry =>
      (if i + 1 = entries.length then '>' else ' ') :: (Text.ofNat (i + 1)).padLeft 6 ++
        ' ' :: ' ' :: entry) entries

/-- The registers below a heading: `c` marks keystrokes, `l` lines. -/
def registerRows (items : List (Text × Contents)) : List Text :=
  "Type Name Content".toList ::
    items.map fun (name, c) =>
      ' ' :: ' ' :: (if c.isRecorded then 'c' else 'l') :: ' ' :: ' ' :: '"' :: name ++
        ' ' :: ' ' :: ' ' :: c.display

/-- What the status line shows; nothing leaves it alone. -/
def message : Outcome → Text
  | .printed _ _ lines => Text.joinWith ['\n'] lines
  | .deleted n => report n "fewer lines".toList
  | .yanked n => report n "lines yanked".toList
  | .substituted hits lines =>
    report hits ("substitutions on ".toList ++ Text.ofNat lines ++
      (if lines = 1 then " line" else " lines").toList)
  | .counted hits lines =>
    Text.ofNat hits ++ " matches on ".toList ++ Text.ofNat lines ++ " lines".toList
  | .historyListed entries => Text.joinWith ['\n'] (historyRows entries)
  | .registersListed items => Text.joinWith ['\n'] (registerRows items)
  | .written path lines bytes =>
    '"' :: path ++ '"' :: ' ' :: Text.ofNat lines ++ "L, ".toList ++ Text.ofNat bytes ++
      "B written".toList
  | .failed e => e.message
  | .foreign _ m => m
  | .nothing | .moved _ | .quitting | .writeSkipped => []

end Outcome

end ExMode
