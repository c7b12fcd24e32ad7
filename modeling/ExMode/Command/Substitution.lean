import ExMode.Buffer
import ExMode.Pattern.Magic
import ExMode.Pattern.Template
import ExMode.Text.Blank

/-!
# ExMode.Command.Substitution

The argument of `:substitute`: a delimiter, a pattern, a replacement, flags and
a count.  Everything about it but the group references of the replacement is
checked when it is read; those are checked when the first line is changed.

Each line of a span is changed by itself.  A changed line is cut where the
replacement put line breaks, a line without a match is kept.
-/

namespace ExMode

/-- A substitution ready to be carried out. -/
structure Substitution where
  /-- The pattern as it was typed. -/
  typed : Text
  compiled : Pattern.Compiled
  /-- The replacement in template notation. -/
  template : Text
  /-- Every match of a line, not only the first. -/
  everywhere : Bool
  /-- Count the matches and change nothing. -/
  countOnly : Bool
  count : Option Nat
  deriving DecidableEq, Repr

namespace Substitution

/-- The refusal of a pattern or template, as an error of the command. -/
def faultOf (source : Text) : Pattern.Refusal → Fault
  | .malformed what position =>
    .command ⟨.invalidArgument, Pattern.placedMessage what position source⟩
  | .fault f => f

/-- Whether a character can stand between the parts of a substitution. -/
def isDelimiter (c : Char) : Bool :=
  ! (isAlphanumeric c || c == '\\' || c == '"' || c == '|' || c == ' ')

/-- Whether a character is a flag. -/
def isFlag (c : Char) : Bool := c == 'g' || c == 'i' || c == 'I' || c == 'n'

/-- Read the argument of a substitution. -/
def ofArgs (args : Text) : Except Fault Substitution :=
  match args.trimLeft with
  | [] => .error (.command ⟨.invalidArgument, "missing pattern".toList⟩)
  | delimiter :: body =>
    if ! isDelimiter delimiter then .error (.command ⟨.invalidArgument, delimiter :: body⟩)
    else
      let fields := Magic.splitFields body delimiter
      let typed := fields.head?.getD []
      let replacement := fields[1]?.getD []
      let tail := fields[2]?.getD []
      if typed = [] then .error (.command ⟨.invalidArgument, "empty pattern".toList⟩)
      else
        let (flags, rest) := Text.cut ' ' tail
        let countText := (rest.getD []).trim
        if ! flags.all isFlag || ! countText.all isAsciiDigit then
          .error (.command ⟨.trailingCharacters, tail⟩)
        else
          let (source, caseless) := Magic.searchText typed
          let ignoreCase := ! flags.contains 'I' && (caseless || flags.contains 'i')
          let options := { PatternOptions.plain with ignoreCase := ignoreCase }
          match Pattern.ofTextIn (some Pattern.maxNesting) options source with
          | .error e => .error (faultOf source e)
          | .ok compiled => do
            let count ← if countText = [] then .ok none else countText.readNumeral.map some
            return {
              typed := typed
              compiled := compiled
              template := Magic.templateText replacement
              everywhere := flags.contains 'g'
              countOnly := flags.contains 'n'
              count := count }

/-- A line after substitution: the lines it becomes, and the number of matches. -/
def onLine (s : Substitution) (line : Text) : Except Fault (List Text × Nat) := do
  let template ← (Pattern.Template.ofText s.compiled.groups s.template).mapError
    (faultOf s.template)
  let expand := Pattern.Template.expand template
  let (new, hits) := s.compiled.pattern.replaceIn s.everywhere expand line
  return (if hits = 0 then [line] else Text.splitOn '\n' new, hits)

/-- A span after substitution: its new lines, the number of matches, the number of lines with a
match, and the last of those. -/
structure Substituted where
  lines : List Text
  hits : Nat
  changed : Nat
  lastChanged : Int
  deriving DecidableEq, Repr

/-- Substitute in `n` lines from a position on. -/
def onLinesFrom (s : Substitution) (lines : List Text) : Nat → Int → Substituted →
    Except Fault Substituted
  | 0, _, w => .ok w
  | n + 1, i, w =>
    match Span.at? lines i with
    | none => .error .noSuchItem
    | some line => do
      let (new, hits) ← s.onLine line
      onLinesFrom s lines n (i + 1)
        ⟨w.lines ++ new, w.hits + hits, if hits = 0 then w.changed else w.changed + 1,
          if hits = 0 then w.lastChanged else i⟩

/-- Substitute in the lines from `first` to `last`. -/
def onLines (s : Substitution) (lines : List Text) (first last : Int) : Except Fault Substituted :=
  s.onLinesFrom lines (last + 1 - first).toNat first ⟨[], 0, 0, first⟩

end Substitution

end ExMode
