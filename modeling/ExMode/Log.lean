import ExMode.Text

/-!
# ExMode.Log

What the program notes about itself, for whoever runs it rather than for whoever
types the commands: lines with a level.
-/

namespace ExMode

/-- How grave a log line is. -/
inductive LogLevel where
  | debug
  | warning
  | error
  deriving DecidableEq, Repr

/-- A line of the log. -/
structure LogLine where
  level : LogLevel
  text : Text
  deriving DecidableEq, Repr

end ExMode
