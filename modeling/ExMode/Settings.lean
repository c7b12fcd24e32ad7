import ExMode.Decimal.Binary64
import ExMode.Text

/-!
# ExMode.Settings

The settings of the program: how lines are delegated to an outside interpreter,
how the history is kept, and the wording of the command line.
-/

namespace ExMode

/-- Whether and how command lines are handed to an outside interpreter. -/
structure DelegationSettings where
  enabled : Bool
  program : Text
  args : List Text
  /-- How long the interpreter may take, in seconds. -/
  timeout : Binary64
  deriving DecidableEq, Repr

/-- How the history is kept. -/
structure HistorySettings where
  file : Text
  maxEntries : Int
  flushEvery : Int
  deriving DecidableEq, Repr

/-- The wording of the command line. -/
structure CommandLineSettings where
  prompt : Text
  historyPlaceholder : Text
  /-- Lines that start like this are not kept in the `:` register. -/
  registerReference : Text
  deriving DecidableEq, Repr

/-- All settings. -/
structure Settings where
  delegation : DelegationSettings
  history : HistorySettings
  commandLine : CommandLineSettings
  deriving DecidableEq, Repr

namespace Settings

/-- The settings that hold where nothing else is said. -/
def standard : Settings where
  delegation :=
    { enabled := false
      program := "nvim".toList
      args := ["-es".toList, "-u".toList, "NONE".toList, "-i".toList, "NONE".toList, "-n".toList]
      timeout := .five }
  history := { file := "history.json".toList, maxEntries := 50, flushEvery := 1 }
  commandLine :=
    { prompt := "Vim command line".toList
      historyPlaceholder := "Vim command history".toList
      registerReference := "reg".toList }

/-- A settings file that spells out the standard settings. -/
def standardFile : Text :=
  ("delegation:\n  enabled: false\n  program: nvim\n  args:\n  - -es\n  - -u\n  - NONE\n  - -i\n" ++
    "  - NONE\n  - -n\n  timeout_seconds: 5.0\nhistory:\n  file: history.json\n" ++
    "  max_entries: 50\n  flush_every: 1\ncommand_line:\n  prompt: Vim command line\n" ++
    "  history_placeholder: Vim command history\n  register_reference_prefix: reg\n").toList

end Settings

end ExMode
