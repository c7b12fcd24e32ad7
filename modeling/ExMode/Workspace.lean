import ExMode.Console
import ExMode.Delegate
import ExMode.Settings.File

/-!
# ExMode.Workspace

The directory in which the program keeps its settings and its history: making
it, reading the settings, and starting a session from what is there.

Unusable settings and an unusable history do not keep a session from starting.
The standard settings take the place of the former, and the latter is moved
aside; both are told on the console.
-/

namespace ExMode

namespace Action

/-- Show a text on the console. -/
def print (t : Text) : Action Unit := emit (.printed t)

/-- Show a text with markup on the console. -/
def printMarkup (t : Text) : Action Unit := do
  print (← MonadExcept.ofExcept (Console.display (← get).editor.disk.runtime t))

end Action

/-- A directory that holds settings and a history. -/
structure Workspace where
  directory : Path
  deriving DecidableEq, Repr

namespace Workspace

/-- The path of a file in the workspace. -/
def file (w : Workspace) (name : String) : Path := w.directory.join ⟨.here, [name.toList]⟩

/-- The settings file: the YAML file, or the JSON file if only that one is there. -/
def settingsFile (w : Workspace) (d : Disk) : Except Fault Path := do
  let yaml := w.file "config.yaml"
  let json := w.file "config.json"
  if ← d.pathExists yaml then return yaml
  else if ← d.pathExists json then return json
  else return yaml

/-- The settings file in use, unless another one is given. -/
def settingsFileOr (w : Workspace) (given : Option Path) : Action Path := do
  match given with
  | some p => return p
  | none => MonadExcept.ofExcept (w.settingsFile (← get).editor.disk)

/-! ## making one -/

/-- What was done to have something in place. -/
inductive Provision where
  | found
  | created
  | overwritten
  deriving DecidableEq, Repr

/-- The word for what was done. -/
def Provision.word : Provision → Text
  | .found => "exists".toList
  | .created => "created".toList
  | .overwritten => "overwritten".toList

/-- A workspace in place: its settings file, and what was done for the directory and for that
file. -/
structure Prepared where
  settingsFile : Path
  directory : Provision
  settings : Provision
  deriving DecidableEq, Repr

/-- What was done, by what it was done for. -/
def Prepared.actions (p : Prepared) : List (Text × Text) :=
  [("workspace_dir".toList, p.directory.word), ("config_file".toList, p.settings.word)]

/-- Put the workspace in place, and a file with the standard settings unless there is one that is to
be kept. -/
def prepare (w : Workspace) (given : Option Path) (overwrite : Bool) : Action Prepared := do
  let path ← w.settingsFileOr given
  let found ← MonadExcept.ofExcept ((← get).editor.disk.pathExists w.directory)
  Action.onDisk (Disk.ensureDirectories w.directory)
  let directory : Provision := if found then .found else .created
  let kept ← MonadExcept.ofExcept ((← get).editor.disk.pathExists path)
  if kept && ! overwrite then return ⟨path, directory, .found⟩
  else
    Action.onDisk do
      Disk.ensureDirectories path.parent
      Disk.writeText path Settings.standardFile
    return ⟨path, directory, if kept then .overwritten else .created⟩

/-! ## reading the settings -/

/-- The settings of the workspace; the standard ones, with a warning, if the file is unusable. -/
def loadSettings (w : Workspace) (given : Option Path) : Action Settings := do
  let path ← w.settingsFileOr given
  match Settings.load (← get).editor.disk path with
  | .ok settings => return settings
  | .error fault =>
    if fault.isBadSettings then
      Action.printMarkup (Console.marked "yellow" ("Global config at ".toList ++ path.text ++
        " is invalid; falling back to defaults.".toList))
      Action.printMarkup (Console.marked "yellow" ("Reason: ".toList ++ fault.message))
      return .standard
    else throw fault

/-- The history file that settings name, seen from the workspace. -/
def historyFile (w : Workspace) (homes : List (Text × Text)) (settings : Settings) :
    Except Fault Path :=
  ((Path.ofText settings.history.file).expandHome homes .noHome).map w.directory.join

/-! ## starting a session -/

/-- Load the history.  A file that holds none is moved aside, under a name with a stamp, and the
session starts without entries. -/
def loadHistory (path : Path) (stamp : Text) : Action Unit := do
  try Action.load
  catch fault =>
    if fault.isBadHistory then
      match ← Action.onDisk (History.moveAside path stamp) with
      | some backup =>
        Action.printMarkup (Console.marked "yellow"
          ("History file was invalid. Moved to ".toList ++ backup.text ++ ".".toList))
      | none => pure ()
      Action.printMarkup (Console.marked "yellow" ("Reason: ".toList ++ fault.message))
      Action.load
    else throw fault

/-- What sessions need from outside: a way to run programs, where programs are, and a stamp for
names of files that are moved aside. -/
structure Surroundings where
  interpreter : Interpreter
  search : Delegate.SearchPath
  stamp : Text

/-- Start a session from the workspace: its history is loaded, and the program that lines are
delegated to is looked for, if they are to be delegated at all. -/
def start (w : Workspace) (around : Surroundings) (settings : Settings) : Action Engine := do
  let homes := (← get).editor.disk.homes
  let path ← MonadExcept.ofExcept (w.historyFile homes settings)
  modify fun s => { s with history := .new (.file
    (.new path settings.history.maxEntries settings.history.flushEvery)) }
  loadHistory path around.stamp
  let parse := (Table.ofExtra homes []).parse
  if settings.delegation.enabled then
    discard (Delegate.start around.search settings.delegation)
    return ⟨settings, parse, some (Delegate.gateway around.interpreter settings.delegation)⟩
  else return ⟨settings, parse, none⟩

end Workspace

end ExMode
