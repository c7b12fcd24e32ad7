import ExMode.Cli.Dialogue
import ExMode.Cli.Request

/-!
# ExMode.Cli

The program: what it does for a request, what it shows, and how it ends.

Everything happens in a session, and what is shown is read off the journal of
that session: status lines, and what was printed besides.  The program ends well
unless some status line reported an error; a fault that nothing caught ends it as
well, after the history was written.
-/

namespace ExMode.Cli

/-! ## what is shown -/

/-- What the console shows of an event. -/
def shownOf : Event → Text
  | .status t _ => Console.line t
  | .printed t => t
  | _ => []

/-- What the console shows of a journal. -/
def transcript (journal : List Event) : Text := journal.flatMap shownOf

/-- Whether an event reports an error on the status line. -/
def isFailure : Event → Bool
  | .status _ isError => isError
  | _ => false

/-! ## sessions -/

/-- The workspace that options name: by default the directory `.exline` in the working directory. -/
def workspaceOf (d : Disk) (o : Options) : Workspace :=
  ⟨o.workspacePath.getD ⟨.slash, d.here ++ [".exline".toList]⟩⟩

/-- The settings that options lead to. -/
def settingsOf (o : Options) : Action Settings := do
  let w := workspaceOf (← get).editor.disk o
  let settings ← w.loadSettings o.settingsPath
  return match o.delegate with
    | none => settings
    | some wanted => { settings with delegation := { settings.delegation with enabled := wanted } }

/-- The buffer of a file; a file that is not there is an empty buffer. -/
def bufferOf (d : Disk) (file : Path) : Except Fault Buffer := do
  if ← d.pathExists file then return Buffer.ofText (← d.readText file) (some file)
  else return { Buffer.empty with path := some file }

/-- Start a session on a file. -/
def openFile (around : Workspace.Surroundings) (o : Options) (file : Path) : Action Engine := do
  let w := workspaceOf (← get).editor.disk o
  let settings ← settingsOf o
  let e ← w.start around settings
  let b ← MonadExcept.ofExcept (bufferOf (← get).editor.disk file)
  modify fun s => { s with editor := { s.editor with buffer := b } }
  return e

/-- Write the history down and let go of the interpreter. -/
def close : Action Unit := do
  discard (Action.recording History.Recording.flush)
  modify Delegate.stop

/-- Submit lines until the editor is asked to quit. -/
def submitAll (e : Engine) : List Text → Action Unit
  | [] => return ()
  | l :: ls => do
    discard (InputBox.submit e l)
    if ! (← get).editor.buffer.quitRequested then submitAll e ls

/-! ## requests -/

/-- Put a workspace in place and tell what was done. -/
def prepare (o : Options) : Action Unit := do
  let w := workspaceOf (← get).editor.disk o
  let prepared ← w.prepare o.settingsPath o.overwrite
  let rows := prepared.actions.map fun (what, done) => [what, done]
  Action.print (← MonadExcept.ofExcept
    (Console.table "exline init".toList ["Resource".toList, "Status".toList] rows))
  Action.print (← MonadExcept.ofExcept (Console.panel "Initialized".toList
    ("Workspace: ".toList ++ w.directory.text ++ "\nConfig: ".toList ++
      prepared.settingsFile.text)))

/-- Run lines on a file. -/
def runLines (around : Workspace.Surroundings) (o : Options) (file : Path) (lines : List Text) :
    Action Unit := do
  let e ← openFile around o file
  tryFinally (submitAll e lines) close

/-- The text with which a dialogue opens. -/
def greeting : Text :=
  "exline command line. Type Ex commands, '?' for history, or 'exit'.\n".toList

/-- Read lines and run them on a file. -/
def converse (around : Workspace.Surroundings) (o : Options) (file : Path) (input : List Text) :
    Action Unit := do
  Action.print greeting
  let e ← openFile around o file
  tryFinally
    (tryFinally (do Dialogue.withLines e (← Dialogue.start e) input) Dialogue.finish)
    close

/-- Show the history, newest entry first; tell whether it could be read. -/
def list (o : Options) : Action Bool := do
  let d := (← get).editor.disk
  let w := workspaceOf d o
  let settings ← w.loadSettings o.settingsPath
  let path ← MonadExcept.ofExcept (w.historyFile d.homes settings)
  let standard := Settings.standard.history
  modify fun s => { s with history := .new (.file
    (.new path standard.maxEntries standard.flushEvery)) }
  try
    let entries ← Action.recording History.Recording.kept
    Action.print (← MonadExcept.ofExcept (Dialogue.historyTable settings entries.reverse))
    return true
  catch fault =>
    if fault.isBadHistory then
      Action.printMarkup (Console.marked "bold red" fault.message)
      return false
    else throw fault

/-- The commands of the program. -/
def usage : Text :=
  ("Commands:\n  init     put a workspace in place\n" ++
    "  run      run command lines on a file\n  repl     read command lines for a file\n" ++
    "  history  show the history\n").toList

/-- Do what was asked for; tell whether all went well. -/
def perform (around : Workspace.Surroundings) (input : List Text) : Request → Action Bool
  | .prepare o => do
    prepare o
    return true
  | .run o file lines => do
    runLines around o file lines
    return ! (← get).journal.any isFailure
  | .converse o file => do
    converse around o file input
    return true
  | .list o => list o
  | .help => do
    Action.print usage
    return true

/-! ## runs of the program -/

/-- How the program ends. -/
inductive Ending where
  | code (n : Nat)
  | fault (f : Fault)
  deriving DecidableEq, Repr

/-- A run of the program: how it ended, and what happened. -/
structure Run where
  ending : Ending
  journal : List Event
  disk : Disk

/-- Run the program with arguments and the lines of an input. -/
def run (around : Workspace.Surroundings) (args : List Text) (input : List Text) (d : Disk) : Run :=
  match Request.ofArgs d args with
  | .error .usage => ⟨.code 2, [], d⟩
  | .error (.fault f) => ⟨.fault f, [], d⟩
  | .ok request =>
    let s := Session.start ⟨Buffer.empty, Registers.empty, d⟩ (.new (.memory []))
    let (result, s) := (perform around input request).run.run s
    let ending : Ending := match result with
      | .ok true => .code 0
      | .ok false => .code 1
      | .error f => .fault f
    ⟨ending, s.journal, s.editor.disk⟩

end ExMode.Cli
