import ExMode.Cli
import ExMode.Shell

/-!
# ExMode.Main

The program at a terminal.  The files below the working directory are read once,
the program runs on that disk, and what it changed is written back after every
step.  Everything else is decided elsewhere.
-/

namespace ExMode.Main

/-! ## the disk -/

/-- How many directories deep files are read. -/
def maxDepth : Nat := 6

/-- The path of a location. -/
def pathOf (loc : Location) : String := String.ofList ('/' :: Text.joinWith ['/'] loc)

/-- Whether a file can be run: what can be told is whether its first line names a program. -/
def startsLikeScript (bytes : Utf8.Bytes) : Bool := bytes.take 2 == [35, 33]

/-- Read what lies at a location and below it. -/
def readBelow : Nat → Disk → Location → IO Disk
  | 0, d, _ => return d
  | depth + 1, d, loc => do
    let directory : IO.FS.DirEntry := ⟨pathOf loc, ""⟩
    let entries ← try directory.root.readDir catch _ => pure #[]
    entries.foldlM (fun d entry => do
      let next := loc ++ [entry.fileName.toList]
      try
        if ← entry.path.isDir then readBelow depth (d.put next .directory) next
        else
          let bytes := (← IO.FS.readBinFile entry.path).toList
          return d.put next (.file bytes (startsLikeScript bytes))
      catch _ => return d) d

/-- The disk as the program finds it. -/
def readDisk : IO Disk := do
  let here := (Path.ofText (← IO.currentDir).toString.toList).parts
  let home := ((← IO.getEnv "HOME").getD "/root").toList
  let above := (List.range (here.length + 1)).map fun n => here.take n
  let bare : Disk := ⟨[], here, [([], home)], [], .standard⟩
  readBelow maxDepth (above.foldl (fun d loc => d.put loc .directory) bare) here

/-- Write what differs between two disks. -/
def writeChanges (before after : Disk) : IO Unit := do
  for (loc, entry) in after.entries do
    if before.at? loc ≠ some entry then
      match entry with
      | .directory => IO.FS.createDirAll (pathOf loc)
      | .file bytes _ => IO.FS.writeBinFile (pathOf loc) ⟨bytes.toArray⟩
  for (loc, entry) in before.entries do
    if after.at? loc = none then
      match entry with
      | .directory => IO.FS.removeDirAll (pathOf loc)
      | .file _ _ => IO.FS.removeFile (pathOf loc)

/-! ## running -/

/-- Show the texts of a journal: what the program says on its output, the log on the other one. -/
def report (journal : List Event) : IO Unit := do
  IO.print (String.ofList (Cli.transcript journal))
  (← IO.getStdout).flush
  for event in journal do
    match event with
    | .log line => IO.eprintln (String.ofList line.text)
    | _ => pure ()

/-- Do something in a session for real: show what happened and write what changed. -/
def really {α : Type} (s : Session) (act : Action α) : IO (Except Fault α × Session) := do
  let (result, after) := act.run.run { s with journal := [] }
  report after.journal
  writeChanges s.editor.disk after.editor.disk
  return (result, after)

/-- The code with which the program ends after a fault, which is told. -/
def failed (fault : Fault) : IO UInt32 := do
  IO.eprintln (String.ofList fault.message)
  return 1

/-- Go on with a dialogue until it is over. -/
partial def goOn (e : Engine) (s : Session) (w : Cli.Waiting) :
    IO (Except Fault Unit × Session) := do
  if w = .nothing then return (.ok (), s)
  let typed ← (← IO.getStdin).getLine
  let line := if typed.isEmpty then none else
    some (Text.trimRightOf '\r' (Text.trimRightOf '\n' typed.toList))
  match ← really s (Cli.Dialogue.answer e w line) with
  | (.ok w, s) => goOn e s w
  | (.error fault, s) => return (.error fault, s)

/-- A dialogue on a file. -/
def converse (around : Workspace.Surroundings) (s : Session) (o : Cli.Options) (file : Path) :
    IO UInt32 := do
  let opening : Action (Engine × Cli.Waiting) := do
    Action.print Cli.greeting
    let e ← Cli.openFile around o file
    return (e, ← Cli.Dialogue.start e)
  match ← really s opening with
  | (.error fault, _) => failed fault
  | (.ok (e, w), s) =>
    let (result, s) ← goOn e s w
    let (closed, _) ← really s (do Cli.Dialogue.finish; Cli.close)
    match result, closed with
    | .error fault, _ => failed fault
    | _, .error fault => failed fault
    | _, _ => return 0

/-- Run the program with its arguments. -/
def run (args : List Text) : IO UInt32 := do
  let d ← readDisk
  let around : Workspace.Surroundings :=
    ⟨Shell.interpreter, Shell.searchPath, Text.ofNat (← IO.monoMsNow)⟩
  match Cli.Request.ofArgs d args with
  | .ok (.converse o file) =>
    converse around (.start ⟨Buffer.empty, Registers.empty, d⟩ (.new (.memory []))) o file
  | _ =>
    let ran := Cli.run around args [] d
    report ran.journal
    writeChanges d ran.disk
    match ran.ending with
    | .code n => return n.toUInt32
    | .fault fault => failed fault

end ExMode.Main

/-- The program. -/
def main (args : List String) : IO UInt32 := ExMode.Main.run (args.map String.toList)
