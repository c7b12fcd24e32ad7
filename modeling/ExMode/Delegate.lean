import ExMode.Session.Engine
import ExMode.Text.Blank

/-!
# ExMode.Delegate

Delegating a line to an outside program.  The buffer is written to a temporary
file, the program is started with the cursor line, the command and that file
among its arguments, and what it leaves in the file becomes the buffer.

The program is a parameter, `Interpreter`: any function from its arguments, its
time limit and the disk to a report and a disk.  Not being started, taking too
long and failing are answers; they leave the buffer alone.
-/

namespace ExMode

/-- What became of a program. -/
inductive RunReport where
  | notStarted (error : OsError)
  | timedOut
  /-- The code is negative if a signal ended the program. -/
  | exited (code : Int) (output errors : Utf8.Bytes)
  deriving DecidableEq, Repr

/-- A way of running programs: from the program and its arguments, and the time it may take. -/
abbrev Interpreter := List Text → Binary64 → Disk → RunReport × Disk

namespace Delegate

/-! ## finding the program -/

/-- The directories in which programs are looked for, and the programs found in each. -/
structure SearchPath where
  directories : List Text
  programs : List Text
  deriving DecidableEq, Repr

/-- Whether a path names a program in one of the directories. -/
def SearchPath.has (search : SearchPath) (path : Text) : Bool :=
  match Text.cutLast '/' path with
  | (some directory, name) =>
    search.directories.contains directory && search.programs.contains name
  | (none, _) => false

/-- Whether an executable file lies at a path. -/
def isExecutable (d : Disk) (p : Path) : Bool :=
  match d.find? p with
  | .ok (some (.file _ executable)) => executable
  | _ => false

/-- The path of a program: a name with a slash is a path itself, any other name is looked for. -/
def locate? (search : SearchPath) (d : Disk) (program : Text) : Option Text :=
  if program.contains '/' then
    if search.has program || isExecutable d (Path.ofText program) then some program else none
  else if search.programs.contains program then
    search.directories.head?.map fun directory => directory ++ '/' :: program
  else none

/-- Look for the program; tell whether it was found. -/
def start (search : SearchPath) (settings : DelegationSettings) : Action Bool := do
  let s ← get
  let found := locate? search s.editor.disk settings.program
  set { s with interpreter := found }
  if found.isNone then
    Action.log .warning ("Delegation program ".toList ++ settings.program.quoted ++
      " not found; delegation stays inactive.".toList)
  return found.isSome

/-- Forget the program. -/
def stop (s : Session) : Session := { s with interpreter := none }

/-! ## running it -/

/-- One of the places where the directory for the temporary file can be made. -/
def scratchPlace (n : Nat) : Path := ⟨.slash, ["tmp".toList, "exline-".toList ++ Text.ofNat n]⟩

/-- Where the directory for the temporary file is made: the first of the places that is free. -/
def scratch (d : Disk) : Path :=
  let isFree (n : Nat) := (d.at? (scratchPlace n).parts).isNone
  scratchPlace (((List.range (d.entries.length + 1)).find? isFree).getD 0)

/-- The temporary file that holds the buffer, with its directory at `place`. -/
def bufferPath (place : Path) : Path := place.join ⟨.here, ["buffer.txt".toList]⟩

/-- The command that a line holds. -/
def commandOf (raw : Text) : Text := Text.trimLeftOf ':' raw.trim

/-- The program and its arguments, the last of which is the file with the buffer. -/
def arguments (program : Text) (args : List Text) (cursor : Int) (command : Text) (file : Path) :
    List Text :=
  program :: args ++ ["-c".toList, Text.ofInt (cursor + 1), "-c".toList, command, "-c".toList,
    "wq!".toList, file.text]

/-- What a program wrote, as one text without blanks around it. -/
def outputText (output errors : Utf8.Bytes) : Text :=
  Text.trim (Utf8.decodeLossy (output ++ errors))

/-- The buffer with other lines, unless they are the same. -/
def adoptLines (b : Buffer) (lines : List Text) : Buffer :=
  if lines = b.lines then b else b.replaceLines 0 ((b.lineCount : Int) - 1) lines

/-- The status text of a program that succeeded: the last line it wrote. -/
def statusOf (output : Text) : Text := output.splitLines.getLast?.getD []

/-- The answer that a report amounts to, and the buffer.  The disk is the one that the program left
behind, and `file` is what it was given. -/
def answer (settings : DelegationSettings) (command : Text) (b : Buffer) (file : Path) (d : Disk) :
    RunReport → Except Fault (Reply × Buffer)
  | .notStarted e => .ok (⟨"Delegation failed to start: ".toList ++ e.message, true⟩, b)
  | .timedOut =>
    .ok (⟨"Delegation timed out after ".toList ++ Decimal.brief settings.timeout ++ "s: ".toList ++
      command, true⟩, b)
  | .exited code output errors =>
    let t := outputText output errors
    if code ≠ 0 then
      .ok (⟨if t = [] then "Delegated command failed: ".toList ++ command else t, true⟩, b)
    else do
      let left ← d.readText file
      return (⟨statusOf t, false⟩, adoptLines b (Buffer.linesOf left))

/-- Let a program that was found run a command on the buffer.  The temporary directory is gone
afterwards, whatever happens. -/
def runProgram (interpreter : Interpreter) (settings : DelegationSettings) (program : Text)
    (raw : Text) : Edit Reply := do
  let e ← get
  let command := commandOf raw
  let place := scratch e.disk
  let file := bufferPath place
  let argv := arguments program settings.args e.buffer.cursor command file
  let prepare : OnDisk Unit := do
    Disk.makeDirectory place
    Disk.writeText file e.buffer.text
  let (ready, d) := prepare.run.run e.disk
  let clean (d : Disk) : Disk :=
    match d.locate place with
    | .ok loc => d.erase loc
    | .error _ => d
  match ready with
  | .error fault =>
    set { e with disk := clean d }
    throw fault
  | .ok () =>
    if argv.any fun a => a.contains '\x00' then
      set { e with disk := clean d }
      throw .embeddedNul
    let (report, d) := interpreter argv settings.timeout d
    let result := answer settings command e.buffer file d report
    set { e with disk := clean d, buffer := (match result with
      | .ok (_, b) => b
      | .error _ => e.buffer) }
    return (← MonadExcept.ofExcept result).1

/-- Let the program run a line, if it was found. -/
def run (interpreter : Interpreter) (settings : DelegationSettings) (raw : Text) :
    Action Reply := do
  match (← get).interpreter with
  | none => return ⟨"Delegation session is not active.".toList, true⟩
  | some program =>
    let result ← Action.editing (runProgram interpreter settings program raw)
    MonadExcept.ofExcept result

/-- The way to the program. -/
def gateway (interpreter : Interpreter) (settings : DelegationSettings) : Gateway where
  isActive := fun s => s.interpreter.isSome
  run := run interpreter settings

end Delegate

end ExMode
