import ExMode.Runtime
import ExMode.Text.Line

/-!
# ExMode.Disk

A disk is a value: what lies at each location, where the working directory is,
and who has which home directory.  Operations that read are functions of the
disk; operations that change it give back the disk they leave behind, together
with a result or the fault that stopped them.

Devices refuse to be written for reasons that no file tree shows.  A disk
therefore carries the refusals to come: each changing operation uses up one
entry of `refusals`, and fails with it when it names a cause.  A statement about
every disk is a statement about every pattern of failing writes.  What works on a
disk also depends on the runtime it works under, which the disk carries along.

A location is a list of names from the root directory; it holds no `..`.
-/

namespace ExMode

/-- What lies at a location. -/
inductive Entry where
  | directory
  | file (bytes : Utf8.Bytes) (executable : Bool)
  deriving DecidableEq, Repr

/-- The names from the root directory down to an entry. -/
abbrev Location := List Text

/-- A file tree, the working directory, the home directories, the refusals to come, and the runtime
of those who work on it. -/
structure Disk where
  entries : Keyed Location Entry
  here : Location
  homes : List (Text × Text)
  refusals : List (Option OsCause)
  runtime : Runtime
  deriving DecidableEq, Repr

/-- An operation that may change the disk and may fail. -/
abbrev OnDisk := ExceptT Fault (StateM Disk)

namespace Disk

/-! ## locations -/

/-- What lies at a location; the root directory is always there. -/
def at? (d : Disk) (loc : Location) : Option Entry :=
  if loc = [] then some .directory else d.entries.get? loc

/-- Put an entry at a location, in the place of what lies there. -/
def put (d : Disk) (loc : Location) (e : Entry) : Disk :=
  { d with entries := d.entries.set loc e }

/-- Remove a location and everything below it. -/
def erase (d : Disk) (loc : Location) : Disk :=
  { d with entries := d.entries.filter fun x => ! loc.isPrefixOf x.1 }

/-- The names directly below a location, in increasing order. -/
def children (d : Disk) (loc : Location) : List Text :=
  (d.entries.filterMap fun x =>
    if x.1.dropLast = loc ∧ x.1 ≠ [] then x.1.getLast? else none).mergeSort Text.atMost

theorem at?_put_self (d : Disk) {loc : Location} (h : loc ≠ []) (e : Entry) :
    (d.put loc e).at? loc = some e := by
  simp [at?, h, put]

theorem at?_put_of_ne (d : Disk) {loc other : Location} (h : other ≠ loc) (e : Entry) :
    (d.put loc e).at? other = d.at? other := by
  simp [at?, put, Keyed.get?_set_of_ne h]

/-! ## from paths to locations -/

/-- The longest name of an entry, in bytes. -/
def maxNameBytes : Nat := 255

/-- The longest text of a path, in bytes. -/
def maxPathBytes : Nat := 4095

/-- Follow the parts of a path from a location.  Every part but the last must lead to a directory;
the last one may lead nowhere yet. -/
def follow (d : Disk) (loc : Location) : List Text → Except OsCause Location
  | [] => .ok loc
  | part :: rest =>
    if (Utf8.encode part).length > maxNameBytes then .error .nameTooLong
    else
      let next := if part = ['.', '.'] then loc.dropLast else loc ++ [part]
      match rest with
      | [] => .ok next
      | _ :: _ =>
        match d.at? next with
        | none => .error .noEntry
        | some (.file _ _) => .error .notDirectory
        | some .directory => follow d next rest

/-- The location that a path names. -/
def locate (d : Disk) (p : Path) : Except OsCause Location :=
  if (Utf8.encode p.text).length > maxPathBytes then .error .nameTooLong
  else d.follow (if p.isAbsolute then [] else d.here) p.parts

/-- What lies at a path. -/
def stat (d : Disk) (p : Path) : Except OsCause Entry := do
  let loc ← d.locate p
  match d.at? loc with
  | none => .error .noEntry
  | some e => .ok e

/-- What lies at a path, if anything does.  Only a path that cannot be asked about is an error. -/
def find? (d : Disk) (p : Path) : Except Fault (Option Entry) :=
  if p.hasNul then .ok none
  else match d.stat p with
    | .ok e => .ok (some e)
    | .error .noEntry => .ok none
    | .error .notDirectory => .ok none
    | .error cause => .error (.os ⟨cause, p.text, none⟩)

/-- Whether something lies at a path. -/
def pathExists (d : Disk) (p : Path) : Except Fault Bool := do return (← d.find? p).isSome

/-- Whether a directory lies at a path. -/
def isDirectory (d : Disk) (p : Path) : Except Fault Bool := do
  return (← d.find? p) = some .directory

/-! ## reading -/

/-- The bytes of the file at a path. -/
def readBytes (d : Disk) (p : Path) : Except Fault Utf8.Bytes :=
  if p.hasNul then .error .embeddedNul
  else match d.stat p with
    | .ok (.file bytes _) => .ok bytes
    | .ok .directory => .error (.os ⟨.isDirectory, p.text, none⟩)
    | .error cause => .error (.os ⟨cause, p.text, none⟩)

/-- The text of the file at a path, with every kind of line ending as a line feed. -/
def readText (d : Disk) (p : Path) : Except Fault Text := do
  let bytes ← d.readBytes p
  match Utf8.decode bytes with
  | .ok t => .ok t.unifyNewlines
  | .error e => .error (.undecodable e)

/-- The names in the directory at a path, in increasing order. -/
def list (d : Disk) (p : Path) : List Text :=
  match d.locate p with
  | .ok loc => d.children loc
  | .error _ => []

/-! ## changing -/

/-- Use up one refusal to come; fail if it names a cause. -/
def attempt (p : Path) (target : Option Path) : OnDisk Unit := do
  let d ← get
  match d.refusals with
  | [] => pure ()
  | r :: rs =>
    set { d with refusals := rs }
    match r with
    | none => pure ()
    | some cause => throw (.os ⟨cause, p.text, target.map (·.text)⟩)

/-- Write a file, in the place of the file that is there. -/
def writeBytes (p : Path) (bytes : Utf8.Bytes) : OnDisk Unit := do
  if p.hasNul then throw .embeddedNul
  attempt p none
  let d ← get
  match d.locate p with
  | .error cause => throw (.os ⟨cause, p.text, none⟩)
  | .ok loc =>
    match d.at? loc with
    | some .directory => throw (.os ⟨.isDirectory, p.text, none⟩)
    | some (.file _ executable) => set (d.put loc (.file bytes executable))
    | none => set (d.put loc (.file bytes false))

/-- Write a text file. -/
def writeText (p : Path) (t : Text) : OnDisk Unit := writeBytes p (Utf8.encode t)

/-- Make one directory. -/
def makeDirectory (p : Path) : OnDisk Unit := do
  if p.hasNul then throw .embeddedNul
  attempt p none
  let d ← get
  match d.locate p with
  | .error cause => throw (.os ⟨cause, p.text, none⟩)
  | .ok loc =>
    match d.at? loc with
    | some _ => throw (.os ⟨.fileExists, p.text, none⟩)
    | none => set (d.put loc .directory)

/-- Make a directory unless there is one.  Where the directory that it is to be in is missing, do
`above` instead. -/
def makeDirectoryElse (p : Path) (above : OnDisk Unit) : OnDisk Unit := do
  try makeDirectory p
  catch fault =>
    match fault with
    | .os ⟨.noEntry, _, _⟩ => if p.parent = p then throw fault else above
    | .os _ =>
      match (← get).isDirectory p with
      | .ok true => pure ()
      | .ok false => throw fault
      | .error e => throw e
    | _ => throw fault

/-- Make one directory unless there is one. -/
def ensureDirectory (p : Path) : OnDisk Unit :=
  makeDirectoryElse p (throw (.os ⟨.noEntry, p.text, none⟩))

/-- Make a directory and, where they are missing, the directories above it.  The call for a
directory is within that for the one below it, and `room` is for how many more there is room. -/
def ensureDirectoriesFrom : (room : Nat) → Path → OnDisk Unit
  | 0, p => makeDirectoryElse p (throw .tooManyCalls)
  | room + 1, p => makeDirectoryElse p do
    ensureDirectoriesFrom room p.parent
    ensureDirectory p

/-- Make a directory and the missing directories above it, unless there are too many of them. -/
def ensureDirectories (p : Path) : OnDisk Unit := do
  ensureDirectoriesFrom (← get).runtime.nesting p

/-- Move everything at and below one location to another. -/
def relocate (d : Disk) (source target : Location) : Disk :=
  let moved := d.entries.filterMap fun x =>
    if source.isPrefixOf x.1 then some (target ++ x.1.drop source.length, x.2) else none
  let kept := ((d.erase target).erase source).entries
  { d with entries := kept ++ moved }

/-- Move a file or a directory, in the place of what a move can replace. -/
def rename (source target : Path) : OnDisk Unit := do
  if source.hasNul || target.hasNul then throw .embeddedNul
  attempt source (some target)
  let d ← get
  let refuse {α : Type} (cause : OsCause) : OnDisk α :=
    throw (.os ⟨cause, source.text, some target.text⟩)
  match d.locate source, d.locate target with
  | .error cause, _ => refuse cause
  | _, .error cause => refuse cause
  | .ok s, .ok t =>
    match d.at? s, d.at? t with
    | none, _ => refuse .noEntry
    | some (.file _ _), some .directory => refuse .isDirectory
    | some .directory, some (.file _ _) => refuse .notDirectory
    | some .directory, some .directory =>
      if s = t then pure ()
      else if (d.children t).isEmpty then set (d.relocate s t)
      else refuse .notEmpty
    | some _, _ => if s = t then pure () else set (d.relocate s t)

end Disk

end ExMode
