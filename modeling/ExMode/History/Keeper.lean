import ExMode.Disk
import ExMode.History.Format
import ExMode.Log
import ExMode.Span

/-!
# ExMode.History.Keeper

Who keeps the history beyond a session.  A keeper in memory just holds the
entries.  A keeper with a file holds entries back until there are enough of them
and then writes the newest ones, through a temporary file beside the history
file, so that a failing write never damages what was there.

Entries handed over before the file was read are only held back; the file is
read before anything is written to it.  What is held back survives reading: it
follows the entries of the file.
-/

namespace ExMode.History

/-- A history file and what its keeper knows about it. -/
structure FileKeeper where
  path : Path
  /-- So many entries are kept when writing. -/
  maxEntries : Int
  /-- So many entries are held back at most, less one. -/
  flushEvery : Int
  entries : List Text
  /-- The number of entries not yet written. -/
  pending : Nat
  /-- Whether the file was read, or its contents were given up. -/
  loaded : Bool
  deriving DecidableEq, Repr

/-- What a keeper works on: its own state, the disk, and the log. -/
structure KeepingState where
  keeper : FileKeeper
  disk : Disk
  log : List LogLine
  deriving DecidableEq, Repr

/-- What a keeper does, which may stop with a fault. -/
abbrev Keeping := ExceptT Fault (StateM KeepingState)

namespace FileKeeper

/-- A keeper of a file that was not read yet. -/
def new (path : Path) (maxEntries flushEvery : Int) : FileKeeper :=
  ⟨path, maxEntries, max 1 flushEvery, [], 0, false⟩

/-- The entries held back, which are the last ones. -/
def unsaved (k : FileKeeper) : List Text :=
  if k.pending = 0 then []
  else Span.slice k.entries ((k.entries.length : Int) - k.pending) k.entries.length

/-- The keeper after reading `entries`, with `unsaved` still to be written. -/
def adopt (k : FileKeeper) (entries unsaved : List Text) : FileKeeper :=
  { k with entries := entries ++ unsaved, pending := unsaved.length, loaded := true }

/-- The keeper with no more entries than are kept. -/
def bounded (k : FileKeeper) : FileKeeper :=
  if (k.entries.length : Int) > k.maxEntries then
    { k with entries := Span.slice k.entries (-k.maxEntries) k.entries.length }
  else k

/-- What the file of the keeper holds; nothing when there is no file. -/
def stored (k : FileKeeper) (d : Disk) : Except Fault (List Text) := do
  if ← d.pathExists k.path then
    let t ← d.readText k.path
    (ofText t).mapError (d.runtime.remarkOn t)
  else return []

/-- The name under which the file is written before it takes its place. -/
def temporary? (k : FileKeeper) : Option Path := k.path.withName? (k.path.name ++ ".tmp".toList)

end FileKeeper

namespace Keeping

/-- Add a line to the log. -/
def note (level : LogLevel) (t : Text) : Keeping Unit :=
  modify fun s => { s with log := s.log ++ [⟨level, t⟩] }

/-- An action on the disk. -/
def onDisk {α : Type} (act : OnDisk α) : Keeping α := do
  let s ← get
  let (result, d) := act.run s.disk
  set { s with disk := d }
  MonadExcept.ofExcept result

/-- Read the file and give its entries. -/
def load : Keeping (List Text) := do
  let s ← get
  let entries ← MonadExcept.ofExcept (s.keeper.stored s.disk)
  set { s with keeper := s.keeper.adopt entries s.keeper.unsaved }
  return entries

/-- Put a written history in the place of the file. -/
def replaceFile (path temporary : Path) (entries : List Text) : OnDisk Unit := do
  Disk.ensureDirectories path.parent
  Disk.writeText temporary (text entries)
  Disk.rename temporary path

/-- Write the newest entries, if any are held back; tell whether none are held back now.  A refusal
of the operating system is logged, and the entries stay held back. -/
def flush : Keeping Bool := do
  let k := (← get).keeper
  if k.pending = 0 then return true
  if ! k.loaded then
    note .warning ("History not loaded from ".toList ++ k.path.text ++ ", flush skipped.".toList)
    return false
  let k := k.bounded
  modify fun s => { s with keeper := k }
  match k.temporary? with
  | none => throw (.noFileName k.path)
  | some temporary =>
    try
      onDisk (replaceFile k.path temporary k.entries)
      modify fun s => { s with keeper := { s.keeper with pending := 0 } }
      return true
    catch fault =>
      match fault with
      | .os e =>
        note .warning ("Failed to persist history to ".toList ++ k.path.text ++ ": ".toList ++
          e.message)
        return false
      | _ => throw fault

/-- Read the file unless that was done.  A file without a history is logged and left alone. -/
def ensureLoaded : Keeping Unit := do
  let k := (← get).keeper
  if ! k.loaded then
    try discard load
    catch fault =>
      if fault.isBadHistory then
        note .warning ("History file ".toList ++ k.path.text ++
          " unreadable, buffering entry: ".toList ++ fault.message)
      else throw fault

/-- Take one more entry, and write when enough are held back. -/
def append (entry : Text) : Keeping Unit := do
  ensureLoaded
  modify fun s => { s with keeper :=
    { s.keeper with entries := s.keeper.entries ++ [entry], pending := s.keeper.pending + 1 } }
  let k := (← get).keeper
  if k.flushEvery ≤ k.pending then discard flush

/-- Drop every entry and write that down. -/
def clear : Keeping Unit := do
  modify fun s => { s with keeper := { s.keeper with entries := [], pending := 1, loaded := true } }
  discard flush

end Keeping

/-! ## files that hold no history -/

/-- Move a history file aside, under its name followed by `.corrupt-` and a stamp.  Gives the new
path, if there was a file. -/
def moveAside (path : Path) (stamp : Text) : OnDisk (Option Path) := do
  if ← MonadExcept.ofExcept ((← get).pathExists path) then
    match path.withName? (path.name ++ ".corrupt-".toList ++ stamp) with
    | none => throw (.noFileName path)
    | some backup =>
      Disk.rename path backup
      return some backup
  else return none

end ExMode.History
