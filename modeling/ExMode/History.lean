import ExMode.History.Keeper

/-!
# ExMode.History

The history of a session: the lines submitted, oldest first, in front of them
what a keeper kept from earlier sessions.  Earlier entries are loaded at most
once.  Lines added before that follow the loaded ones and are handed to the
keeper only then; lines added later are handed over at once.
-/

namespace ExMode

/-- Who keeps the entries beyond the session. -/
inductive History.Keeper where
  | memory (entries : List Text)
  | file (keeper : History.FileKeeper)
  deriving DecidableEq, Repr

/-- The entries of a session and their keeper. -/
structure History where
  entries : List Text
  loaded : Bool
  keeper : History.Keeper
  deriving DecidableEq, Repr

namespace History

/-- A history whose earlier entries are not loaded yet. -/
def new (keeper : Keeper) : History := ⟨[], false, keeper⟩

/-- The entries as far as browsing is concerned: none before loading. -/
def browsable (h : History) : List Text := if h.loaded then h.entries else []

/-- A history with the disk and the log that its keeper works on. -/
structure Records where
  history : History
  disk : Disk
  log : List LogLine
  deriving DecidableEq, Repr

/-- What is done with a history, which may stop with a fault. -/
abbrev Recording := ExceptT Fault (StateM Records)

namespace Recording

/-- Let the keeper do something, in one way for a memory and in another for a file. -/
def keeping {α : Type} (inMemory : List Text → α × List Text) (inFile : Keeping α) :
    Recording α := do
  let s ← get
  match s.history.keeper with
  | .memory entries =>
    let (a, entries) := inMemory entries
    set { s with history := { s.history with keeper := .memory entries } }
    return a
  | .file k =>
    let (result, state) := inFile.run.run ⟨k, s.disk, s.log⟩
    set { s with
      history := { s.history with keeper := .file state.keeper }
      disk := state.disk
      log := state.log }
    MonadExcept.ofExcept result

/-- The keeper's entries from earlier sessions. -/
def kept : Recording (List Text) := keeping (fun es => (es, es)) Keeping.load

/-- Hand an entry to the keeper. -/
def keep (entry : Text) : Recording Unit :=
  keeping (fun es => ((), es ++ [entry])) (Keeping.append entry)

/-- Let the keeper drop everything. -/
def forget : Recording Unit := keeping (fun _ => ((), [])) Keeping.clear

/-- Let the keeper write what it holds back. -/
def flush : Recording Bool := keeping (fun es => (true, es)) Keeping.flush

/-- Add an entry to those of the session. -/
def push (entry : Text) : Recording Unit :=
  modify fun s => { s with history := { s.history with entries := s.history.entries ++ [entry] } }

/-- Add entries and hand each to the keeper. -/
def pushAll : List Text → Recording Unit
  | [] => pure ()
  | e :: es => do
    push e
    keep e
    pushAll es

/-- Load the entries of earlier sessions, which is done once. -/
def load : Recording Unit := do
  let early := (← get).history
  if early.loaded then throw .alreadyLoaded
  let entries ← kept
  modify fun s => { s with history := { s.history with entries := entries, loaded := true } }
  pushAll early.entries

/-- Add an entry. -/
def add (entry : Text) : Recording Unit := do
  push entry
  if (← get).history.loaded then keep entry

/-- Drop every entry, here and with the keeper. -/
def clear : Recording Unit := do
  modify fun s => { s with history := { s.history with entries := [] } }
  forget

end Recording

end History

end ExMode
