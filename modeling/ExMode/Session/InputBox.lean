import ExMode.Session.Engine

/-!
# ExMode.Session.InputBox

The box in which command lines are typed: opening and closing it, walking the
history, completing what was typed, and submitting.  Only one submitted line
runs at a time.  Submitting has two halves, so that what happens between them can
be spoken of: `enter` admits and records the line, `finish` runs it and makes
room for the next.

Completion offers command names after the range, and after the name of a command
that takes a file and a space it offers files.  Pressing the key again goes
through the candidates; doing anything else ends that.
-/

namespace ExMode.InputBox

/-! ## opening and closing -/

/-- Open the box. -/
def openBox (s : Session) : Session :=
  (({ s with previousMode := s.mode }.withMode .commandLine).atIndex
    s.history.browsable.length).withoutCompletion

/-- Close the box. -/
def closeBox (s : Session) : Session := (s.withMode s.previousMode).withoutCompletion

/-! ## submitting -/

/-- Admit and record a line, unless another one is running; tell whether it was admitted. -/
def enter (e : Engine) (raw : Text) : Action Bool := do
  if (← get).inFlight then
    Action.log .warning ("Ignoring cmd=".toList ++ raw ++
      " while another command is running.".toList)
    return false
  else
    modify fun s => { s with inFlight := true, lastKey := "<CR>".toList }.withoutCompletion
    if raw ≠ [] then e.record raw
    return true

/-- Run a line that was admitted. -/
def finish (e : Engine) (raw : Text) : Action Unit := do
  if raw ≠ [] then e.dispatch raw

/-- Make room for the next line. -/
def release : Action Unit := modify fun s => { s with inFlight := false }

/-- Submit a line; tell whether it was admitted.  Room is made even if running it fails. -/
def submit (e : Engine) (raw : Text) : Action Bool := do
  let busy := (← get).inFlight
  try
    let admitted ← enter e raw
    if admitted then
      finish e raw
      release
    Action.emit (.submitted admitted)
    return admitted
  catch fault =>
    if ! busy then release
    throw fault

/-! ## the history -/

/-- The entry one step towards the oldest; nothing without a history. -/
def historyUp : Action (Option Text) := do
  modify fun s => { s with lastKey := "<up>".toList }
  let entries := (← get).history.browsable
  if entries.isEmpty then return none
  modify fun s => s.withoutCompletion.atIndex ((s.historyIndex : Int) - 1)
  match entries[(← get).historyIndex]? with
  | some entry => return some entry
  | none => throw .noSuchItem

/-- The entry one step towards the newest, an empty line past it; nothing without a history. -/
def historyDown : Action (Option Text) := do
  modify fun s => { s with lastKey := "<down>".toList }
  let entries := (← get).history.browsable
  if entries.isEmpty then return none
  modify fun s => s.withoutCompletion.atIndex ((s.historyIndex : Int) + 1)
  return some (entries[(← get).historyIndex]?.getD [])

/-- Offer the entries of the history, what was typed so far included. -/
def offerHistory (e : Engine) (typed : Text) : Action (List Text) := do
  modify Session.withoutCompletion
  e.offerHistory typed

/-- Let an entry be chosen from the history, what was typed so far included. -/
def browseHistory (e : Engine) (typed : Text) (choice : Option Nat) : Action (Option Text) := do
  let items ← offerHistory e typed
  return choice.bind fun i => items[i]?

/-! ## completion -/

/-- The files that a partly typed path can mean: it is completed by the names in its directory that
start with what follows its last slash, a slash after each directory. -/
def fileCandidates (d : Disk) (typed : Text) : Except Fault (List Text) := do
  let (directory, stem) := Text.cutLast '/' typed
  let directory := directory.getD []
  let base := Path.ofText directory
  let front : Text := if directory = [] then [] else directory ++ ['/']
  if ← d.isDirectory base then
    let names := (d.list base).filter fun n => stem.isPrefixOf n
    names.mapM fun n => do
      let slash := if ← d.isDirectory (base.join ⟨.here, [n]⟩) then ['/'] else []
      return front ++ n ++ slash
  else return []

/-- Where the candidates for a typed text go, and the candidates. -/
def candidates (t : Table) (d : Disk) (typed : Text) : Except Fault (Nat × List Text) := do
  let (_, front, rest) ← LineRange.splitFront typed
  let body : Text := Text.trimLeft rest
  let start := front.length + (rest.length - body.length)
  match Text.cut ' ' body with
  | (name, none) => return (start, t.completions name)
  | (name, some argument) =>
    match t.find? (Text.trimRightOf '!' name) with
    | none => return (start, [])
    | some row =>
      if t.fileCommands.contains row.name then
        return (start + name.length + 1, ← fileCandidates d argument)
      else return (start, [])

/-- The text with the candidate shown. -/
def shown (c : Completion) : Text := c.command.take c.position ++ (c.items[c.index]?.getD [])

/-- Complete a typed text, or go on to the next candidate, backwards if asked to. -/
def complete (t : Table) (typed : Text) (reverse : Bool) : Action Text := do
  modify fun s => { s with lastKey := if reverse then "<S-Tab>".toList else "<Tab>".toList }
  let s ← get
  let c := s.completion
  let n := c.items.length
  if c.isActive then
    let index := if reverse then (c.index + n - 1) % n else (c.index + 1) % n
    let c := { c with index := index }
    set { s with completion := c }
    return shown c
  else
    let (position, items) ← MonadExcept.ofExcept (candidates t s.editor.disk typed)
    if items.isEmpty then return typed
    let c : Completion := ⟨if reverse then items.length - 1 else 0, items, position, typed⟩
    set { s with completion := c }
    return shown c

end ExMode.InputBox
