import ExMode.Command.Table
import ExMode.Session
import ExMode.Settings

/-!
# ExMode.Session.Engine

Running command lines.  Every line that is not empty is first recorded and then
takes one route: its command is run here, or the line is handed to the outside
interpreter as it was typed, or it is refused.  What comes of it goes to the
status line or to the log; refusals and failures end there.

The interpreter is a parameter: whether it can be asked, and what it answers.
-/

namespace ExMode

/-- The answer of an interpreter. -/
structure Reply where
  status : Text
  isError : Bool
  deriving DecidableEq, Repr

/-- A way to an outside interpreter. -/
structure Gateway where
  /-- Whether the interpreter can be asked. -/
  isActive : Session → Bool
  /-- Let the interpreter run a line. -/
  run : Text → Action Reply

/-- What running command lines depends on: the settings, the reading of lines, and the way to an
interpreter, if there is one. -/
structure Engine where
  settings : Settings
  parse : Text → Except Fault Table.Parsed
  gateway : Option Gateway

namespace Engine

/-! ## recording -/

/-- Whether a line refers to the registers, so that it is kept out of the `:` register. -/
def refersToRegisters (e : Engine) (raw : Text) : Bool :=
  e.settings.commandLine.registerReference.isPrefixOf (Text.trimLeftOf ':' raw)

/-- Take a line into the history and, unless it refers to the registers, into the `:` register. -/
def record (e : Engine) (raw : Text) : Action Unit := do
  Action.emit (.recorded raw)
  Action.recording (History.Recording.add raw)
  modify Session.atEnd
  if ! e.refersToRegisters raw then
    modify fun s => { s with editor :=
      { s.editor with registers := s.editor.registers.record Registers.commandName raw } }

/-! ## routes -/

/-- The way to an interpreter that can be asked now. -/
def activeGateway? (e : Engine) (s : Session) : Option Gateway :=
  if e.settings.delegation.enabled then e.gateway.filter fun g => g.isActive s else none

/-- The way to an interpreter, if one is wanted and can be asked now. -/
def gatewayIf (e : Engine) (wanted : Bool) : Action (Option Gateway) := do
  let s ← get
  return if wanted then e.activeGateway? s else none

/-- Hand a line to an interpreter. -/
def delegate (g : Gateway) (raw : Text) : Action Reply := do
  Action.emit (.delegated raw)
  g.run raw

/-- Run the command of a line here. -/
def perform (raw : Text) (c : Command) (range : Option LineRange) : Action Outcome := do
  Action.emit (.performed raw range)
  let past := (← get).history.entries
  let result ← Action.editing (c.perform past range)
  MonadExcept.ofExcept result

/-- Show what came of a command; a command that has nothing to say leaves the status line alone. -/
def publish (o : Outcome) : Action Unit := do
  if o.message ≠ [] then Action.setStatus o.message o.isError

/-- Show a failure: the error of a command as it is, any other fault as an internal error. -/
def reportFault (raw : Text) (fault : Fault) : Action Unit := do
  match fault.asCommandError? with
  | some _ => Action.setStatus fault.message true
  | none =>
    Action.log .error ("Error executing cmd=".toList ++ raw ++ ".".toList)
    Action.setStatus (CommandError.message ⟨.internalError, fault.message⟩) true

/-- Carry out a line that was read, here or by an interpreter. -/
def execute (e : Engine) (raw : Text) (c : Command) (range : Option LineRange) : Action Unit := do
  try
    match ← e.gatewayIf c.isDelegable with
    | some g =>
      let reply ← delegate g raw
      Action.setStatus reply.status reply.isError
    | none =>
      let o ← perform raw c range
      publish o
  catch fault => reportFault raw fault

/-- Deal with a line that was refused: one that names no command may mean something to an
interpreter, anything else is logged. -/
def refuse (e : Engine) (raw : Text) (error : CommandError) : Action Unit := do
  match ← e.gatewayIf (error.code = .notAnEditorCommand) with
  | some g =>
    try
      let reply ← delegate g raw
      Action.setStatus reply.status true
    catch fault =>
      Action.log .error ("Delegation failed for cmd=".toList ++ raw ++ ".".toList)
      Action.setStatus fault.message true
  | none =>
    Action.log .warning ("Error parsing cmd=".toList ++ raw ++ ". err=".toList ++ error.message ++
      ".".toList)

/-- Read a recorded line and take its route. -/
def dispatch (e : Engine) (raw : Text) : Action Unit := do
  match e.parse raw with
  | .error fault =>
    Action.log .error ("Parser crashed on cmd=".toList ++ raw ++ ".".toList)
    e.refuse raw ⟨.internalError, fault.message⟩
  | .ok (.refused error) => e.refuse raw error
  | .ok (.command c range) => e.execute raw c range

/-- Run one command line; an empty line does nothing. -/
def run (e : Engine) (raw : Text) : Action Unit := do
  if raw ≠ [] then
    e.record raw
    e.dispatch raw

/-! ## asking whoever types -/

/-- Ask for a line and run it; without an answer nothing is recorded. -/
def promptAndRun (e : Engine) (initial : Text) (answer : Option Text) : Action Unit := do
  Action.emit (.prompted e.settings.commandLine.prompt initial)
  match answer with
  | none => Action.log .debug "Command-line prompt cancelled.".toList
  | some raw => e.run raw

/-- Take what was typed so far into the history, and offer its entries, newest first. -/
def offerHistory (e : Engine) (initial : Text) : Action (List Text) := do
  Action.recording (History.Recording.add initial)
  modify Session.atEnd
  let items := (← get).history.entries.reverse
  Action.emit (.offered items e.settings.commandLine.historyPlaceholder)
  return items

/-- Take what was typed so far into the history, and let an entry be chosen. -/
def showHistory (e : Engine) (initial : Text) (choice : Option Nat) : Action (Option Text) := do
  let items ← e.offerHistory initial
  return choice.bind fun i => items[i]?

end Engine

end ExMode
