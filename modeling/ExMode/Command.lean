import ExMode.Command.Count
import ExMode.Command.Substitution
import ExMode.Disk
import ExMode.Outcome

/-!
# ExMode.Command

The commands, and what running one does to the editor: its buffer, registers and
disk.  Commands either give an outcome or stop with a fault; either way the
editor is left in the state they got to.
-/

namespace ExMode

/-- What commands act on. -/
structure Editor where
  buffer : Buffer
  registers : Registers
  disk : Disk
  deriving DecidableEq, Repr

/-- An action on the editor, which may stop with a fault. -/
abbrev Edit := ExceptT Fault (StateM Editor)

/-- A command from outside the library. -/
structure ForeignCommand where
  delegable : Bool
  perform : Option LineRange → Edit Outcome

/-- A command, read and ready to be run. -/
inductive Command where
  /-- Go to a line: what a bare range means. -/
  | goto
  | delete (target : LineTarget)
  | yank (target : LineTarget)
  | print
  | substitute (substitution : Substitution)
  /-- Write the buffer to a file, its own without a target. -/
  | write (target : Option Path) (quitAfter onlyIfModified : Bool)
  | quit (force : Bool)
  | history
  /-- List the registers with the given names, all of them when none is given. -/
  | registers (names : List Char)
  | foreign (command : ForeignCommand)

namespace Command

/-- Whether an outside interpreter may be asked to run the command instead. -/
def isDelegable : Command → Bool
  | .delete _ => true
  | .substitute _ => true
  | .foreign c => c.delegable
  | _ => false

/-! ## parts of commands -/

/-- The buffer being edited. -/
def buffer : Edit Buffer := do return (← get).buffer

/-- Put another buffer in the place of the one being edited. -/
def setBuffer (b : Buffer) : Edit Unit := modify fun e => { e with buffer := b }

/-- The lines that a command acts on. -/
def span (range : Option LineRange) (count : Option Nat) : Edit LineSpan := do
  MonadExcept.ofExcept ((← buffer).span range count)

/-- Write lines to a register. -/
def putRegister (name : Text) (lines : List Text) : Edit Unit := do
  let e ← get
  let r ← MonadExcept.ofExcept (e.registers.put (some name) lines true)
  set { e with registers := r }

/-- An action on the disk. -/
def onDisk {α : Type} (act : OnDisk α) : Edit (Except Fault α) := do
  let e ← get
  let (result, d) := act.run e.disk
  set { e with disk := d }
  return result

/-! ## the commands -/

/-- Remove lines and keep them in a register. -/
def runDelete (target : LineTarget) (range : Option LineRange) : Edit Outcome := do
  let s ← span range target.count
  let b ← buffer
  let removed := b.linesBetween s.first s.last
  putRegister (target.register.elim Registers.deleteName fun c => [c]) removed
  setBuffer { b.replaceLines s.first s.last [] with cursor := s.first }.clampCursor
  return .deleted removed.length

/-- Keep lines in a register. -/
def runYank (target : LineTarget) (range : Option LineRange) : Edit Outcome := do
  let s ← span range target.count
  let b ← buffer
  let yanked := b.linesBetween s.first s.last
  putRegister (target.register.elim Registers.yankName fun c => [c]) yanked
  return .yanked yanked.length

/-- Show lines and go to the last of them. -/
def runPrint (range : Option LineRange) : Edit Outcome := do
  let s ← span range none
  let b ← buffer
  setBuffer { b with cursor := s.last }
  return .printed (s.first + 1) (s.last + 1) (b.linesBetween s.first s.last)

/-- Go to the last line of a range; without a range stay. -/
def runGoto (range : Option LineRange) : Edit Outcome := do
  match range with
  | none => return .nothing
  | some r =>
    let b ← buffer
    let s ← MonadExcept.ofExcept (r.resolveClamped b)
    setBuffer { b with cursor := s.last }
    return .moved (s.last + 1)

/-- Substitute in lines, or count the matches in them. -/
def runSubstitute (sub : Substitution) (range : Option LineRange) : Edit Outcome := do
  let s ← span range sub.count
  let b ← buffer
  let w ← MonadExcept.ofExcept (sub.onLines b.lines s.first s.last)
  if w.hits = 0 then return .failed ⟨.patternNotFound, sub.typed⟩
  if sub.countOnly then return .counted w.hits w.changed
  setBuffer { b.replaceLines s.first s.last w.lines with cursor := w.lastChanged }.clampCursor
  return .substituted w.hits w.changed

/-- Write the buffer.  A buffer without a file adopts the one it is written to, and a buffer
written to its own file is unmodified. -/
def runWrite (target : Option Path) (quitAfter onlyIfModified : Bool) : Edit Outcome := do
  let b ← buffer
  match target.or b.path with
  | none => return .failed (.plain .noFileName)
  | some path =>
    if onlyIfModified ∧ ¬ b.modified ∧ some path = b.path then
      setBuffer { b with quitRequested := quitAfter }
      return .writeSkipped
    else
      let text := b.text
      match ← onDisk (Disk.writeText path text) with
      | .error (.os e) =>
        return .failed ⟨.cannotOpenFile, path.text ++ ": ".toList ++ e.message⟩
      | .error fault => throw fault
      | .ok () =>
        let own := b.path.getD path
        setBuffer { b with
          path := some own
          modified := b.modified && path != own
          quitRequested := b.quitRequested || quitAfter }
        return .written path.text b.lineCount (Utf8.encode text).length

/-- Ask to quit; a modified buffer refuses unless forced. -/
def runQuit (force : Bool) : Edit Outcome := do
  let b ← buffer
  if b.modified ∧ ¬ force then return .failed (.plain .noWriteSinceLastChange)
  setBuffer { b with quitRequested := true }
  return .quitting

/-- List registers. -/
def runRegisters (names : List Char) : Edit Outcome := do
  let items := (← get).registers.items
  return .registersListed (items.filter fun x =>
    names.isEmpty || names.any fun c => x.1 == [c])

/-- Run a command, with its range if it was given one.  `past` is the history so far. -/
def perform (past : List Text) (range : Option LineRange) : Command → Edit Outcome
  | .goto => runGoto range
  | .delete target => runDelete target range
  | .yank target => runYank target range
  | .print => runPrint range
  | .substitute s => runSubstitute s range
  | .write target quitAfter onlyIfModified => runWrite target quitAfter onlyIfModified
  | .quit force => runQuit force
  | .history => return .historyListed past
  | .registers names => runRegisters names
  | .foreign c => c.perform range

end Command

end ExMode
