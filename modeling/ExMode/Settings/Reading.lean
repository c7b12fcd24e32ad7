import ExMode.Settings
import ExMode.Settings.Coercion

/-!
# ExMode.Settings.Reading

The settings that a document spells out.  Every setting that is not mentioned
keeps its standard value.  All that is wrong is found at once: the answer is
either settings or the set of fields at fault, each named by the way to it.
-/

namespace ExMode.Settings

/-- Something read from a document, with the fields found at fault on the way. -/
structure Checked (α : Type) where
  value : α
  faults : List Text

namespace Checked

variable {α β : Type}

/-- A value without faults. -/
def clean (a : α) : Checked α := ⟨a, []⟩

/-- The faults seen from outside a field of the given name. -/
def inField (name : Text) (c : Checked α) : Checked α :=
  { c with faults := c.faults.map fun f => if f = [] then name else name ++ '.' :: f }

end Checked

/-! ## fields -/

/-- A field of a mapping: its standard value when the mapping does not name it, and the fault that
it is, named by the empty way, when its value will not do. -/
def field {α : Type} (members : List (Document × Document)) (name : String) (standard : α)
    (take : Document → Checked α) : Checked α :=
  match Document.member? name.toList members with
  | none => .clean standard
  | some d => (take d).inField name.toList

/-- Take a value that either will do or is itself at fault. -/
def scalar {α : Type} (standard : α) (take? : Document → Option α) (d : Document) : Checked α :=
  match take? d with
  | some a => .clean a
  | none => ⟨standard, [[]]⟩

/-- The texts of a list, and the places of the items that are none, counted from `i`. -/
def texts (i : Nat) : List Document → Checked (List Text)
  | [] => .clean []
  | d :: ds =>
    let rest := texts (i + 1) ds
    match d.text? with
    | some t => ⟨t :: rest.value, rest.faults⟩
    | none => ⟨rest.value, Text.ofNat i :: rest.faults⟩

/-- A list of texts. -/
def textList : Document → Checked (List Text)
  | .list ds => texts 0 ds
  | _ => ⟨[], [[]]⟩

/-- How a key is named in a fault. -/
def keyName : Document → Text
  | .string (.text t) => t
  | .bool b => if b then ['1'] else ['0']
  | d => d.shown

/-- The keys of a mapping that name no field. -/
def strays (members : List (Document × Document)) (names : List String) : List Text :=
  members.filterMap fun (k, _) =>
    match k.text? with
    | some t => if names.any fun n => n.toList = t then none else some t
    | none => some (keyName k)

/-- Whether a mapping has a key that is a string and no text.  Nothing else is said about such a
mapping. -/
def hasBrokenKey (members : List (Document × Document)) : Bool :=
  members.any fun x => match x.1 with
    | .string (.broken _) => true
    | _ => false

/-- Read a mapping whose fields have the given names. -/
def mapping {α : Type} (standard : α) (names : List String)
    (read : List (Document × Document) → Checked α) : Document → Checked α
  | .map members =>
    if hasBrokenKey members then ⟨standard, [[]]⟩
    else
      let c := read members
      { c with faults := c.faults ++ strays members names }
  | _ => ⟨standard, [[]]⟩

/-! ## the settings -/

/-- The settings of delegation. -/
def delegationOf : Document → Checked DelegationSettings :=
  mapping standard.delegation ["enabled", "program", "args", "timeout_seconds"] fun ms =>
    let s := standard.delegation
    let enabled := field ms "enabled" s.enabled (scalar s.enabled asBool?)
    let program := field ms "program" s.program (scalar s.program Document.text?)
    let args := field ms "args" s.args textList
    let timeout := field ms "timeout_seconds" s.timeout (scalar s.timeout asPositiveNumber?)
    ⟨⟨enabled.value, program.value, args.value, timeout.value⟩,
      enabled.faults ++ program.faults ++ args.faults ++ timeout.faults⟩

/-- The settings of the history. -/
def historyOf : Document → Checked HistorySettings :=
  mapping standard.history ["file", "max_entries", "flush_every"] fun ms =>
    let s := standard.history
    let file := field ms "file" s.file (scalar s.file Document.text?)
    let maxEntries := field ms "max_entries" s.maxEntries (scalar s.maxEntries asPositive?)
    let flushEvery := field ms "flush_every" s.flushEvery (scalar s.flushEvery asPositive?)
    ⟨⟨file.value, maxEntries.value, flushEvery.value⟩,
      file.faults ++ maxEntries.faults ++ flushEvery.faults⟩

/-- The wording of the command line. -/
def commandLineOf : Document → Checked CommandLineSettings :=
  mapping standard.commandLine ["prompt", "history_placeholder", "register_reference_prefix"]
    fun ms =>
      let s := standard.commandLine
      let prompt := field ms "prompt" s.prompt (scalar s.prompt Document.text?)
      let placeholder := field ms "history_placeholder" s.historyPlaceholder
        (scalar s.historyPlaceholder Document.text?)
      let reference := field ms "register_reference_prefix" s.registerReference
        (scalar s.registerReference Document.text?)
      ⟨⟨prompt.value, placeholder.value, reference.value⟩,
        prompt.faults ++ placeholder.faults ++ reference.faults⟩

/-- All settings. -/
def settingsOf : Document → Checked Settings :=
  mapping standard ["delegation", "history", "command_line"] fun ms =>
    let delegation := field ms "delegation" standard.delegation delegationOf
    let history := field ms "history" standard.history historyOf
    let commandLine := field ms "command_line" standard.commandLine commandLineOf
    ⟨⟨delegation.value, history.value, commandLine.value⟩,
      delegation.faults ++ history.faults ++ commandLine.faults⟩

/-- Something checked, or the set of fields at fault. -/
def Checked.settle {α : Type} (c : Checked α) : Except Flaw α :=
  if c.faults = [] then .ok c.value
  else .error (.rejected (c.faults.eraseDups.mergeSort Text.atMost))

/-- The settings that a document spells out; the empty document spells out the standard ones. -/
def ofDocument : Document → Except Flaw Settings
  | .null => .ok standard
  | .map members => (settingsOf (.map members)).settle
  | _ => .error .notAnObject

end ExMode.Settings
