import ExMode.Fault
import ExMode.Keyed
import ExMode.Text.Letter
import ExMode.Text.Numeral

/-!
# ExMode.Register

Registers hold text under one-character names.  Commands write lines to the
registers `a` to `z`, `0` to `9`, `-` and `"`; an upper-case name appends to the
register of its lower case, and `_` swallows what it is given.  The unnamed
register `"` holds what was last written to any of them.

The registers `:`, `.`, `%` and `/` cannot be written by commands.  What they
hold is a record of keystrokes, put there by the editor itself.
-/

namespace ExMode

/-- What a register holds. -/
inductive Contents where
  /-- Lines that a command put there; `linewise` when they are whole lines. -/
  | lines (text : List Text) (linewise : Bool)
  /-- Keystrokes that the editor recorded; no command can write over them. -/
  | recorded (keys : Text)
  deriving DecidableEq, Repr

namespace Contents

/-- The lines held; a record holds none. -/
def held : Contents → List Text
  | .lines text _ => text
  | .recorded _ => []

/-- Whether the register is a record. -/
def isRecorded : Contents → Bool
  | .lines _ _ => false
  | .recorded _ => true

/-- The contents on one line, `^J` for each line break. -/
def display : Contents → Text
  | .lines text linewise =>
    Text.joinWith ['^', 'J'] text ++ (if linewise then ['^', 'J'] else [])
  | .recorded keys => keys

end Contents

/-- A register: what it holds, and the name it goes by in listings. -/
structure Register where
  name : Text
  contents : Contents
  /-- Whether the editor itself put it there, so that no command can write over it. -/
  readonly : Bool
  deriving DecidableEq, Repr

/-- All registers that hold something, each under its key. -/
structure Registers where
  slots : Keyed Text Register
  deriving DecidableEq, Repr

namespace Registers

/-- The register of the command line last run. -/
def commandName : Text := [':']

/-- The register of what was last written. -/
def unnamed : Text := ['"']

/-- Where yanked lines go when no register is named. -/
def yankName : Text := ['0']

/-- Where deleted lines go when no register is named. -/
def deleteName : Text := ['1']

/-- The register that swallows what it is given. -/
def blackHole : Text := ['_']

/-- Whether no command can write to a register. -/
def isReadonly (name : Text) : Bool :=
  name == [':'] || name == ['.'] || name == ['%'] || name == ['/']

/-- Whether commands can write to a register. -/
def isWritable : Text → Bool
  | [c] => isAsciiLetter c || isAsciiDigit c || c == '"' || c == '-' || c == '_'
  | _ => false

/-- Whether a name asks for text to be appended. -/
def appends : Text → Bool
  | [c] => 'A' ≤ c && c ≤ 'Z'
  | _ => false

/-- The register that a name stands for: upper-case names share the register of their lower
case. -/
def slotName (name : Text) : Text := if appends name then name.map Char.toLower else name

/-- No register holds anything. -/
def empty : Registers := ⟨[]⟩

/-- The register under a key, if there is one. -/
def register? (r : Registers) (key : Text) : Option Register := r.slots.get? key

/-- What a register holds, if anything. -/
def get? (r : Registers) (name : Text) : Option Contents :=
  (r.register? name).map Register.contents

/-- Put a register under a key, in the place of what is there. -/
def set (r : Registers) (key : Text) (reg : Register) : Registers := ⟨r.slots.set key reg⟩

/-- Record keystrokes under a name, in the place of what is there. -/
def record (r : Registers) (name keys : Text) : Registers :=
  r.set name ⟨name, .recorded keys, true⟩

/-- The lines that end up in a register when `text` is written to `name`. -/
def payload (r : Registers) (name : Text) (text : List Text) : List Text :=
  if appends name then
    match r.get? (slotName name) with
    | some (.lines old _) => old ++ text
    | _ => text
  else text

/-- Write lines as a command does; without a name they go to the unnamed register. -/
def put (r : Registers) (name : Option Text) (text : List Text) (linewise : Bool) :
    Except Fault Registers :=
  let target := match name with
    | none => unnamed
    | some [] => unnamed
    | some n => n
  if isReadonly target then .error (.readonlyRegister target)
  else if ! isWritable target then
    .error (.command ⟨.invalidRegisterName, '\'' :: target ++ ['\'']⟩)
  else if target = blackHole then .ok r
  else
    let reg : Register := ⟨slotName target, .lines (r.payload target text) linewise, false⟩
    let r' := r.set (slotName target) reg
    .ok (if slotName target = unnamed then r' else r'.set unnamed { reg with name := unnamed })

/-- The names of registers in the order in which they are listed. -/
def listingOrder : List Text :=
  ("\"0123456789abcdefghijklmnopqrstuvwxyz-.:%/".toList).map fun c => [c]

/-- The registers that hold something, in listing order, each with the name it goes by. -/
def items (r : Registers) : List (Text × Contents) :=
  listingOrder.filterMap fun key => (r.register? key).map fun reg => (reg.name, reg.contents)

@[simp] theorem register?_set_self (r : Registers) (key : Text) (reg : Register) :
    (r.set key reg).register? key = some reg := by
  simp [register?, set]

theorem register?_set_of_ne {key other : Text} (h : other ≠ key) (r : Registers)
    (reg : Register) : (r.set key reg).register? other = r.register? other := by
  simp [register?, set, Keyed.get?_set_of_ne h]

@[simp] theorem get?_set_self (r : Registers) (name : Text) (reg : Register) :
    (r.set name reg).get? name = some reg.contents := by
  simp [get?]

theorem get?_set_of_ne {name other : Text} (h : other ≠ name) (r : Registers)
    (reg : Register) : (r.set name reg).get? other = r.get? other := by
  rw [get?, register?_set_of_ne h, get?]

end Registers

end ExMode
