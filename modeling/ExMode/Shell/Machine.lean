import ExMode.Keyed
import ExMode.Shell.Glob
import ExMode.Shell.Program.Toolbox
import ExMode.Shell.Script

/-!
# ExMode.Shell.Machine

What a running script has: its arguments and variables, where its descriptors
lead, the disk, and the time it has used.  A descriptor leads to one of the two
streams that the caller sees, to a pipe, to a file or to nowhere; a pipe keeps
what was written into it until it is read.

How a script goes on after a command is part of its state: it goes on with the
next one, leaves some loops, leaves a function, or ends.
-/

namespace ExMode.Shell

open Utf8 (Bytes)

/-- Where a descriptor leads. -/
inductive Sink where
  | output
  | errors
  | nowhere
  | pipe (n : Nat)
  | file (loc : Location)
  deriving DecidableEq, Repr

/-- How a script goes on. -/
inductive Flow where
  | next
  /-- Leave this many loops; go on with the next round of the last one if `again`. -/
  | leaving (loops : Nat) (again : Bool)
  | returning
  | exiting
  deriving DecidableEq, Repr

/-- The state of a running script. -/
structure Machine where
  /-- The name of the script, in front of its messages. -/
  name : Text
  arguments : List Text
  bindings : Keyed Text Text
  functions : List (Text × Script)
  status : Nat
  flow : Flow
  /-- Whether a command that fails ends the script. -/
  strict : Bool
  input : Bytes
  descriptors : Keyed Nat Sink
  pipes : List Bytes
  output : Bytes
  errors : Bytes
  disk : Disk
  line : Nat
  elapsed : Nat
  limit : Nat

/-- A step of a script. -/
abbrev Running := StateM Machine

namespace Machine

/-- The machine of a script that is about to start. -/
def start (name : Text) (arguments : List Text) (d : Disk) (limit : Nat) : Machine where
  name := name
  arguments := arguments
  bindings := []
  functions := []
  status := 0
  flow := .next
  strict := false
  input := []
  descriptors := [(1, .output), (2, .errors)]
  pipes := []
  output := []
  errors := []
  disk := d
  line := 1
  elapsed := 0
  limit := limit

/-- The file at a location with more at its end. -/
def appendAt (d : Disk) (loc : Location) (bytes : Bytes) : Disk :=
  match d.at? loc with
  | some (.file old executable) => d.put loc (.file (old ++ bytes) executable)
  | some .directory => d
  | none => d.put loc (.file bytes false)

/-- Write to a sink. -/
def writeTo (m : Machine) (bytes : Bytes) : Sink → Machine
  | .output => { m with output := m.output ++ bytes }
  | .errors => { m with errors := m.errors ++ bytes }
  | .nowhere => m
  | .pipe n => { m with pipes := m.pipes.modify n (· ++ bytes) }
  | .file loc => { m with disk := appendAt m.disk loc bytes }

/-- Write to a descriptor; one that leads nowhere takes nothing. -/
def write (m : Machine) (descriptor : Nat) (bytes : Bytes) : Machine :=
  if bytes.isEmpty then m
  else m.writeTo bytes ((m.descriptors.get? descriptor).getD .nowhere)

/-- A message of the script on its error stream. -/
def complain (m : Machine) (message : Text) : Machine :=
  let place := m.name ++ ": ".toList ++ Text.ofNat m.line ++ ": ".toList
  m.write 2 (Utf8.encode (place ++ message ++ ['\n']))

/-- The script with another status. -/
def ended (m : Machine) (status : Nat) : Machine := { m with status := status }

/-- Take the time that something needs; a script that is out of time ends. -/
def spend (m : Machine) (microseconds : Nat) : Machine :=
  let elapsed := m.elapsed + microseconds
  { m with elapsed := elapsed, flow := if elapsed > m.limit then .exiting else m.flow }

/-- The value of a parameter. -/
def value? (m : Machine) (name : Text) : Option Text :=
  match name with
  | ['#'] => some (Text.ofNat m.arguments.length)
  | ['?'] => some (Text.ofNat m.status)
  | ['$'] => some "4242".toList
  | ['-'] => some (if m.strict then ['e'] else [])
  | ['0'] => some m.name
  | ['@'] => some (Text.joinWith [' '] m.arguments)
  | ['*'] => some (Text.joinWith [' '] m.arguments)
  | ['!'] => none
  | _ =>
    if name.all isAsciiDigit then m.arguments[Text.digitsValue name - 1]?
    else m.bindings.get? name

/-- The integer that a parameter holds. -/
def integer (m : Machine) (name : Text) : Int := Program.integerOf ((m.value? name).getD [])

/-- Give a variable a value. -/
def assign (m : Machine) (name value : Text) : Machine :=
  { m with bindings := m.bindings.set name value }

/-- Run a program with what the descriptors lead to. -/
def runProgram (m : Machine) (program : Program) (args : List Text) : Machine :=
  let ran := program args m.input m.disk
  let m := { m with disk := ran.disk, input := if ran.readInput then [] else m.input }
  ((((m.write 1 ran.output).write 2 ran.errors).ended ran.code).spend ran.elapsed)

end Machine

/-! ## fields -/

/-- A part of an expanded word. -/
inductive Fragment where
  /-- A part that was quoted: it stays as it is, and makes a field even if it is empty. -/
  | fixed (t : Text)
  /-- A part that was written without quotes. -/
  | plain (t : Text)
  /-- A part that is split at its blanks. -/
  | split (t : Text)
  /-- The end of a field. -/
  | border
  deriving DecidableEq, Repr

namespace Fragment

/-- The text of fragments, without regard to fields. -/
def text : List Fragment → Text
  | [] => []
  | .fixed t :: r => t ++ text r
  | .plain t :: r => t ++ text r
  | .split t :: r => t ++ text r
  | .border :: r => ' ' :: text r

/-- Whether a character divides fields. -/
def isDivider (c : Char) : Bool := c == ' ' || c == '\t' || c == '\n'

/-- The fields begun so far, the last one open or not, after a part that is split. -/
def addSplit (done : List Text) : Option Text → Text → List Text × Option Text
  | current, [] => (done, current)
  | current, c :: r =>
    if isDivider c then addSplit (done ++ current.toList) none r
    else addSplit done (some (current.getD [] ++ [c])) r

/-- The fields of fragments, given those that are done and the one that is open. -/
def fieldsFrom (done : List Text) (current : Option Text) : List Fragment → List Text
  | [] => done ++ current.toList
  | .fixed t :: r => fieldsFrom done (some (current.getD [] ++ t)) r
  | .plain t :: r => fieldsFrom done (some (current.getD [] ++ t)) r
  | .split t :: r =>
    let (done, current) := addSplit done current t
    fieldsFrom done current r
  | .border :: r => fieldsFrom (done ++ current.toList) none r

/-- The fields of fragments. -/
def fields (fs : List Fragment) : List Text := fieldsFrom [] none fs

/-- The name pattern that fragments are, after an unquoted text. -/
def globFrom (unquoted : Text) : List Fragment → List GlobItem
  | [] => Glob.ofText unquoted
  | .fixed t :: r => Glob.ofText unquoted ++ Glob.literal t ++ globFrom [] r
  | .plain t :: r => globFrom (unquoted ++ t) r
  | .split t :: r => globFrom (unquoted ++ t) r
  | .border :: r => globFrom (unquoted ++ [' ']) r

/-- The name pattern that fragments are: what was quoted stands for itself. -/
def glob (fs : List Fragment) : List GlobItem := globFrom [] fs

example : fields [.fixed "a".toList, .split " b c".toList, .fixed "d".toList] =
    ["a".toList, "b".toList, "cd".toList] := by decide
example : (fields [.split "  ".toList], fields [.fixed []]) = ([], [[]]) := by decide

end Fragment

end ExMode.Shell
