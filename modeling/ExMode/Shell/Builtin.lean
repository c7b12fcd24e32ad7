import ExMode.Shell.Machine

/-!
# ExMode.Shell.Builtin

The commands that act on the running script itself: on its arguments, its
variables, its flow and its input.
-/

namespace ExMode.Shell

open Utf8 (Bytes)

namespace Builtin

/-- The number that an argument is, if it is one. -/
def number? (t : Text) : Option Nat :=
  if t ≠ [] ∧ t.all isAsciiDigit then some (Text.digitsValue t) else none

/-- End with the code that an argument is, taken modulo 256. -/
def codeOf (command : String) (m : Machine) (args : List Text) : Machine :=
  match args with
  | [] => m
  | a :: _ =>
    match number? a with
    | some n => m.ended (n % 256)
    | none =>
      let m := m.complain (command.toList ++ ": Illegal number: ".toList ++ a)
      { m with status := 2, flow := .exiting }

/-- End the script. -/
def exit (args : List Text) (m : Machine) : Machine :=
  let m := codeOf "exit" m args
  { m with flow := .exiting }

/-- Leave the function. -/
def «return» (args : List Text) (m : Machine) : Machine :=
  let m := codeOf "return" m args
  if m.flow = .next then { m with flow := .returning } else m

/-- Leave loops, or go on with their next round. -/
def leave (again : Bool) (args : List Text) (m : Machine) : Machine :=
  let n := (args.head?.bind number?).getD 1
  { m.ended 0 with flow := .leaving (n - 1) again }

/-- Drop arguments from the front. -/
def shift (args : List Text) (m : Machine) : Machine :=
  let n := (args.head?.bind number?).getD 1
  if n ≤ m.arguments.length then { m.ended 0 with arguments := m.arguments.drop n }
  else { m.complain "shift: can't shift that many".toList with status := 2, flow := .exiting }

/-- Set options and arguments. -/
def set : List Text → Machine → Machine
  | [], m => m.ended 0
  | ['-', '-'] :: args, m => { m.ended 0 with arguments := args }
  | ('-' :: o) :: args, m => set args { m with strict := m.strict || o.contains 'e' }
  | ('+' :: o) :: args, m => set args { m with strict := m.strict && ! o.contains 'e' }
  | args, m => { m.ended 0 with arguments := args }

/-- Give variables values. -/
def assignAll (args : List Text) (m : Machine) : Machine :=
  args.foldl (fun m a =>
    match Text.cut '=' a with
    | (name, some value) => m.assign name value
    | (_, none) => m) (m.ended 0)

/-- Remove variables and functions. -/
def unset (args : List Text) (m : Machine) : Machine :=
  { m.ended 0 with
    bindings := m.bindings.filter fun x => ! args.contains x.1
    functions := m.functions.filter fun x => ! args.contains x.1 }

/-- The fields of a line for so many names; the last one takes the rest. -/
def fieldsFor : Nat → Text → List Text
  | 0, _ => []
  | 1, t => [(t.reverse.dropWhile Fragment.isDivider).reverse]
  | n + 1, t =>
    t.takeWhile (! Fragment.isDivider ·) ::
      fieldsFor n ((t.dropWhile (! Fragment.isDivider ·)).dropWhile Fragment.isDivider)

/-- A line without the backslashes that protect its characters. -/
def unprotect : Text → Text
  | '\\' :: c :: r => c :: unprotect r
  | c :: r => c :: unprotect r
  | [] => []

/-- Read a line into variables. -/
def read (args : List Text) (m : Machine) : Machine :=
  let raw := args.contains ['-', 'r']
  let names := args.filter fun a => a ≠ ['-', 'r']
  let line := m.input.takeWhile (· != Program.feed)
  let rest := m.input.drop line.length
  let text : Text := (Utf8.decodeLossy line).dropWhile Fragment.isDivider
  let text := if raw then text else unprotect text
  let m := { m with input := rest.drop 1, status := if rest.isEmpty then 1 else 0 }
  (names.zip (fieldsFor names.length text)).foldl (fun m x => m.assign x.1 x.2) m

/-- Change the working directory. -/
def cd (args : List Text) (m : Machine) : Machine :=
  let target := args.head?.getD (((m.disk.homes.lookup []).getD ['/']))
  let p := Path.ofText target
  match m.disk.locate p, (m.disk.isDirectory p).toOption with
  | .ok loc, some true => { m.ended 0 with disk := { m.disk with here := loc } }
  | _, _ => (m.complain ("cd: can't cd to ".toList ++ target)).ended 2

/-- Write the working directory. -/
def pwd (_ : List Text) (m : Machine) : Machine :=
  (m.write 1 (Utf8.encode ('/' :: Text.joinWith ['/'] m.disk.here ++ ['\n']))).ended 0

/-- End the script as a signal does. -/
def kill (_ : List Text) (m : Machine) : Machine := { m.ended 137 with flow := .exiting }

/-- The commands by name. -/
def byName : List (String × (List Text → Machine → Machine)) :=
  [ (":", fun _ m => m.ended 0), ("exit", exit), ("return", «return»), ("break", leave false),
    ("continue", leave true), ("shift", shift), ("set", set), ("export", assignAll),
    ("readonly", assignAll), ("local", assignAll), ("unset", unset), ("read", read), ("cd", cd),
    ("pwd", pwd), ("kill", kill), ("trap", fun _ m => m.ended 0), ("umask", fun _ m => m.ended 0),
    ("wait", fun _ m => m.ended 0) ]

/-- The command of a name. -/
def find? (name : Text) : Option (List Text → Machine → Machine) :=
  byName.findSome? fun x => if x.1.toList = name then some x.2 else none

end Builtin

end ExMode.Shell
