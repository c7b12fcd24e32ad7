import ExMode.Disk

/-!
# ExMode.Shell.Program

What the programs that scripts call are: functions from arguments, input and disk
to output, an exit code and a disk.  Each does the common part of what its name
is known for; what it cannot do it says on its error output.

Streams are bytes.  A line is what precedes a line feed; a last line without one
is a line too.
-/

namespace ExMode.Shell

open Utf8 (Bytes)

/-- What became of a program. -/
structure Ran where
  code : Nat
  output : Bytes
  errors : Bytes
  disk : Disk
  /-- How long it took, in microseconds, as far as that is the point of it. -/
  elapsed : Nat
  /-- Whether it read its input. -/
  readInput : Bool

/-- A program. -/
abbrev Program := List Text → Bytes → Disk → Ran

namespace Program

/-! ## results -/

/-- Success with some output. -/
def writing (output : Bytes) (d : Disk) : Ran := ⟨0, output, [], d, 0, false⟩

/-- Success or failure, and nothing else. -/
def ending (code : Nat) (d : Disk) : Ran := ⟨code, [], [], d, 0, false⟩

/-- Failure with a line on the error output. -/
def failing (code : Nat) (message : Text) (d : Disk) : Ran :=
  ⟨code, [], Utf8.encode (message ++ ['\n']), d, 0, false⟩

/-- The wording of what stands in the way of a path. -/
def reason : Fault → Text
  | .os e => e.cause.words.toList
  | f => f.message

/-! ## lines -/

/-- The byte that ends a line. -/
def feed : UInt8 := 10

/-- The lines of a stream. -/
def linesOf : Bytes → List Bytes
  | [] => []
  | b :: r =>
    if b = feed then [] :: linesOf r
    else match linesOf r with
      | [] => [[b]]
      | l :: ls => (b :: l) :: ls

/-- Lines as a stream. -/
def streamOf (ls : List Bytes) : Bytes := ls.flatMap fun l => l ++ [feed]

/-! ## naming files -/

/-- The path that an operand names; an empty one names nothing, and nothing can be put there. -/
def pathOf (f : Text) : Path := if f = [] then ⟨.here, [[], []]⟩ else Path.ofText f

/-- Whether a shell reads a character as something else than a part of a name. -/
def isSpecial (c : Char) : Bool := " \t\n!\"$&'()*;<=>?[\\^`|".toList.contains c

/-- A name in quotes. -/
def inQuotes (f : Text) : Text := '\'' :: f ++ ['\'']

/-- A name in a message: in quotes where a shell would need them. -/
def shownName (f : Text) : Text := if f.isEmpty || f.any isSpecial then inQuotes f else f

/-- Whether a fault is that a directory is no file. -/
def isDirectoryFault : Fault → Bool
  | .os e => e.cause == .isDirectory
  | _ => false

/-- What a program says of a file that it cannot read. -/
def complaint (name : String) (f : Text) (e : Fault) : Text :=
  let words : Text := match name, isDirectoryFault e with
    | "head", true => "error reading ".toList ++ inQuotes f
    | "head", false => "cannot open ".toList ++ inQuotes f ++ " for reading".toList
    | "tail", true => "error reading ".toList ++ inQuotes f
    | "tail", false => "cannot open ".toList ++ inQuotes f ++ " for reading".toList
    | "uniq", true => "error reading ".toList ++ inQuotes f
    | "tac", false => "failed to open ".toList ++ inQuotes f ++ " for reading".toList
    | "sort", true => "read failed: ".toList ++ shownName f
    | "sort", false => "cannot read: ".toList ++ shownName f
    | "sed", true => "read error on ".toList ++ f
    | "sed", false => "can't read ".toList ++ f
    | "rev", _ => "cannot open ".toList ++ f
    | "grep", _ => f
    | _, _ => shownName f
  name.toList ++ ": ".toList ++ words ++ ": ".toList ++ reason e

/-- The code with which a program ends when it cannot read a file. -/
def codeOf (name : String) (e : Fault) : Nat :=
  match name with
  | "sed" => if isDirectoryFault e then 4 else 2
  | "grep" => 2
  | "sort" => 2
  | _ => 1

/-! ## reading files -/

/-- What the operands of a program give it to read: the input when there are none, and for a lone
`-`. -/
def sourcesOf (files : List Text) (input : Bytes) (d : Disk) : List (Text × Except Fault Bytes) :=
  if files.isEmpty then [([], .ok input)]
  else files.map fun f => (f, if f = ['-'] then .ok input else d.readBytes (pathOf f))

/-- All that could be read. -/
def readable (sources : List (Text × Except Fault Bytes)) : Bytes :=
  sources.flatMap fun x => x.2.toOption.getD []

/-- What a program says of all that it could not read, and its code. -/
def complaints (name : String) (sources : List (Text × Except Fault Bytes)) : Bytes × Nat :=
  sources.foldl (fun acc x => match x.2 with
    | .ok _ => acc
    | .error e => (acc.1 ++ Utf8.encode (complaint name x.1 e ++ ['\n']), codeOf name e)) ([], 0)

/-- Whether the input is among the files. -/
def readsInput (files : List Text) : Bool := files.isEmpty || files.contains ['-']

/-- A program that turns one stream into another. -/
def filtering (name : String) (files : List Text) (input : Bytes) (d : Disk) (f : Bytes → Bytes) :
    Ran :=
  let sources := sourcesOf files input d
  let (errors, code) := complaints name sources
  ⟨code, f (readable sources), errors, d, 0, readsInput files⟩

/-- A program that turns each file into a part of its output; several parts get titles. -/
def sampling (name : String) (files : List Text) (input : Bytes) (d : Disk) (f : Bytes → Bytes) :
    Ran :=
  let sources := sourcesOf files input d
  let (errors, code) := complaints name sources
  let title (x : Text × Except Fault Bytes) : Text :=
    "==> ".toList ++ (if x.1 = ['-'] then "standard input".toList else x.1) ++ " <==\n".toList
  let parts := sources.filterMap fun x => match x.2 with
    | .ok bytes => some (Utf8.encode (title x), f bytes)
    | .error e => if isDirectoryFault e then some (Utf8.encode (title x), []) else none
  let output := if files.length < 2 then parts.flatMap (·.2)
    else [feed].intercalate (parts.map fun x => x.1 ++ x.2)
  ⟨code, output, errors, d, 0, readsInput files⟩

/-- Arguments that start with a minus sign, and the others. -/
def splitOptions (args : List Text) : List Text × List Text :=
  args.partition fun a => match a with
    | '-' :: _ :: _ => true
    | _ => false

/-- Whether a letter occurs among options. -/
def hasOption (c : Char) (options : List Text) : Bool := options.any fun o => o.contains c

/-! ## writing files -/

/-- Write a stream to a file, and nothing else; the words say what cannot be done to that file. -/
def storing (words : Text) (f : Text) (bytes : Bytes) (d : Disk) : Ran :=
  match (Disk.writeBytes (pathOf f) bytes).run.run d with
  | (.ok (), d) => ending 0 d
  | (.error e, d) => failing 1 (words ++ ": ".toList ++ reason e) d

end Program

end ExMode.Shell
