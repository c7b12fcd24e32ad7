import ExMode.Disk

/-!
# ExMode.Cli.Request

What the arguments of the program ask for.  A command comes first; its options
may stand anywhere among its arguments, a later one wins over an earlier one, and
after `--` nothing is an option any more.
-/

namespace ExMode.Cli

/-- The options that arguments give; paths are kept as they were typed. -/
structure Options where
  workspace : Option Text
  settings : Option Text
  overwrite : Bool
  delegate : Option Bool
  deriving DecidableEq, Repr

/-- The workspace directory that was given. -/
def Options.workspacePath (o : Options) : Option Path := o.workspace.map Path.ofText

/-- The settings file that was given. -/
def Options.settingsPath (o : Options) : Option Path := o.settings.map Path.ofText

/-- What the program is asked to do. -/
inductive Request where
  /-- Put a workspace in place. -/
  | prepare (options : Options)
  /-- Run lines on a file. -/
  | run (options : Options) (file : Path) (lines : List Text)
  /-- Read lines and run them on a file. -/
  | converse (options : Options) (file : Path)
  /-- Show the history. -/
  | list (options : Options)
  | help
  deriving DecidableEq, Repr

/-- Why arguments ask for nothing. -/
inductive Refusal where
  /-- They are not used as they are meant to be. -/
  | usage
  | fault (f : Fault)
  deriving DecidableEq, Repr

/-- The commands of the program. -/
inductive Verb where
  | prepare
  | run
  | converse
  | list
  deriving DecidableEq, Repr

/-- The command of a name. -/
def Verb.ofText? (t : Text) : Option Verb :=
  [("init", Verb.prepare), ("run", .run), ("repl", .converse), ("history", .list)].findSome?
    fun x => if x.1.toList = t then some x.2 else none

/-- What an option changes; some take a value. -/
inductive Choice where
  | valued (apply : Text → Options → Options)
  | bare (apply : Options → Options)
  | help

/-- What an option of a command changes, if the command has it. -/
def choice? (verb : Verb) (name : Text) : Option Choice :=
  match verb, String.ofList name with
  | _, "--workspace-dir" => some (.valued fun t o => { o with workspace := some t })
  | _, "--config-file" => some (.valued fun t o => { o with settings := some t })
  | .prepare, "--overwrite-config" => some (.bare fun o => { o with overwrite := true })
  | .run, "--delegate" => some (.bare fun o => { o with delegate := some true })
  | .run, "--no-delegate" => some (.bare fun o => { o with delegate := some false })
  | .converse, "--delegate" => some (.bare fun o => { o with delegate := some true })
  | .converse, "--no-delegate" => some (.bare fun o => { o with delegate := some false })
  | _, "--help" => some .help
  | _, _ => none

/-- Options and other arguments told apart. -/
structure Sorted where
  options : Options
  others : List Text
  help : Bool
  deriving DecidableEq, Repr

/-- Whether an argument is an option. -/
def isOption : Text → Bool
  | '-' :: _ :: _ => true
  | _ => false

/-- The arguments of a command told apart. -/
def sort? (verb : Verb) (s : Sorted) : List Text → Option Sorted
  | [] => some s
  | a :: rest =>
    if a = ['-', '-'] then some { s with others := s.others ++ rest }
    else if ! isOption a then sort? verb { s with others := s.others ++ [a] } rest
    else
      let (name, given) := Text.cut '=' a
      match choice? verb name, given with
      | some (.bare apply), none => sort? verb { s with options := apply s.options } rest
      | some .help, none => sort? verb { s with help := true } rest
      | some (.valued apply), some value =>
        sort? verb { s with options := apply value s.options } rest
      | some (.valued apply), none =>
        match rest with
        | value :: rest => sort? verb { s with options := apply value s.options } rest
        | [] => none
      | _, _ => none

/-- Whether a typed path can only be that of a directory: it ends in a slash, a single dot after it
or not. -/
def endsInSlash (t : Text) : Bool :=
  match Text.cutLast '/' t with
  | (some _, name) => ! Path.isPart name
  | (none, _) => false

/-- What lies at a typed path; the empty text is no path of anything. -/
def entryAt? (d : Disk) (t : Text) : Option Entry :=
  if t = [] then none
  else match d.stat (Path.ofText t) with
    | .ok .directory => some .directory
    | .ok e => if endsInSlash t then none else some e
    | .error _ => none

/-- Refuse a typed path that names what must not be there. -/
def check (d : Disk) (unwanted : Entry → Bool) (t : Text) : Except Refusal Unit :=
  if t.contains '\x00' then .error (.fault .embeddedNul)
  else if (entryAt? d t).any unwanted then .error .usage
  else .ok ()

/-- Refuse a workspace that is a file and settings that are a directory. -/
def Options.check (d : Disk) (o : Options) : Except Refusal Unit := do
  o.workspace.forM (Cli.check d fun e => e ≠ .directory)
  o.settings.forM (Cli.check d fun e => e = .directory)

/-- The request that a command and its sorted arguments are. -/
def requestOf (d : Disk) (verb : Verb) (s : Sorted) : Except Refusal Request := do
  if s.help then return .help
  s.options.check d
  let file (t : Text) : Except Refusal Path := do
    check d (fun _ => false) t
    return Path.ofText t
  match verb, s.others with
  | .prepare, [] => return .prepare s.options
  | .list, [] => return .list s.options
  | .converse, [f] => return .converse s.options (← file f)
  | .run, f :: lines =>
    let path ← file f
    if lines.isEmpty then throw .usage else return .run s.options path lines
  | .converse, f :: _ :: _ => do
    discard (file f)
    throw .usage
  | _, _ => throw .usage

/-- The request that arguments are.  What exists on the disk decides whether options are
acceptable. -/
def Request.ofArgs (d : Disk) (args : List Text) : Except Refusal Request :=
  let args := if args.head? = some ['-', '-'] then args.tail else args
  match args with
  | [] => .error .usage
  | name :: rest =>
    if name = "--help".toList then .ok .help
    else match Verb.ofText? name with
      | none => .error .usage
      | some verb =>
        match sort? verb ⟨⟨none, none, false, none⟩, [], false⟩ rest with
        | none => .error .usage
        | some s => requestOf d verb s

end ExMode.Cli
