import ExMode.Shell.Builtin
import ExMode.Shell.Sum

/-!
# ExMode.Shell.Run

Running scripts.  Words are expanded to fragments, fragments are cut into
fields, and the first field names a function, a command of the shell, a script
or a program.

A script may run for ever.  Every function here takes fuel; a script that uses
it up has used up its time as well.
-/

namespace ExMode.Shell

open Utf8 (Bytes)

namespace Running

/-- Stop a script that has no time left. -/
def exhausted : Running Unit := modify fun m => m.spend (m.limit + 1)

/-- Do something unless the script is on its way out of a loop, a function or itself. -/
def going (act : Running Unit) : Running Unit := do
  if (← get).flow = .next then act

/-- Do something in a copy of the script: only what it wrote, the disk and the time remain. -/
def apart (act : Running Unit) : Running Unit := do
  let before ← get
  act
  modify fun m =>
    { before with
      status := m.status
      input := m.input
      pipes := m.pipes
      output := m.output
      errors := m.errors
      disk := { m.disk with here := before.disk.here }
      elapsed := m.elapsed
      flow := if m.elapsed > m.limit then .exiting else before.flow }

/-- What something writes to the descriptor for output. -/
def captured (act : Running Unit) : Running Bytes := do
  let n := (← get).pipes.length
  apart do
    modify fun m =>
      { m with pipes := m.pipes ++ [[]], descriptors := m.descriptors.set 1 (.pipe n) }
    act
  return ((← get).pipes[n]?.getD [])

/-- Do something without regard to failures in it. -/
def lenient (act : Running Unit) : Running Unit := do
  let strict := (← get).strict
  modify fun m => { m with strict := false }
  act
  modify fun m => { m with strict := strict }

/-- End the script if the last command failed and that matters. -/
def checked : Running Unit := modify fun m =>
  if m.strict ∧ m.status ≠ 0 ∧ m.flow = .next then { m with flow := .exiting } else m

/-- Whether a loop goes on with its next round.  What was left is counted down. -/
def nextRound : Running Bool := do
  let m ← get
  match m.flow with
  | .next => return true
  | .leaving 0 again =>
    set { m with flow := .next }
    return again
  | .leaving (n + 1) again =>
    set { m with flow := .leaving n again }
    return false
  | _ => return false

/-! ## redirections -/

/-- Open a file for writing. -/
def openForWriting (again : Bool) (target : Text) : Running (Option Sink) := do
  let m ← get
  let p := Program.pathOf target
  if target = "/dev/null".toList then return some .nowhere
  match m.disk.locate p, (m.disk.readBytes p).toOption with
  | .ok loc, old =>
    match (Disk.writeBytes p (if again then old.getD [] else [])).run.run m.disk with
    | (.ok (), d) =>
      set { m with disk := d }
      return some (.file loc)
    | (.error e, _) =>
      set (m.complain ("cannot create ".toList ++ target ++ ": ".toList ++ Program.reason e))
      return none
  | .error _, _ =>
    set (m.complain ("cannot create ".toList ++ target ++ ": Directory nonexistent".toList))
    return none

/-- Open a file for reading. -/
def openForReading (source : Text) : Running Bool := do
  let m ← get
  if source = "/dev/null".toList then
    set { m with input := [] }
    return true
  match m.disk.readBytes (Program.pathOf source) with
  | .ok bytes =>
    set { m with input := bytes }
    return true
  | .error _ =>
    set (m.complain ("cannot open ".toList ++ source ++ ": No such file".toList))
    return false

/-- Lead a descriptor elsewhere, given the text of the target; tell whether that worked. -/
def redirect (r : Redirect) (target : Text) : Running Bool := do
  match r.redirection with
  | .fromFile _ => openForReading target
  | .fromText _ =>
    modify fun m => { m with input := Utf8.encode target }
    return true
  | .toFile again _ =>
    match ← openForWriting again target with
    | some sink =>
      modify fun m => { m with descriptors := m.descriptors.set r.descriptor sink }
      return true
    | none => return false
  | .copy _ =>
    let m ← get
    let sink := if target = ['-'] then some Sink.nowhere
      else m.descriptors.get? (Text.digitsValue target)
    match sink with
    | some sink =>
      set { m with descriptors := m.descriptors.set r.descriptor sink }
      return true
    | none => return true

/-- The word that names the target of a redirection. -/
def targetWord (r : Redirect) : Word :=
  match r.redirection with
  | .fromFile w => w
  | .fromText w => w
  | .toFile _ w => w
  | .copy w => w

/-! ## programs -/

/-- The directories of programs. -/
def programDirectories : List Text := ["/usr/local/bin", "/usr/bin", "/bin"].map String.toList

/-- The names of the shell. -/
def shellNames : List Text := ["sh", "dash"].map String.toList

/-- The name under which a program is known: a directory of programs in front of it is dropped. -/
def plainName (t : Text) : Text :=
  match Text.cutLast '/' t with
  | (some directory, name) => if programDirectories.contains directory then name else t
  | (none, name) => name

/-- The program that the first line of a script names, and an argument for it. -/
def shebang? (t : Text) : Option (Text × Option Text) :=
  match t with
  | '#' :: '!' :: r =>
    let line : Text := (r.takeWhile (· != '\n')).dropWhile (· == ' ')
    let program := line.takeWhile (· != ' ')
    let rest : Text := (line.dropWhile (· != ' ')).dropWhile (· == ' ')
    some (program, if rest.isEmpty then none else some rest)
  | _ => none

/-- The arguments of a shell: the text of its script, its name and its arguments. -/
inductive Start where
  | script (name : Text) (source : Bytes) (arguments : List Text)
  | failure (message : Text) (code : Nat)

/-- What a shell is to run. -/
def startOf (shell : Text) (input : Bytes) (d : Disk) : List Text → Start
  | [] => .script shell input []
  | a :: rest =>
    match a with
    | ['-', 'c'] =>
      match rest with
      | [] => .failure (shell ++ ": 0: -c requires an argument".toList) 2
      | source :: rest => .script (rest.head?.getD shell) (Utf8.encode source) rest.tail
    | '-' :: option =>
      if option.contains 's' then .script shell input []
      else startOf shell input d rest
    | _ =>
      match d.readBytes (Path.ofText a) with
      | .ok bytes => .script a bytes rest
      | .error _ => .failure (shell ++ ": 0: cannot open ".toList ++ a ++ ": No such file".toList) 2

/-! ## words and commands -/

mutual

/-- The fragments of a piece. -/
def piece : Nat → Piece → Running (List Fragment)
  | 0, _ => do
    exhausted
    return []
  | fuel + 1, p => do
    let shape (quoted : Bool) (t : Text) : List Fragment :=
      [if quoted then .fixed t else .split t]
    match p with
    | .literal quoted t => return [if quoted then .fixed t else .plain t]
    | .output quoted source =>
      let bytes ← captured (evaluate fuel source)
      return shape quoted (Text.trimRightOf '\n' (Utf8.decodeLossy bytes))
    | .arithmetic source =>
      let fs ← word fuel (quotedPiecesOf source)
      let m ← get
      match Sum.value? m.integer (Fragment.text fs) with
      | some v => return [.split (Text.ofInt v)]
      | none =>
        set { m.complain "arithmetic expression: syntax error".toList with
          status := 2, flow := .exiting }
        return []
    | .parameter quoted name adjustment =>
      let m ← get
      let inner (t : Text) : Running (List Fragment) := do
        let fs ← word fuel (piecesOf t)
        return if quoted then [.fixed (Fragment.text fs)] else fs
      let value := m.value? name
      let missing (orEmpty : Bool) : Bool :=
        value.isNone || (orEmpty && value == some [])
      let arguments : List Fragment :=
        (m.arguments.map fun a => if quoted then Fragment.fixed a else .split a).intersperse .border
      match adjustment with
      | .plain =>
        if name = ['@'] ∨ (name = ['*'] ∧ ! quoted) then return arguments
        else return shape quoted (value.getD [])
      | .length => return shape quoted (Text.ofNat (value.getD []).length)
      | .fallback orEmpty t =>
        if missing orEmpty then inner t else return shape quoted (value.getD [])
      | .instead orEmpty t => if missing orEmpty then return shape quoted [] else inner t
      | .without front longest pattern =>
        let items := Fragment.glob (← word fuel (piecesOf pattern))
        let drop := if front then Glob.dropFront else Glob.dropBack
        return shape quoted (drop longest items (value.getD []))

/-- The fragments of a word. -/
def word : Nat → Word → Running (List Fragment)
  | 0, _ => do
    exhausted
    return []
  | fuel + 1, w => do
    let noArguments := (← get).arguments.isEmpty
    let only := w.filter fun p => p != .literal true []
    if noArguments ∧ only = [.parameter true ['@'] .plain] then return []
    else
      let parts ← w.mapM (piece fuel)
      return parts.flatten

/-- Redirect descriptors; tell whether that worked. -/
def redirectAll : Nat → List Redirect → Running Bool
  | 0, _ => do
    exhausted
    return false
  | fuel + 1, rs =>
    rs.foldlM (fun ok r => do
      if ok then redirect r (Fragment.text (← word fuel (targetWord r))) else return false) true

/-- Run the script that a text is. -/
def evaluate : Nat → Text → Running Unit
  | 0, _ => exhausted
  | fuel + 1, t =>
    match Script.ofText? t with
    | some script => run fuel script
    | none => modify fun m =>
      { m.complain (if (tokens? t).isNone then "Syntax error: Unterminated quoted string".toList
          else "Syntax error".toList) with status := 2, flow := .exiting }

/-- Run a script by itself, under a name. -/
def child : Nat → Text → List Text → Text → Running Unit
  | 0, _, _, _ => exhausted
  | fuel + 1, name, arguments, source => apart do
    modify fun m => { m with name := name, arguments := arguments, line := 1, strict := false,
                             functions := [] }
    evaluate fuel source

/-- Run a shell. -/
def shell : Nat → Text → List Text → Running Unit
  | 0, _, _ => exhausted
  | fuel + 1, name, args => do
    let m ← get
    match startOf name m.input m.disk args with
    | .script name source arguments => child fuel name arguments (Utf8.decodeLossy source)
    | .failure message code => set ((m.write 2 (Utf8.encode (message ++ ['\n']))).ended code)

/-- Run an executable file, or say why that cannot be done. -/
def file : Nat → Text → List Text → Running Unit
  | 0, _, _ => exhausted
  | fuel + 1, path, args => do
    let m ← get
    match (m.disk.find? (Path.ofText path)).toOption.join with
    | none => set ((m.complain (path ++ ": not found".toList)).ended 127)
    | some .directory => set ((m.complain (path ++ ": Permission denied".toList)).ended 126)
    | some (.file _ false) => set ((m.complain (path ++ ": Permission denied".toList)).ended 126)
    | some (.file bytes true) =>
      let t := Utf8.decodeLossy bytes
      match shebang? t with
      | none => child fuel path args t
      | some (program, argument) =>
        let name := plainName program
        if name = "env".toList then invoke fuel (argument.toList ++ path :: args)
        else if shellNames.contains name || (Program.find? name).isSome then
          invoke fuel (name :: argument.toList ++ path :: args)
        else set ((m.complain (path ++ ": not found".toList)).ended 127)

/-- Run the command that fields name. -/
def invoke : Nat → List Text → Running Unit
  | 0, _ => exhausted
  | _ + 1, [] => modify fun m => m.ended 0
  | fuel + 1, name :: args => do
    let m ← get
    match m.functions.lookup name with
    | some body =>
      set { m with arguments := args }
      run fuel body
      modify fun n =>
        { n with arguments := m.arguments, flow := if n.flow = .returning then .next else n.flow }
    | none =>
      match Builtin.find? name with
      | some act => modify (act args)
      | none =>
        if name = "eval".toList then evaluate fuel (Text.joinWith [' '] args)
        else if name = "exec".toList then do
          if ! args.isEmpty then
            invoke fuel args
            modify fun m => { m with flow := .exiting }
        else if name = "command".toList ∧ args.head? = some "-v".toList then
          let found := args.tail.all fun a =>
            shellNames.contains a || (Program.find? a).isSome || (Builtin.find? a).isSome
          modify fun m =>
            if found then (m.write 1 (Program.streamOf (args.tail.map Utf8.encode))).ended 0
            else m.ended 127
        else if name = "command".toList ∨ plainName name = "env".toList then invoke fuel args
        else if name = ['.'] then
          let file := args.head?.getD []
          let stop (message : Text) : Running Unit := modify fun m =>
            { m.complain (".: ".toList ++ message) with status := 2, flow := .exiting }
          if ! file.contains '/' then stop (file ++ ": not found".toList)
          else match m.disk.readBytes (Path.ofText file) with
            | .ok bytes => evaluate fuel (Utf8.decodeLossy bytes)
            | .error _ => stop ("cannot open ".toList ++ file ++ ": No such file".toList)
        else
          let plain := plainName name
          if shellNames.contains plain then shell fuel plain args
          else match Program.find? plain with
            | some program => modify fun m => m.runProgram program args
            | none =>
              if name.contains '/' then file fuel name args
              else modify fun m => (m.complain (name ++ ": not found".toList)).ended 127

/-- Run a script. -/
def run : Nat → Script → Running Unit
  | 0, _ => exhausted
  | fuel + 1, script =>
    match script with
    | .nothing => pure ()
    | .simple line assignments words redirects => do
      modify fun m => { m with line := line }
      let parts ← words.mapM (word fuel)
      let fields := parts.flatMap Fragment.fields
      if fields.isEmpty then modify fun m => m.ended 0
      for (name, w) in assignments do
        let fs ← word fuel w
        modify fun m => m.assign name (Fragment.text fs)
      let before ← get
      going do
        if ← redirectAll fuel redirects then
          if ! fields.isEmpty then invoke fuel fields
        else modify fun m => m.ended 2
      if ! redirects.isEmpty && fields.head? != some "exec".toList then
        modify fun m => { m with
          descriptors := before.descriptors
          input := if redirects.any (fun r => r.descriptor == 0) then before.input else m.input }
      checked
    | .pipe first second => do
      let before ← get
      let bytes ← captured (lenient (run fuel first))
      apart do
        modify fun m => { m with input := bytes }
        run fuel second
      modify fun m => { m with input := before.input }
      checked
    | .negated body => do
      lenient (run fuel body)
      going (modify fun m => m.ended (if m.status = 0 then 1 else 0))
    | .both first second => do
      lenient (run fuel first)
      if (← get).status = 0 then going (run fuel second)
    | .either first second => do
      lenient (run fuel first)
      if (← get).status ≠ 0 then going (run fuel second)
    | .sequence first second => do
      run fuel first
      going (run fuel second)
    | .condition test yes no => do
      lenient (run fuel test)
      going do
        if (← get).status = 0 then run fuel yes
        else
          modify fun m => m.ended 0
          run fuel no
    | .loop wanted test body => do
      lenient (run fuel test)
      going do
        if ((← get).status = 0) = wanted then
          run fuel body
          if ← nextRound then
            modify fun m => m.spend 1
            going (run fuel (.loop wanted test body))
        else modify fun m => m.ended 0
    | .each name words body => do
      let items ← match words with
        | none => do pure (← get).arguments
        | some ws => do
          let parts ← ws.mapM (word fuel)
          pure (parts.flatMap Fragment.fields)
      modify fun m => m.ended 0
      rounds fuel name body items
    | .choice w branches => do
      let subject := Fragment.text (← word fuel w)
      modify fun m => m.ended 0
      branch fuel subject branches
    | .grouped subshell body redirects => do
      let before ← get
      let act : Running Unit := do
        if ← redirectAll fuel redirects then run fuel body
        else modify fun m => m.ended 2
      if subshell then apart act else act
      modify fun m => { m with
        descriptors := before.descriptors
        input := if redirects.any (fun r => r.descriptor == 0) then before.input else m.input }
    | .function name body =>
      modify fun m => { m with functions := (name, body) :: m.functions, status := 0 }

/-- The rounds of a loop over items. -/
def rounds : Nat → Text → Script → List Text → Running Unit
  | 0, _, _, _ => exhausted
  | _ + 1, _, _, [] => pure ()
  | fuel + 1, name, body, item :: items => do
    modify fun m => m.assign name item
    run fuel body
    if ← nextRound then rounds fuel name body items

/-- The first branch with a pattern that covers the subject. -/
def branch : Nat → Text → List (List Word × Script) → Running Unit
  | 0, _, _ => exhausted
  | _ + 1, _, [] => pure ()
  | fuel + 1, subject, (patterns, body) :: rest => do
    let hit ← patterns.foldlM (fun hit w => do
      if hit then return true
      else return Glob.covers (Fragment.glob (← word fuel w)) subject) false
    if hit then run fuel body else branch fuel subject rest

end

end Running

end ExMode.Shell
