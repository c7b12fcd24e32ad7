import ExMode.Shell.Program

/-!
# ExMode.Shell.Program.File

The programs that remove, copy, move, make and list files.
-/

namespace ExMode.Shell.Program

open Utf8 (Bytes)

/-- Files removed. -/
def rm : Program := fun args _ d =>
  let (options, files) := splitOptions args
  files.foldl (fun (r : Ran) f =>
    let refuse (why : Text) : Ran :=
      let next := failing 1 ("rm: cannot remove ".toList ++ inQuotes f ++ ": ".toList ++ why) r.disk
      { next with errors := r.errors ++ next.errors }
    match r.disk.stat (pathOf f), r.disk.locate (pathOf f) with
    | .ok (.file _ _), .ok loc => { r with disk := r.disk.erase loc }
    | .ok .directory, .ok loc =>
      if hasOption 'r' options || hasOption 'R' options then { r with disk := r.disk.erase loc }
      else refuse "Is a directory".toList
    | .error cause, _ => if hasOption 'f' options then r else refuse cause.words.toList
    | _, .error cause => refuse cause.words.toList)
    (ending 0 d)

/-- Where a file goes when it is put at a path: into it, if it is a directory. -/
def targetOf (d : Disk) (source target : Text) : Path :=
  let p := pathOf target
  if (d.isDirectory p).toOption = some true then p.join ⟨.here, [(Path.ofText source).name]⟩ else p

/-- Whether two paths name the same place. -/
def isSamePlace (d : Disk) (p q : Path) : Bool :=
  match d.locate p, d.locate q with
  | .ok a, .ok b => a == b
  | _, _ => false

/-- What a program says when a file would be put where it is. -/
def sameFile (name : String) (source target : Text) : Text :=
  name.toList ++ ": ".toList ++ inQuotes source ++ " and ".toList ++ inQuotes target ++
    " are the same file".toList

/-- A file copied. -/
def cp : Program := fun args _ d =>
  match (splitOptions args).2 with
  | [source, target] =>
    let p := targetOf d source target
    match d.readBytes (pathOf source) with
    | .ok bytes =>
      if isSamePlace d (pathOf source) p then failing 1 (sameFile "cp" source target) d
      else match (Disk.writeBytes p bytes).run.run d with
        | (.ok (), d) => ending 0 d
        | (.error (.os ⟨.notDirectory, _, _⟩), d) =>
          failing 1 ("cp: cannot stat ".toList ++ inQuotes target ++ ": Not a directory".toList) d
        | (.error e, d) =>
          failing 1 ("cp: cannot create regular file ".toList ++ inQuotes target ++ ": ".toList ++
            reason e) d
    | .error e =>
      if isDirectoryFault e then
        failing 1 ("cp: -r not specified; omitting directory ".toList ++ inQuotes source) d
      else failing 1 ("cp: cannot stat ".toList ++ inQuotes source ++ ": ".toList ++ reason e) d
  | _ => ending 1 d

/-- A file moved. -/
def mv : Program := fun args _ d =>
  match (splitOptions args).2 with
  | [source, target] =>
    let p := targetOf d source target
    match d.stat (pathOf source), d.locate p with
    | .error cause, _ =>
      failing 1 ("mv: cannot stat ".toList ++ inQuotes source ++ ": ".toList ++
        cause.words.toList) d
    | _, .error .notDirectory =>
      failing 1 ("mv: cannot stat ".toList ++ inQuotes target ++ ": Not a directory".toList) d
    | _, _ =>
      if isSamePlace d (pathOf source) p then failing 1 (sameFile "mv" source target) d
      else match (Disk.rename (pathOf source) p).run.run d with
        | (.ok (), d) => ending 0 d
        | (.error e, d) =>
          failing 1 ("mv: cannot move ".toList ++ inQuotes source ++ " to ".toList ++
            inQuotes target ++ ": ".toList ++ reason e) d
  | _ => ending 1 d

/-- Files made, where they are missing. -/
def touch : Program := fun args _ d =>
  args.foldl (fun (r : Ran) f =>
    match r.disk.stat (pathOf f) with
    | .ok _ => r
    | .error _ => storing ("touch: cannot touch ".toList ++ inQuotes f) f [] r.disk) (ending 0 d)

/-- Directories made. -/
def mkdir : Program := fun args _ d =>
  let (options, names) := splitOptions args
  names.foldl (fun (r : Ran) f =>
    let p := pathOf f
    let act := if hasOption 'p' options then Disk.ensureDirectoriesFrom p.parts.length p
      else Disk.makeDirectory p
    match act.run.run r.disk with
    | (.ok (), d) => { r with disk := d }
    | (.error e, d) =>
      failing 1 ("mkdir: cannot create directory ‘".toList ++ f ++ "’: ".toList ++ reason e) d)
    (ending 0 d)

/-- The name of a file without its directories, and without an ending. -/
def basename : Program := fun args _ d =>
  let name := (Path.ofText (args.head?.getD [])).name
  let ending : Text := args[1]?.getD []
  let name := if ending.isSuffixOf name ∧ ending ≠ name then name.take (name.length - ending.length)
    else name
  writing (Utf8.encode (name ++ ['\n'])) d

/-- The directory of a file. -/
def dirname : Program := fun args _ d =>
  writing (Utf8.encode ((Path.ofText (args.head?.getD [])).parent.text ++ ['\n'])) d

/-- The names in a directory. -/
def ls : Program := fun args _ d =>
  let (options, names) := splitOptions args
  let visible (n : Text) : Bool :=
    hasOption 'a' options || hasOption 'A' options || n.head? != some '.'
  let names := if names.isEmpty then [['.']] else names
  let list (n : Text) : List Text :=
    if (d.isDirectory (pathOf n)).toOption = some true ∧ ! hasOption 'd' options then
      (d.list (pathOf n)).filter visible
    else [n]
  let found := names.filter fun n => (d.stat (pathOf n)).toOption.isSome
  let complaints := names.filterMap fun n => match d.stat (pathOf n) with
    | .ok _ => none
    | .error cause =>
      some ("ls: cannot access ".toList ++ inQuotes n ++ ": ".toList ++ cause.words.toList)
  ⟨if complaints.isEmpty then 0 else 2, streamOf ((found.flatMap list).map Utf8.encode),
    streamOf (complaints.map Utf8.encode), d, 0, false⟩

end ExMode.Shell.Program
