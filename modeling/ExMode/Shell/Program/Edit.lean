import ExMode.Pattern.Magic
import ExMode.Pattern.Template
import ExMode.Shell.Program.Stream

/-!
# ExMode.Shell.Program.Edit

The programs that know patterns: `grep` finds the lines in which one occurs, and
`sed` edits lines by commands.
-/

namespace ExMode.Shell.Program

open Utf8 (Bytes)

/-- A search pattern of the tools, in the basic or the extended notation. -/
def patternOf (extended caseless : Bool) (t : Text) : Option Pattern.Compiled :=
  let source := if extended then t else (Magic.searchText t).1
  (Pattern.ofText { PatternOptions.plain with ignoreCase := caseless } source).toOption

/-- The lines in which a pattern occurs. -/
def grep : Program := fun args input d =>
  let (options, plain) := splitOptions args
  match plain with
  | [] => ending 2 d
  | p :: files =>
    match patternOf (hasOption 'E' options) (hasOption 'i' options) p with
    | none => ending 2 d
    | some compiled =>
      let sources := sourcesOf files input d
      let (errors, code) := complaints "grep" sources
      let hit (l : Bytes) : Bool :=
        (compiled.pattern.firstIn? (Utf8.decodeLossy l)).isSome != hasOption 'v' options
      let front (f : Text) : Bytes := if files.length < 2 then [] else Utf8.encode (f ++ [':'])
      let found := sources.filterMap fun (f, source) => source.toOption.map fun bytes =>
        let ls := linesOf bytes
        (front f, ((List.range ls.length).zip ls).filterMap fun (i, l) =>
          if ! hit l then none
          else if hasOption 'n' options then some (Utf8.encode (Text.ofNat (i + 1) ++ [':']) ++ l)
          else some l)
      let output := if hasOption 'q' options then []
        else if hasOption 'c' options then found.flatMap fun (front, ls) =>
          front ++ Utf8.encode (Text.ofNat ls.length ++ ['\n'])
        else found.flatMap fun (front, ls) => streamOf (ls.map (front ++ ·))
      let code := if code ≠ 0 then code else if found.all fun x => x.2.isEmpty then 1 else 0
      ⟨code, output, errors, d, 0, readsInput files⟩

/-- Which lines an editing command is for. -/
inductive LineChoice where
  | every
  | number (n : Nat)
  | last
  | matching (p : Pattern)

/-- An editing command. -/
inductive LineEdit where
  | erase
  | print
  | replace (p : Pattern) (template : Pattern.Template) (everywhere : Bool)

/-- The lines that an editing command is for, and what follows. -/
def lineChoice (t : Text) : Option (LineChoice × Text) :=
  match t with
  | '$' :: r => some (.last, r)
  | '/' :: r =>
    match Text.cut '/' r with
    | (p, some r) => (patternOf false false p).map fun c => (.matching c.pattern, r)
    | _ => none
  | _ =>
    let ds : Text := t.takeWhile isAsciiDigit
    some (if ds = [] then .every else .number ds.digitsValue, t.drop ds.length)

/-- An editing command. -/
def lineEdit (t : Text) : Option (LineChoice × LineEdit) := do
  let (choice, r) ← lineChoice (Text.trim t)
  match r with
  | ['d'] => return (choice, .erase)
  | ['p'] => return (choice, .print)
  | 's' :: delimiter :: r =>
    let fields := Magic.splitFields r delimiter
    let compiled ← patternOf false ((fields[2]?.getD []).contains 'i') (fields.head?.getD [])
    let source := Magic.templateText (fields[1]?.getD [])
    let template ← (Pattern.Template.ofText compiled.groups source).toOption
    return (choice, .replace compiled.pattern template ((fields[2]?.getD []).contains 'g'))
  | _ => none

/-- Whether an editing command is for a line. -/
def LineChoice.covers (number total : Nat) (l : Text) : LineChoice → Bool
  | .every => true
  | .number n => n == number
  | .last => number == total
  | .matching p => (p.firstIn? l).isSome

/-- A line edited: the lines printed on the way, and the line unless it was erased. -/
def editLine (number total : Nat) (edits : List (LineChoice × LineEdit)) (l : Text) :
    List Text × Option Text :=
  edits.foldl (fun acc edit =>
    match acc.2 with
    | none => acc
    | some l =>
      if edit.1.covers number total l then
        match edit.2 with
        | .erase => (acc.1, none)
        | .print => (acc.1 ++ [l], some l)
        | .replace p template everywhere =>
          (acc.1, some (p.replaceIn everywhere (Pattern.Template.expand template) l).1)
      else acc) ([], some l)

/-- Lines edited by commands. -/
def sed : Program := fun args input d =>
  let (options, plain) := splitOptions args
  match plain with
  | [] => failing 1 "sed: no script".toList d
  | script :: files =>
    match (Text.splitOn ';' script).mapM lineEdit with
    | none => failing 1 "sed: -e expression #1, char 1: unknown command".toList d
    | some edits =>
      let edited (bytes : Bytes) : Bytes :=
        let ls := linesOf bytes
        streamOf (((List.range ls.length).zip ls).flatMap fun (i, l) =>
          let (printed, kept) := editLine (i + 1) ls.length edits (Utf8.decodeLossy l)
          let all := printed ++ (if hasOption 'n' options then [] else kept.toList)
          all.map Utf8.encode)
      if hasOption 'i' options then
        files.foldl (fun (r : Ran) f =>
          match r.disk.readBytes (pathOf f) with
          | .ok bytes => storing ("sed: couldn't open file ".toList ++ f) f (edited bytes) r.disk
          | .error e =>
            if isDirectoryFault e then
              failing 4 ("sed: couldn't edit ".toList ++ f ++ ": not a regular file".toList) r.disk
            else failing 2 (complaint "sed" f e) r.disk)
          (ending 0 d)
      else filtering "sed" files input d edited

end ExMode.Shell.Program
