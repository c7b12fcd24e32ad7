import ExMode.Command

/-!
# ExMode.Command.Table

The command table.  Each row gives a command its name, the shortest accepted
abbreviation, and what may stand around the name; `build` turns the call into a
command.  A typed word names the row of exactly that name, and if there is none
the row it abbreviates; in both cases later rows come first.

A command line is first recognised, that is, cut into range, name, bang and
arguments and held against its row, and only then built.
-/

namespace ExMode

/-- A command as called: the full name of its row, and what was written after it. -/
structure Call where
  name : Text
  bang : Bool
  args : Text
  raw : Text
  deriving DecidableEq, Repr

/-- Where a row comes from. -/
inductive Origin where
  | builtIn
  | extra
  deriving DecidableEq, Repr

/-- One row of the command table. -/
structure Row where
  name : Text
  abbreviation : Text
  acceptsRange : Bool
  acceptsBang : Bool
  acceptsArgs : Bool
  takesFile : Bool
  origin : Origin
  build : Call → Except Fault Command

/-- Whether a typed word abbreviates the name of the row. -/
def Row.matches (row : Row) (typed : Text) : Bool :=
  row.abbreviation.isPrefixOf typed && typed.isPrefixOf row.name

/-- The rows of a command table, in order. -/
structure Table where
  rows : List Row

namespace Table

/-! ## the built-in rows -/

/-- The file that a write command names, if it names one. -/
def writeTarget (homes : List (Text × Text)) (args : Text) : Except Fault (Option Path) :=
  let target := args.trim
  if target = [] then .ok none
  else ((Path.ofText target).expandHome homes (.command ⟨.invalidArgument, target⟩)).map some

/-- Build a command that writes. -/
def buildWrite (homes : List (Text × Text)) (quitAfter onlyIfModified : Bool) (call : Call) :
    Except Fault Command := do
  return .write (← writeTarget homes call.args) quitAfter onlyIfModified

/-- A row that takes a range and arguments but no bang. -/
def lineRow (name abbreviation : String) (build : Call → Except Fault Command) : Row :=
  ⟨name.toList, abbreviation.toList, true, false, true, false, .builtIn, build⟩

/-- A row that lists something. -/
def listRow (name abbreviation : String) (acceptsArgs : Bool)
    (build : Call → Except Fault Command) : Row :=
  ⟨name.toList, abbreviation.toList, false, false, acceptsArgs, false, .builtIn, build⟩

/-- A row that takes a file. -/
def fileRow (name abbreviation : String) (build : Call → Except Fault Command) : Row :=
  ⟨name.toList, abbreviation.toList, false, true, true, true, .builtIn, build⟩

/-- The built-in rows, for users with the given home directories. -/
def builtInRows (homes : List (Text × Text)) : List Row :=
  let listRegisters (call : Call) : Except Fault Command :=
    .ok (.registers (call.args.filter fun c => ! isBlank c))
  [ lineRow "delete" "d" fun call => do return .delete (← LineTarget.parse call.args),
    listRow "display" "di" true listRegisters,
    listRow "history" "his" false fun _ => .ok .history,
    { lineRow "print" "p" (fun _ => .ok .print) with acceptsArgs := false },
    ⟨"quit".toList, ['q'], false, true, false, false, .builtIn, fun call => .ok (.quit call.bang)⟩,
    listRow "registers" "reg" true listRegisters,
    lineRow "substitute" "s" fun call => do return .substitute (← Substitution.ofArgs call.args),
    fileRow "write" "w" (buildWrite homes false false),
    fileRow "wq" "wq" (buildWrite homes true false),
    fileRow "xit" "x" (buildWrite homes true true),
    lineRow "yank" "y" fun call => do return .yank (← LineTarget.parse call.args) ]

/-- The built-in table followed by further rows. -/
def ofExtra (homes : List (Text × Text)) (extra : List Row) : Table :=
  ⟨builtInRows homes ++ extra⟩

/-! ## looking up -/

/-- The row that a typed word names. -/
def find? (t : Table) (typed : Text) : Option Row :=
  (t.rows.reverse.find? fun r => r.name == typed).or
    (t.rows.reverse.find? fun r => r.matches typed)

/-- The full names that start with a text, in order and without repetition. -/
def completions (t : Table) (typed : Text) : List Text :=
  (((t.rows.map (·.name)).filter fun n => typed.isPrefixOf n).eraseDups).mergeSort Text.atMost

/-- The names of the commands whose argument is a file, in order and without repetition. -/
def fileCommands (t : Table) : List Text :=
  (((t.rows.filter (·.takesFile)).map (·.name)).eraseDups).mergeSort Text.atMost

/-! ## command lines -/

/-- A command line held against the table. -/
inductive Recognised where
  /-- A range, or nothing at all. -/
  | bare (range : Option LineRange)
  /-- A call of a row. -/
  | entry (row : Row) (call : Call) (range : Option LineRange)
  | refused (error : CommandError)

/-- A command line read. -/
inductive Parsed where
  | command (command : Command) (range : Option LineRange)
  | refused (error : CommandError)

/-- The command line without blanks around it and colons in front. -/
def commandText (raw : Text) : Text := ((raw.trim).trimLeftOf ':').trimLeft

/-- Hold what follows the range against the table. -/
def recogniseBody (t : Table) (raw : Text) (range : Option LineRange) (body : Text) :
    Recognised :=
  let name : Text := body.takeWhile isAsciiLetter
  let rest : Text := body.drop name.length
  if name = [] then
    if rest.isAllBlank then .bare range else .refused ⟨.notAnEditorCommand, raw.trim⟩
  else match t.find? name with
    | none => .refused ⟨.notAnEditorCommand, raw.trim⟩
    | some row =>
      let bang := rest.head? == some '!'
      let args : Text := if bang then rest.drop 1 else rest
      if bang && ! row.acceptsBang then .refused (.plain .noBangAllowed)
      else if range.isSome && ! row.acceptsRange then .refused (.plain .noRangeAllowed)
      else if ! args.isAllBlank && ! row.acceptsArgs then
        .refused ⟨.trailingCharacters, args.trim⟩
      else .entry row ⟨row.name, bang, args, raw⟩ range

/-- Recognise a command line. -/
def recognise (t : Table) (raw : Text) : Except Fault Recognised :=
  match LineRange.parse (commandText raw) with
  | .ok (range, rest) => .ok (t.recogniseBody raw range rest.trimLeft)
  | .error fault =>
    match fault.asCommandError? with
    | some e => .ok (.refused e)
    | none => .error fault

/-- Build the command of a recognised line. -/
def Recognised.build : Recognised → Except Fault Parsed
  | .bare range => .ok (.command .goto range)
  | .refused e => .ok (.refused e)
  | .entry row call range =>
    match row.build call with
    | .ok c => .ok (.command c range)
    | .error fault =>
      match fault.asCommandError? with
      | some e => .ok (.refused e)
      | none => .error fault

/-- Read a command line. -/
def parse (t : Table) (raw : Text) : Except Fault Parsed := do
  (← t.recognise raw).build

end Table

end ExMode
