import ExMode.Json

/-!
# ExMode.History.Format

What a history file holds.  A document is a history when it is a list of texts,
or a mapping of the present version whose only other member is such a list under
`entries`.  A mapping of another version is told apart from a document that is
no history at all, because the former may have been written by a later program.

Files are always written as mappings, one entry a line.
-/

namespace ExMode.History

/-- The version of the history format. -/
def schemaVersion : Nat := 1

/-- The member that holds the version. -/
def versionName : Text := "schema_version".toList

/-- The member that holds the entries. -/
def entriesName : Text := "entries".toList

/-! ## reading -/

/-- Whether a value is the number one. -/
def isPresentVersion : Document → Bool
  | .bool b => b
  | .int n => n = 1
  | .float x => x.toInt? = some 1
  | _ => false

/-- The entries of a list, or the places of the items that are no texts, counted from `i`. -/
def textItems (i : Nat) : List Document → List Text × List Nat
  | [] => ([], [])
  | d :: ds =>
    let (ts, bad) := textItems (i + 1) ds
    match d.text? with
    | some t => (t :: ts, bad)
    | none => (ts, i :: bad)

/-- The entries that a document is a list of, or the fields at fault. -/
def entryList : Document → Except (List Text) (List Text)
  | .list ds =>
    match textItems 0 ds with
    | (ts, []) => .ok ts
    | (_, bad) => .error (bad.map fun i => entriesName ++ '.' :: Text.ofNat i)
  | _ => .error [entriesName]

/-- The name of a key that is no member of a history, as messages show it. -/
def strayName (k : Document) : Option Text :=
  match k.text? with
  | some t => if t = versionName ∨ t = entriesName then none else some t
  | none => some []

/-- Field names in order and without repetition. -/
def fieldSet (names : List Text) : List Text :=
  names.eraseDups.mergeSort Text.atMost

/-- Whether a key is a string that is no text. -/
def isBroken : Document → Bool
  | .string (.broken _) => true
  | _ => false

/-- The entries of a mapping of the present version. -/
def entriesOfMembers (members : List (Document × Document)) : Except Fault (List Text) :=
  let entries := match Document.member? entriesName members with
    | some d => entryList d
    | none => .ok []
  let stray := members.filterMap fun x => strayName x.1
  if members.any fun x => isBroken x.1 then .error (.badHistory (.rejected [[]]))
  else match entries, stray with
    | .ok ts, [] => .ok ts
    | .ok _, names => .error (.badHistory (.rejected (fieldSet names)))
    | .error bad, names => .error (.badHistory (.rejected (fieldSet (bad ++ names))))

/-- The entries of the history that a document is. -/
def ofDocument : Document → Except Fault (List Text)
  | .list ds =>
    match entryList (.list ds) with
    | .ok ts => .ok ts
    | .error bad => .error (.badHistory (.rejected (fieldSet bad)))
  | .map members =>
    let version := (Document.member? versionName members).getD .null
    if isPresentVersion version then entriesOfMembers members
    else .error (.unsupportedSchema version.shown)
  | _ => .error (.badHistory .notAnObject)

/-- The entries of the history that a text spells. -/
def ofText (t : Text) : Except Fault (List Text) := do
  let d ← (Json.read t).mapError (·.toFault (.badHistory .malformed))
  ofDocument d

/-! ## writing -/

/-- The written list of entries. -/
def writtenEntries (entries : List Text) : Text :=
  if entries = [] then ['[', ']']
  else '[' :: '\n' ::
    Text.joinWith [',', '\n'] (entries.map fun e => "    ".toList ++ Json.writtenString e) ++
      "\n  ]".toList

/-- The text of a history file. -/
def text (entries : List Text) : Text :=
  '\x7b' :: "\n  \"schema_version\": ".toList ++ Text.ofNat schemaVersion ++
    ",\n  \"entries\": ".toList ++ writtenEntries entries ++ ['\n', '\x7d']

example : text [] = "\x7b\n  \"schema_version\": 1,\n  \"entries\": []\n\x7d".toList := by decide

end ExMode.History
