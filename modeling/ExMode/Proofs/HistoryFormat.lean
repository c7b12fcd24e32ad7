import ExMode.History.Format
import ExMode.Proofs.Json
import ExMode.Text.Line

/-!
# ExMode.Proofs.HistoryFormat

A written history is read back (`ofText_text`), and nothing in it is touched when
line endings are unified (`unifyNewlines_text`), because a written string holds
no line ending of its own.
-/

namespace ExMode

/-- Joined texts are the first one, and a separator in front of each other one. -/
theorem Text.joinWith_cons (sep t : Text) (ts : List Text) :
    joinWith sep (t :: ts) = t ++ ts.flatMap (sep ++ ·) := by
  induction ts generalizing t with
  | nil => simp [joinWith]
  | cons u ts ih => simp [joinWith, ih, List.append_assoc]

namespace History

open Document

/-! ## reading what was written -/

/-- The document that entries are written as. -/
def written (entries : List Text) : Document :=
  .list (entries.map fun t => .string (.text t))

theorem writtenEntries_cons (e : Text) (es : List Text) :
    writtenEntries (e :: es) = '[' :: ("\n    ".toList ++ (Json.writtenString e ++
      (es.flatMap (fun u => ",\n    ".toList ++ Json.writtenString u) ++ "\n  ]".toList))) := by
  simp only [writtenEntries, List.map_cons, Text.joinWith_cons, List.flatMap_map]
  simp

/-- Every entry takes up some of the text. -/
theorem length_le_length_writtenEntries (entries : List Text) :
    entries.length ≤ (writtenEntries entries).length := by
  have hlen (es : List Text) :
      es.length ≤ (es.flatMap fun u => ",\n    ".toList ++ Json.writtenString u).length := by
    induction es with
    | nil => simp
    | cons e es ih =>
      rw [List.flatMap_cons, List.length_append, List.length_cons]
      have : 0 < (",\n    ".toList ++ Json.writtenString e).length := by simp
      omega
  cases entries with
  | nil => simp
  | cons e es =>
    have := hlen es
    have hfirst : 0 < (Json.writtenString e).length := by simp [Json.writtenString]
    simp only [writtenEntries_cons, List.length_append, List.length_cons]
    omega

theorem value_writtenEntries {fuel : Nat} (depth : Nat) (entries : List Text) (s : Text)
    (hfuel : entries.length + 1 < fuel) :
    Json.value fuel (depth + 1) (writtenEntries entries ++ s) = .ok (written entries, s) := by
  obtain ⟨fuel, rfl⟩ : ∃ n, fuel = n + 1 := ⟨fuel - 1, by omega⟩
  cases entries with
  | nil => rfl
  | cons e es =>
    rw [writtenEntries_cons, List.cons_append]
    have h := Json.items_written fuel depth e es s (by rw [List.length_cons] at hfuel; omega)
    simp only [List.append_assoc] at h ⊢
    generalize es.flatMap _ ++ _ = rest at h ⊢
    have hskip : Json.skipLayout ("\n    ".toList ++ (Json.writtenString e ++ rest)) =
        '"' :: (e.flatMap Json.writtenChar ++ ['"'] ++ rest) := rfl
    rw [Json.value_items fuel depth hskip]
    exact congrArg (Except.map fun x => (Document.list x.1, x.2)) h

/-- The member that holds the version. -/
def versionMember : Document × Document := (.string (.text versionName), .int schemaVersion)

/-- The document that a history is written as. -/
def document (entries : List Text) : Document :=
  .map [versionMember, (.string (.text entriesName), written entries)]

theorem value_version (fuel depth : Nat) (s : Text) :
    Json.value (fuel + 1) depth ('1' :: ',' :: s) = .ok (.int schemaVersion, ',' :: s) := by
  rw [Json.value]
  · rfl
  all_goals
    intro _ h
    cases h

theorem members_version (fuel depth : Nat) (s : Text) :
    Json.members (fuel + 2) depth []
        ('"' :: ("schema_version\": 1,\n  \"entries\": ".toList ++ s)) =
      Json.members (fuel + 1) depth [versionMember] ('"' :: ("entries\": ".toList ++ s)) := by
  have hkey : Json.stringRest ("schema_version\": 1,\n  \"entries\": ".toList ++ s) =
      .ok (.text versionName, ": 1,\n  \"entries\": ".toList ++ s) :=
    Json.stringRest_writtenString versionName _
  have hcolon : Json.skipLayout (": 1,\n  \"entries\": ".toList ++ s) =
      ':' :: (" 1,\n  \"entries\": ".toList ++ s) := rfl
  have hone : Json.skipLayout (" 1,\n  \"entries\": ".toList ++ s) =
      '1' :: ',' :: ("\n  \"entries\": ".toList ++ s) := rfl
  have hcomma : Json.skipLayout (',' :: ("\n  \"entries\": ".toList ++ s)) =
      ',' :: ("\n  \"entries\": ".toList ++ s) := rfl
  have hnext : Json.skipLayout ("\n  \"entries\": ".toList ++ s) =
      '"' :: ("entries\": ".toList ++ s) := rfl
  rw [Json.members, hkey]
  simp only [bind, Except.bind, hcolon, hone, value_version, hcomma, hnext]
  rfl

theorem members_entries {fuel : Nat} (depth : Nat) (entries : List Text)
    (hfuel : entries.length + 1 < fuel) :
    Json.members (fuel + 1) (depth + 1) [versionMember]
        ('"' :: ("entries\": ".toList ++ (writtenEntries entries ++ ['\n', '\x7d']))) =
      .ok ([versionMember, (.string (.text entriesName), written entries)], []) := by
  have hvalue := value_writtenEntries depth entries ['\n', '\x7d'] hfuel
  have hlist : Json.skipLayout (" ".toList ++ (writtenEntries entries ++ ['\n', '\x7d'])) =
      writtenEntries entries ++ ['\n', '\x7d'] := by
    cases entries with
    | nil => rfl
    | cons e es =>
      rw [writtenEntries_cons]
      rfl
  generalize writtenEntries entries ++ ['\n', '\x7d'] = s at hvalue hlist ⊢
  have hkey : Json.stringRest ("entries\": ".toList ++ s) =
      .ok (.text entriesName, ": ".toList ++ s) := Json.stringRest_writtenString entriesName _
  have hcolon : Json.skipLayout (": ".toList ++ s) = ':' :: (" ".toList ++ s) := rfl
  rw [Json.members, hkey]
  simp only [bind, Except.bind, hcolon, hlist, hvalue]
  rfl

theorem read_text (entries : List Text) : Json.read (text entries) = .ok (document entries) := by
  obtain ⟨fuel, hfuel, hlen⟩ : ∃ n, 2 * (text entries).length + 2 = n + 3 ∧
      entries.length + 1 < n := by
    have := length_le_length_writtenEntries entries
    refine ⟨2 * (text entries).length - 1, ?_, ?_⟩ <;>
    · simp only [text, List.length_cons, List.length_append]
      omega
  have htext : text entries = '\x7b' :: ("\n  \"schema_version\": 1,\n  \"entries\": ".toList ++
      (writtenEntries entries ++ ['\n', '\x7d'])) := by
    simp only [text, show Text.ofNat schemaVersion = ['1'] from rfl, List.append_assoc]
    rfl
  have hopen : Json.skipLayout (text entries) = text entries := by
    rw [htext]
    rfl
  have hskip (s : Text) :
      Json.skipLayout ("\n  \"schema_version\": 1,\n  \"entries\": ".toList ++ s) =
        '"' :: ("schema_version\": 1,\n  \"entries\": ".toList ++ s) := rfl
  have hvalue := Json.value_members (fuel + 2) 984
    (hskip (writtenEntries entries ++ ['\n', '\x7d']))
  rw [members_version, members_entries 983 entries hlen] at hvalue
  rw [Json.read, hfuel, hopen, htext, show Json.maxDepth = 984 + 1 from rfl, hvalue]
  rfl

theorem entryList_written (entries : List Text) : entryList (written entries) = .ok entries := by
  have hitems (i : Nat) (es : List Text) :
      textItems i (es.map fun t => .string (.text t)) = (es, []) := by
    induction es generalizing i with
    | nil => rfl
    | cons e es ih =>
      simp only [List.map_cons, textItems, ih]
      rfl
  simp only [written, entryList, hitems]

theorem ofDocument_document (entries : List Text) :
    ofDocument (document entries) = .ok entries := by
  generalize hw : written entries = w
  have hlist : entryList w = .ok entries := hw ▸ entryList_written entries
  have hversion : member? versionName [versionMember, (.string (.text entriesName), w)] =
      some (.int schemaVersion) := rfl
  have hentries : member? entriesName [versionMember, (.string (.text entriesName), w)] =
      some w := rfl
  have hstray : [versionMember, (.string (.text entriesName), w)].filterMap
      (fun x => strayName x.1) = [] := rfl
  simp only [document, hw, ofDocument, hversion, Option.getD_some, entriesOfMembers, hentries,
    hstray, hlist]
  rfl

/-- Entries that were written are read back. -/
theorem ofText_text (entries : List Text) : ofText (text entries) = .ok entries := by
  rw [ofText, read_text]
  exact ofDocument_document entries

/-! ## line endings -/

theorem unifyNewlines_of_not_mem {t : Text} (h : '\r' ∉ t) : Text.unifyNewlines t = t := by
  induction t using Text.unifyNewlines.induct with
  | case1 => rfl
  | case2 rest => exact absurd List.mem_cons_self h
  | case3 rest => exact absurd List.mem_cons_self h
  | case4 c rest hc hr ih =>
    rw [Text.unifyNewlines, ih fun hmem => h (List.mem_cons_of_mem c hmem)]
    · exact hc
    · exact hr

/-- A written string holds no carriage return: the character has an escape. -/
theorem return_not_mem_writtenString (t : Text) : '\r' ∉ Json.writtenString t := by
  have hchar (c : Char) : '\r' ∉ Json.writtenChar c := by
    unfold Json.writtenChar
    iterate 7
      split
      · decide
    split
    · rename_i h
      have hdigits : ∀ n < 32, '\r' ∉ Text.hexDigits 4 n := by decide
      simp [hdigits c.toNat h]
    · rename_i h _
      simpa using Ne.symm h
  simp [Json.writtenString, hchar]

theorem unifyNewlines_text (entries : List Text) :
    Text.unifyNewlines (text entries) = text entries := by
  apply unifyNewlines_of_not_mem
  have hentries : '\r' ∉ writtenEntries entries := by
    cases entries with
    | nil => decide
    | cons e es => simp [writtenEntries_cons, return_not_mem_writtenString]
  simp only [text, List.mem_append, List.mem_cons, not_or, hentries]
  decide

end History

end ExMode
