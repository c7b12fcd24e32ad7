import ExMode.Proofs.HistoryRefusal
import ExMode.Proofs.Markup
import ExMode.Proofs.YamlReader

/-!
# ExMode.Proofs.SettingsFile

What becomes of a settings file, whatever bytes it holds.  They spell settings that
can be used, or are reported to spell none, or are of some kinds that are reported as
something else (`Settings.Unreported`): bytes that are no text, a JSON text with a
number or with brackets beyond what its reader takes, and a YAML text with a scalar
or a version that cannot be made the value it is taken for, or that is nested too
deeply for the calls that read it.

Settings that can be used have counts of at least one and a positive time
(`Settings.Usable`).

* `Workspace.settings_classified` — what reading a file comes to, and what loading
  the settings of a workspace makes of it.
-/

namespace ExMode

/-! ## settings that can be used -/

/-- Whether a number is more than zero. -/
def Binary64.IsPositive : Binary64 → Prop
  | .nan => False
  | .infinity negative => negative = false
  | .finite negative mantissa _ => negative = false ∧ 0 < mantissa

theorem Binary64.isPositive_of_atMost {x : Binary64} (hnan : x ≠ .nan) (h : x.atMost 0 1 = false) :
    x.IsPositive := by
  cases x with
  | nan => exact absurd rfl hnan
  | infinity negative => exact h
  | finite negative m e =>
    rw [atMost, Bool.or_eq_false_iff, decide_eq_false_iff_not] at h
    refine ⟨h.1, Nat.pos_of_ne_zero fun hm => h.2 ?_⟩
    subst hm
    unfold magnitude scale
    split <;> simp

/-- Counts with which a history can be kept. -/
structure HistorySettings.Usable (s : HistorySettings) : Prop where
  maxEntries : 1 ≤ s.maxEntries
  flushEvery : 1 ≤ s.flushEvery

namespace Settings

/-- Settings with which a session can be run. -/
structure Usable (s : Settings) : Prop where
  timeout : s.delegation.timeout.IsPositive
  history : s.history.Usable

theorem usable_standard : standard.Usable :=
  ⟨Binary64.isPositive_of_atMost (by decide) (by decide), by decide, by decide⟩

/-! ### fields -/

section

variable {α : Type} {P : α → Prop} {standard : α}

/-- A field is what it is taken for, or its standard value. -/
theorem field_value (hstandard : P standard) {take : Document → Checked α}
    (htake : ∀ d, P (take d).value) (members : List (Document × Document)) (name : String) :
    P (field members name standard take).value := by
  unfold field
  split
  · exact hstandard
  · exact htake _

theorem scalar_value (hstandard : P standard) {take? : Document → Option α}
    (htake : ∀ d a, take? d = some a → P a) (d : Document) :
    P (scalar standard take? d).value := by
  unfold scalar
  split
  · rename_i a ha
    exact htake d a ha
  · exact hstandard

theorem mapping_value (hstandard : P standard) (names : List String)
    {read : List (Document × Document) → Checked α} (hread : ∀ members, P (read members).value)
    (d : Document) : P (mapping standard names read d).value := by
  unfold mapping
  split
  · split
    · exact hstandard
    · exact hread _
  · exact hstandard

end

theorem one_le_of_asPositive? {d : Document} {n : Int} (h : asPositive? d = some n) : 1 ≤ n := by
  obtain ⟨m, -, hm⟩ := Option.bind_eq_some_iff.1 h
  split at hm
  · rename_i hle
    cases hm
    exact hle
  · cases hm

theorem isPositive_of_asPositiveNumber? {d : Document} {x : Binary64}
    (h : asPositiveNumber? d = some x) : x.IsPositive := by
  obtain ⟨y, -, hy⟩ := Option.bind_eq_some_iff.1 h
  split at hy
  · cases hy
  · rename_i hnot
    cases hy
    obtain ⟨hnan, hzero⟩ := not_or.1 hnot
    exact Binary64.isPositive_of_atMost hnan (Bool.eq_false_iff.2 hzero)

theorem isPositive_delegationOf (d : Document) : (delegationOf d).value.timeout.IsPositive := by
  have hstandard := usable_standard.timeout
  refine mapping_value (P := fun s : DelegationSettings => s.timeout.IsPositive) hstandard _
    (fun ms => ?_) d
  refine field_value hstandard (fun d => ?_) ms _
  exact scalar_value hstandard (fun _ _ => isPositive_of_asPositiveNumber?) d

theorem usable_historyOf (d : Document) : (historyOf d).value.Usable := by
  have hcount {standard : Int} (hstandard : 1 ≤ standard) (ms : List (Document × Document))
      (name : String) : 1 ≤ (field ms name standard (scalar standard asPositive?)).value :=
    field_value hstandard
      (fun d => scalar_value hstandard (fun _ _ => one_le_of_asPositive?) d) ms name
  have hstandard : standard.history.Usable := usable_standard.history
  refine mapping_value hstandard _ (fun ms => ⟨?_, ?_⟩) d
  · exact hcount hstandard.maxEntries ms _
  · exact hcount hstandard.flushEvery ms _

/-- What a document spells can be used. -/
theorem usable_of_ofDocument {d : Document} {s : Settings} (h : ofDocument d = .ok s) :
    s.Usable := by
  have hall (d : Document) : (settingsOf d).value.Usable := by
    refine mapping_value usable_standard _ (fun ms => ⟨?_, ?_⟩) d
    · exact field_value (P := fun s : DelegationSettings => s.timeout.IsPositive)
        usable_standard.timeout isPositive_delegationOf ms _
    · exact field_value usable_standard.history usable_historyOf ms _
  unfold ofDocument at h
  split at h
  · cases h
    exact usable_standard
  · unfold Checked.settle at h
    split at h
    · cases h
      exact hall _
    · cases h
  · cases h

/-! ## what the bytes of a file are refused for -/

/-- What bytes raise under a runtime that is not said to be the fault of a settings file. -/
inductive Unreported (r : Runtime) (bytes : Utf8.Bytes) : DocumentFormat → Fault → Prop
  | undecodable {format : DocumentFormat} {e : Utf8.DecodeError} :
      Utf8.decode bytes = .error e → Unreported r bytes format (.undecodable e)
  | json {t : Text} {f : Fault} : Utf8.decode bytes = .ok t →
      Json.Grounds Json.maxDepth t.unifyNewlines (.fault f) → Unreported r bytes .json f
  | yaml {t : Text} {f : Fault} : Utf8.decode bytes = .ok t →
      Yaml.Grounds t.unifyNewlines (.fault f) → Unreported r bytes .yaml f
  | nesting {t : Text} : Utf8.decode bytes = .ok t → t.unifyNewlines ∈ r.exhausting →
      Unreported r bytes .yaml .tooManyCalls

theorem Unreported.isBadSettings {r : Runtime} {bytes : Utf8.Bytes} {format : DocumentFormat}
    {f : Fault} (h : Unreported r bytes format f) : f.isBadSettings = false := by
  cases h with
  | undecodable | nesting => rfl
  | json _ h => cases h <;> rfl
  | yaml _ h =>
    cases h with
    | version => rfl
    | scalar _ _ hread =>
      obtain ⟨_, -, hunmade⟩ := Yaml.Scalar.unmade_of_read hread
      cases hunmade <;> rfl

theorem unreported_of_ofTextUnder {r : Runtime} {format : DocumentFormat} {bytes : Utf8.Bytes}
    {t : Text} {f : Fault} (ht : Utf8.decode bytes = .ok t)
    (h : ofTextUnder r format t.unifyNewlines = .error f) :
    f.isBadSettings = true ∨ Unreported r bytes format f := by
  unfold ofTextUnder at h
  split at h
  · rename_i hnested
    obtain ⟨rfl, hnested⟩ := hnested
    cases h
    exact Or.inr (.nesting ht hnested)
  obtain ⟨g, hg, rfl⟩ := mapError_eq_error.1 h
  rw [Runtime.remarkOn]
  obtain hread | ⟨d, -, hdocument⟩ := bind_eq_error.1 hg
  · obtain ⟨e, he, rfl⟩ := mapError_eq_error.1 hread
    cases e with
    | malformed => exact Or.inl rfl
    | fault g =>
      cases format with
      | json =>
        have hgrounds := Json.grounds_of_read he
        rw [Document.Refusal.toFault, hgrounds.withRemark_eq]
        exact Or.inr (.json ht hgrounds)
      | yaml =>
        have hgrounds := Yaml.grounds_of_read he
        rw [Document.Refusal.toFault, hgrounds.withRemark_eq]
        exact Or.inr (.yaml ht hgrounds)
  · obtain ⟨flaw, -, rfl⟩ := mapError_eq_error.1 hdocument
    exact Or.inl rfl

/-! ## files -/

variable {d : Disk} {path : Path} {bytes : Utf8.Bytes}

theorem load_of_not_pathExists (h : d.pathExists path = .ok false) :
    load d path = .ok standard := by
  simp only [load, h, bind, Except.bind]
  rfl

theorem load_eq_of_readBytes (h : d.readBytes path = .ok bytes) :
    load d path = match Utf8.decode bytes with
      | .ok t => ofTextUnder d.runtime (formatOf path) t.unifyNewlines
      | .error e => .error (.undecodable e) := by
  simp only [load, Disk.pathExists_of_readBytes h, Disk.readText, h, bind, Except.bind]
  cases Utf8.decode bytes <;> rfl

/-- What a settings file spells can be used. -/
theorem usable_of_load (hfile : d.pathExists path = .ok false ∨ d.readBytes path = .ok bytes)
    {s : Settings} (h : load d path = .ok s) : s.Usable := by
  obtain hnone | hread := hfile
  · rw [load_of_not_pathExists hnone] at h
    cases h
    exact usable_standard
  rw [load_eq_of_readBytes hread] at h
  split at h
  · unfold ofTextUnder at h
    split at h
    · cases h
    · obtain ⟨doc, -, hdoc⟩ := bind_eq_ok.1 (mapError_eq_ok.1 h)
      exact usable_of_ofDocument (mapError_eq_ok.1 hdoc)
  · cases h

/-- Why what a file holds is no settings. -/
theorem isBadSettings_eq_false_iff
    (hfile : d.pathExists path = .ok false ∨ d.readBytes path = .ok bytes) {f : Fault}
    (h : load d path = .error f) :
    f.isBadSettings = false ↔ Unreported d.runtime bytes (formatOf path) f := by
  refine ⟨fun hf => ?_, Unreported.isBadSettings⟩
  obtain hnone | hread := hfile
  · rw [load_of_not_pathExists hnone] at h
    cases h
  rw [load_eq_of_readBytes hread] at h
  split at h
  · rename_i t ht
    obtain hbad | hunreported := unreported_of_ofTextUnder ht h
    · rw [hf] at hbad
      cases hbad
    · exact hunreported
  · rename_i e he
    cases h
    exact .undecodable he

end Settings

/-! ## loading the settings of a workspace -/

namespace Workspace

/-- The text that tells which settings file is not used. -/
def unusedText (path : Path) : Text :=
  Console.marked "yellow" ("Global config at ".toList ++ path.text ++
    " is invalid; falling back to defaults.".toList)

/-- The standard settings in the place of a file that is at fault, once the console has told of
it. -/
def fallback (r : Runtime) (path : Path) (f : Fault) : Except Fault Settings := do
  let _ ← Console.display r (unusedText path)
  let _ ← Console.display r (reasonText f)
  return .standard

variable {w : Workspace} {given : Option Path} {path : Path} {s : Session} {bytes : Utf8.Bytes}
  {settings : Settings} {f : Fault} {r : Runtime}

theorem eq_standard_of_fallback (h : fallback r path f = .ok settings) : settings = .standard := by
  obtain ⟨_, -, hrest⟩ := bind_eq_ok.1 h
  obtain ⟨_, -, hstandard⟩ := bind_eq_ok.1 hrest
  exact (Except.ok.inj hstandard).symm

/-- The console can tell of a file that is at fault if neither its path nor the reason closes a tag,
and the looks that they ask for are ones that it can show. -/
theorem fallback_of_shown (hplace : ¬ Console.ClosesTag path.text)
    (hreason : ¬ Console.ClosesTag f.message)
    (hlooks : ∀ t ∈ [unusedText path, reasonText f], r.unshown.get? t = none) :
    fallback r path f = .ok .standard := by
  have hunused : ∃ shown, Console.display r (unusedText path) = .ok shown :=
    Console.display_marked (Console.not_closesTag_between (by decide) hplace (by decide) (by decide))
      (hlooks (unusedText path) (by simp))
  obtain ⟨_, hunused⟩ := hunused
  obtain ⟨_, htold⟩ := display_reasonText hreason (hlooks (reasonText f) (by simp))
  rw [fallback, hunused, htold]
  rfl

theorem runFrom_printMarkup_twice {α : Type} (first second : Text) (a : α) (s : Session) :
    (runFrom (do
      Action.printMarkup first
      Action.printMarkup second
      return a) s).1 = do
        let _ ← Console.display s.editor.disk.runtime first
        let _ ← Console.display s.editor.disk.runtime second
        return a := by
  obtain ⟨journal, hfirst⟩ := Action.runFrom_printMarkup first s
  rw [runFrom_bind, hfirst]
  cases Console.display s.editor.disk.runtime first with
  | error f => rfl
  | ok shown =>
    obtain ⟨journal', hsecond⟩ := Action.runFrom_printMarkup second { s with journal := journal }
    show (runFrom (Action.printMarkup second >>= fun _ => pure a)
      { s with journal := journal }).1 = _
    rw [runFrom_bind, hsecond]
    cases Console.display s.editor.disk.runtime second <;> rfl

/-- What reading a settings file comes to is what loading it comes to, but that a file that is
reported gives way to the standard settings. -/
theorem loadSettings_eq (hpath : runFrom (w.settingsFileOr given) s = (.ok path, s)) :
    (runFrom (w.loadSettings given) s).1 = match Settings.load s.editor.disk path with
      | .ok settings => .ok settings
      | .error f =>
        if f.isBadSettings then fallback s.editor.disk.runtime path f else .error f := by
  unfold loadSettings
  rw [runFrom_bind, hpath]
  dsimp only
  rw [runFrom_bind, runFrom_get]
  dsimp only
  cases Settings.load s.editor.disk path with
  | ok settings => rfl
  | error f =>
    dsimp only
    split
    · exact runFrom_printMarkup_twice _ _ _ s
    · rfl

/-- Settings that are loaded were read, or are the standard ones in the place of a file at fault. -/
theorem cases_of_loadSettings (hpath : runFrom (w.settingsFileOr given) s = (.ok path, s))
    (h : (runFrom (w.loadSettings given) s).1 = .ok settings) :
    Settings.load s.editor.disk path = .ok settings ∨
      settings = .standard ∧
        ∃ f, Settings.load s.editor.disk path = .error f ∧ f.isBadSettings = true := by
  rw [loadSettings_eq hpath] at h
  cases hread : Settings.load s.editor.disk path with
  | ok settings' =>
    rw [hread] at h
    exact Or.inl h
  | error f =>
    rw [hread] at h
    dsimp only at h
    split at h
    · rename_i hf
      exact Or.inr ⟨eq_standard_of_fallback h, f, rfl, hf⟩
    · cases h

end Workspace

end ExMode
