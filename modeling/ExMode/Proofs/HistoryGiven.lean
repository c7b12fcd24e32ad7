import ExMode.Proofs.HistoryBuffered
import ExMode.Proofs.LineDisk
import ExMode.Proofs.Unfailing

/-!
# ExMode.Proofs.HistoryGiven

The history of a session between two lines, accounted for by what it was given so far.  Recording a
line gives it one more entry, whatever becomes of writing that down, and the rest of the line leaves
the account alone as long as it leaves the file alone.  So wherever in a batch the last line was, a
flush that succeeds has written what was loaded and then every line.

* `Ledger.Given` — the account, which `Given.append` continues;
* `Session.Given.after` — what a line makes of it;
* `Ledger.Given.stored_of_flush` — what is in the file in the end.
-/

namespace ExMode

/-! ## the account of a history -/

namespace History.Ledger

/-- The account of a keeper that read its file on the disk `d` and was then given some entries: it
is sound and settled, and as long as nothing was given nothing happened. -/
structure Given (path : Path) (maxEntries flushEvery : Int) (loaded : List Text) (d : Disk)
    (given : List Text) (l : Ledger) : Prop where
  sound : Sound path maxEntries flushEvery loaded l
  settled : l.Settled maxEntries loaded
  all_eq : Deed.all loaded l.deeds = loaded ++ given
  untouched : given = [] → l.deeds = [] ∧ l.state.disk = d

variable {path : Path} {maxEntries flushEvery : Int} {loaded given : List Text} {d : Disk}
  {l : Ledger}

theorem given_nil (htree : d.IsTree) (hstored : (FileKeeper.new path 1 1).stored d = .ok loaded) :
    Given path maxEntries (max 1 flushEvery) loaded d []
      ⟨⟨(FileKeeper.new path maxEntries flushEvery).adopt loaded [], d, []⟩, []⟩ where
  sound := sound_of_adopt htree [] []
  settled := fun _ => hstored
  all_eq := (List.append_nil _).symm
  untouched := fun _ => ⟨rfl, rfl⟩

theorem Given.append (hmax : 1 ≤ maxEntries)
    (h : Given path maxEntries flushEvery loaded d given l) (entry : Text) :
    Given path maxEntries flushEvery loaded d (given ++ [entry]) (l.step (.append entry)) where
  sound := h.sound.step hmax _
  settled := h.settled.step hmax h.sound _
  all_eq := by
    rw [all_step (r := .append entry) nofun, h.all_eq, List.append_assoc]
    rfl
  untouched := by simp

/-- The account goes on to another disk on which the file holds the same. -/
theorem Given.onDisk (h : Given path maxEntries flushEvery loaded d given l) (hgiven : given ≠ [])
    {d' : Disk} (htree : d'.IsTree)
    (hstored : ∀ stored, l.state.keeper.stored l.state.disk = .ok stored →
      l.state.keeper.stored d' = .ok stored) :
    Given path maxEntries flushEvery loaded d given ⟨⟨l.state.keeper, d', []⟩, l.deeds⟩ where
  sound := { h.sound with isTree := htree }
  settled := fun hpending => hstored _ (h.settled hpending)
  all_eq := h.all_eq
  untouched := fun hnone => absurd hnone hgiven

/-- After a flush that succeeds the file holds the newest of all entries; if none was given, nothing
happened to the disk. -/
theorem Given.stored_of_flush (hmax : 1 ≤ maxEntries)
    (h : Given path maxEntries flushEvery loaded d given l) {t : KeepingState}
    (hflush : runFrom Keeping.flush l.state = (.ok true, t)) :
    (given ≠ [] →
      (FileKeeper.new path 1 1).stored t.disk = .ok ((loaded ++ given).rtake maxEntries.toNat)) ∧
    (given = [] → t.disk = d) := by
  constructor
  · intro hgiven
    have hdeeds : l.deeds ≠ [] := by
      intro hnone
      have hall := h.all_eq
      rw [hnone] at hall
      exact hgiven (List.append_right_eq_self.1 hall.symm)
    rw [h.settled.stored_of_flush hmax h.sound hflush, if_neg hdeeds, h.all_eq]
  · intro hgiven
    obtain ⟨hdeeds, hdisk⟩ := h.untouched hgiven
    have hpending : l.state.keeper.pending = 0 := by
      rw [h.sound.pending_eq, hdeeds]
      rfl
    rw [Keeping.runFrom_flush_of_not_pending hpending] at hflush
    cases hflush
    exact hdisk

/-- What was given can only be written to a file that the system can be asked about. -/
theorem Given.hasNul_of_flush (hmax : 1 ≤ maxEntries)
    (h : Given path maxEntries flushEvery loaded d given l) (hgiven : given ≠ []) {t : KeepingState}
    (hflush : runFrom Keeping.flush l.state = (.ok true, t)) : path.hasNul = false := by
  cases hnul : path.hasNul with
  | false => rfl
  | true =>
    have hstored := (h.stored_of_flush hmax hflush).1 hgiven
    rw [FileKeeper.stored_of_missing (Or.inl hnul)] at hstored
    have hlength := congrArg List.length (Except.ok.inj hstored)
    have hpos := List.length_pos_iff.2 hgiven
    rw [List.length_nil, List.rtake, List.length_drop, List.length_append] at hlength
    omega

end History.Ledger

open History (Ledger FileKeeper Keeping)

/-- The history of a session was loaded from a file, and was then given some entries. -/
def Session.Given (path : Path) (maxEntries flushEvery : Int) (loaded : List Text) (d : Disk)
    (given : List Text) (s : Session) : Prop :=
  s.history.loaded = true ∧ ∃ k deeds, s.history.keeper = .file k ∧
    Ledger.Given path maxEntries flushEvery loaded d given ⟨⟨k, s.editor.disk, []⟩, deeds⟩

section

variable {path : Path} {maxEntries flushEvery : Int} {loaded given : List Text} {d : Disk}
  {settings : Settings} {homes : List (Text × Text)} {program : Option Interpreter} {raw : Text}
  {s : Session}

/-! ## one line -/

/-- Recording a line gives it to the history, also when it cannot be written down. -/
theorem Session.Given.record (hmax : 1 ≤ maxEntries)
    (h : s.Given path maxEntries flushEvery loaded d given) (e : Engine) (raw : Text) :
    (runFrom (e.record raw) s).2.Given path maxEntries flushEvery loaded d (given ++ [raw]) := by
  obtain ⟨hloaded, k, deeds, hk, hgiven⟩ := h
  obtain ⟨s', hrecord, hhistory, hdisk⟩ :=
    Engine.runFrom_record_of_file (e := e) hloaded hk raw
  have happend := hgiven.append hmax raw
  let state := (runFrom (Keeping.append raw) ⟨k, s.editor.disk, []⟩).2
  have hkept : Ledger.Given path maxEntries flushEvery loaded d (given ++ [raw])
      ⟨⟨state.keeper, state.disk, []⟩, _⟩ :=
    happend.onDisk (by simp) happend.sound.isTree fun _ hstored => hstored
  rw [show state.disk = s'.editor.disk from hdisk.symm] at hkept
  rw [hrecord]
  exact ⟨congrArg History.loaded hhistory, state.keeper, _, congrArg History.keeper hhistory, hkept⟩

/-- A line that leaves the history file alone is one more entry, and nothing else to the history. -/
theorem Session.Given.after (hmax : 1 ≤ maxEntries)
    (h : s.Given path maxEntries flushEvery loaded d given) (hraw : raw ≠ [])
    (hleaves : (Engine.builtIn settings homes program).LeavesHistory path raw s) :
    ((Engine.builtIn settings homes program).after raw s).Given path maxEntries flushEvery loaded d
      (given ++ [raw]) := by
  have hgiven := h.record hmax (Engine.builtIn settings homes program) raw
  have hafter := Engine.after_of_ne_nil (e := Engine.builtIn settings homes program) (s := s) hraw
  rcases hrecord : runFrom ((Engine.builtIn settings homes program).record raw) s with
      ⟨f | _, s'⟩ <;>
    rw [hrecord] at hgiven hafter
  · rw [hafter]
    exact hgiven
  · obtain ⟨hloaded, k, deeds, hk, hledger⟩ := hgiven
    have hpath : k.path = path := hledger.sound.path_eq
    obtain ⟨htree, hstored⟩ :=
      Engine.LeavesHistory.stored_after (hpath ▸ hleaves) hraw hrecord hledger.sound.isTree
    have hhistory := congrArg LineRecord.history <|
      (Engine.discreet_builtIn settings homes program).keepsLineRecord_dispatch raw _ s' rfl
    dsimp only at hafter
    rw [← hafter] at hhistory
    exact ⟨(congrArg History.loaded hhistory).trans hloaded, k, deeds,
      (congrArg History.keeper hhistory).trans hk, hledger.onDisk (by simp) htree hstored⟩

end

end ExMode
