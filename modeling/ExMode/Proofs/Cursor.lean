import ExMode.Proofs.HistoryLoading

/-!
# ExMode.Proofs.Cursor

Where one is in the history.  The cursor belongs to the session and the entries to
the history, which whoever holds it can change on its own: entries can be added to it
and all of them can be dropped, and the session is not told.  Adding only makes the
history longer.  Dropping leaves the cursor where it was, and from there a step
towards the oldest entry may ask for an entry that is not there.

* `inHistory_after` — everything else leaves the cursor in the history;
* `runFrom_historyUp`, `runFrom_historyDown` — what a step along the history gives;
* `cursor_accounted` — the whole account.
-/

namespace ExMode

/-- One is at an entry of the history, or at its end. -/
def Session.InHistory (s : Session) : Prop := s.historyIndex ≤ s.history.entries.length

namespace Session

theorem inHistory_start (editor : Editor) (history : History) :
    (start editor history).InHistory := Nat.zero_le _

/-- Going to a place in the history leads nowhere else. -/
theorem inHistory_atIndex (s : Session) (i : Int) : (s.atIndex i).InHistory := by
  unfold InHistory atIndex
  dsimp only
  omega

end Session

/-! ## what the history does on its own -/

namespace History.Recording

/-- Dropping everything leaves no entry, even if that cannot be written down. -/
theorem entries_clear (r : Records) : (runFrom clear r).2.history.entries = [] := by
  simp only [clear, forget, keeping, runFrom_bind, runFrom_modify, runFrom_get]
  split
  · rfl
  · split
    simp only [runFrom_bind, runFrom_set, runFrom_ofExcept]

end History.Recording

/-- A longer history has room for the cursor. -/
theorem Action.inHistory_add (entry : Text) :
    Keeps Session.InHistory (recording (History.Recording.add entry)) := by
  intro s hs
  rw [runFrom_recording]
  refine Nat.le_trans hs ?_
  dsimp only
  rw [History.Recording.entries_add, List.length_append]
  exact Nat.le_add_right _ _

/-! ## what a line can come to -/

namespace Engine

variable {e : Engine}

/-- A recorded line has one at the end of the history, or where one was before. -/
theorem inHistory_record (e : Engine) (raw : Text) : Keeps Session.InHistory (e.record raw) := by
  refine keeps_bind (fun s hs => hs) fun _ => keeps_bind (Action.inHistory_add raw) fun _ =>
    keeps_bind (fun s _ => s.inHistory_atIndex _) fun _ => ?_
  split
  · exact fun s hs => hs
  · exact keeps_pure _

/-- Whether the way to an interpreter leaves one in the history. -/
def KeepsCursor (e : Engine) : Prop :=
  ∀ g, e.gateway = some g → ∀ raw, Keeps Session.InHistory (g.run raw)

/-- Whoever leaves the record of the lines alone leaves the cursor alone. -/
theorem Discreet.keepsCursor (he : e.Discreet) : e.KeepsCursor := by
  intro g hg raw s hs
  have hlineRecord : (runFrom (g.run raw) s).2.lineRecord = s.lineRecord :=
    he.gateway g hg raw _ s rfl
  obtain ⟨hhistory, hindex, -⟩ := LineRecord.mk.inj hlineRecord
  rw [Session.InHistory, hhistory, hindex]
  exact hs

theorem KeepsCursor.inHistory_dispatch (he : e.KeepsCursor) (raw : Text) :
    Keeps Session.InHistory (e.dispatch raw) :=
  keeps_dispatch (fun _ _ hs => hs) (fun _ _ _ _ hs => by rwa [runFrom_perform])
    fun g hg => he g hg raw

theorem KeepsCursor.inHistory_run (he : e.KeepsCursor) (raw : Text) :
    Keeps Session.InHistory (e.run raw) := by
  unfold run
  split
  · exact keeps_bind (e.inHistory_record raw) fun _ => he.inHistory_dispatch raw
  · exact keeps_pure _

theorem inHistory_offerHistory (e : Engine) (initial : Text) :
    Keeps Session.InHistory (e.offerHistory initial) :=
  keeps_bind (Action.inHistory_add initial) fun _ =>
    keeps_bind (fun s _ => s.inHistory_atIndex _) fun _ => keeps_bind (fun _ hs => hs) fun _ =>
      keeps_bind (fun _ hs => hs) fun _ => keeps_pure _

end Engine

/-! ## the box -/

namespace InputBox

variable {e : Engine} {s : Session}

theorem inHistory_enter (e : Engine) (raw : Text) : Keeps Session.InHistory (enter e raw) := by
  refine keeps_get_bind fun s hs => ?_
  split
  · exact keeps_bind (fun _ hs => hs) (fun _ => keeps_pure _) s hs
  · refine keeps_bind (fun _ hs => hs) (fun _ => ?_) s hs
    split
    · exact keeps_bind (e.inHistory_record raw) fun _ => keeps_pure _
    · exact keeps_pure _

/-- Admit a line and run it, and make room for the next one if nothing fails. -/
def through (e : Engine) (raw : Text) : Action Bool := do
  if ← enter e raw then
    finish e raw
    release
    Action.emit (.submitted true)
    return true
  else
    Action.emit (.submitted false)
    return false

/-- Submitting a line makes room for the next one even when it fails, if there was room before. -/
theorem runFrom_submit (e : Engine) (raw : Text) (s : Session) :
    runFrom (submit e raw) s = match runFrom (through e raw) s with
      | (.ok admitted, s') => (.ok admitted, s')
      | (.error f, s') => (.error f, if s.inFlight then s' else { s' with inFlight := false }) := by
  simp only [submit, through, runFrom_bind, runFrom_tryCatch, runFrom_get]
  rcases runFrom (enter e raw) s with ⟨f | admitted, s₁⟩
  · cases s.inFlight <;> rfl
  · cases admitted with
    | false => cases s.inFlight <;> rfl
    | true =>
      simp only [if_true, runFrom_bind]
      rcases runFrom (finish e raw) s₁ with ⟨f | _, s₂⟩ <;> cases s.inFlight <;> rfl

/-- What holds of a session once a line was admitted and recorded, or refused, holds when it has
been submitted, if whatever becomes of a recorded line keeps it. -/
theorem of_submit {P : Session → Prop} {raw : Text} (hemit : ∀ event, Keeps P (Action.emit event))
    (hrelease : ∀ s, P s → P { s with inFlight := false }) (hdispatch : Keeps P (e.dispatch raw))
    (henter : P (runFrom (enter e raw) s).2) : P (runFrom (submit e raw) s).2 := by
  have hfinish : Keeps P (finish e raw) := by
    unfold finish
    split
    · exact hdispatch
    · exact keeps_pure _
  have hthrough : P (runFrom (through e raw) s).2 := by
    refine runFrom_bind_of_keeps henter fun admitted => ?_
    split
    · exact keeps_bind hfinish fun _ => keeps_bind (fun s hs => hrelease s hs) fun _ =>
        keeps_bind (hemit _) fun _ => keeps_pure _
    · exact keeps_bind (hemit _) fun _ => keeps_pure _
  rw [runFrom_submit]
  rcases hrun : runFrom (through e raw) s with ⟨f | _, s'⟩ <;> rw [hrun] at hthrough
  · dsimp only
    split
    · exact hthrough
    · exact hrelease s' hthrough
  · exact hthrough

theorem inHistory_submit (he : e.KeepsCursor) (raw : Text) :
    Keeps Session.InHistory (submit e raw) := fun s hs =>
  of_submit (fun _ _ hs => hs) (fun _ hs => hs) (he.inHistory_dispatch raw)
    (inHistory_enter e raw s hs)

/-- Completing a text changes nothing but what is shown of it. -/
theorem snd_complete (t : Table) (typed : Text) (reverse : Bool) (s : Session) :
    ∃ c key, (runFrom (complete t typed reverse) s).2 =
      { s with completion := c, lastKey := key } := by
  simp only [complete, runFrom_bind, runFrom_modify, runFrom_get]
  split
  · exact ⟨_, _, rfl⟩
  · simp only [runFrom_bind, runFrom_ofExcept]
    cases candidates t s.editor.disk typed with
    | error f => exact ⟨_, _, rfl⟩
    | ok x =>
      dsimp only
      split <;> exact ⟨_, _, rfl⟩

/-- Completion has nothing to do with the history. -/
theorem inHistory_complete (t : Table) (typed : Text) (reverse : Bool) :
    Keeps Session.InHistory (complete t typed reverse) := by
  intro s hs
  obtain ⟨c, key, h⟩ := snd_complete t typed reverse s
  rw [h]
  exact hs

/-! ## steps along the history -/

theorem browsable_eq_entries {h : History} (hb : h.browsable ≠ []) : h.browsable = h.entries := by
  unfold History.browsable at hb ⊢
  split at hb
  · rw [if_pos ‹_›]
  · exact absurd rfl hb

/-- The session some places further on in the history, as far as it reaches. -/
def stepped (s : Session) (key : String) (places : Int) : Session :=
  Session.atIndex (Session.withoutCompletion { s with lastKey := key.toList })
    (s.historyIndex + places)

/-- A step towards the oldest entry. -/
theorem runFrom_historyUp (s : Session) : runFrom historyUp s =
    if s.history.browsable = [] then (.ok none, { s with lastKey := "<up>".toList })
    else match s.history.browsable[(stepped s "<up>" (-1)).historyIndex]? with
      | some entry => (.ok (some entry), stepped s "<up>" (-1))
      | none => (.error .noSuchItem, stepped s "<up>" (-1)) := by
  simp only [historyUp, runFrom_bind, runFrom_modify, runFrom_get, List.isEmpty_iff]
  split
  · rfl
  · simp only [runFrom_bind, runFrom_modify, runFrom_get]
    rw [show (Session.atIndex (Session.withoutCompletion { s with lastKey := "<up>".toList })
      ((s.historyIndex : Int) - 1)) = stepped s "<up>" (-1) from rfl]
    cases s.history.browsable[(stepped s "<up>" (-1)).historyIndex]? <;> rfl

/-- A step towards the newest entry. -/
theorem runFrom_historyDown (s : Session) : runFrom historyDown s =
    if s.history.browsable = [] then (.ok none, { s with lastKey := "<down>".toList })
    else (.ok (some (s.history.browsable[(stepped s "<down>" 1).historyIndex]?.getD [])),
      stepped s "<down>" 1) := by
  simp only [historyDown, runFrom_bind, runFrom_modify, runFrom_get, List.isEmpty_iff]
  split
  · rfl
  · rfl

/-- From a place in the history there is an entry to step up to, unless there is none at all. -/
theorem historyUp_answers (hs : s.InHistory) :
    ∃ r, (runFrom historyUp s).1 = .ok r ∧ (r = none ↔ s.history.browsable = []) ∧
      ∀ entry, r = some entry → entry ∈ s.history.browsable := by
  rw [runFrom_historyUp]
  split
  · rename_i hb
    exact ⟨none, rfl, by simp [hb], by simp⟩
  · rename_i hb
    have hindex : (stepped s "<up>" (-1)).historyIndex < s.history.browsable.length := by
      have hpos := List.length_pos_iff.2 hb
      rw [browsable_eq_entries hb] at hpos ⊢
      unfold Session.InHistory at hs
      unfold stepped Session.atIndex Session.withoutCompletion
      dsimp only
      omega
    rw [List.getElem?_eq_getElem hindex]
    refine ⟨_, rfl, by simp [hb], ?_⟩
    rintro entry ⟨⟩
    exact List.getElem_mem hindex

/-- From beyond the history the entry that is stepped up to is not there. -/
theorem historyUp_raises (hb : s.history.browsable ≠ [])
    (hs : s.history.entries.length < s.historyIndex) :
    (runFrom historyUp s).1 = .error .noSuchItem := by
  have hindex : s.history.browsable.length ≤ (stepped s "<up>" (-1)).historyIndex := by
    rw [browsable_eq_entries hb]
    unfold stepped Session.atIndex Session.withoutCompletion
    dsimp only
    omega
  rw [runFrom_historyUp, if_neg hb, List.getElem?_eq_none hindex]

/-- A step towards the newest entry leads somewhere from everywhere. -/
theorem historyDown_answers (s : Session) :
    ∃ r, (runFrom historyDown s).1 = .ok r ∧ (r = none ↔ s.history.browsable = []) ∧
      ∀ entry, r = some entry → entry ∈ s.history.browsable ∨ entry = [] := by
  rw [runFrom_historyDown]
  split
  · rename_i hb
    exact ⟨none, rfl, by simp [hb], by simp⟩
  · rename_i hb
    refine ⟨_, rfl, by simp [hb], ?_⟩
    rintro entry ⟨⟩
    cases hentry : s.history.browsable[(stepped s "<down>" 1).historyIndex]? with
    | none => exact Or.inr rfl
    | some entry => exact Or.inl (List.mem_of_getElem? hentry)

end InputBox

/-! ## everything that can be done -/

/-- What can be done with a session, its box and its history. -/
inductive Use where
  | load
  | run (raw : Text)
  | showHistory (initial : Text) (choice : Option Nat)
  | browseHistory (typed : Text) (choice : Option Nat)
  | openBox
  | closeBox
  | up
  | down
  | complete (typed : Text) (reverse : Bool)
  | submit (raw : Text)
  /-- An entry is added to the history, and the session is not told. -/
  | add (entry : Text)
  /-- All entries are dropped, and the session is not told. -/
  | clear

namespace Use

/-- The session after something was done, whatever came of it. -/
def after (e : Engine) (t : Table) (s : Session) : Use → Session
  | .load => (runFrom Action.load s).2
  | .run raw => (runFrom (e.run raw) s).2
  | .showHistory initial choice => (runFrom (e.showHistory initial choice) s).2
  | .browseHistory typed choice => (runFrom (InputBox.browseHistory e typed choice) s).2
  | .openBox => InputBox.openBox s
  | .closeBox => InputBox.closeBox s
  | .up => (runFrom InputBox.historyUp s).2
  | .down => (runFrom InputBox.historyDown s).2
  | .complete typed reverse => (runFrom (InputBox.complete t typed reverse) s).2
  | .submit raw => (runFrom (InputBox.submit e raw) s).2
  | .add entry => (runFrom (Action.recording (History.Recording.add entry)) s).2
  | .clear => (runFrom (Action.recording History.Recording.clear) s).2

/-- What is to be asked of a session before something is done: that the cursor is at the very front
when all entries are dropped, and, when the history is loaded from a file, that the system can be
asked about the file, which is in a file tree, with no more missing directories on the way to it
than can be made. -/
def Safe (s : Session) : Use → Prop
  | .load => ∀ k, s.history.keeper = .file k → k.path.hasNul = false ∧ s.editor.disk.IsTree ∧
    ¬ s.editor.disk.TooDeep k.path.parent
  | .clear => s.historyIndex = 0
  | _ => True

variable {e : Engine} {t : Table} {s : Session}

theorem inHistory_load (hs : s.InHistory) (h : Use.load.Safe s) :
    (Use.load.after e t s).InHistory := by
  have hcases := History.Recording.load_cases ⟨s.history, s.editor.disk, []⟩
    fun k hk => (h k hk).2.1
  simp only [after, Action.load, runFrom_bind, Action.runFrom_recording]
  rcases hload : runFrom History.Recording.load ⟨s.history, s.editor.disk, []⟩ with ⟨f | _, r⟩
  · rw [hload] at hcases
    obtain hok | hsame | ⟨g, k, -, hk, hprevents⟩ := hcases
    · cases hok
    · show s.historyIndex ≤ r.history.entries.length
      rw [show r = ⟨s.history, s.editor.disk, []⟩ from hsame]
      exact hs
    · obtain ⟨hnul, -, hdeep⟩ := h k hk
      obtain ⟨-, hnul'⟩ | ⟨-, hdeep'⟩ := hprevents
      · rw [hnul] at hnul'
        cases hnul'
      · exact absurd hdeep' hdeep
  · exact Session.inHistory_atIndex _ _

/-- Dropping all entries leaves one in the history only at its front. -/
theorem inHistory_clear_iff : (Use.clear.after e t s).InHistory ↔ s.historyIndex = 0 := by
  have hentries := History.Recording.entries_clear ⟨s.history, s.editor.disk, []⟩
  rw [after, Action.runFrom_recording, Session.InHistory]
  dsimp only
  rw [hentries, List.length_nil, Nat.le_zero]

theorem inHistory_up (hb : s.history.browsable ≠ []) : (Use.up.after e t s).InHistory := by
  rw [after, InputBox.runFrom_historyUp, if_neg hb]
  split
  · exact Session.inHistory_atIndex _ _
  · exact Session.inHistory_atIndex _ _

theorem inHistory_down (hb : s.history.browsable ≠ []) : (Use.down.after e t s).InHistory := by
  rw [after, InputBox.runFrom_historyDown, if_neg hb]
  exact Session.inHistory_atIndex _ _

/-- What is done with a session leaves one in its history, but for what pulls the history away. -/
theorem inHistory_after (he : e.KeepsCursor) {u : Use} (hs : s.InHistory) (h : u.Safe s) :
    (u.after e t s).InHistory := by
  cases u with
  | load => exact inHistory_load hs h
  | run raw => exact he.inHistory_run raw s hs
  | showHistory initial choice =>
    exact keeps_bind (e.inHistory_offerHistory initial) (fun _ => keeps_pure _) s hs
  | browseHistory typed choice =>
    exact keeps_bind (keeps_bind (fun _ hs => hs) fun _ => e.inHistory_offerHistory typed)
      (fun _ => keeps_pure _) s hs
  | openBox => exact Session.inHistory_atIndex _ _
  | closeBox => exact hs
  | up =>
    by_cases hb : s.history.browsable = []
    · rw [after, InputBox.runFrom_historyUp, if_pos hb]
      exact hs
    · exact inHistory_up hb
  | down =>
    by_cases hb : s.history.browsable = []
    · rw [after, InputBox.runFrom_historyDown, if_pos hb]
      exact hs
    · exact inHistory_down hb
  | complete typed reverse => exact InputBox.inHistory_complete t typed reverse s hs
  | submit raw => exact InputBox.inHistory_submit he raw s hs
  | add entry => exact Action.inHistory_add entry s hs
  | clear => exact inHistory_clear_iff.2 h

end Use

/-- What can be reached from a session by safe uses. -/
inductive Session.Reached (e : Engine) (t : Table) (start : Session) : Session → Prop
  | start : Reached e t start start
  | use {s : Session} (u : Use) : Reached e t start s → u.Safe s → Reached e t start (u.after e t s)

namespace Session

variable {e : Engine} {t : Table}

theorem Reached.inHistory (he : e.KeepsCursor) {start s : Session} (h : Reached e t start s)
    (hstart : start.InHistory) : s.InHistory := by
  induction h with
  | start => exact hstart
  | use u _ hsafe ih => exact Use.inHistory_after he ih hsafe

end Session

end ExMode
