import ExMode.Proofs.HistoryReload

/-!
# ExMode.Proofs.HistoryBuffered

A history file that holds no history.  As long as that is so, a keeper that never read it
only holds back what it is given: `FileKeeper.buffering` is all that such a keeper can
come to (`visitAll_of_unreadable`), and nothing that it is asked for reaches the disk
(`Visit.runFrom_perform_of_unreadable`).

Once the file is gone or holds a history, reading it puts what was held back behind
what it holds, and the account of `Ledger.Sound` begins with both.  From then on,
whenever nothing is held back the file holds the newest of all entries, unless nothing
happened at all (`Ledger.Settled`).

* `unreadable_spared` — the file is spared, and nothing that was held back is lost.
-/

namespace ExMode.History

open Disk

/-- Whether what lies at the path of a history file is no history. -/
def Unreadable (path : Path) (d : Disk) : Prop :=
  ∃ f, (FileKeeper.new path 1 1).stored d = .error f ∧ f.isBadHistory = true

/-- What a keeper is given to keep. -/
def Request.given : Request → List Text
  | .append entry => [entry]
  | .flush => []
  | .clear => []

/-- What a keeper is given to keep. -/
def Visit.given : Visit → List Text
  | .load => []
  | .request r => r.given

namespace FileKeeper

/-- A keeper that has not read its file and holds back some entries. -/
def buffering (path : Path) (maxEntries flushEvery : Int) (buffered : List Text) : FileKeeper :=
  { new path maxEntries flushEvery with entries := buffered, pending := buffered.length }

theorem hold_buffering (path : Path) (maxEntries flushEvery : Int) (buffered : List Text)
    (entry : Text) :
    (buffering path maxEntries flushEvery buffered).hold entry =
      buffering path maxEntries flushEvery (buffered ++ [entry]) := by
  simp [hold, buffering]

theorem unsaved_buffering (path : Path) (maxEntries flushEvery : Int) (buffered : List Text) :
    (buffering path maxEntries flushEvery buffered).unsaved = buffered := by
  have hholds : (buffering path maxEntries flushEvery buffered).HoldsPending := Nat.le_refl _
  rw [unsaved_of_holdsPending hholds]
  exact rtake_of_length_le (Nat.le_refl _)

end FileKeeper

/-! ## while the file holds no history -/

section

variable (path : Path) (maxEntries flushEvery : Int) (buffered : List Text) (d : Disk)
  (log : List LogLine)

/-- The state of a keeper that has not read its file. -/
def KeepingState.buffering : KeepingState :=
  ⟨.buffering path maxEntries flushEvery buffered, d, log⟩

theorem Keeping.runFrom_flush_of_buffering :
    ∃ log', runFrom flush (.buffering path maxEntries flushEvery buffered d log) =
      (.ok buffered.isEmpty, .buffering path maxEntries flushEvery buffered d log') := by
  obtain ⟨log', hflush⟩ := runFrom_flush_of_not_loaded
    (s := .buffering path maxEntries flushEvery buffered d log) rfl
  refine ⟨log', hflush.trans ?_⟩
  cases buffered <;> rfl

variable {path d}

theorem Keeping.runFrom_load_of_unreadable (h : Unreadable path d) :
    ∃ f, f.isBadHistory = true ∧
      runFrom load (.buffering path maxEntries flushEvery buffered d log) =
        (.error f, .buffering path maxEntries flushEvery buffered d log) := by
  obtain ⟨f, hstored, hbad⟩ := h
  refine ⟨f, hbad, ?_⟩
  rw [runFrom_load]
  have hstored' : (KeepingState.buffering path maxEntries flushEvery buffered d log).keeper.stored
      (KeepingState.buffering path maxEntries flushEvery buffered d log).disk = .error f := hstored
  rw [hstored']

/-- What is appended is held back, also when it would be time to write. -/
theorem Keeping.runFrom_append_of_unreadable (h : Unreadable path d) (entry : Text) :
    ∃ log', runFrom (append entry) (.buffering path maxEntries flushEvery buffered d log) =
      (.ok (), .buffering path maxEntries flushEvery (buffered ++ [entry]) d log') := by
  obtain ⟨f, hstored, hbad⟩ := h
  obtain ⟨log', happend⟩ := runFrom_append_of_badHistory
    (s := .buffering path maxEntries flushEvery buffered d log) rfl hstored hbad entry
  refine ⟨log', happend.trans ?_⟩
  rw [KeepingState.buffering, KeepingState.buffering, FileKeeper.hold_buffering]

/-- Nothing that a keeper is asked for reaches the disk, and what it is given it holds back. -/
theorem Visit.runFrom_perform_of_unreadable (h : Unreadable path d) {v : Visit}
    (hv : v ≠ .request .clear) :
    ∃ log', (runFrom v.perform (.buffering path maxEntries flushEvery buffered d log)).2 =
      .buffering path maxEntries flushEvery (buffered ++ v.given) d log' := by
  rcases v with _ | entry | _ | _
  · obtain ⟨f, -, hload⟩ :=
      Keeping.runFrom_load_of_unreadable maxEntries flushEvery buffered log h
    refine ⟨log, ?_⟩
    rw [perform, runFrom_discard, hload, given, List.append_nil]
  · obtain ⟨log', happend⟩ :=
      Keeping.runFrom_append_of_unreadable maxEntries flushEvery buffered log h entry
    exact ⟨log', congrArg Prod.snd happend⟩
  · obtain ⟨log', hflush⟩ :=
      Keeping.runFrom_flush_of_buffering path maxEntries flushEvery buffered d log
    refine ⟨log', ?_⟩
    rw [perform, Request.perform, runFrom_discard, hflush, given, Request.given, List.append_nil]
  · exact absurd rfl hv

end

namespace Ledger

variable {path : Path} {maxEntries flushEvery : Int}

/-- All that a keeper comes to as long as its file holds no history. -/
theorem visitAll_of_unreadable {visits : List (Disk × Visit)}
    (hvisits : ∀ x ∈ visits, x.2 ≠ .request .clear ∧ Unreadable path x.1)
    {buffered : List Text} {l : Ledger}
    (hl : l.state.keeper = .buffering path maxEntries flushEvery buffered) :
    (l.visitAll visits).state.keeper = .buffering path maxEntries flushEvery
      (buffered ++ visits.flatMap fun x => x.2.given) := by
  induction visits generalizing l buffered with
  | nil => simpa [visitAll] using hl
  | cons x visits ih =>
    obtain ⟨d, v⟩ := x
    obtain ⟨⟨hv, hd⟩, hvisits⟩ := List.forall_mem_cons.1 hvisits
    obtain ⟨log, hstep⟩ :=
      Visit.runFrom_perform_of_unreadable maxEntries flushEvery buffered l.state.log hd hv
    have hstate : ({ l.state with disk := d } : KeepingState) =
        .buffering path maxEntries flushEvery buffered d l.state.log := by
      rw [KeepingState.buffering, ← hl]
    have hvisit : (l.visit d v).state.keeper =
        .buffering path maxEntries flushEvery (buffered ++ v.given) := by
      unfold visit
      dsimp only
      rw [hstate, hstep]
      rfl
    rw [visitAll, ih hvisits hvisit, List.append_assoc, List.flatMap_cons]

/-! ## once the file holds a history -/

theorem all_flushDeeds (loaded : List Text) (s : KeepingState) (deeds : List Deed) :
    Deed.all loaded (s.flushDeeds ++ deeds) = Deed.all loaded deeds := by
  unfold KeepingState.flushDeeds
  split
  · rfl
  · split <;> rfl

theorem all_step {r : Request} (hr : r ≠ .clear) (loaded : List Text) (l : Ledger) :
    Deed.all loaded (l.step r).deeds = Deed.all loaded l.deeds ++ r.given := by
  have hnoted : Deed.all loaded (r.noted ++ l.deeds) = Deed.all loaded l.deeds ++ r.given := by
    cases r with
    | append entry => rfl
    | flush => exact (List.append_nil _).symm
    | clear => exact absurd rfl hr
  unfold step Request.deeds
  dsimp only
  split
  · rw [List.append_assoc, all_flushDeeds, hnoted]
  · exact hnoted

theorem all_run {requests : List Request} (h : .clear ∉ requests) (loaded : List Text)
    (l : Ledger) :
    Deed.all loaded (l.run requests).deeds =
      Deed.all loaded l.deeds ++ requests.flatMap Request.given := by
  induction requests generalizing l with
  | nil => exact (List.append_nil _).symm
  | cons r requests ih =>
    obtain ⟨hr, hrequests⟩ := not_or.1 (List.mem_cons.not.1 h)
    rw [show l.run (r :: requests) = (l.step r).run requests from rfl, ih hrequests,
      all_step (Ne.symm hr), List.append_assoc, List.flatMap_cons]

/-- What a keeper does does not hang on what is written down about it. -/
theorem state_run (requests : List Request) (s : KeepingState) (deeds deeds' : List Deed) :
    (run requests ⟨s, deeds⟩).state = (run requests ⟨s, deeds'⟩).state := by
  induction requests generalizing s deeds deeds' with
  | nil => rfl
  | cons r requests ih => exact ih _ _ _

/-- Whenever nothing is held back the file holds the newest of all entries, or what was loaded if
nothing happened since. -/
def Settled (maxEntries : Int) (loaded : List Text) (l : Ledger) : Prop :=
  l.state.keeper.pending = 0 → l.state.keeper.stored l.state.disk =
    .ok (if l.deeds = [] then loaded else (Deed.all loaded l.deeds).rtake maxEntries.toNat)

variable {loaded : List Text}

theorem Settled.step (hmax : 1 ≤ maxEntries) {l : Ledger}
    (hsound : Sound path maxEntries flushEvery loaded l) (h : l.Settled maxEntries loaded)
    (r : Request) : (l.step r).Settled maxEntries loaded := by
  have hstart := hsound.held r
  unfold Ledger.step Request.deeds
  rw [Request.runFrom_perform r hsound.loaded_eq]
  cases hdue : r.isDue l.state with
  | false =>
    -- something was just taken, and it is held back
    intro hpending
    cases r with
    | append entry => exact absurd hpending (Nat.succ_ne_zero _)
    | flush | clear => cases hdue
  | true =>
    simp only [if_true]
    by_cases hpending : (r.held l.state).keeper.pending = 0
    · cases r with
      | append entry => exact absurd hpending (Nat.succ_ne_zero _)
      | flush =>
        rw [Keeping.runFrom_flush_of_not_pending hpending, KeepingState.flushDeeds, if_pos hpending]
        exact h
      | clear => exact absurd hpending (Nat.succ_ne_zero _)
    · intro hdone
      rcases hw : runFrom (r.held l.state).keeper.bounded.write (r.held l.state).disk with
        ⟨f | _, d⟩
      · have hrefused : .refused f ∈ (r.held l.state).flushDeeds := by
          simp [KeepingState.flushDeeds, hpending, hw]
        exact absurd ((hstart.flush_of_refused hrefused).2.1.symm.trans hdone) hpending
      · have hflush : (r.held l.state).flushDeeds = [.written] := by
          simp [KeepingState.flushDeeds, hpending, hw]
        obtain ⟨-, hstored, -⟩ := hstart.flush_of_written hmax (by rw [hflush]; simp)
        rw [hflush]
        exact hstored

theorem Settled.run (hmax : 1 ≤ maxEntries) {l : Ledger}
    (hsound : Sound path maxEntries flushEvery loaded l) (h : l.Settled maxEntries loaded)
    (requests : List Request) : (l.run requests).Settled maxEntries loaded := by
  induction requests generalizing l with
  | nil => exact h
  | cons r requests ih => exact ih (hsound.step hmax r) (h.step hmax hsound r)

theorem all_appended (loaded buffered : List Text) :
    Deed.all loaded (buffered.reverse.map .appended) = loaded ++ buffered := by
  induction buffered using List.reverseRecOn with
  | nil => exact (List.append_nil _).symm
  | append_singleton es e ih =>
    rw [List.reverse_append, List.reverse_singleton, List.singleton_append, List.map_cons, Deed.all,
      ih, List.append_assoc]

/-- The account of a keeper that has just read its file, and held back something before. -/
theorem sound_of_adopt {d : Disk} (htree : d.IsTree) (buffered : List Text) (log : List LogLine) :
    Sound path maxEntries (max 1 flushEvery) loaded
      ⟨⟨(FileKeeper.buffering path maxEntries flushEvery buffered).adopt loaded buffered, d, log⟩,
        buffered.reverse.map .appended⟩ := by
  have howed (es : List Text) : Deed.owed (es.map .appended) = es.length := by
    induction es with
    | nil => rfl
    | cons e es ih => exact congrArg (· + 1) ih
  refine ⟨rfl, rfl, rfl, rfl, htree, ?_, ?_⟩
  · rw [howed, List.length_reverse]
    rfl
  · rw [all_appended]
    exact .refl _ _

/-- Nothing is held back after a flush that says so. -/
theorem pending_of_flush {s t : KeepingState} (hloaded : s.keeper.loaded = true)
    (h : runFrom Keeping.flush s = (.ok true, t)) : t.keeper.pending = 0 := by
  by_cases hpending : s.keeper.pending = 0
  · rw [Keeping.runFrom_flush_of_not_pending hpending] at h
    cases h
    exact hpending
  · rw [Keeping.runFrom_flush hloaded hpending] at h
    split at h <;> cases h
    rfl

/-- What the file holds after a flush that succeeds. -/
theorem Settled.stored_of_flush (hmax : 1 ≤ maxEntries) {l : Ledger}
    (hsound : Sound path maxEntries flushEvery loaded l) (h : l.Settled maxEntries loaded)
    {t : KeepingState} (hflush : runFrom Keeping.flush l.state = (.ok true, t)) :
    (FileKeeper.new path 1 1).stored t.disk =
      .ok (if l.deeds = [] then loaded else (Deed.all loaded l.deeds).rtake maxEntries.toNat) := by
  by_cases hdeeds : l.deeds = []
  · have hpending : l.state.keeper.pending = 0 := by
      rw [hsound.pending_eq, hdeeds]
      rfl
    rw [Keeping.runFrom_flush_of_not_pending hpending] at hflush
    cases hflush
    rw [← hsound.path_eq]
    exact h hpending
  · have hlast : (l.step .flush).state = t := by
      unfold Ledger.step Request.perform
      rw [runFrom_discard, hflush]
    have hend := h.step hmax hsound .flush
    have hpath := (hsound.step hmax .flush).path_eq
    unfold Settled at hend
    rw [hlast] at hend hpath
    have hsome : (l.step .flush).deeds ≠ [] := List.append_ne_nil_of_right_ne_nil _ hdeeds
    rw [if_neg hsome, all_step (r := .flush) nofun, Request.given, List.append_nil] at hend
    rw [if_neg hdeeds, ← hpath]
    exact hend (pending_of_flush hsound.loaded_eq hflush)

/-- Nothing happens to a keeper with nothing to write that is given nothing. -/
theorem run_of_given_nil {requests : List Request} (hclear : .clear ∉ requests)
    (h : requests.flatMap Request.given = []) {l : Ledger} (hpending : l.state.keeper.pending = 0) :
    l.run requests = l := by
  induction requests with
  | nil => rfl
  | cons r requests ih =>
    obtain ⟨hr, hrequests⟩ := not_or.1 (List.mem_cons.not.1 hclear)
    rw [List.flatMap_cons, List.append_eq_nil_iff] at h
    have hstep : l.step r = l := by
      cases r with
      | append entry => cases h.1
      | flush =>
        have hflush := Keeping.runFrom_flush_of_not_pending hpending
        unfold step Request.deeds Request.perform
        rw [runFrom_discard, hflush]
        simp [Request.isDue, Request.held, Request.noted, KeepingState.flushDeeds, hpending]
      | clear => exact absurd rfl hr
    rw [show l.run (r :: requests) = (l.step r).run requests from rfl, hstep]
    exact ih hrequests h.2

/-- What the file holds after a flush that succeeds, for a keeper that held back some entries when
it read the file. -/
theorem stored_of_adopt (hmax : 1 ≤ maxEntries) {d : Disk} (htree : d.IsTree)
    (hstored : (FileKeeper.new path 1 1).stored d = .ok loaded) (buffered : List Text)
    (log : List LogLine) {requests : List Request} (hclear : .clear ∉ requests) {t : KeepingState}
    (hflush : runFrom Keeping.flush (run requests
      ⟨⟨(FileKeeper.buffering path maxEntries flushEvery buffered).adopt loaded buffered, d, log⟩,
        []⟩).state = (.ok true, t)) :
    let since := buffered ++ requests.flatMap Request.given
    (FileKeeper.new path 1 1).stored t.disk =
      .ok (if since = [] then loaded else (loaded ++ since).rtake maxEntries.toNat) := by
  intro since
  let l : Ledger :=
    ⟨⟨(FileKeeper.buffering path maxEntries flushEvery buffered).adopt loaded buffered, d, log⟩,
      buffered.reverse.map .appended⟩
  have hsound : Sound path maxEntries (max 1 flushEvery) loaded l :=
    sound_of_adopt htree buffered log
  have hsettled : l.Settled maxEntries loaded := by
    intro hpending
    have hnone : buffered = [] := List.length_eq_zero_iff.1 hpending
    subst hnone
    exact hstored
  rw [state_run requests _ [] l.deeds] at hflush
  rw [(hsettled.run hmax hsound requests).stored_of_flush hmax (hsound.run hmax requests) hflush]
  have hall : Deed.all loaded (l.run requests).deeds = loaded ++ since := by
    have hstart : Deed.all loaded l.deeds = loaded ++ buffered := all_appended loaded buffered
    rw [all_run hclear, hstart, List.append_assoc]
  by_cases hsince : since = []
  · obtain ⟨hnone, hgiven⟩ := List.append_eq_nil_iff.1 hsince
    subst hnone
    have hquiet : l.run requests = l :=
      run_of_given_nil hclear (by simpa using hgiven) rfl
    rw [hquiet, if_pos hsince]
    rfl
  · have hdeeds : (l.run requests).deeds ≠ [] := by
      intro hnone
      rw [hnone] at hall
      exact hsince (List.append_right_eq_self.1 hall.symm)
    rw [if_neg hdeeds, if_neg hsince, hall]

/-- A keeper that finds no history in its file, and never found one, spares the file: whatever it is
asked for short of dropping everything, on whatever disk on which the file holds no history, it
changes nothing on the disk, takes what is appended, and answers a flush with whether there was
nothing to write.  What was appended it holds back, all of it.

Then the file is gone, or holds the entries `stored`.  Reading it succeeds, and what is appended is
taken after it was read.  From there on, whatever is appended and whichever flushes are refused,
once a flush succeeds the file holds the newest of all entries: of those that were stored, then
those held back, then those appended since.  Only if there are none of the latter two there is
nothing to write, and the file holds what it held. -/
theorem unreadable_spared (path : Path) (maxEntries flushEvery : Int)
    {visits : List (Disk × Visit)}
    (hvisits : ∀ x ∈ visits, x.2 ≠ .request .clear ∧ Unreadable path x.1) :
    let l := (opened path maxEntries flushEvery).visitAll visits
    let buffered := visits.flatMap fun x => x.2.given
    l.state.keeper.pending = buffered.length ∧
    (∀ d, Unreadable path d →
      let s := { l.state with disk := d }
      (∀ v : Visit, v ≠ .request .clear → (runFrom v.perform s).2.disk = d) ∧
      (∃ f, f.isBadHistory = true ∧ (runFrom Keeping.load s).1 = .error f) ∧
      (runFrom Keeping.flush s).1 = .ok buffered.isEmpty ∧
      ∀ entry, (runFrom (Keeping.append entry) s).1 = .ok ()) ∧
    ∀ (d : Disk) (stored : List Text), d.IsTree →
      (FileKeeper.new path 1 1).stored d = .ok stored → 1 ≤ maxEntries →
      let s := { l.state with disk := d }
      ∃ s', runFrom Keeping.load s = (.ok stored, s') ∧
        (∀ entry, runFrom (Keeping.append entry) s = runFrom (Keeping.append entry) s') ∧
        ∀ requests t, .clear ∉ requests →
          runFrom Keeping.flush (run requests ⟨s', []⟩).state = (.ok true, t) →
          let since := buffered ++ requests.flatMap Request.given
          (FileKeeper.new path 1 1).stored t.disk =
            .ok (if since = [] then stored else (stored ++ since).rtake maxEntries.toNat) := by
  intro l buffered
  have hkeeper : l.state.keeper = .buffering path maxEntries flushEvery buffered :=
    visitAll_of_unreadable hvisits (show (opened path maxEntries flushEvery).state.keeper =
      .buffering path maxEntries flushEvery [] from rfl)
  have hstate (d : Disk) : ({ l.state with disk := d } : KeepingState) =
      .buffering path maxEntries flushEvery buffered d l.state.log := by
    rw [KeepingState.buffering, ← hkeeper]
  refine ⟨by rw [hkeeper]; rfl, fun d hd => ?_, fun d stored htree hstored hmax => ?_⟩
  · dsimp only
    rw [hstate]
    refine ⟨fun v hv => ?_, ?_, ?_, fun entry => ?_⟩
    · obtain ⟨log, hv⟩ := Visit.runFrom_perform_of_unreadable maxEntries flushEvery buffered
        l.state.log hd hv
      rw [hv]
      rfl
    · obtain ⟨f, hbad, hload⟩ := Keeping.runFrom_load_of_unreadable maxEntries flushEvery buffered
        l.state.log hd
      exact ⟨f, hbad, by rw [hload]⟩
    · obtain ⟨log, hflush⟩ := Keeping.runFrom_flush_of_buffering path maxEntries flushEvery
        buffered d l.state.log
      rw [hflush]
    · obtain ⟨log, happend⟩ := Keeping.runFrom_append_of_unreadable maxEntries flushEvery buffered
        l.state.log hd entry
      rw [happend]
  · dsimp only
    rw [hstate]
    let k := FileKeeper.buffering path maxEntries flushEvery buffered
    have hstored' : k.stored d = .ok stored := hstored
    have hadopt : k.adopt stored k.unsaved = k.adopt stored buffered := by
      rw [FileKeeper.unsaved_buffering]
    refine ⟨⟨k.adopt stored buffered, d, l.state.log⟩, ?_, fun entry => ?_,
      fun requests t hclear hflush => stored_of_adopt hmax htree hstored buffered _ hclear hflush⟩
    · rw [Keeping.runFrom_load]
      dsimp only [KeepingState.buffering]
      rw [hstored', ← hadopt]
    · have hready := Keeping.runFrom_ensureLoaded (s := ⟨k, d, l.state.log⟩) rfl
      dsimp only at hready
      rw [hstored'] at hready
      dsimp only at hready
      rw [hadopt] at hready
      exact Keeping.runFrom_append_of_loaded hready rfl entry

/-- Two entries wait for a broken file to be replaced, and then push out what it holds. -/
theorem unreadable_spared_replaced :
    let path := Path.ofText "/h".toList
    let holding (bytes : Utf8.Bytes) : Disk :=
      ⟨[(["h".toList], .file bytes false)], [], [], [], .standard⟩
    let broken := holding []
    let visits : List (Disk × Visit) := [(broken, .request (.append "a".toList)), (broken, .load),
      (broken, .request (.append "b".toList)), (broken, .request .flush)]
    let l := (opened path 2 2).visitAll visits
    l.state.keeper.pending = 2 ∧ l.state.disk = broken ∧
    ∃ s t, runFrom Keeping.load
        { l.state with disk := holding (Utf8.encode (text ["x".toList])) } = (.ok ["x".toList], s) ∧
      runFrom Keeping.flush s = (.ok true, t) ∧
      (FileKeeper.new path 1 1).stored t.disk = .ok ["a".toList, "b".toList] := by
  intro path holding broken visits l
  have hbroken : Unreadable path broken := ⟨.badHistory .malformed, by decide +kernel, rfl⟩
  have hvisits : ∀ x ∈ visits, x.2 ≠ .request .clear ∧ Unreadable path x.1 := by
    simp [visits, hbroken]
  obtain ⟨hpending, -, hreplaced⟩ := unreadable_spared path 2 2 hvisits
  rw [show (opened path 2 2).visitAll visits = l from rfl,
    show (visits.flatMap fun x => x.2.given).length = 2 by decide] at hpending
  obtain ⟨s, hload, -, hflush⟩ := hreplaced (holding (Utf8.encode (text ["x".toList]))) ["x".toList]
    (isTree_put (isTree_empty [] [] .standard) (by decide) rfl _) (by decide +kernel) (by decide)
  have hs : s = (runFrom Keeping.load
      { l.state with disk := holding (Utf8.encode (text ["x".toList])) }).2 := by rw [hload]
  have hwrote : (runFrom Keeping.flush s).1 = .ok true := by
    rw [hs]
    decide +kernel
  obtain ⟨t, ht⟩ : ∃ t, runFrom Keeping.flush s = (.ok true, t) := ⟨_, Prod.ext hwrote rfl⟩
  refine ⟨hpending, by decide +kernel, s, t, hload, ht, ?_⟩
  rw [hflush [] t nofun ht]
  decide

/-- A flush that has nothing to write leaves more in the file than is kept, and with no entries to
be kept all of them are. -/
theorem overfull_after_flush :
    let path := Path.ofText "/h".toList
    let holding (bytes : Utf8.Bytes) : Disk :=
      ⟨[(["h".toList], .file bytes false)], [], [], [], .standard⟩
    let broken := holding []
    Unreadable path broken ∧
    (let l := (opened path 1 2).visitAll [(broken, .load)]
     let s := runFrom Keeping.load
       { l.state with disk := holding (Utf8.encode (text ["x".toList, "y".toList])) }
     let x := runFrom Keeping.flush s.2
     s.1 = .ok ["x".toList, "y".toList] ∧ x.1 = .ok true ∧
     (FileKeeper.new path 1 1).stored x.2.disk ≠ .ok ((["x".toList, "y".toList] ++ []).rtake 1)) ∧
    (let l := (opened path 0 2).visitAll [(broken, .request (.append "a".toList))]
     let s := runFrom Keeping.load { l.state with disk := holding (Utf8.encode (text [])) }
     let x := runFrom Keeping.flush s.2
     s.1 = .ok [] ∧ x.1 = .ok true ∧
     (FileKeeper.new path 1 1).stored x.2.disk ≠ .ok (([] ++ ["a".toList]).rtake 0)) := by
  refine ⟨⟨.badHistory .malformed, by decide +kernel, rfl⟩, ⟨?_, ?_, ?_⟩, ?_, ?_, ?_⟩ <;>
    decide +kernel

end Ledger

end ExMode.History
