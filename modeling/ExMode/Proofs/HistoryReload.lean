import ExMode.Proofs.HistoryFile

/-!
# ExMode.Proofs.HistoryReload

Reading a history file while entries wait to be written to it.  The keeper may be
asked to read its file at any time, also again; what it has still to write then
follows the entries of the file.  Between any two things it is asked for the disk may
turn into any other one, so files come and go and writing is refused at will.

What has to be written are the entries appended since the file was last written or
everything was dropped, `Deed.unwritten`.  The keeper does not keep these apart: it
holds entries, and a number that says how many of the last ones are meant.  `Retains`
relates the two.  The number may exceed the entries that are left, after a refused
writing that cut them or after dropping them was not written down, and reading the
file then forgets some (`unwritten_forgotten`).

* `Retains.visit` — what one visit keeps, `retains_visitAll` — what any run of visits keeps;
* `unwritten_kept` — what reading the file makes of the entries not yet written.
-/

namespace ExMode.History

/-! ## the end of a list -/

theorem rtake_of_length_le {n : Nat} {l : List Text} (h : l.length ≤ n) : l.rtake n = l := by
  rw [List.rtake, Nat.sub_eq_zero_of_le h, List.drop_zero]

theorem rtake_rtake (m n : Nat) (l : List Text) : (l.rtake m).rtake n = l.rtake (min n m) := by
  simp only [List.rtake_eq_reverse_take_reverse, List.reverse_reverse, List.take_take]

theorem rtake_suffix_rtake {m n : Nat} (h : m ≤ n) (l : List Text) : l.rtake m <:+ l.rtake n := by
  rw [← Nat.min_eq_left h, ← rtake_rtake]
  exact List.drop_suffix _ _

theorem rtake_append_length (l kept : List Text) : (l ++ kept).rtake kept.length = kept := by
  rw [List.rtake, List.length_append, Nat.add_sub_cancel, List.drop_left]

/-! ## what a keeper has to write -/

/-- The entries appended since the file was last written or everything was dropped.  The newest deed
comes first. -/
def Deed.unwritten : List Deed → List Text
  | [] => []
  | .appended entry :: deeds => unwritten deeds ++ [entry]
  | .cleared :: _ => []
  | .written :: _ => []
  | .refused _ :: deeds => unwritten deeds

namespace FileKeeper

/-- Whether the keeper holds as many entries as it has to write. -/
def HoldsPending (k : FileKeeper) : Prop := k.pending ≤ k.entries.length

theorem unsaved_of_holdsPending {k : FileKeeper} (h : k.HoldsPending) :
    k.unsaved = k.entries.rtake k.pending := by
  unfold HoldsPending at h
  unfold unsaved
  split
  · rename_i hpending
    rw [hpending, List.rtake_zero]
  · have hstart : Span.clamp k.entries.length ((k.entries.length : Int) - k.pending) =
        k.entries.length - k.pending := by
      rw [Span.clamp_of_nonneg (by omega)]
      omega
    rw [Span.slice, hstart, Span.clamp_natCast, Nat.min_self, List.take_length, List.rtake]

/-- What survives reading the file is always among the last entries. -/
theorem unsaved_suffix (k : FileKeeper) : k.unsaved <:+ k.entries.rtake k.pending := by
  by_cases h : k.HoldsPending
  · rewrite [unsaved_of_holdsPending h]
    exact List.suffix_rfl
  · unfold HoldsPending at h
    rw [rtake_of_length_le (by omega)]
    unfold unsaved
    split
    · exact List.nil_suffix
    · rw [Span.slice, Span.clamp_natCast, Nat.min_self, List.take_length]
      exact List.drop_suffix _ _

end FileKeeper

/-- What a keeper has to write ends what was appended since; and if nothing was forgotten so far and
it holds as many entries as it has to write, then they are all that was appended. -/
structure Retains (unforgotten : Prop) (k : FileKeeper) (deeds : List Deed) : Prop where
  maxEntries_pos : 1 ≤ k.maxEntries
  suffix : k.entries.rtake k.pending <:+ Deed.unwritten deeds
  eq : unforgotten → k.HoldsPending → k.entries.rtake k.pending = Deed.unwritten deeds
  /-- Nothing is cut before the file was read. -/
  unread : k.loaded = false → k.HoldsPending

namespace Retains

variable {unforgotten : Prop} {k : FileKeeper} {s : KeepingState} {deeds : List Deed}

theorem mono (h : Retains unforgotten k deeds) {still : Prop} (hstill : still → unforgotten) :
    Retains still k deeds :=
  ⟨h.maxEntries_pos, h.suffix, fun hs => h.eq (hstill hs), h.unread⟩

theorem new (path : Path) {maxEntries : Int} (hmax : 1 ≤ maxEntries) (flushEvery : Int) :
    Retains unforgotten (.new path maxEntries flushEvery) [] where
  maxEntries_pos := hmax
  suffix := List.suffix_rfl
  eq := fun _ _ => rfl
  unread := fun _ => Nat.le_refl 0

/-! ### one thing after the other -/

theorem hold (h : Retains unforgotten k deeds) (entry : Text) :
    Retains unforgotten (k.hold entry) (.appended entry :: deeds) := by
  have hholds : (k.hold entry).HoldsPending ↔ k.HoldsPending := by
    simp [FileKeeper.HoldsPending, FileKeeper.hold]
  have hlast : (k.hold entry).entries.rtake (k.hold entry).pending =
      k.entries.rtake k.pending ++ [entry] := List.rtake_concat_succ _ _ _
  refine ⟨h.maxEntries_pos, ?_, fun hun hpending => ?_, fun hread => hholds.2 (h.unread hread)⟩
  · rw [hlast, Deed.unwritten]
    exact (List.suffix_append_inj_of_length_eq rfl).2 ⟨h.suffix, rfl⟩
  · rw [hlast, Deed.unwritten, h.eq hun (hholds.1 hpending)]

theorem drop (h : Retains unforgotten k deeds) :
    Retains unforgotten k.drop (.cleared :: deeds) where
  maxEntries_pos := h.maxEntries_pos
  suffix := List.suffix_rfl
  eq := fun _ _ => rfl
  unread := fun hread => by cases hread

/-- Cutting the entries to those that are kept leaves the last ones. -/
theorem bounded (h : Retains unforgotten k deeds) (hloaded : k.loaded = true) :
    Retains unforgotten k.bounded deeds := by
  have hlast : k.bounded.entries.rtake k.bounded.pending =
      k.entries.rtake (min k.pending k.maxEntries.toNat) := by
    rw [FileKeeper.entries_bounded h.maxEntries_pos, k.pending_bounded, rtake_rtake]
  refine ⟨k.maxEntries_bounded ▸ h.maxEntries_pos, ?_, fun hun hpending => ?_, fun hread => ?_⟩
  · rw [hlast]
    exact (rtake_suffix_rtake (Nat.min_le_left _ _) _).trans h.suffix
  · have hlength : k.bounded.entries.length ≤ k.entries.length ∧
        k.bounded.entries.length ≤ k.maxEntries.toNat := by
      rw [FileKeeper.entries_bounded h.maxEntries_pos, List.rtake, List.length_drop]
      omega
    rw [FileKeeper.HoldsPending, k.pending_bounded] at hpending
    rw [hlast, Nat.min_eq_left (hpending.trans hlength.2)]
    exact h.eq hun (hpending.trans hlength.1)
  · rw [k.loaded_bounded, hloaded] at hread
    cases hread

/-- A refused writing leaves everything to be written. -/
theorem refused (h : Retains unforgotten k deeds) (f : Fault) :
    Retains unforgotten k (.refused f :: deeds) :=
  ⟨h.maxEntries_pos, h.suffix, h.eq, h.unread⟩

theorem written (h : Retains unforgotten k deeds) :
    Retains unforgotten { k with pending := 0 } (.written :: deeds) where
  maxEntries_pos := h.maxEntries_pos
  suffix := by
    rw [List.rtake_zero]
    exact List.nil_suffix
  eq := fun _ _ => List.rtake_zero _
  unread := fun _ => Nat.zero_le _

/-- Reading the file keeps the last entries that are still to be written; it forgets none of them
when the keeper held them all. -/
theorem adopt (h : Retains unforgotten k deeds) (stored : List Text) :
    Retains (unforgotten ∧ k.HoldsPending) (k.adopt stored k.unsaved) deeds := by
  have hlast : (k.adopt stored k.unsaved).entries.rtake (k.adopt stored k.unsaved).pending =
      k.unsaved := rtake_append_length _ _
  refine ⟨h.maxEntries_pos, ?_, fun hun _ => ?_, fun hread => by cases hread⟩
  · rw [hlast]
    exact k.unsaved_suffix.trans h.suffix
  · rw [hlast, FileKeeper.unsaved_of_holdsPending hun.2]
    exact h.eq hun.1 hun.2

end Retains

/-! ## visits -/

/-- What flushing does to the file, which is nothing before the file was read. -/
def KeepingState.triedDeeds (s : KeepingState) : List Deed :=
  if s.keeper.loaded then s.flushDeeds else []

/-- What a keeper is asked for. -/
inductive Visit where
  /-- The file is to be read. -/
  | load
  | request (r : Request)
  deriving DecidableEq, Repr

namespace Visit

/-- Do what is asked for. -/
def perform : Visit → Keeping Unit
  | .load => discard Keeping.load
  | .request r => r.perform

/-- What happens on a visit, the newest deed first. -/
def deeds : Visit → KeepingState → List Deed
  | .load, _ => []
  | .request r, s =>
    match runFrom r.prepare s with
    | (.error _, _) => []
    | (.ok _, s') => if r.isDue s' then (r.held s').triedDeeds ++ r.noted else r.noted

/-- Whether the file is read when the keeper does not hold all that it has to write. -/
def Forgets (v : Visit) (s : KeepingState) : Prop :=
  v = .load ∧ (∃ stored, s.keeper.stored s.disk = .ok stored) ∧ ¬ s.keeper.HoldsPending

end Visit

namespace Keeping

theorem runFrom_load (s : KeepingState) :
    runFrom load s = match s.keeper.stored s.disk with
      | .error f => (.error f, s)
      | .ok stored =>
        (.ok stored, { s with keeper := s.keeper.adopt stored s.keeper.unsaved }) := by
  simp only [load, runFrom_bind, runFrom_get, runFrom_ofExcept]
  cases s.keeper.stored s.disk <;> rfl

/-- The line that a file without a history leaves in the log. -/
def loadWarning (k : FileKeeper) (f : Fault) : LogLine :=
  ⟨.warning, "History file ".toList ++ k.path.text ++ " unreadable, buffering entry: ".toList ++
    f.message⟩

/-- Before something is appended to a file that was not read yet it is read; what is no history is
no obstacle. -/
theorem runFrom_ensureLoaded {s : KeepingState} (h : s.keeper.loaded = false) :
    runFrom ensureLoaded s = match s.keeper.stored s.disk with
      | .ok stored => (.ok (), { s with keeper := s.keeper.adopt stored s.keeper.unsaved })
      | .error f =>
        if f.isBadHistory then (.ok (), { s with log := s.log ++ [loadWarning s.keeper f] })
        else (.error f, s) := by
  simp only [ensureLoaded, runFrom_bind, runFrom_get, h, Bool.not_false, if_true,
    runFrom_tryCatch, runFrom_discard, runFrom_load]
  cases s.keeper.stored s.disk with
  | ok stored => rfl
  | error f =>
    dsimp only [Except.map]
    split <;> rfl

/-- Before something is appended nothing happens, or the file is read for the first time. -/
theorem ensureLoaded_cases (s : KeepingState) :
    (∃ log, (runFrom ensureLoaded s).2 = { s with log := log }) ∨
    s.keeper.loaded = false ∧ ∃ stored, (runFrom ensureLoaded s).2 =
      { s with keeper := s.keeper.adopt stored s.keeper.unsaved } := by
  cases hloaded : s.keeper.loaded with
  | true =>
    rw [show runFrom ensureLoaded s = (.ok (), s) from
      Request.runFrom_prepare_of_loaded (.append []) hloaded]
    exact Or.inl ⟨s.log, rfl⟩
  | false =>
    rw [runFrom_ensureLoaded hloaded]
    cases s.keeper.stored s.disk with
    | ok stored => exact Or.inr ⟨rfl, stored, rfl⟩
    | error f =>
      left
      dsimp only
      split
      · exact ⟨_, rfl⟩
      · exact ⟨s.log, rfl⟩

/-- A keeper that is ready takes an entry, and flushes when that is due. -/
theorem runFrom_append_of_ready {s s' : KeepingState} (h : runFrom ensureLoaded s = (.ok (), s'))
    (entry : Text) :
    runFrom (append entry) s =
      let held := { s' with keeper := s'.keeper.hold entry }
      if held.keeper.flushEvery ≤ held.keeper.pending then runFrom (discard flush) held
      else (.ok (), held) := by
  simp only [append, runFrom_bind, h, runFrom_modify, runFrom_get, FileKeeper.hold]
  by_cases hdue : s'.keeper.flushEvery ≤ ↑(s'.keeper.pending + 1)
  · simp only [hdue, if_true]
  · simp only [hdue, if_false, runFrom_pure]

/-- Once the file was read nothing is left of getting ready. -/
theorem runFrom_append_of_loaded {s s' : KeepingState} (h : runFrom ensureLoaded s = (.ok (), s'))
    (hloaded : s'.keeper.loaded = true) (entry : Text) :
    runFrom (append entry) s = runFrom (append entry) s' := by
  rw [runFrom_append_of_ready h,
    runFrom_append_of_ready (Request.runFrom_prepare_of_loaded (.append entry) hloaded)]

/-- Before the file was read nothing is written, and the answer is whether there was nothing to
write. -/
theorem runFrom_flush_of_not_loaded {s : KeepingState} (h : s.keeper.loaded = false) :
    ∃ log, runFrom flush s = (.ok (decide (s.keeper.pending = 0)), { s with log := log }) := by
  by_cases hpending : s.keeper.pending = 0
  · rw [runFrom_flush_of_not_pending hpending, decide_eq_true hpending]
    exact ⟨s.log, rfl⟩
  · rw [decide_eq_false hpending]
    simp only [flush, runFrom_bind, runFrom_get, if_neg hpending, h, Bool.not_false, if_true]
    exact ⟨_, rfl⟩

/-- While the file holds no history an entry is held back, also when it would be time to write. -/
theorem runFrom_append_of_badHistory {s : KeepingState} (h : s.keeper.loaded = false) {f : Fault}
    (hstored : s.keeper.stored s.disk = .error f) (hbad : f.isBadHistory = true) (entry : Text) :
    ∃ log, runFrom (append entry) s =
      (.ok (), { s with keeper := s.keeper.hold entry, log := log }) := by
  have hready := runFrom_ensureLoaded h
  rw [hstored] at hready
  dsimp only at hready
  rw [if_pos hbad] at hready
  obtain ⟨log, hflush⟩ := runFrom_flush_of_not_loaded
    (s := { s with keeper := s.keeper.hold entry, log := s.log ++ [loadWarning s.keeper f] }) h
  rw [runFrom_append_of_ready hready]
  dsimp only
  split
  · rw [runFrom_discard, hflush]
    exact ⟨log, rfl⟩
  · exact ⟨_, rfl⟩

end Keeping

namespace Retains

variable {unforgotten : Prop} {k : FileKeeper} {s : KeepingState} {deeds : List Deed}

theorem flush (h : Retains unforgotten s.keeper deeds) :
    Retains unforgotten (runFrom Keeping.flush s).2.keeper (s.triedDeeds ++ deeds) := by
  unfold KeepingState.triedDeeds
  cases hloaded : s.keeper.loaded with
  | false =>
    obtain ⟨log, hflush⟩ := Keeping.runFrom_flush_of_not_loaded hloaded
    rw [hflush]
    exact h
  | true =>
    rw [if_pos rfl, KeepingState.flushDeeds]
    by_cases hpending : s.keeper.pending = 0
    · rw [Keeping.runFrom_flush_of_not_pending hpending, if_pos hpending]
      exact h
    rw [if_neg hpending]
    rcases hw : runFrom s.keeper.bounded.write s.disk with ⟨f | _, d⟩
    · obtain ⟨⟨log, hflush⟩, -⟩ := Keeping.runFrom_flush_of_refused hloaded hpending hw
      rw [hflush]
      exact (h.bounded hloaded).refused f
    · rw [Keeping.runFrom_flush_of_written hloaded hpending hw]
      exact (h.bounded hloaded).written

theorem prepare (h : Retains unforgotten s.keeper deeds) (r : Request) :
    Retains unforgotten (runFrom r.prepare s).2.keeper deeds := by
  cases r with
  | append entry =>
    obtain ⟨log, hs⟩ | ⟨hunread, stored, hs⟩ := Keeping.ensureLoaded_cases s
    · rw [Request.prepare, hs]
      exact h
    · rw [Request.prepare, hs]
      exact (h.adopt stored).mono fun hun => ⟨hun, h.unread hunread⟩
  | flush | clear => exact h

theorem held (h : Retains unforgotten s.keeper deeds) (r : Request) :
    Retains unforgotten (r.held s).keeper (r.noted ++ deeds) := by
  cases r with
  | append entry => exact h.hold entry
  | flush => exact h
  | clear => exact h.drop

/-- What one visit keeps; only reading the file can make the keeper forget. -/
theorem visit (h : Retains unforgotten s.keeper deeds) (v : Visit) :
    Retains (unforgotten ∧ ¬ v.Forgets s) (runFrom v.perform s).2.keeper (v.deeds s ++ deeds) := by
  cases v with
  | load =>
    simp only [Visit.perform, Visit.deeds, runFrom_discard, Keeping.runFrom_load, List.nil_append]
    cases hstored : s.keeper.stored s.disk with
    | error f => exact h.mono And.left
    | ok stored =>
      refine (h.adopt stored).mono fun hun => ⟨hun.1, ?_⟩
      by_contra hpending
      exact hun.2 ⟨rfl, ⟨stored, hstored⟩, hpending⟩
  | request r =>
    refine Retains.mono ?_ And.left
    have hready := h.prepare r
    simp only [Visit.perform, Visit.deeds, Request.runFrom_perform_of_prepare]
    rcases hr : runFrom r.prepare s with ⟨f | _, s'⟩ <;> rw [hr] at hready
    · exact hready
    · dsimp only
      split
      · rw [List.append_assoc]
        exact (hready.held r).flush
      · exact hready.held r

end Retains

/-! ## as long as nothing is refused -/

namespace FileKeeper

variable {k : FileKeeper}

theorem holdsPending_adopt (k : FileKeeper) (stored unsaved : List Text) :
    (k.adopt stored unsaved).HoldsPending := by
  simp [HoldsPending, adopt]

theorem HoldsPending.hold (h : k.HoldsPending) (entry : Text) : (k.hold entry).HoldsPending := by
  simpa [HoldsPending, FileKeeper.hold] using h

end FileKeeper

theorem holdsPending_prepare {s : KeepingState} (h : s.keeper.HoldsPending) (r : Request) :
    (runFrom r.prepare s).2.keeper.HoldsPending := by
  cases r with
  | append entry =>
    obtain ⟨log, hs⟩ | ⟨-, stored, hs⟩ := Keeping.ensureLoaded_cases s
    · rw [Request.prepare, hs]
      exact h
    · rw [Request.prepare, hs]
      exact s.keeper.holdsPending_adopt _ _
  | flush | clear => exact h

/-- A request on which no writing is refused cuts nothing that is still to be written. -/
theorem holdsPending_visit {s : KeepingState} (h : s.keeper.HoldsPending) (v : Visit)
    (hno : ∀ f, .refused f ∉ v.deeds s) : (runFrom v.perform s).2.keeper.HoldsPending := by
  cases v with
  | load =>
    simp only [Visit.perform, runFrom_discard, Keeping.runFrom_load]
    cases s.keeper.stored s.disk with
    | error f => exact h
    | ok stored => exact s.keeper.holdsPending_adopt _ _
  | request r =>
    have hready := holdsPending_prepare h r
    simp only [Visit.deeds] at hno
    simp only [Visit.perform, Request.runFrom_perform_of_prepare]
    rcases hr : runFrom r.prepare s with ⟨f | _, s'⟩ <;> rw [hr] at hready hno
    · exact hready
    dsimp only at hno ⊢
    split
    · rename_i hdue
      rw [if_pos hdue, KeepingState.triedDeeds] at hno
      cases hloaded : (r.held s').keeper.loaded with
      | true =>
        rw [hloaded] at hno
        rw [FileKeeper.HoldsPending,
          Keeping.pending_flush hloaded fun f hf => hno f (List.mem_append_left _ hf)]
        exact Nat.zero_le _
      | false =>
        obtain ⟨log, hflush⟩ := Keeping.runFrom_flush_of_not_loaded hloaded
        rw [hflush]
        cases r with
        | append entry => exact hready.hold entry
        | flush => exact hready
        | clear => cases hloaded
    · rename_i hdue
      cases r with
      | append entry => exact hready.hold entry
      | flush | clear => exact absurd rfl hdue

/-! ## runs of visits -/

namespace Ledger

/-- The keeper is visited on the disk `d`. -/
def visit (l : Ledger) (d : Disk) (v : Visit) : Ledger :=
  let s := { l.state with disk := d }
  ⟨(runFrom v.perform s).2, v.deeds s ++ l.deeds⟩

/-- One visit after the other, each on some disk. -/
def visitAll : List (Disk × Visit) → Ledger → Ledger
  | [], l => l
  | (d, v) :: visits, l => visitAll visits (l.visit d v)

/-- No visit of a run makes the keeper forget what it has to write. -/
def Unforgotten : List (Disk × Visit) → Ledger → Prop
  | [], _ => True
  | (d, v) :: visits, l => ¬ v.Forgets { l.state with disk := d } ∧ Unforgotten visits (l.visit d v)

/-- A keeper of a file that was not read yet. -/
def opened (path : Path) (maxEntries flushEvery : Int) : Ledger :=
  ⟨⟨.new path maxEntries flushEvery, ⟨[], [], [], [], .standard⟩, []⟩, []⟩

theorem retains_visitAll {unforgotten : Prop} {l : Ledger}
    (h : Retains unforgotten l.state.keeper l.deeds) (visits : List (Disk × Visit)) :
    Retains (unforgotten ∧ l.Unforgotten visits) (l.visitAll visits).state.keeper
      (l.visitAll visits).deeds := by
  induction visits generalizing unforgotten l with
  | nil => exact h.mono And.left
  | cons x visits ih =>
    obtain ⟨d, v⟩ := x
    have hv : Retains (unforgotten ∧ ¬ v.Forgets { l.state with disk := d })
        (l.visit d v).state.keeper (l.visit d v).deeds :=
      Retains.visit (s := { l.state with disk := d }) h v
    exact (ih hv).mono fun hun => ⟨⟨hun.1, hun.2.1⟩, hun.2.2⟩

theorem deeds_suffix_visitAll (visits : List (Disk × Visit)) (l : Ledger) :
    l.deeds <:+ (l.visitAll visits).deeds := by
  induction visits generalizing l with
  | nil => exact List.suffix_rfl
  | cons x visits ih => exact (List.suffix_append _ _).trans (ih (l.visit x.1 x.2))

/-- As long as no writing is refused, nothing is forgotten. -/
theorem unforgotten_of_not_refused {l : Ledger} (h : l.state.keeper.HoldsPending)
    {visits : List (Disk × Visit)} (hno : ∀ f, .refused f ∉ (l.visitAll visits).deeds) :
    l.Unforgotten visits ∧ (l.visitAll visits).state.keeper.HoldsPending := by
  induction visits generalizing l with
  | nil => exact ⟨trivial, h⟩
  | cons x visits ih =>
    obtain ⟨d, v⟩ := x
    have hv : (l.visit d v).state.keeper.HoldsPending := by
      refine holdsPending_visit (s := { l.state with disk := d }) h v fun f hf => hno f ?_
      exact (deeds_suffix_visitAll visits (l.visit d v)).subset (List.mem_append_left _ hf)
    obtain ⟨hun, hend⟩ := ih hv hno
    exact ⟨⟨fun hforgets => hforgets.2.2 h, hun⟩, hend⟩

/-- Whatever a keeper was asked for, and whatever became of the disk in between: when it reads its
file it keeps, after the entries of the file, the last ones of those not yet written, in their order
and each of them once.  It keeps them all if it still holds as many entries as it has to write, now
and each time it read the file before; and this it does as long as no writing is refused. -/
theorem unwritten_kept (path : Path) {maxEntries : Int} (hmax : 1 ≤ maxEntries) (flushEvery : Int)
    (visits : List (Disk × Visit)) (d : Disk) {stored : List Text} {s : KeepingState}
    (hload : runFrom Keeping.load
      { ((opened path maxEntries flushEvery).visitAll visits).state with disk := d } =
        (.ok stored, s)) :
    let start := opened path maxEntries flushEvery
    let l := start.visitAll visits
    ∃ kept, s.keeper.entries = stored ++ kept ∧ s.keeper.pending = kept.length ∧
      kept <:+ Deed.unwritten l.deeds ∧
      (start.Unforgotten visits → l.state.keeper.HoldsPending → kept = Deed.unwritten l.deeds) ∧
      ((∀ f, .refused f ∉ l.deeds) → kept = Deed.unwritten l.deeds) := by
  intro start l
  have h : Retains (True ∧ start.Unforgotten visits) l.state.keeper l.deeds :=
    retains_visitAll (.new path hmax flushEvery) visits
  have hall (hun : start.Unforgotten visits) (hholds : l.state.keeper.HoldsPending) :
      l.state.keeper.unsaved = Deed.unwritten l.deeds := by
    rw [FileKeeper.unsaved_of_holdsPending hholds]
    exact h.eq ⟨trivial, hun⟩ hholds
  rw [Keeping.runFrom_load] at hload
  split at hload
  · cases hload
  · cases hload
    refine ⟨l.state.keeper.unsaved, rfl, rfl, l.state.keeper.unsaved_suffix.trans h.suffix, hall,
      fun hno => ?_⟩
    have hnew : start.state.keeper.HoldsPending := Nat.le_refl 0
    obtain ⟨hun, hholds⟩ := unforgotten_of_not_refused hnew hno
    exact hall hun hholds

/-- Two entries are held back, then the file turns up. -/
theorem unwritten_kept_buffered :
    let path := Path.ofText "/h".toList
    let d : Disk := ⟨[], [], [], [], .standard⟩
    let found : Disk :=
      { d with entries := [(["h".toList], .file (Utf8.encode (text ["x".toList])) false)] }
    let visits : List (Disk × Visit) :=
      [(d, .request (.append "a".toList)), (d, .request (.append "b".toList))]
    let l := (opened path 1 10).visitAll visits
    ∃ s, runFrom Keeping.load { l.state with disk := found } = (.ok ["x".toList], s) ∧
      s.keeper.entries = ["x".toList, "a".toList, "b".toList] := by
  intro path d found visits l
  have hload : runFrom Keeping.load { l.state with disk := found } =
      (.ok ["x".toList], (runFrom Keeping.load { l.state with disk := found }).2) := by
    decide +kernel
  refine ⟨_, hload, ?_⟩
  obtain ⟨kept, hentries, -, -, -, hkept⟩ := unwritten_kept path (by decide) 10 visits found hload
  rw [hentries, hkept fun f hf => ?_]
  · decide +kernel
  · have : l.deeds = [.appended "b".toList, .appended "a".toList] := by decide +kernel
    rw [this] at hf
    simp at hf

/-- Four entries cannot be written, and three are kept; when the file is read again, two of these
are forgotten. -/
theorem unwritten_forgotten :
    let full : Disk := ⟨[], [], [], [none, some .noSpace], .standard⟩
    let visits := ["a", "b", "c", "d"].map fun e => (full, Visit.request (.append e.toList))
    let l := (opened (Path.ofText "/h".toList) 3 1).visitAll visits
    let x := runFrom Keeping.load { l.state with disk := ⟨[], [], [], [], .standard⟩ }
    Deed.unwritten l.deeds = ["a".toList, "b".toList, "c".toList, "d".toList] ∧
      x.1 = .ok [] ∧ x.2.keeper.entries = ["d".toList] ∧
      x.2.keeper.entries ≠ [] ++ (Deed.unwritten l.deeds).rtake 3 := by
  decide +kernel

end Ledger

end ExMode.History
