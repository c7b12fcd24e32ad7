import ExMode.History.Keeper
import ExMode.Proofs.HistoryFormat
import ExMode.Proofs.Missing
import Mathlib.Data.List.DropRight

/-!
# ExMode.Proofs.HistoryFile

A history file over whole runs of its keeper, in which any writing may be refused.

The disk decides what becomes of each flush; `Deed` writes that down, and from the
deeds follow how much is owed to the file (`Deed.owed`) and which entries there are
altogether (`Deed.all`).  The keeper itself cuts its entries before it writes them,
also when the writing is then refused, so what it holds is only the end of all
entries: `Covers` is what survives that, and with it `Ledger.Sound` does.

* `replaceFile_cases` — writing the file succeeds or spares it;
* `Sound.step` — what one request keeps, `Sound.run` — what any run keeps;
* `Sound.flush_of_written`, `Sound.flush_of_refused`, `Sound.pending_lt` — what
  follows for a flush that writes, for one that does not, and for one without
  refusal.
-/

namespace ExMode.History

open Disk

/-! ## writing the file -/

/-- Replacing the history file: as long as that fails the file is spared, and once it succeeds the
file holds the entries. -/
theorem replaceFile_cases {d : Disk} (h : d.IsTree) {path temporary : Path} {n : Text}
    (htemporary : path.withName? n = some temporary) (hn : path.name ≠ n) (entries : List Text) :
    (∃ f d', runFrom (Keeping.replaceFile path temporary entries) d = (.error f, d') ∧
      d'.IsTree ∧ d.Spares path d') ∨
    ∃ d', runFrom (Keeping.replaceFile path temporary entries) d = (.ok (), d') ∧
      d'.IsTree ∧ d'.readBytes path = .ok (Utf8.encode (text entries)) := by
  have hadds := addsDirectories_ensureDirectories h path.parent
  have hrun : runFrom (Keeping.replaceFile path temporary entries) d = _ := runFrom_bind _ _ d
  rcases hmake : runFrom (ensureDirectories path.parent) d with ⟨f | _, d'⟩ <;>
    rw [hmake] at hadds hrun
  · exact Or.inl ⟨f, d', hrun, hadds.isTree, hadds.spares path⟩
  · rcases writeBeside_cases hadds.isTree htemporary hn (Utf8.encode (text entries)) with
      ⟨f, d'', hact, htree, hspared⟩ | ⟨d'', hact, htree, hread⟩
    · exact Or.inl ⟨f, d'', hrun.trans hact, htree, hadds.spares_of_spares hspared⟩
    · exact Or.inr ⟨d'', hrun.trans hact, htree, hread⟩

/-! ## what a keeper does -/

namespace FileKeeper

/-- Write all entries to the file. -/
def write (k : FileKeeper) : OnDisk Unit :=
  match k.temporary? with
  | none => throw (.noFileName k.path)
  | some temporary => Keeping.replaceFile k.path temporary k.entries

/-- The keeper with one more entry to be written. -/
def hold (k : FileKeeper) (entry : Text) : FileKeeper :=
  { k with entries := k.entries ++ [entry], pending := k.pending + 1 }

/-- The keeper without entries, which is still to be written. -/
def drop (k : FileKeeper) : FileKeeper := { k with entries := [], pending := 1, loaded := true }

theorem write_cases {d : Disk} (h : d.IsTree) (k : FileKeeper) :
    (∃ f d', runFrom k.write d = (.error f, d') ∧ d'.IsTree ∧ d.Spares k.path d') ∨
    ∃ d', runFrom k.write d = (.ok (), d') ∧ d'.IsTree ∧
      d'.readBytes k.path = .ok (Utf8.encode (text k.entries)) := by
  unfold write
  cases ht : k.temporary? with
  | none => exact Or.inl ⟨_, d, rfl, h, .refl d k.path⟩
  | some temporary =>
    have hn : k.path.name ≠ k.path.name ++ ".tmp".toList := by simp
    exact replaceFile_cases h ht hn k.entries

theorem stored_eq_of_readBytes {k : FileKeeper} {d : Disk} {bytes : Utf8.Bytes}
    (h : d.readBytes k.path = .ok bytes) : k.stored d = match Utf8.decode bytes with
      | .ok t => (ofText t.unifyNewlines).mapError (d.runtime.remarkOn t.unifyNewlines)
      | .error e => .error (.undecodable e) := by
  simp only [stored, pathExists_of_readBytes h, readText, h, bind, Except.bind]
  cases Utf8.decode bytes <;> rfl

theorem stored_of_readBytes {k : FileKeeper} {d : Disk} {entries : List Text}
    (h : d.readBytes k.path = .ok (Utf8.encode (text entries))) : k.stored d = .ok entries := by
  rw [stored_eq_of_readBytes h, Utf8.decode_encode]
  dsimp only
  rw [unifyNewlines_text, ofText_text]
  rfl

theorem entries_bounded {k : FileKeeper} (h : 1 ≤ k.maxEntries) :
    k.bounded.entries = k.entries.rtake k.maxEntries.toNat := by
  have hmax : (k.maxEntries.toNat : Int) = k.maxEntries := Int.toNat_of_nonneg (by omega)
  unfold bounded List.rtake
  split
  · have hneg : Span.clamp k.entries.length (-k.maxEntries) =
        k.entries.length - k.maxEntries.toNat := by
      rw [Span.clamp, if_pos (by omega)]
      omega
    rw [Span.slice, hneg, Span.clamp_natCast, Nat.min_self, List.take_length]
  · rw [Nat.sub_eq_zero_of_le (by omega), List.drop_zero]

@[simp] theorem path_bounded (k : FileKeeper) : k.bounded.path = k.path := by
  unfold bounded
  split <;> rfl

@[simp] theorem maxEntries_bounded (k : FileKeeper) : k.bounded.maxEntries = k.maxEntries := by
  unfold bounded
  split <;> rfl

@[simp] theorem flushEvery_bounded (k : FileKeeper) : k.bounded.flushEvery = k.flushEvery := by
  unfold bounded
  split <;> rfl

@[simp] theorem pending_bounded (k : FileKeeper) : k.bounded.pending = k.pending := by
  unfold bounded
  split <;> rfl

@[simp] theorem loaded_bounded (k : FileKeeper) : k.bounded.loaded = k.loaded := by
  unfold bounded
  split <;> rfl

end FileKeeper

namespace Keeping

theorem runFrom_onDisk {α : Type} (act : OnDisk α) (s : KeepingState) :
    runFrom (onDisk act) s =
      ((runFrom act s.disk).1, { s with disk := (runFrom act s.disk).2 }) := by
  simp only [onDisk, runFrom_bind, runFrom_get]
  rcases h : runFrom act s.disk with ⟨result, d⟩
  rw [show act.run s.disk = (result, d) from h]
  simp only [runFrom_bind, runFrom_set, runFrom_ofExcept]

/-- The line that a failing flush leaves in the log. -/
def flushWarning (k : FileKeeper) (e : OsError) : LogLine :=
  ⟨.warning, "Failed to persist history to ".toList ++ k.path.text ++ ": ".toList ++ e.message⟩

/-- Flushing when something is held back: the newest entries are written, and held back no more once
that succeeded. -/
theorem runFrom_flush {s : KeepingState} (hloaded : s.keeper.loaded = true)
    (hpending : s.keeper.pending ≠ 0) :
    runFrom flush s =
      match runFrom s.keeper.bounded.write s.disk with
      | (.ok (), d) =>
        (.ok true, { s with keeper := { s.keeper.bounded with pending := 0 }, disk := d })
      | (.error (.os e), d) =>
        (.ok false, ⟨s.keeper.bounded, d, s.log ++ [flushWarning s.keeper e]⟩)
      | (.error f, d) => (.error f, { s with keeper := s.keeper.bounded, disk := d }) := by
  unfold flush FileKeeper.write
  simp only [runFrom_bind, runFrom_get, if_neg hpending, hloaded, Bool.not_true,
    Bool.false_eq_true, if_false, runFrom_modify]
  cases s.keeper.bounded.temporary? with
  | none => rfl
  | some temporary =>
    simp only [runFrom_tryCatch, runFrom_bind, runFrom_onDisk]
    rcases runFrom (replaceFile s.keeper.bounded.path temporary s.keeper.bounded.entries) s.disk
      with ⟨f | _, d⟩
    · cases f with
      | os e =>
        simp only [note, runFrom_bind, runFrom_modify, flushWarning, FileKeeper.path_bounded]
        rfl
      | _ => rfl
    · rfl

theorem runFrom_flush_of_not_pending {s : KeepingState} (h : s.keeper.pending = 0) :
    runFrom flush s = (.ok true, s) := by
  unfold flush
  simp only [runFrom_bind, runFrom_get, h, if_true]
  rfl

theorem runFrom_flush_of_written {s : KeepingState} (hloaded : s.keeper.loaded = true)
    (hpending : s.keeper.pending ≠ 0) {d : Disk}
    (hw : runFrom s.keeper.bounded.write s.disk = (.ok (), d)) :
    runFrom flush s =
      (.ok true, { s with keeper := { s.keeper.bounded with pending := 0 }, disk := d }) := by
  rw [runFrom_flush hloaded hpending, hw]

/-- Whatever stops the writing, the keeper goes on holding back what it held back; a refusal of the
operating system is no more than an answer. -/
theorem runFrom_flush_of_refused {s : KeepingState} (hloaded : s.keeper.loaded = true)
    (hpending : s.keeper.pending ≠ 0) {f : Fault} {d : Disk}
    (hw : runFrom s.keeper.bounded.write s.disk = (.error f, d)) :
    (∃ log, (runFrom flush s).2 = ⟨s.keeper.bounded, d, log⟩) ∧
      ∀ e, f = .os e → (runFrom flush s).1 = .ok false := by
  rw [runFrom_flush hloaded hpending, hw]
  cases f with
  | os e => exact ⟨⟨_, rfl⟩, fun _ _ => rfl⟩
  | _ => exact ⟨⟨_, rfl⟩, fun _ he => by cases he⟩

end Keeping

/-! ## what happens to a keeper -/

/-- What a keeper is asked for. -/
inductive Request where
  | append (entry : Text)
  | flush
  | clear
  deriving DecidableEq, Repr

/-- What happened to the entries of a keeper. -/
inductive Deed where
  | appended (entry : Text)
  | cleared
  /-- The file was written. -/
  | written
  /-- Writing the file stopped short. -/
  | refused (fault : Fault)
  deriving DecidableEq, Repr

namespace Deed

/-- How many deeds are still to be written: the appended entries since the file was last written or
everything was dropped, and one for having dropped everything.  The newest deed comes first. -/
def owed : List Deed → Nat
  | [] => 0
  | .appended _ :: deeds => owed deeds + 1
  | .cleared :: _ => 1
  | .written :: _ => 0
  | .refused _ :: deeds => owed deeds

/-- The loaded entries and every entry appended since, unless everything was dropped in between. -/
def all (loaded : List Text) : List Deed → List Text
  | [] => loaded
  | .appended entry :: deeds => all loaded deeds ++ [entry]
  | .cleared :: _ => []
  | .written :: deeds => all loaded deeds
  | .refused _ :: deeds => all loaded deeds

end Deed

/-- What flushing does to the file. -/
def KeepingState.flushDeeds (s : KeepingState) : List Deed :=
  if s.keeper.pending = 0 then []
  else match (runFrom s.keeper.bounded.write s.disk).1 with
    | .ok _ => [.written]
    | .error f => [.refused f]

theorem KeepingState.of_refused_mem_flushDeeds {s : KeepingState} {f : Fault}
    (h : .refused f ∈ s.flushDeeds) :
    s.keeper.pending ≠ 0 ∧ ∃ d, runFrom s.keeper.bounded.write s.disk = (.error f, d) := by
  unfold KeepingState.flushDeeds at h
  split at h
  · cases h
  · rename_i hpending
    refine ⟨hpending, ?_⟩
    rcases hw : runFrom s.keeper.bounded.write s.disk with ⟨g | _, d⟩ <;> rw [hw] at h
    · cases List.mem_singleton.1 h
      exact ⟨d, rfl⟩
    · cases List.mem_singleton.1 h

/-- A flush that is not refused leaves nothing held back. -/
theorem Keeping.pending_flush {s : KeepingState} (hloaded : s.keeper.loaded = true)
    (hno : ∀ f, .refused f ∉ s.flushDeeds) : (runFrom Keeping.flush s).2.keeper.pending = 0 := by
  by_cases hpending : s.keeper.pending = 0
  · rw [runFrom_flush_of_not_pending hpending, hpending]
  · rcases hw : runFrom s.keeper.bounded.write s.disk with ⟨f | _, d⟩
    · exact absurd (by simp [KeepingState.flushDeeds, hpending, hw]) (hno f)
    · rw [runFrom_flush_of_written hloaded hpending hw]

namespace Request

/-- Do what is asked for. -/
def perform : Request → Keeping Unit
  | .append entry => Keeping.append entry
  | .flush => discard Keeping.flush
  | .clear => Keeping.clear

/-- The state before the keeper looks whether to write. -/
def held : Request → KeepingState → KeepingState
  | .append entry, s => { s with keeper := s.keeper.hold entry }
  | .flush, s => s
  | .clear, s => { s with keeper := s.keeper.drop }

/-- What happens before the keeper looks whether to write. -/
def noted : Request → List Deed
  | .append entry => [.appended entry]
  | .flush => []
  | .clear => [.cleared]

/-- Whether the keeper tries to write what it holds back. -/
def isDue : Request → KeepingState → Bool
  | .append _, s => s.keeper.flushEvery ≤ s.keeper.pending + 1
  | .flush, _ => true
  | .clear, _ => true

/-- What happens on a request, the newest deed first. -/
def deeds (r : Request) (s : KeepingState) : List Deed :=
  if r.isDue s then (r.held s).flushDeeds ++ r.noted else r.noted

/-- What the keeper does before a request: what is appended has to follow what the file holds. -/
def prepare : Request → Keeping Unit
  | .append _ => Keeping.ensureLoaded
  | .flush => pure ()
  | .clear => pure ()

/-- Once it is ready the keeper holds back what it is given, and flushes when that is due. -/
theorem runFrom_perform_of_prepare (r : Request) (s : KeepingState) :
    (runFrom r.perform s).2 =
      match runFrom r.prepare s with
      | (.error _, s') => s'
      | (.ok _, s') => if r.isDue s' then (runFrom Keeping.flush (r.held s')).2 else r.held s' := by
  cases r with
  | append entry =>
    simp only [perform, Keeping.append, prepare, runFrom_bind]
    rcases runFrom Keeping.ensureLoaded s with ⟨f | _, s'⟩
    · rfl
    simp only [runFrom_modify, runFrom_get, isDue, held]
    rw [FileKeeper.hold, Int.natCast_succ]
    by_cases hdue : s'.keeper.flushEvery ≤ s'.keeper.pending + 1
    · simp only [hdue, if_true, runFrom_discard, decide_true]
    · simp only [hdue, if_false, runFrom_pure, decide_false, Bool.false_eq_true]
  | flush =>
    simp only [perform, prepare, runFrom_pure, runFrom_discard, isDue, held, if_true]
  | clear =>
    simp only [perform, prepare, Keeping.clear, runFrom_bind, runFrom_pure, runFrom_modify,
      runFrom_discard, isDue, held, if_true]
    rfl

/-- A keeper that has read its file is always ready. -/
theorem runFrom_prepare_of_loaded (r : Request) {s : KeepingState} (h : s.keeper.loaded = true) :
    runFrom r.prepare s = (.ok (), s) := by
  cases r with
  | append entry =>
    simp only [prepare, Keeping.ensureLoaded, runFrom_bind, runFrom_get, h, Bool.not_true,
      Bool.false_eq_true, if_false, runFrom_pure]
  | flush | clear => rfl

/-- A keeper that has read its file holds back what it is given, and flushes when that is due. -/
theorem runFrom_perform (r : Request) {s : KeepingState} (h : s.keeper.loaded = true) :
    (runFrom r.perform s).2 =
      if r.isDue s then (runFrom Keeping.flush (r.held s)).2 else r.held s := by
  rw [runFrom_perform_of_prepare, runFrom_prepare_of_loaded r h]

end Request

/-! ## what is kept of everything -/

/-- What a keeper holds of all entries: the last of them, and it has forgotten others only if it
holds at least `n`. -/
def Covers (n : Nat) (kept all : List Text) : Prop :=
  ∃ forgotten, all = forgotten ++ kept ∧ (forgotten = [] ∨ n ≤ kept.length)

theorem Covers.refl (n : Nat) (all : List Text) : Covers n all all := ⟨[], rfl, Or.inl rfl⟩

theorem Covers.append {n : Nat} {kept all : List Text} (h : Covers n kept all) (entry : Text) :
    Covers n (kept ++ [entry]) (all ++ [entry]) := by
  obtain ⟨forgotten, rfl, h⟩ := h
  refine ⟨forgotten, by simp, h.imp id fun h => ?_⟩
  rw [List.length_append]
  omega

/-- The newest of what is held are the newest of all. -/
theorem Covers.rtake_eq {n : Nat} {kept all : List Text} (h : Covers n kept all) :
    kept.rtake n = all.rtake n := by
  obtain ⟨forgotten, rfl, rfl | h⟩ := h
  · rfl
  · rw [List.rtake, List.rtake, List.length_append,
      show forgotten.length + kept.length - n = forgotten.length + (kept.length - n) by omega,
      List.drop_length_add_append]

theorem covers_rtake (n : Nat) (all : List Text) : Covers n (all.rtake n) all := by
  refine ⟨all.take (all.length - n), (List.take_append_drop _ _).symm, ?_⟩
  by_cases h : all.length ≤ n
  · left
    rw [Nat.sub_eq_zero_of_le h, List.take_zero]
  · right
    rw [List.rtake, List.length_drop]
    omega

/-! ## runs -/

/-- A keeper at work, and what happened so far, the newest deed first. -/
structure Ledger where
  state : KeepingState
  deeds : List Deed

namespace Ledger

/-- Do what is asked for and write down what happens. -/
def step (l : Ledger) (r : Request) : Ledger :=
  ⟨(runFrom r.perform l.state).2, r.deeds l.state ++ l.deeds⟩

/-- What holds of a keeper that has read its file, from then on: its settings, how much it holds
back, and which entries. -/
structure Sound (path : Path) (maxEntries flushEvery : Int) (loaded : List Text) (l : Ledger) :
    Prop where
  path_eq : l.state.keeper.path = path
  maxEntries_eq : l.state.keeper.maxEntries = maxEntries
  flushEvery_eq : l.state.keeper.flushEvery = flushEvery
  loaded_eq : l.state.keeper.loaded = true
  isTree : l.state.disk.IsTree
  pending_eq : l.state.keeper.pending = Deed.owed l.deeds
  covers : Covers maxEntries.toNat l.state.keeper.entries (Deed.all loaded l.deeds)

variable {path : Path} {maxEntries flushEvery : Int} {loaded : List Text} {s : KeepingState}
  {deeds : List Deed}

/-- What a flush writes are the newest entries. -/
theorem Sound.entries_bounded (hmax : 1 ≤ maxEntries)
    (h : Sound path maxEntries flushEvery loaded ⟨s, deeds⟩) :
    s.keeper.bounded.entries = (Deed.all loaded deeds).rtake maxEntries.toNat := by
  have hmax' : s.keeper.maxEntries = maxEntries := h.maxEntries_eq
  rw [FileKeeper.entries_bounded (hmax' ▸ hmax), hmax', h.covers.rtake_eq]

/-- Holding back no more than is kept loses nothing that will be written. -/
theorem Sound.bounded (hmax : 1 ≤ maxEntries)
    (h : Sound path maxEntries flushEvery loaded ⟨s, deeds⟩) {d : Disk} (htree : d.IsTree)
    (log : List LogLine) :
    Sound path maxEntries flushEvery loaded ⟨⟨s.keeper.bounded, d, log⟩, deeds⟩ where
  path_eq := s.keeper.path_bounded.trans h.path_eq
  maxEntries_eq := s.keeper.maxEntries_bounded.trans h.maxEntries_eq
  flushEvery_eq := s.keeper.flushEvery_bounded.trans h.flushEvery_eq
  loaded_eq := s.keeper.loaded_bounded.trans h.loaded_eq
  isTree := htree
  pending_eq := s.keeper.pending_bounded.trans h.pending_eq
  covers := by
    rw [h.entries_bounded hmax]
    exact covers_rtake _ _

/-- Flushing keeps the account. -/
theorem Sound.flush (hmax : 1 ≤ maxEntries)
    (h : Sound path maxEntries flushEvery loaded ⟨s, deeds⟩) :
    Sound path maxEntries flushEvery loaded
      ⟨(runFrom Keeping.flush s).2, s.flushDeeds ++ deeds⟩ := by
  by_cases hpending : s.keeper.pending = 0
  · rw [Keeping.runFrom_flush_of_not_pending hpending, KeepingState.flushDeeds, if_pos hpending]
    exact h
  rw [KeepingState.flushDeeds, if_neg hpending]
  obtain ⟨f, d, hw, htree, -⟩ | ⟨d, hw, htree, -⟩ := s.keeper.bounded.write_cases h.isTree
  · obtain ⟨⟨log, hflush⟩, -⟩ := Keeping.runFrom_flush_of_refused h.loaded_eq hpending hw
    rw [hflush, hw]
    have hb := h.bounded hmax htree log
    exact ⟨hb.path_eq, hb.maxEntries_eq, hb.flushEvery_eq, hb.loaded_eq, htree, hb.pending_eq,
      hb.covers⟩
  · rw [Keeping.runFrom_flush_of_written h.loaded_eq hpending hw, hw]
    have hb := h.bounded hmax htree s.log
    exact ⟨hb.path_eq, hb.maxEntries_eq, hb.flushEvery_eq, hb.loaded_eq, htree, rfl, hb.covers⟩

theorem Sound.held (h : Sound path maxEntries flushEvery loaded ⟨s, deeds⟩) (r : Request) :
    Sound path maxEntries flushEvery loaded ⟨r.held s, r.noted ++ deeds⟩ := by
  cases r with
  | append entry =>
    exact ⟨h.path_eq, h.maxEntries_eq, h.flushEvery_eq, h.loaded_eq, h.isTree,
      congrArg (· + 1) h.pending_eq, h.covers.append entry⟩
  | flush => exact h
  | clear =>
    exact ⟨h.path_eq, h.maxEntries_eq, h.flushEvery_eq, rfl, h.isTree, rfl, .refl _ _⟩

theorem Sound.step (hmax : 1 ≤ maxEntries) {l : Ledger}
    (h : Sound path maxEntries flushEvery loaded l) (r : Request) :
    Sound path maxEntries flushEvery loaded (l.step r) := by
  have hheld := h.held r
  unfold Ledger.step Request.deeds
  rw [Request.runFrom_perform r h.loaded_eq]
  cases r.isDue l.state with
  | true =>
    simp only [if_true, List.append_assoc]
    exact hheld.flush hmax
  | false => exact hheld

/-- Do what is asked for, one request after the other. -/
def run (requests : List Request) (l : Ledger) : Ledger := requests.foldl step l

theorem Sound.run (hmax : 1 ≤ maxEntries) {l : Ledger}
    (h : Sound path maxEntries flushEvery loaded l) (requests : List Request) :
    Sound path maxEntries flushEvery loaded (l.run requests) := by
  induction requests generalizing l with
  | nil => exact h
  | cons r requests ih => exact ih (h.step hmax r)

/-- A keeper that has just read its file. -/
theorem sound_of_load {d : Disk} {log : List LogLine} (hevery : 1 ≤ flushEvery) (htree : d.IsTree)
    (hload : runFrom Keeping.load ⟨.new path maxEntries flushEvery, d, log⟩ = (.ok loaded, s)) :
    Sound path maxEntries flushEvery loaded ⟨s, []⟩ := by
  simp only [Keeping.load, runFrom_bind, runFrom_get, runFrom_ofExcept] at hload
  cases hstored : (FileKeeper.new path maxEntries flushEvery).stored d with
  | error f =>
    rw [hstored] at hload
    cases hload
  | ok entries =>
    rw [hstored] at hload
    cases hload
    refine ⟨rfl, rfl, Int.max_eq_right hevery, rfl, htree, rfl, ?_⟩
    show Covers _ (loaded ++ []) _
    rw [List.append_nil]
    exact .refl _ _

/-- After a request on which no writing was refused, the keeper holds back less than makes it
write. -/
theorem Sound.pending_lt (hevery : 1 ≤ flushEvery)
    (h : Sound path maxEntries flushEvery loaded ⟨s, deeds⟩) (r : Request)
    (hno : ∀ f, .refused f ∉ r.deeds s) :
    ((runFrom r.perform s).2.keeper.pending : Int) < flushEvery := by
  have hheld := h.held r
  rw [Request.runFrom_perform r h.loaded_eq]
  unfold Request.deeds at hno
  cases hdue : r.isDue s with
  | true =>
    rw [hdue] at hno
    have hpending := Keeping.pending_flush hheld.loaded_eq fun f hf => hno f (by simp [hf])
    simp only [if_true, hpending]
    omega
  | false =>
    cases r with
    | append entry =>
      have hevery' : s.keeper.flushEvery = flushEvery := h.flushEvery_eq
      simp only [Request.isDue, decide_eq_false_iff_not, hevery'] at hdue
      simp only [Bool.false_eq_true, if_false, Request.held, FileKeeper.hold]
      omega
    | flush => cases hdue
    | clear => cases hdue

/-- After a flush that writes, the file holds the newest entries. -/
theorem Sound.flush_of_written (hmax : 1 ≤ maxEntries)
    (h : Sound path maxEntries flushEvery loaded ⟨s, deeds⟩) (hw : .written ∈ s.flushDeeds) :
    let x := runFrom Keeping.flush s
    x.1 = .ok true ∧
      x.2.keeper.stored x.2.disk = .ok ((Deed.all loaded deeds).rtake maxEntries.toNat) ∧
      x.2.keeper.pending = 0 := by
  unfold KeepingState.flushDeeds at hw
  split at hw
  · cases hw
  rename_i hpending
  rcases s.keeper.bounded.write_cases h.isTree with ⟨f, d, hwrite, -⟩ | ⟨d, hwrite, -, hread⟩ <;>
    rw [hwrite] at hw
  · cases List.mem_singleton.1 hw
  · rw [Keeping.runFrom_flush_of_written h.loaded_eq hpending hwrite]
    rw [h.entries_bounded hmax] at hread
    exact ⟨rfl, FileKeeper.stored_of_readBytes hread, rfl⟩

/-- A flush whose writing is refused spares the file and holds back what was held back; it answers
that it does when it was the operating system that refused. -/
theorem Sound.flush_of_refused (h : Sound path maxEntries flushEvery loaded ⟨s, deeds⟩)
    {f : Fault} (hf : .refused f ∈ s.flushDeeds) :
    let x := runFrom Keeping.flush s
    s.disk.Spares path x.2.disk ∧ x.2.keeper.pending = s.keeper.pending ∧
      ∀ e, f = .os e → x.1 = .ok false := by
  obtain ⟨hpending, d, hw⟩ := KeepingState.of_refused_mem_flushDeeds hf
  obtain ⟨⟨log, hflush⟩, hanswer⟩ := Keeping.runFrom_flush_of_refused h.loaded_eq hpending hw
  have hpath : s.keeper.bounded.path = path := s.keeper.path_bounded.trans h.path_eq
  intro x
  rw [show x.2 = ⟨s.keeper.bounded, d, log⟩ from hflush]
  refine ⟨?_, s.keeper.pending_bounded, hanswer⟩
  rcases s.keeper.bounded.write_cases h.isTree with ⟨g, d', hw', -, hspared⟩ | ⟨d', hw', -⟩ <;>
    rw [hw] at hw' <;> cases hw'
  rwa [hpath] at hspared

/-- From a keeper that has read its file, whatever it is asked for and whichever writing is refused:
the number of entries held back is what is owed; a flush that writes leaves the newest of all
entries in the file and holds back nothing; a flush that is refused spares the file, holds back what
was held back, and answers so when it was the operating system that refused; and after a request
without refusal less is held back than makes the keeper write. -/
theorem history_accounted (hmax : 1 ≤ maxEntries) (hevery : 1 ≤ flushEvery) {d : Disk}
    (htree : d.IsTree) {log : List LogLine}
    (hload : runFrom Keeping.load ⟨.new path maxEntries flushEvery, d, log⟩ = (.ok loaded, s))
    (requests : List Request) (r : Request) :
    let l := Ledger.run requests ⟨s, []⟩
    let start := r.held l.state
    let x := runFrom Keeping.flush start
    l.state.keeper.pending = Deed.owed l.deeds ∧
    (l.step r).state = (if r.isDue l.state then x.2 else start) ∧
    (.written ∈ start.flushDeeds →
      x.1 = .ok true ∧
      x.2.keeper.stored x.2.disk =
        .ok ((Deed.all loaded (r.noted ++ l.deeds)).rtake maxEntries.toNat) ∧
      x.2.keeper.pending = 0) ∧
    (∀ f, .refused f ∈ start.flushDeeds →
      start.disk.Spares path x.2.disk ∧
      x.2.keeper.pending = start.keeper.pending ∧
      ∀ e, f = .os e → x.1 = .ok false) ∧
    ((∀ f, .refused f ∉ r.deeds l.state) →
      ((l.step r).state.keeper.pending : Int) < flushEvery) := by
  intro l start x
  have h : Sound path maxEntries flushEvery loaded l :=
    (sound_of_load hevery htree hload).run hmax requests
  have hstart := h.held r
  exact ⟨h.pending_eq, Request.runFrom_perform r h.loaded_eq, hstart.flush_of_written hmax,
    fun f hf => hstart.flush_of_refused hf, h.pending_lt hevery r⟩

/-- The disk is full at the first entry and is not at the second, when one entry is kept. -/
theorem history_accounted_full :
    let d : Disk := ⟨[], [], [], [none, some .noSpace], .standard⟩
    let path := Path.ofText "/h".toList
    let s : KeepingState := ⟨⟨path, 1, 1, [], 0, true⟩, d, []⟩
    let l := Ledger.run [.append "a".toList] ⟨s, []⟩
    let start := (Request.append "b".toList).held l.state
    let x := runFrom Keeping.flush start
    d.IsTree ∧ runFrom Keeping.load ⟨.new path 1 1, d, []⟩ = (.ok [], s) ∧
      l.deeds.length = 2 ∧ l.state.keeper.pending = 1 ∧
      x.2.keeper.stored x.2.disk = .ok ["b".toList] := by
  intro d path s l start x
  have htree : d.IsTree := by
    refine ⟨rfl, fun loc e hloc => ?_⟩
    cases loc with
    | nil => rfl
    | cons part rest => cases hloc
  have hload : runFrom Keeping.load ⟨.new path 1 1, d, []⟩ = (.ok [], s) := rfl
  obtain ⟨hpending, -, hwritten, -⟩ := history_accounted (by decide) (by decide) htree hload
    [.append "a".toList] (.append "b".toList)
  have hw : .written ∈ start.flushDeeds := by decide +kernel
  obtain ⟨-, hstored, -⟩ := hwritten hw
  refine ⟨htree, hload, by decide +kernel, hpending.trans (by decide +kernel), ?_⟩
  rw [hstored]
  decide +kernel

end Ledger

end ExMode.History
