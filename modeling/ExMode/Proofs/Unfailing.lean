import ExMode.Proofs.HistoryReload
import ExMode.Proofs.LineRecord
import ExMode.Workspace

/-!
# ExMode.Proofs.Unfailing

Running a line gives control back.  What a line can come to after it was recorded
ends at the status line or in the log (`never_dispatch`).  Recording it reaches as
far as the history file, and a refusal of the operating system ends there; what does
not end there are the fault of a path that the system cannot be asked about, and that
of one with too many missing directories on the way (`Disk.Prevents`).

A session that starts with its history loaded from a file keeps to that file
(`History.InFile`), so the path is that of the settings, in every run.

* `prevents_of_flush` — what can stop the writing of the history;
* `inFile_of_start` — where a session starts;
* `run_returns` — every run of lines gives control back.
-/

namespace ExMode

/-- Whether a fault is a refusal of the operating system, or the path is one that the system cannot
be asked about. -/
def Path.Refuses (p : Path) (f : Fault) : Prop :=
  (∃ e, f = .os e) ∨ f = .embeddedNul ∧ p.hasNul = true

namespace Path

variable {p q : Path}

theorem refuses_os (p : Path) (e : OsError) : p.Refuses (.os e) := Or.inl ⟨e, rfl⟩

theorem Refuses.mono {f : Fault} (hf : q.Refuses f) (h : q.hasNul = true → p.hasNul = true) :
    p.Refuses f := hf.imp_right fun hf => ⟨hf.1, h hf.2⟩

theorem hasNul_of_parent (h : p.parent.hasNul = true) : p.hasNul = true := by
  simp only [hasNul, List.any_eq_true] at h ⊢
  obtain ⟨part, hpart, h⟩ := h
  exact ⟨part, List.dropLast_subset _ hpart, h⟩

/-- Ending a name differently brings no NUL into a path. -/
theorem hasNul_of_withName? {ending : Text} (hq : p.withName? (p.name ++ ending) = some q)
    (hending : '\x00' ∉ ending) (h : q.hasNul = true) : p.hasNul = true := by
  unfold withName? at hq
  split at hq
  · cases hq
  rename_i hparts
  cases hq
  simp only [hasNul, List.any_eq_true, List.mem_append, List.mem_singleton] at h ⊢
  obtain ⟨part, hpart | rfl, h⟩ := h
  · exact ⟨part, List.dropLast_subset _ hpart, h⟩
  · refine ⟨p.name, ?_, ?_⟩
    · rw [name, List.getLast?_eq_some_getLast hparts]
      exact List.getLast_mem hparts
    · simpa [hending] using h

end Path

/-! ## changing the disk -/

namespace Disk

variable {p : Path}

theorem stopsFor_attempt (q : Path) (target : Option Path) :
    StopsFor p.Refuses (attempt q target) := by
  intro d f hf
  rcases attempt_cases q target d with h | ⟨e, h⟩ <;> rw [h] at hf <;> cases hf
  exact p.refuses_os e

theorem refuses_of_isDirectory {q : Path} {d : Disk} {f : Fault}
    (h : d.isDirectory q = .error f) : p.Refuses f := by
  obtain h | ⟨_, -, h⟩ := bind_eq_error.1 h
  · unfold find? at h
    split at h
    · cases h
    · split at h <;> cases h
      exact p.refuses_os _
  · cases h

theorem stopsFor_writeBytes (p : Path) (bytes : Utf8.Bytes) :
    StopsFor p.Refuses (writeBytes p bytes) := by
  intro d f hf
  rcases writeBytes_cases p bytes d with ⟨hnul, h⟩ | ⟨e, h⟩ | ⟨_, _, -, -, -, h⟩ <;>
    rw [h] at hf <;> cases hf
  · exact Or.inr ⟨rfl, hnul⟩
  · exact p.refuses_os e

theorem stopsFor_makeDirectory (p : Path) : StopsFor p.Refuses (makeDirectory p) := by
  unfold makeDirectory
  cases hnul : p.hasNul with
  | true => exact stopsFor_throw (Or.inr ⟨rfl, hnul⟩)
  | false =>
    refine stopsFor_bind (stopsFor_attempt p none) fun _ => stopsFor_get_bind fun d => ?_
    split
    · exact stopsFor_throw (p.refuses_os _)
    · split
      · exact stopsFor_throw (p.refuses_os _)
      · exact stopsFor_set _

/-- A directory is not made for reasons of its own, or for those of making the ones above it, one of
which is missing or is said to be. -/
theorem refuses_of_makeDirectoryElse {above : OnDisk Unit} {d : Disk} {f : Fault}
    (h : (runFrom (makeDirectoryElse p above) d).1 = .error f) :
    p.Refuses f ∨ (runFrom above d.spend).1 = .error f ∧
      (d.refusals.head? = some (some .noEntry) ∨ d.locate p = .error .noEntry) := by
  unfold makeDirectoryElse at h
  rw [runFrom_tryCatch] at h
  rcases hmake : runFrom (makeDirectory p) d with ⟨fault | _, d'⟩ <;> rw [hmake] at h
  · have hfault : p.Refuses fault := stopsFor_makeDirectory p d fault (by rw [hmake])
    dsimp only at h
    split at h
    · split at h
      · cases h
        exact Or.inl hfault
      · obtain ⟨rfl, hwhy⟩ := makeDirectory_noEntry hmake
        exact Or.inr ⟨h, hwhy⟩
    · -- a refusal is no obstacle when there is a directory already
      simp only [runFrom_bind, runFrom_get] at h
      split at h
      · cases h
      · cases h
        exact Or.inl hfault
      · rename_i hd
        cases h
        exact Or.inl (refuses_of_isDirectory hd)
    · cases h
      exact Or.inl hfault
  · cases h

theorem stopsFor_ensureDirectory (p : Path) : StopsFor p.Refuses (ensureDirectory p) := by
  intro d f h
  obtain hf | ⟨hthrow, -⟩ := refuses_of_makeDirectoryElse h
  · exact hf
  · cases hthrow
    exact p.refuses_os _

/-- The making of the directories above fails for the reasons of the making of one, or because it is
out of room; and then more of them are missing, or are said to be, than there was room for. -/
theorem refuses_of_ensureDirectoriesFrom {room : Nat} {d : Disk} {f : Fault}
    (h : (runFrom (ensureDirectoriesFrom room p) d).1 = .error f) :
    p.Refuses f ∨ f = .tooManyCalls ∧
      room < d.missingAbove p + d.refusals.count (some .noEntry) := by
  induction room generalizing p d with
  | zero =>
    refine (refuses_of_makeDirectoryElse h).imp_right fun ⟨habove, hwhy⟩ => ?_
    cases habove
    exact ⟨rfl, Nat.zero_lt_of_lt (missing_of_noEntry hwhy)⟩
  | succ room ih =>
    obtain hf | ⟨habove, hwhy⟩ := refuses_of_makeDirectoryElse h
    · exact Or.inl hf
    rw [runFrom_bind] at habove
    rcases hrest : runFrom (ensureDirectoriesFrom room p.parent) d.spend with ⟨fault | _, d'⟩ <;>
      rw [hrest] at habove
    · cases habove
      obtain hf | ⟨rfl, hroom⟩ := ih (congrArg Prod.fst hrest)
      · exact Or.inl (hf.mono Path.hasNul_of_parent)
      · exact Or.inr ⟨rfl, Nat.lt_of_le_of_lt (Nat.succ_le_of_lt hroom) (missing_of_noEntry hwhy)⟩
    · exact Or.inl (stopsFor_ensureDirectory p d' f habove)

theorem refuses_of_ensureDirectories {d : Disk} {f : Fault}
    (h : (runFrom (ensureDirectories p) d).1 = .error f) :
    p.Refuses f ∨ f = .tooManyCalls ∧ d.TooDeep p := refuses_of_ensureDirectoriesFrom h

example :
    let d : Disk := ⟨[], [], [], [], { Runtime.standard with nesting := 1 }⟩
    let made (p : Text) : Bool := (runFrom (ensureDirectories (Path.ofText p)) d).1.isOk
    (made "a/b".toList, made "a/b/c".toList) = (true, false) := by decide

/-- What keeps a file from being put on a disk, other than a refusal of the operating system: the
system cannot be asked about the path, or too many directories are missing on the way. -/
def Prevents (d : Disk) (path : Path) (f : Fault) : Prop :=
  f = .embeddedNul ∧ path.hasNul = true ∨ f = .tooManyCalls ∧ d.TooDeep path.parent

theorem stopsFor_rename {source target : Path}
    (h : source.hasNul = true ∨ target.hasNul = true → p.hasNul = true) :
    StopsFor p.Refuses (rename source target) := by
  have hrefuse (cause : OsCause) : StopsFor p.Refuses
      (throw (.os ⟨cause, source.text, some target.text⟩) : OnDisk Unit) :=
    stopsFor_throw (p.refuses_os _)
  unfold rename
  cases hnul : source.hasNul || target.hasNul with
  | true => exact stopsFor_throw (Or.inr ⟨rfl, h (Bool.or_eq_true_iff.1 hnul)⟩)
  | false =>
    refine stopsFor_bind (stopsFor_attempt source _) fun _ => stopsFor_get_bind fun d => ?_
    dsimp only
    repeat' split
    all_goals first
      | exact hrefuse _
      | exact stopsFor_set _
      | exact stopsFor_pure _

end Disk

/-! ## writing the history -/

namespace History

open Disk

theorem prevents_of_replaceFile {path temporary : Path} {d : Disk} {f : Fault}
    (htemporary : path.withName? (path.name ++ ".tmp".toList) = some temporary)
    {entries : List Text}
    (h : (runFrom (Keeping.replaceFile path temporary entries) d).1 = .error f) :
    (∃ e, f = .os e) ∨ d.Prevents path f := by
  have hnul : temporary.hasNul = true → path.hasNul = true :=
    Path.hasNul_of_withName? htemporary (by decide)
  have hwrite : StopsFor path.Refuses (do
      writeText temporary (text entries)
      rename temporary path) :=
    stopsFor_bind ((stopsFor_writeBytes temporary _).mono fun f hf => hf.mono hnul) fun _ =>
      stopsFor_rename fun h => h.elim hnul id
  unfold Keeping.replaceFile at h
  rw [runFrom_bind] at h
  rcases hmake : runFrom (ensureDirectories path.parent) d with ⟨fault | _, d'⟩ <;> rw [hmake] at h
  · cases h
    obtain (hos | ⟨rfl, hparent⟩) | hdeep := refuses_of_ensureDirectories (congrArg Prod.fst hmake)
    · exact Or.inl hos
    · exact Or.inr (Or.inl ⟨rfl, Path.hasNul_of_parent hparent⟩)
    · exact Or.inr (Or.inr hdeep)
  · exact (hwrite d' f h).imp_right Or.inl

theorem prevents_of_write {k : FileKeeper} (hparts : k.path.parts ≠ []) {d : Disk} {f : Fault}
    (h : (runFrom k.write d).1 = .error f) : (∃ e, f = .os e) ∨ d.Prevents k.path f := by
  unfold FileKeeper.write at h
  split at h
  · rename_i htemporary
    rw [FileKeeper.temporary?, Path.withName?, if_neg hparts] at htemporary
    cases htemporary
  · rename_i htemporary
    exact prevents_of_replaceFile htemporary h

/-- A keeper has a file with a name and has read it. -/
structure FileKeeper.Tends (path : Path) (k : FileKeeper) : Prop where
  path_eq : k.path = path
  loaded : k.loaded = true

namespace Keeping

variable {path : Path} {s : KeepingState} {f : Fault}

theorem tends_bounded {k : FileKeeper} (h : k.Tends path) : k.bounded.Tends path :=
  ⟨k.path_bounded.trans h.path_eq, k.loaded_bounded.trans h.loaded⟩

theorem tends_flush (h : s.keeper.Tends path) : (runFrom flush s).2.keeper.Tends path := by
  by_cases hpending : s.keeper.pending = 0
  · rw [runFrom_flush_of_not_pending hpending]
    exact h
  · rw [runFrom_flush h.loaded hpending]
    have hbounded := tends_bounded h
    split
    · exact ⟨hbounded.path_eq, hbounded.loaded⟩
    · exact hbounded
    · exact hbounded

/-- Nothing stops a keeper from writing its file but what prevents that. -/
theorem prevents_of_flush (hs : s.keeper.Tends path) (hparts : path.parts ≠ [])
    (h : (runFrom flush s).1 = .error f) : s.disk.Prevents path f := by
  by_cases hpending : s.keeper.pending = 0
  · rw [runFrom_flush_of_not_pending hpending] at h
    cases h
  · have hpath := (tends_bounded hs).path_eq
    rw [runFrom_flush hs.loaded hpending] at h
    split at h
    · cases h
    · cases h
    · rename_i g d hos hw
      cases h
      obtain ⟨e, rfl⟩ | hprevents := prevents_of_write (hpath ▸ hparts) (congrArg Prod.fst hw)
      · exact absurd rfl (hos e)
      · exact hpath ▸ hprevents

theorem runFrom_append (hs : s.keeper.loaded = true) (entry : Text) :
    runFrom (append entry) s =
      let s' := { s with keeper := s.keeper.hold entry }
      if s'.keeper.flushEvery ≤ s'.keeper.pending then runFrom (discard flush) s'
      else (.ok (), s') :=
  runFrom_append_of_ready (Request.runFrom_prepare_of_loaded (.append entry) hs) entry

theorem tends_append (hs : s.keeper.Tends path) (entry : Text) :
    (runFrom (append entry) s).2.keeper.Tends path := by
  have hheld : (s.keeper.hold entry).Tends path := ⟨hs.path_eq, hs.loaded⟩
  rw [runFrom_append hs.loaded]
  dsimp only
  split
  · rw [runFrom_discard]
    exact tends_flush (s := { s with keeper := s.keeper.hold entry }) hheld
  · exact hheld

theorem prevents_of_append (hs : s.keeper.Tends path) (hparts : path.parts ≠ []) {entry : Text}
    (h : (runFrom (append entry) s).1 = .error f) : s.disk.Prevents path f := by
  have hheld : (s.keeper.hold entry).Tends path := ⟨hs.path_eq, hs.loaded⟩
  rw [runFrom_append hs.loaded] at h
  dsimp only at h
  split at h
  · rw [runFrom_discard] at h
    exact prevents_of_flush (s := { s with keeper := s.keeper.hold entry }) hheld hparts
      (map_eq_error.1 h)
  · cases h

end Keeping

/-- A history that is loaded, and whose keeper has read a file. -/
def InFile (path : Path) (h : History) : Prop :=
  h.loaded = true ∧ ∃ k, h.keeper = .file k ∧ k.Tends path

theorem runFrom_keeping {α : Type} (inMemory : List Text → α × List Text) (inFile : Keeping α)
    {h : History} {k : FileKeeper} (hk : h.keeper = .file k) (d : Disk) (log : List LogLine) :
    runFrom (Recording.keeping inMemory inFile) ⟨h, d, log⟩ =
      let x := runFrom inFile ⟨k, d, log⟩
      (x.1, ⟨{ h with keeper := .file x.2.keeper }, x.2.disk, x.2.log⟩) := by
  simp only [Recording.keeping, runFrom_bind, runFrom_get, hk]
  rcases hx : runFrom inFile ⟨k, d, log⟩ with ⟨result, state⟩
  rw [show inFile.run.run ⟨k, d, log⟩ = (result, state) from hx]
  simp only [runFrom_bind, runFrom_set, runFrom_ofExcept]

theorem runFrom_add {h : History} {k : FileKeeper} (hloaded : h.loaded = true)
    (hk : h.keeper = .file k) (entry : Text) (d : Disk) (log : List LogLine) :
    runFrom (Recording.add entry) ⟨h, d, log⟩ =
      let x := runFrom (Keeping.append entry) ⟨k, d, log⟩
      (x.1, ⟨⟨h.entries ++ [entry], true, .file x.2.keeper⟩, x.2.disk, x.2.log⟩) := by
  simp only [Recording.add, Recording.push, Recording.keep, runFrom_bind, runFrom_modify,
    runFrom_get, hloaded, if_true]
  exact runFrom_keeping (h := ⟨h.entries ++ [entry], true, h.keeper⟩) _ _ hk d log

/-- Loading the history from a file: what was added before follows what the file holds. -/
theorem runFrom_load_into (early : List Text) (k : FileKeeper) (d : Disk) (log : List LogLine) :
    runFrom Recording.load ⟨⟨early, false, .file k⟩, d, log⟩ =
      match k.stored d with
      | .error f => (.error f, ⟨⟨early, false, .file k⟩, d, log⟩)
      | .ok stored => runFrom (Recording.pushAll early)
          ⟨⟨stored, true, .file (k.adopt stored k.unsaved)⟩, d, log⟩ := by
  have hkept := runFrom_keeping (fun es => (es, es)) Keeping.load
    (h := ⟨early, false, .file k⟩) rfl d log
  rw [Keeping.runFrom_load] at hkept
  simp only [Recording.load, Recording.kept, runFrom_bind, runFrom_get, Bool.false_eq_true,
    if_false, hkept]
  cases k.stored d <;> rfl

/-- Loading the history from a file. -/
theorem runFrom_load_of_file (k : FileKeeper) (d : Disk) (log : List LogLine) :
    runFrom Recording.load ⟨.new (.file k), d, log⟩ =
      match k.stored d with
      | .error f => (.error f, ⟨.new (.file k), d, log⟩)
      | .ok stored => (.ok (), ⟨⟨stored, true, .file (k.adopt stored k.unsaved)⟩, d, log⟩) :=
  runFrom_load_into [] k d log

end History

/-! ## running lines -/

namespace Engine

variable {e : Engine} {raw : Text} {s : Session} {path : Path} {f : Fault}

/-- Recording a line stops short where its keeper does. -/
theorem runFrom_record_of_file {k : History.FileKeeper} (hloaded : s.history.loaded = true)
    (hk : s.history.keeper = .file k) (raw : Text) :
    let x := runFrom (History.Keeping.append raw) ⟨k, s.editor.disk, []⟩
    ∃ s', runFrom (e.record raw) s = (x.1, s') ∧
      s'.history = ⟨s.history.entries ++ [raw], true, .file x.2.keeper⟩ ∧
      s'.editor.disk = x.2.disk := by
  have hadd := History.runFrom_add hloaded hk raw s.editor.disk []
  simp only [record, runFrom_bind, Action.emit, runFrom_modify, Action.runFrom_recording, hadd]
  rcases runFrom (History.Keeping.append raw) ⟨k, s.editor.disk, []⟩ with ⟨f | _, state⟩
  · exact ⟨_, rfl, rfl, rfl⟩
  · dsimp only
    split
    · exact ⟨_, rfl, rfl, rfl⟩
    · exact ⟨_, rfl, rfl, rfl⟩

/-- Recording a line fails only where its history cannot be written, and keeps to the file. -/
theorem record_of_inFile (hs : s.history.InFile path) (hparts : path.parts ≠ []) (raw : Text) :
    (runFrom (e.record raw) s).2.history.InFile path ∧
      ∀ f, (runFrom (e.record raw) s).1 = .error f → s.editor.disk.Prevents path f := by
  obtain ⟨hloaded, k, hk, htends⟩ := hs
  obtain ⟨s', hrecord, hhistory, -⟩ := runFrom_record_of_file (e := e) hloaded hk raw
  rw [hrecord]
  refine ⟨?_, fun f hf => History.Keeping.prevents_of_append htends hparts hf⟩
  rw [hhistory]
  exact ⟨rfl, _, rfl, History.Keeping.tends_append htends raw⟩

/-! ## what a line comes to -/

theorem never_emit (event : Event) : StopsFor (fun _ => False) (Action.emit event) :=
  stopsFor_modify _

theorem never_setStatus (t : Text) (isError : Bool) :
    StopsFor (fun _ => False) (Action.setStatus t isError) := never_emit _

theorem never_log (level : LogLevel) (t : Text) : StopsFor (fun _ => False) (Action.log level t) :=
  never_emit _

theorem never_reportFault (raw : Text) (fault : Fault) :
    StopsFor (fun _ => False) (reportFault raw fault) := by
  unfold reportFault
  split
  · exact never_setStatus _ _
  · exact stopsFor_bind (never_log _ _) fun _ => never_setStatus _ _

theorem never_execute (e : Engine) (raw : Text) (c : Command) (range : Option LineRange) :
    StopsFor (fun _ => False) (e.execute raw c range) :=
  stopsFor_tryCatch (R := fun _ => True) (fun _ _ _ => trivial) fun fault _ =>
    never_reportFault raw fault

theorem never_refuse (e : Engine) (raw : Text) (error : CommandError) :
    StopsFor (fun _ => False) (e.refuse raw error) := by
  refine stopsFor_bind (stopsFor_get_bind fun s => stopsFor_pure _) fun way => ?_
  split
  · exact stopsFor_tryCatch (R := fun _ => True) (fun _ _ _ => trivial) fun fault _ =>
      stopsFor_bind (never_log _ _) fun _ => never_setStatus _ _
  · exact never_log _ _

/-- Whatever a line comes to after it was recorded, it ends there. -/
theorem never_dispatch (e : Engine) (raw : Text) : StopsFor (fun _ => False) (e.dispatch raw) := by
  unfold dispatch
  split
  · exact stopsFor_bind (never_log _ _) fun _ => never_refuse e raw _
  · exact never_refuse e raw _
  · exact never_execute e raw _ _

/-- Running a line fails only where its history cannot be written, and keeps to the file. -/
theorem Discreet.run_of_inFile (he : e.Discreet) (hs : s.history.InFile path)
    (hparts : path.parts ≠ []) (raw : Text) :
    (runFrom (e.run raw) s).2.history.InFile path ∧
      ∀ f, (runFrom (e.run raw) s).1 = .error f → s.editor.disk.Prevents path f := by
  unfold run
  split
  · obtain ⟨hkept, hfails⟩ := record_of_inFile (e := e) hs hparts raw
    rw [runFrom_bind]
    rcases hrecord : runFrom (e.record raw) s with ⟨f | _, s'⟩ <;> rw [hrecord] at hkept hfails
    · exact ⟨hkept, hfails⟩
    · have hlineRecord : (runFrom (e.dispatch raw) s').2.lineRecord = s'.lineRecord :=
        he.keepsLineRecord_dispatch raw _ s' rfl
      obtain ⟨hhistory, -, -⟩ := LineRecord.mk.inj hlineRecord
      refine ⟨?_, fun f hf => (never_dispatch e raw s' f hf).elim⟩
      dsimp only
      rw [hhistory]
      exact hkept
  · exact ⟨hs, fun f hf => by cases hf⟩

end Engine

/-! ## starting a session -/

namespace Action

theorem runFrom_onDisk {α : Type} (act : OnDisk α) (s : Session) :
    runFrom (onDisk act) s = ((runFrom act s.editor.disk).1,
      { s with editor := { s.editor with disk := (runFrom act s.editor.disk).2 } }) := by
  simp only [onDisk, runFrom_bind, runFrom_get]
  rcases h : runFrom act s.editor.disk with ⟨result, d⟩
  rw [show act.run.run s.editor.disk = (result, d) from h]
  simp only [runFrom_bind, runFrom_set, runFrom_ofExcept]

/-- Showing a text with markup changes nothing but the journal. -/
theorem runFrom_printMarkup (t : Text) (s : Session) :
    ∃ journal, runFrom (printMarkup t) s =
      ((Console.display s.editor.disk.runtime t).map fun _ => (), { s with journal := journal }) := by
  simp only [printMarkup, runFrom_bind, runFrom_get, runFrom_ofExcept]
  cases Console.display s.editor.disk.runtime t <;> exact ⟨_, rfl⟩

/-- Loading a history that was not loaded yet from its file. -/
theorem runFrom_load_of_new {s : Session} {k : History.FileKeeper}
    (hs : s.history = .new (.file k)) :
    runFrom load s = match k.stored s.editor.disk with
      | .error f => (.error f, s)
      | .ok stored => (.ok (), Session.atEnd
          { s with history := ⟨stored, true, .file (k.adopt stored k.unsaved)⟩ }) := by
  simp only [load, runFrom_bind, runFrom_recording, hs, History.runFrom_load_of_file]
  cases k.stored s.editor.disk with
  | error f => simp [← hs]
  | ok stored => simp [runFrom_modify]

theorem load_of_new {s : Session} {k : History.FileKeeper} (hs : s.history = .new (.file k)) :
    (∃ f s', k.stored s.editor.disk = .error f ∧ runFrom load s = (.error f, s') ∧
      s'.history = s.history) ∨
    ∃ stored s', k.stored s.editor.disk = .ok stored ∧ runFrom load s = (.ok (), s') ∧
      s'.history.InFile k.path := by
  rw [runFrom_load_of_new hs]
  cases hstored : k.stored s.editor.disk with
  | error f => exact Or.inl ⟨f, s, rfl, rfl, rfl⟩
  | ok stored => exact Or.inr ⟨stored, _, rfl, rfl, rfl, _, rfl, rfl, rfl⟩

theorem inFile_of_load {s t : Session} {k : History.FileKeeper}
    (hs : s.history = .new (.file k)) (h : runFrom load s = (.ok (), t)) :
    t.history.InFile k.path := by
  obtain ⟨f, s', -, hfailed, -⟩ | ⟨stored, s', -, hloaded, hfile⟩ := load_of_new hs
  · rw [hfailed] at h
    cases h
  · rw [hloaded] at h
    cases h
    exact hfile

theorem keepsHistory_onDisk {α : Type} (act : OnDisk α) (h : History) :
    Keeps (fun s => s.history = h) (onDisk act) := by
  rintro s rfl
  rw [runFrom_onDisk]

theorem keepsHistory_printMarkup (t : Text) (h : History) :
    Keeps (fun s => s.history = h) (printMarkup t) := by
  rintro s rfl
  obtain ⟨journal, hprint⟩ := runFrom_printMarkup t s
  rw [hprint]

theorem keepsHistory_start (search : Delegate.SearchPath) (settings : DelegationSettings)
    (h : History) : Keeps (fun s => s.history = h) (discard (Delegate.start search settings)) := by
  rintro s rfl
  rw [runFrom_discard]
  simp only [Delegate.start, runFrom_bind, runFrom_get, runFrom_set]
  split <;> rfl

end Action

theorem Disk.locate_of_parts_eq_nil {p : Path} (h : p.parts = []) (d : Disk) :
    d.locate p = .ok (if p.isAbsolute then [] else d.here) := by
  obtain ⟨root, parts⟩ := p
  cases h
  cases root <;> rfl

namespace Workspace

/-- A path without a name leads to a directory, which holds no history. -/
theorem parts_ne_nil_of_stored {k : History.FileKeeper} {d : Disk}
    (hhere : d.at? d.here = some .directory)
    (h : ∀ e, k.stored d ≠ .error (.os e)) : k.path.parts ≠ [] := by
  intro hparts
  have hlocate := Disk.locate_of_parts_eq_nil hparts d
  have hdir : d.at? (if k.path.isAbsolute then [] else d.here) = some .directory := by
    split
    · rfl
    · exact hhere
  have hnul : k.path.hasNul = false := by simp [Path.hasNul, hparts]
  refine h ⟨.isDirectory, k.path.text, none⟩ ?_
  simp [History.FileKeeper.stored, Disk.pathExists, Disk.find?, Disk.readText, Disk.readBytes,
    Disk.stat, hnul, hlocate, hdir, bind, Except.bind, pure, Except.pure]

/-- A history that was loaded keeps to its file, which has a name. -/
theorem inFile_of_loadHistory {s t : Session} {k : History.FileKeeper} {stamp : Text}
    (hs : s.history = .new (.file k))
    (hhere : s.editor.disk.at? s.editor.disk.here = some .directory)
    (hload : runFrom (loadHistory k.path stamp) s = (.ok (), t)) :
    t.history.InFile k.path ∧ k.path.parts ≠ [] := by
  unfold loadHistory at hload
  rw [runFrom_tryCatch] at hload
  obtain ⟨f, s', hstored, hfailed, hhistory⟩ | ⟨stored, s', hstored, hloaded, hfile⟩ :=
    Action.load_of_new hs
  · rw [hfailed] at hload
    dsimp only at hload
    split at hload
    · rename_i hbad
      refine ⟨?_, parts_ne_nil_of_stored hhere fun e he => ?_⟩
      · -- the file was moved aside, and this was told, before it was loaded again
        obtain ⟨backup, s₁, h₁, hload⟩ :=
          (Action.keepsHistory_onDisk _ _).of_bind_eq_ok (hhistory.trans hs) hload
        have hlast {s₂ : Session} {reason : Text} (h₂ : s₂.history = .new (.file k))
            (h : runFrom (Action.printMarkup reason >>= fun _ => Action.load) s₂ = (.ok (), t)) :
            t.history.InFile k.path := by
          obtain ⟨_, s₃, h₃, h⟩ := (Action.keepsHistory_printMarkup _ _).of_bind_eq_ok h₂ h
          exact Action.inFile_of_load h₃ h
        cases backup with
        | none => exact hlast h₁ hload
        | some backup =>
          obtain ⟨_, s₂, h₂, hload⟩ :=
            (Action.keepsHistory_printMarkup _ _).of_bind_eq_ok h₁ hload
          exact hlast h₂ hload
      · rw [hstored] at he
        cases he
        cases hbad
    · cases hload
  · rw [hloaded] at hload
    cases hload
    exact ⟨hfile, parts_ne_nil_of_stored hhere fun e he => by rw [hstored] at he; cases he⟩

/-- What a session starts with: an engine that is discreet, and a history that keeps to the file of
the settings. -/
theorem inFile_of_start {w : Workspace} {around : Surroundings} {settings : Settings}
    {s₀ s : Session} {e : Engine}
    (hhere : s₀.editor.disk.at? s₀.editor.disk.here = some .directory)
    (hstart : runFrom (w.start around settings) s₀ = (.ok e, s)) :
    ∃ path, w.historyFile s₀.editor.disk.homes settings = .ok path ∧ path.parts ≠ [] ∧
      s.history.InFile path ∧ e.Discreet := by
  unfold start at hstart
  obtain ⟨_, _, hget, hstart⟩ := runFrom_bind_eq_ok.1 hstart
  cases hget
  obtain ⟨path, _, hread, hstart⟩ := runFrom_bind_eq_ok.1 hstart
  rw [runFrom_ofExcept] at hread
  obtain ⟨hpath, rfl⟩ := Prod.mk.inj hread
  obtain ⟨_, _, hset, hstart⟩ := runFrom_bind_eq_ok.1 hstart
  cases hset
  obtain ⟨_, s₁, hload, hstart⟩ := runFrom_bind_eq_ok.1 hstart
  let k : History.FileKeeper := .new path settings.history.maxEntries settings.history.flushEvery
  have hnew : ({ s₀ with history := .new (.file k) } : Session).history = .new (.file k) := rfl
  obtain ⟨hfile, hparts⟩ := inFile_of_loadHistory hnew hhere hload
  refine ⟨path, hpath, hparts, ?_⟩
  dsimp only at hstart
  split at hstart
  · obtain ⟨_, s₂, hkept, hstart⟩ :=
      (Action.keepsHistory_start _ _ s₁.history).of_bind_eq_ok rfl hstart
    cases hstart
    rw [hkept]
    exact ⟨hfile, Engine.discreet_builtIn settings _ (some around.interpreter)⟩
  · cases hstart
    exact ⟨hfile, Engine.discreet_builtIn settings _ none⟩

end Workspace

/-! ## runs -/

namespace Session

/-- The session after some lines, each of which may find another editor. -/
def afterInputs (e : Engine) (inputs : List (Editor × Text)) (s : Session) : Session :=
  inputs.foldl (fun s input => (runFrom (e.run input.2) { s with editor := input.1 }).2) s

theorem inFile_afterInputs {e : Engine} (he : e.Discreet) {path : Path} (hparts : path.parts ≠ [])
    {s : Session} (hs : s.history.InFile path) (inputs : List (Editor × Text)) :
    (s.afterInputs e inputs).history.InFile path := by
  induction inputs generalizing s with
  | nil => exact hs
  | cons input inputs ih =>
    exact ih (he.run_of_inFile (s := { s with editor := input.1 }) hs hparts input.2).1

end Session

end ExMode
