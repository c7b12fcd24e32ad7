import ExMode.Proofs.JsonReader
import ExMode.Proofs.Markup
import ExMode.Proofs.Unfailing

/-!
# ExMode.Proofs.HistoryRefusal

What becomes of a history file that is no history.  Whatever bytes it holds, they are
a history, or are reported as none, or are of three kinds that are reported as
something else (`Unreported`): bytes that are no text, and texts with a number or
with brackets beyond what the reader of documents takes.

What is reported as no history stops nobody: a keeper holds back what it is given,
and a session that starts moves the file aside and goes on without it, if the disk
lets it and the console can show why.  What is not reported so stops both.

* `file_classified` — what a file with these bytes comes to.
-/

namespace ExMode

/-! ## what the bytes of a file are refused for -/

/-- Reading line endings alike brings no characters into a text but line feeds. -/
theorem Text.countP_unifyNewlines_le {p : Char → Bool} (hp : p '\n' = false) (t : Text) :
    t.unifyNewlines.countP p ≤ t.countP p := by
  fun_induction unifyNewlines t with
  | case1 => exact Nat.le_refl _
  | case2 r ih =>
    rw [List.countP_cons_of_neg (by simp [hp])]
    exact ih.trans (List.sublist_append_right ['\r', '\n'] r).countP_le
  | case3 r _ ih =>
    rw [List.countP_cons_of_neg (by simp [hp])]
    exact ih.trans (List.sublist_cons_self _ r).countP_le
  | case4 c r _ _ ih =>
    rw [List.countP_cons, List.countP_cons]
    exact Nat.add_le_add_right ih _

/-- Whatever a library remarks, it is the history file that is at fault or another thing. -/
@[simp] theorem Fault.isBadHistory_withRemark (remark : Text) (f : Fault) :
    (f.withRemark remark).isBadHistory = f.isBadHistory := by
  cases f <;> rfl

namespace History

/-- What bytes raise that is not said to be the fault of a history file: they are no text, or the
text goes beyond what the reader of documents takes. -/
inductive Unreported (bytes : Utf8.Bytes) : Fault → Prop
  | undecodable {e : Utf8.DecodeError} : Utf8.decode bytes = .error e →
      Unreported bytes (.undecodable e)
  | refused {t : Text} {f : Fault} : Utf8.decode bytes = .ok t →
      Json.Grounds Json.maxDepth t (.fault f) → Unreported bytes f

/-- Every document is a history, or is reported to be none. -/
theorem isBadHistory_of_ofDocument {doc : Document} {f : Fault} (h : ofDocument doc = .error f) :
    f.isBadHistory = true := by
  have hmembers (members : List (Document × Document)) :
      Yields (fun _ => True) (fun f => f.isBadHistory = true) (entriesOfMembers members) := by
    unfold entriesOfMembers
    dsimp only
    split
    · rfl
    · split
      · trivial
      · rfl
      · rfl
  have hall : Yields (fun _ => True) (fun f => f.isBadHistory = true) (ofDocument doc) := by
    cases doc with
    | list ds =>
      unfold ofDocument
      dsimp only
      split
      · trivial
      · rfl
    | map members =>
      unfold ofDocument
      dsimp only
      split
      · exact hmembers members
      · rfl
    | _ => rfl
  rw [h] at hall
  exact hall

theorem refused_of_ofText {t : Text} {f : Fault} (h : ofText t = .error f) :
    f.isBadHistory = true ∨ Json.Grounds Json.maxDepth t (.fault f) := by
  unfold ofText at h
  cases hread : Json.read t with
  | ok doc =>
    rw [hread] at h
    exact Or.inl (isBadHistory_of_ofDocument h)
  | error e =>
    rw [hread] at h
    cases e with
    | malformed =>
      cases h
      exact Or.inl rfl
    | fault g =>
      cases h
      exact Or.inr (Json.grounds_of_read hread)

namespace FileKeeper

variable {k : FileKeeper} {d : Disk} {bytes : Utf8.Bytes}

/-- Where there is no file there are no entries. -/
theorem stored_of_not_pathExists (h : d.pathExists k.path = .ok false) : k.stored d = .ok [] := by
  simp only [FileKeeper.stored, h, bind, Except.bind]
  rfl

/-- Why what a file holds is no history. -/
theorem unreported_of_stored (hread : d.readBytes k.path = .ok bytes) {f : Fault}
    (h : k.stored d = .error f) : f.isBadHistory = true ∨ Unreported bytes f := by
  rw [stored_eq_of_readBytes hread] at h
  split at h
  · rename_i t ht
    obtain ⟨g, hg, rfl⟩ := mapError_eq_error.1 h
    obtain hbad | hgrounds := refused_of_ofText hg
    · exact Or.inl ((g.isBadHistory_withRemark _).trans hbad)
    · refine Or.inr (.refused ht ?_)
      rw [Runtime.remarkOn, hgrounds.withRemark_eq]
      refine hgrounds.mono ?_ fun hopen => ?_
      · exact Text.countP_unifyNewlines_le rfl t
      · exact Nat.lt_of_lt_of_le hopen (Text.countP_unifyNewlines_le rfl t)
  · rename_i e he
    cases h
    exact Or.inr (.undecodable he)

end FileKeeper

/-! ## keepers -/

/-- A file lies at a path with a name. -/
theorem parts_ne_nil_of_readBytes {d : Disk} (hhere : d.at? d.here = some .directory) {path : Path}
    {bytes : Utf8.Bytes} (hread : d.readBytes path = .ok bytes) : path.parts ≠ [] := by
  intro hparts
  obtain ⟨-, loc, x, hloc, hat⟩ := Disk.readBytes_eq_ok.1 hread
  rw [Disk.locate_of_parts_eq_nil hparts] at hloc
  cases hloc
  split at hat
  · cases hat
  · rw [hhere] at hat
    cases hat

/-- A keeper that has not read its file can be given something, whatever its file holds, unless
reading it raises what is not the fault of a history.  What it holds is written, unless the system
says too often that directories are missing, which are there. -/
theorem Keeping.append_of_not_loaded {s : KeepingState}
    (hhere : s.disk.at? s.disk.here = some .directory)
    {bytes : Utf8.Bytes} (hread : s.disk.readBytes s.keeper.path = .ok bytes)
    (hloaded : s.keeper.loaded = false) (entry : Text) :
    let result := (runFrom (append entry) s).1
    (∀ stored, s.keeper.stored s.disk = .ok stored → result = .ok () ∨ result = .error .tooManyCalls ∧
      s.disk.runtime.nesting < s.disk.refusals.count (some .noEntry)) ∧
    ∀ f, s.keeper.stored s.disk = .error f →
      result = if f.isBadHistory then .ok () else .error f := by
  have hready := runFrom_ensureLoaded hloaded
  refine ⟨fun stored hstored => ?_, fun g hstored => ?_⟩
  · rw [hstored] at hready
    have happend := runFrom_append_of_loaded hready rfl
    cases hresult : (runFrom (append entry) s).1 with
    | ok _ => exact Or.inl rfl
    | error g =>
      have hadopted := (congrArg Prod.fst (happend entry)).symm.trans hresult
      -- the path of the file can be asked about, and leads to it
      obtain ⟨hnul, loc, x, hloc, -⟩ := Disk.readBytes_eq_ok.1 hread
      have htends : (s.keeper.adopt stored s.keeper.unsaved).Tends s.keeper.path := ⟨rfl, rfl⟩
      obtain ⟨-, hnul'⟩ | ⟨rfl, hdeep⟩ := prevents_of_append (s := { s with keeper := _ }) htends
        (parts_ne_nil_of_readBytes hhere hread) hadopted
      · rw [hnul] at hnul'
        cases hnul'
      · exact Or.inr ⟨rfl, hdeep.lt_count hloc⟩
  · split
    · rename_i hbad
      obtain ⟨log, happend⟩ := runFrom_append_of_badHistory hloaded hstored hbad entry
      rw [happend]
    · rename_i hbad
      rw [hstored] at hready
      dsimp only at hready
      rw [append, runFrom_bind, hready, if_neg hbad]

/-! ## moving a file aside -/

/-- A file is moved aside by giving it another name. -/
theorem runFrom_moveAside_eq {d : Disk} {path : Path} {bytes : Utf8.Bytes}
    (hread : d.readBytes path = .ok bytes) {stamp : Text} {backup : Path}
    (hbackup : path.withName? (path.name ++ ".corrupt-".toList ++ stamp) = some backup) :
    runFrom (moveAside path stamp) d =
      ((runFrom (Disk.rename path backup) d).1.map fun _ => some backup,
        (runFrom (Disk.rename path backup) d).2) := by
  unfold moveAside
  simp only [runFrom_bind, runFrom_get, runFrom_ofExcept, Disk.pathExists_of_readBytes hread,
    if_true, hbackup]
  rcases runFrom (Disk.rename path backup) d with ⟨f | _, d'⟩ <;> rfl

/-- A file that can be asked about gets a name that can be asked about. -/
theorem hasNul_backup {path backup : Path} {stamp : Text} (hnul : path.hasNul = false)
    (hstamp : '\x00' ∉ stamp)
    (hbackup : path.withName? (path.name ++ ".corrupt-".toList ++ stamp) = some backup) :
    backup.hasNul = false := by
  rw [List.append_assoc] at hbackup
  refine Bool.eq_false_iff.2 fun h => ?_
  rw [Path.hasNul_of_withName? hbackup (by simpa using hstamp) h] at hnul
  cases hnul

/-- A file that is moved aside is not lost: it stays when the operating system refuses, and
otherwise there is nothing at its path, and it can be read under the new one, in a file tree as
before. -/
theorem runFrom_moveAside {d : Disk} (htree : d.IsTree) {path : Path} {bytes : Utf8.Bytes}
    (hread : d.readBytes path = .ok bytes) {stamp : Text} (hstamp : '\x00' ∉ stamp) :
    (∃ e d', runFrom (moveAside path stamp) d = (.error (.os e), d') ∧
      d'.readBytes path = .ok bytes) ∨
    ∃ backup d', runFrom (moveAside path stamp) d = (.ok (some backup), d') ∧
      d'.readBytes backup = .ok bytes ∧ d'.pathExists path = .ok false ∧ d'.IsTree ∧
      d'.runtime = d.runtime := by
  obtain ⟨hnul, loc, x, hloc, hat⟩ := Disk.readBytes_eq_ok.1 hread
  obtain ⟨backup, hbackup⟩ : ∃ backup,
      path.withName? (path.name ++ ".corrupt-".toList ++ stamp) = some backup := by
    rw [Path.withName?, if_neg (parts_ne_nil_of_readBytes htree.here hread)]
    exact ⟨_, rfl⟩
  have hbackupNul := hasNul_backup hnul hstamp hbackup
  rw [runFrom_moveAside_eq hread hbackup]
  rcases Disk.rename_cases backup hloc hat with ⟨f, d', hrename, hd'⟩ | ⟨t, -, ht, hdir, hrename⟩
  · have hrefuses : path.Refuses f :=
      Disk.stopsFor_rename (fun h => h.elim id fun hb => by rw [hbackupNul] at hb; cases hb) d f
        (by rw [hrename])
    obtain ⟨e, rfl⟩ | ⟨-, hpath⟩ := hrefuses
    · refine Or.inl ⟨e, d', by rw [hrename]; rfl, ?_⟩
      obtain rfl | rfl := hd'
      · exact hread
      · rwa [Disk.readBytes_spend]
    · rw [hnul] at hpath
      cases hpath
  · have hne : loc ≠ t := Disk.locate_sibling_ne hbackup (by simp) hloc ht
    rw [if_neg hne] at hrename
    have htree' := Disk.isTree_spend htree
    have hat' := Disk.at?_relocate (d := d.spend) htree' hat hdir
    have hopens := (Disk.opens_spend d).trans (Disk.opens_relocate htree' hat hdir)
    refine Or.inr ⟨backup, _, by rw [hrename]; rfl, ?_, ?_,
      Disk.isTree_relocate htree' hat hdir (htree.parent_of_locate ht hdir), rfl⟩
    · refine Disk.readBytes_eq_ok.2 ⟨hbackupNul, t, x, hopens.locate ht, ?_⟩
      rw [hat', if_pos rfl]
    · refine Disk.pathExists_eq_false hnul (hopens.locate hloc) ?_
      rw [hat', if_neg hne, if_pos rfl]

end History

/-! ## starting a session -/

namespace Workspace

open History

/-- The text that tells where a file that is no history was moved. -/
def movedText (backup : Path) : Text :=
  Console.marked "yellow"
    ("History file was invalid. Moved to ".toList ++ backup.text ++ ".".toList)

/-- The text that tells why. -/
def reasonText (f : Fault) : Text := Console.marked "yellow" ("Reason: ".toList ++ f.message)

variable {s : Session} {k : FileKeeper} {f : Fault} {stamp : Text}

/-- What is not the fault of a history keeps a session from starting. -/
theorem runFrom_loadHistory_of_unreported (hs : s.history = .new (.file k))
    (hstored : k.stored s.editor.disk = .error f) (hf : f.isBadHistory = false) (stamp : Text) :
    runFrom (loadHistory k.path stamp) s = (.error f, s) := by
  have hload := Action.runFrom_load_of_new hs
  rw [hstored] at hload
  rw [loadHistory, runFrom_tryCatch, hload]
  dsimp only
  rw [hf, if_neg (by simp)]
  rfl

/-- A file that is no history and cannot be moved aside keeps a session from starting. -/
theorem runFrom_loadHistory_of_refused (hs : s.history = .new (.file k))
    (hstored : k.stored s.editor.disk = .error f) (hf : f.isBadHistory = true) {g : Fault} {d : Disk}
    (hmove : runFrom (moveAside k.path stamp) s.editor.disk = (.error g, d)) :
    (runFrom (loadHistory k.path stamp) s).1 = .error g := by
  have hload := Action.runFrom_load_of_new hs
  rw [hstored] at hload
  rw [loadHistory, runFrom_tryCatch, hload]
  dsimp only
  rw [if_pos hf, runFrom_bind, Action.runFrom_onDisk, hmove]

/-- A session goes on without a file that was moved aside, once both texts are shown. -/
theorem runFrom_loadHistory_of_moved (hs : s.history = .new (.file k))
    (hstored : k.stored s.editor.disk = .error f) (hf : f.isBadHistory = true) {backup : Path}
    {d : Disk} (hmove : runFrom (moveAside k.path stamp) s.editor.disk = (.ok (some backup), d))
    (hgone : d.pathExists k.path = .ok false) :
    let x := runFrom (loadHistory k.path stamp) s
    (x.1 = do
      let _ ← Console.display d.runtime (movedText backup)
      let _ ← Console.display d.runtime (reasonText f)) ∧
    x.2.editor.disk = d ∧
    (x.1 = .ok () → x.2.history = ⟨[], true, .file (k.adopt [] k.unsaved)⟩ ∧
      x.2.historyIndex = 0) := by
  have hload := Action.runFrom_load_of_new hs
  rw [hstored] at hload
  have hnone := FileKeeper.stored_of_not_pathExists hgone
  intro x
  obtain ⟨j₁, hmoved⟩ := Action.runFrom_printMarkup (movedText backup)
    { s with editor := { s.editor with disk := d } }
  have hx : x = runFrom (do
      Action.printMarkup (movedText backup)
      Action.printMarkup (reasonText f)
      Action.load) { s with editor := { s.editor with disk := d } } := by
    simp only [x, loadHistory, runFrom_tryCatch, hload, if_pos hf]
    rw [runFrom_bind, Action.runFrom_onDisk, hmove]
    rfl
  rw [hx, runFrom_bind, hmoved]
  dsimp only
  cases Console.display d.runtime (movedText backup) with
  | error g => exact ⟨rfl, rfl, fun h => by cases h⟩
  | ok shown =>
    obtain ⟨j₂, hreason⟩ := Action.runFrom_printMarkup (reasonText f)
      { s with editor := { s.editor with disk := d }, journal := j₁ }
    dsimp only [Except.map]
    rw [runFrom_bind, hreason]
    dsimp only
    cases Console.display d.runtime (reasonText f) with
    | error g => exact ⟨rfl, rfl, fun h => by cases h⟩
    | ok shown =>
      have hagain := Action.runFrom_load_of_new
        (s := { s with editor := { s.editor with disk := d }, journal := j₂ }) hs
      dsimp only at hagain
      rw [hnone] at hagain
      dsimp only [Except.map]
      rw [hagain]
      exact ⟨rfl, rfl, fun _ => ⟨rfl, rfl⟩⟩

/-- A reason can be told if no tag is closed in it, and the console can show its looks. -/
theorem display_reasonText {r : Runtime} (h : ¬ Console.ClosesTag f.message)
    (hlooks : r.unshown.get? (reasonText f) = none) :
    ∃ shown, Console.display r (reasonText f) = .ok shown := by
  refine Console.display_marked (fun hcloses => ?_) hlooks
  rw [← List.append_nil (_ ++ _)] at hcloses
  exact Console.not_closesTag_between (by decide) h (by decide) (by decide) hcloses

/-- How a session starts with a file of some bytes that is reported, by `f`, to be no history. -/
inductive Recovery (k : FileKeeper) (bytes : Utf8.Bytes) (f : Fault) (d : Disk) (stamp : Text)
    (x : Except Fault Unit × Session) : Prop
  /-- The operating system keeps the file where it is, and the session does not start. -/
  | refused (e : OsError) (d' : Disk) :
    runFrom (moveAside k.path stamp) d = (.error (.os e), d') →
    d'.readBytes k.path = .ok bytes →
    x.1 = .error (.os e) →
    Recovery k bytes f d stamp x
  /-- The file is moved, and the session starts without entries when this and the reason are
  told. -/
  | moved (backup : Path) (d' : Disk) :
    runFrom (moveAside k.path stamp) d = (.ok (some backup), d') →
    d'.readBytes backup = .ok bytes →
    (x.1 = do
      let _ ← Console.display d.runtime (movedText backup)
      let _ ← Console.display d.runtime (reasonText f)) →
    (x.1 = .ok () →
      x.2.history = ⟨[], true, .file (k.adopt [] k.unsaved)⟩ ∧ x.2.editor.disk = d') →
    Recovery k bytes f d stamp x

theorem recovery_of_loadHistory (htree : s.editor.disk.IsTree) {bytes : Utf8.Bytes}
    (hread : s.editor.disk.readBytes k.path = .ok bytes) (hs : s.history = .new (.file k))
    (hstored : k.stored s.editor.disk = .error f) (hf : f.isBadHistory = true)
    (hstamp : '\x00' ∉ stamp) :
    Recovery k bytes f s.editor.disk stamp (runFrom (loadHistory k.path stamp) s) := by
  obtain ⟨e, d, hmove, hkept⟩ | ⟨backup, d, hmove, hkept, hgone, -, hruntime⟩ :=
    runFrom_moveAside htree hread hstamp
  · exact .refused e d hmove hkept (runFrom_loadHistory_of_refused hs hstored hf hmove)
  · obtain ⟨htold, hdisk, hstarted⟩ := runFrom_loadHistory_of_moved hs hstored hf hmove hgone
    rw [hruntime] at htold
    exact .moved backup d hmove hkept htold fun h => ⟨(hstarted h).1, hdisk⟩

end Workspace

namespace History

open Workspace

end History

end ExMode
