import ExMode.Proofs.HistoryFile
import ExMode.Proofs.Reload

/-!
# ExMode.Proofs.LineDisk

What a line does to the disk.  Recording it may write the history file.  After that a command that
is run here writes one file at most, and what lies elsewhere stays, also what does not lie there
because a directory is missing on the way (`Disk.missing_follow_put`).  A line that sets nothing
going does nothing to the disk, and what a program does to it is the program's.

* `FileKeeper.stored_put` — a history survives that another file is written;
* `Command.disk_perform` — what a command does to the disk;
* `Engine.LeavesHistory` — what is asked of a line, so that the history survives it
  (`LeavesHistory.stored_after`).
-/

namespace ExMode

namespace Disk

variable {d : Disk} {loc l : Location} {bytes : Utf8.Bytes} {x : Bool} {p : Path}

/-- Whether a path leads nowhere because a directory is missing on the way. -/
def Missing (found : Except OsCause Location) : Prop :=
  found = .error .noEntry ∨ found = .error .notDirectory

/-- Writing a file makes no directory that was missing. -/
theorem missing_follow_put (hloc : d.at? loc ≠ some .directory) {parts : List Text}
    (h : Missing (d.follow l parts)) : Missing ((d.put loc (.file bytes x)).follow l parts) := by
  induction parts generalizing l with
  | nil => rcases h with h | h <;> cases h
  | cons part rest ih =>
    cases rest with
    | nil =>
      rw [follow_singleton] at h
      split at h <;> rcases h with h | h <;> cases h
    | cons q rest =>
      rw [follow_cons_cons] at h ⊢
      split at h
      · rcases h with h | h <;> cases h
      · rename_i hlong
        rw [if_neg hlong]
        by_cases hchild : child l part = loc
        · rw [hchild, at?_put_self _ (ne_nil_of_at? hloc)]
          exact Or.inr rfl
        · rw [at?_put_of_ne _ hchild]
          rcases hat : d.at? (child l part) with _ | _ | _ <;> rw [hat] at h
          · exact Or.inl rfl
          · exact ih h
          · exact Or.inr rfl

theorem missing_locate_put (hloc : d.at? loc ≠ some .directory) (h : Missing (d.locate p)) :
    Missing ((d.put loc (.file bytes x)).locate p) := by
  unfold locate at h ⊢
  split at h
  · rcases h with h | h <;> cases h
  · rw [if_neg ‹_›]
    exact missing_follow_put hloc h

end Disk

/-! ## the history file -/

namespace History.FileKeeper

open Disk

variable {k : FileKeeper} {d d' : Disk} {stored : List Text}

/-- What the file holds depends on what lies at its path, and what is said of it on the runtime. -/
theorem stored_of_stat_eq (h : d'.stat k.path = d.stat k.path) (hruntime : d'.runtime = d.runtime) :
    k.stored d' = k.stored d := by
  simp only [FileKeeper.stored, pathExists, find?, readText, readBytes, h, hruntime]

/-- There are no entries where the path leads nowhere, or nowhere that can be asked about. -/
theorem stored_of_missing (h : k.path.hasNul = true ∨ Missing (d.locate k.path)) :
    k.stored d = .ok [] := by
  have hfind : d.find? k.path = .ok none := by
    unfold find? stat
    rcases h with h | h | h
    · rw [if_pos h]
    · rw [h]
      exact ite_self _
    · rw [h]
      exact ite_self _
  simp [FileKeeper.stored, pathExists, hfind, bind, Except.bind, pure, Except.pure]

/-- A path that can be asked about and leads somewhere, or nowhere. -/
theorem locate_of_stored (hnul : k.path.hasNul = false) (h : k.stored d = .ok stored) :
    Missing (d.locate k.path) ∨ ∃ loc, d.locate k.path = .ok loc := by
  cases hlocate : d.locate k.path with
  | ok loc => exact Or.inr ⟨loc, rfl⟩
  | error cause =>
    cases cause with
    | noEntry => exact Or.inl (Or.inl rfl)
    | notDirectory => exact Or.inl (Or.inr rfl)
    | _ =>
      simp [FileKeeper.stored, pathExists, find?, stat, hnul, hlocate, bind, Except.bind] at h

theorem stored_spend (k : FileKeeper) (d : Disk) : k.stored d.spend = k.stored d := by
  refine stored_of_stat_eq ?_ rfl
  unfold stat
  rw [locate_spend]
  rfl

/-- A history survives that a file is written that is not its own. -/
theorem stored_put {loc : Location} (hloc : d.at? loc ≠ some .directory)
    (hother : d.locate k.path ≠ .ok loc) (h : k.stored d = .ok stored) (bytes : Utf8.Bytes)
    (x : Bool) : k.stored (d.put loc (.file bytes x)) = .ok stored := by
  cases hnul : k.path.hasNul with
  | true => rw [stored_of_missing (Or.inl hnul), ← h, stored_of_missing (Or.inl hnul)]
  | false =>
    obtain hmissing | ⟨l, hl⟩ := locate_of_stored hnul h
    · rw [stored_of_missing (Or.inr (missing_locate_put hloc hmissing)), ← h,
        stored_of_missing (Or.inr hmissing)]
    · have hne : l ≠ loc := fun he => hother (he ▸ hl)
      rw [← h]
      refine stored_of_stat_eq ?_ rfl
      simp only [stat, (opens_put hloc _).locate hl, hl, bind, Except.bind, at?_put_of_ne _ hne]

end History.FileKeeper

/-! ## commands -/

namespace Command

variable {e e' : Editor} {c : Command} {r : Except Fault Outcome}

theorem Turn.disk_eq (h : Turn e c r e') (hc : ∀ target quit only, c ≠ .write target quit only) :
    e'.disk = e.disk := by
  cases h with
  | stopped | told | moved | kept | edited | quitting => rfl
  | skipped | unwritten | written => exact absurd rfl (hc _ _ _)

/-- A command leaves the disk as it is but for a refusal used up, or writes the one file that it
says it wrote. -/
theorem disk_perform (hc : c.IsBuiltIn) (past : List Text) (range : Option LineRange) (e : Editor) :
    let x := runFrom (c.perform past range) e
    x.2.disk = e.disk ∨ x.2.disk = e.disk.spend ∨
      ∃ p loc bytes executable, writtenTo? e.buffer c x.1 = some p ∧ e.disk.locate p = .ok loc ∧
        e.disk.at? loc ≠ some .directory ∧
        x.2.disk = e.disk.spend.put loc (.file bytes executable) := by
  have hturn := turn_perform hc past range e
  cases c with
  | write target quit only =>
    simp only [perform]
    rw [runFrom_write]
    cases hp : target.or e.buffer.path with
    | none => exact Or.inl rfl
    | some path =>
      dsimp only
      split
      · exact Or.inl rfl
      · rcases Disk.writeBytes_cases path (Utf8.encode e.buffer.text) e.disk with
          ⟨-, h⟩ | ⟨err, h⟩ | ⟨loc, executable, -, hlocate, hat, h⟩ <;> rw [Disk.writeText, h]
        · exact Or.inl rfl
        · exact Or.inr (Or.inl rfl)
        · exact Or.inr (Or.inr ⟨path, loc, _, executable, hp, hlocate, hat, rfl⟩)
  | _ => exact Or.inl (hturn.disk_eq fun _ _ _ h => by cases h)

end Command

/-! ## lines -/

namespace Engine

variable {settings : Settings} {homes : List (Text × Text)} {program : Option Interpreter}
  {raw : Text} {s s' : Session}

/-- What a command that is run here does to the disk that recording the line left. -/
theorem disk_after_of_performed {x : Command × Except Fault Outcome × Editor}
    (h : (builtIn settings homes program).performed? raw s = some x)
    (hrecord : runFrom ((builtIn settings homes program).record raw) s = (.ok (), s')) :
    let e := builtIn settings homes program
    let d := (e.after raw s).editor.disk
    d = s'.editor.disk ∨ d = s'.editor.disk.spend ∨
      ∃ p loc bytes executable, e.wrote? raw s = some p ∧ s'.editor.disk.locate p = .ok loc ∧
        s'.editor.disk.at? loc ≠ some .directory ∧
        d = s'.editor.disk.spend.put loc (.file bytes executable) := by
  intro e d
  obtain ⟨c, r, ed⟩ := x
  obtain ⟨-, s₁, range, hrecord', hparse, -, hrun⟩ := performed?_eq_some h
  rw [hrecord] at hrecord'
  cases hrecord'
  have hbuffer := buffer_record e raw s
  rw [hrecord] at hbuffer
  have hd : d = ed.disk := congrArg Editor.disk (run_of_performed h).1
  have hwrote : e.wrote? raw s = Command.writtenTo? s'.editor.buffer c r := by
    unfold wrote?
    rw [show e.performed? raw s = some (c, r, ed) from h, hbuffer]
  have hdisk := Command.disk_perform (Table.isBuiltIn_of_parse hparse) s'.history.entries range
    s'.editor
  rw [hrun] at hdisk
  rw [hd, hwrote]
  exact hdisk

/-- A line without an errand does nothing to the disk once it is recorded. -/
theorem disk_after_of_errand?_eq_none {e : Engine} (hraw : raw ≠ [])
    (hrecord : runFrom (e.record raw) s = (.ok (), s')) (h : e.errand? raw s' = none) :
    (e.after raw s).editor.disk = s'.editor.disk := by
  obtain ⟨_, _, -, ⟨notes, hdispatch, -⟩, -⟩ := settles_dispatch e raw s'
  rw [h] at hdispatch
  rw [after_of_ne_nil hraw, hrecord]
  dsimp only
  rw [hdispatch]
  rfl

/-- A line that leaves the history file at a path alone once it is recorded: it does not write the
buffer there, and if it is handed to a program, that leaves what the file holds, and a file tree. -/
structure LeavesHistory (e : Engine) (path : Path) (raw : Text) (s : Session) : Prop where
  wrote : ∀ p, e.wrote? raw s = some p →
    (e.after raw s).editor.disk.locate p ≠ (e.after raw s).editor.disk.locate path
  handed : ∀ g, e.errand? raw (runFrom (e.record raw) s).2 = some (.away g) →
    (e.after raw s).editor.disk.IsTree ∧
      (History.FileKeeper.new path 1 1).stored (e.after raw s).editor.disk =
        (History.FileKeeper.new path 1 1).stored (runFrom (e.record raw) s).2.editor.disk

/-- A history survives a line that leaves its file alone. -/
theorem LeavesHistory.stored_after {k : History.FileKeeper}
    (h : (builtIn settings homes program).LeavesHistory k.path raw s) (hraw : raw ≠ [])
    (hrecord : runFrom ((builtIn settings homes program).record raw) s = (.ok (), s'))
    (htree : s'.editor.disk.IsTree) :
    let d := ((builtIn settings homes program).after raw s).editor.disk
    d.IsTree ∧ ∀ stored, k.stored s'.editor.disk = .ok stored → k.stored d = .ok stored := by
  intro d
  cases hp : (builtIn settings homes program).performed? raw s with
  | none =>
    cases herrand : (builtIn settings homes program).errand? raw s' with
    | none =>
      have hd : d = s'.editor.disk := disk_after_of_errand?_eq_none hraw hrecord herrand
      rw [hd]
      exact ⟨htree, fun _ hstored => hstored⟩
    | some errand =>
      cases errand with
      | here c range => exact absurd hp (performed?_of_errand? hraw hrecord herrand)
      | away g =>
        have hhanded := h.handed g
        rw [hrecord] at hhanded
        obtain ⟨hkept, hstored'⟩ := hhanded herrand
        exact ⟨hkept, fun stored hstored => Eq.trans hstored' hstored⟩
  | some x =>
    obtain hd | hd | ⟨p, loc, bytes, executable, hwrote, hlocate, hat, hd⟩ :=
      disk_after_of_performed hp hrecord
    · rw [show d = _ from hd]
      exact ⟨htree, fun _ hstored => hstored⟩
    · rw [show d = _ from hd, k.stored_spend]
      exact ⟨Disk.isTree_spend htree, fun _ hstored => hstored⟩
    · have hapart := h.wrote p hwrote
      rw [hd] at hapart
      rw [show d = _ from hd]
      have hat' : s'.editor.disk.spend.at? loc ≠ some .directory := hat
      have hlocate' : s'.editor.disk.spend.locate p = .ok loc :=
        (Disk.locate_spend _ p).trans hlocate
      have hopens := Disk.opens_put hat' (.file bytes executable)
      refine ⟨Disk.isTree_put (Disk.isTree_spend htree) hat'
        ((Disk.isTree_spend htree).parent_of_locate hlocate' hat') _, fun stored hstored => ?_⟩
      refine History.FileKeeper.stored_put hat' (fun hsame => hapart ?_)
        ((k.stored_spend _).trans hstored) bytes executable
      rw [hopens.locate hlocate', hopens.locate hsame]

end Engine

end ExMode
