import ExMode.Proofs.HistoryRefusal
import ExMode.Proofs.HistorySaved
import ExMode.Proofs.Markup
import ExMode.Proofs.ProgramRun

/-!
# ExMode.Proofs.HistoryRecovery

A session that starts over a history file that is reported to be no history.  If the
disk lets it, the file is moved aside with every byte it had, and the console is told
where it went and why.  A console reads what it is told as markup, so that a place or
a reason with a closing tag in it can stop the start after the file was moved; the
reason holds what the libraries say of the file, and they may quote it.

A session that does start has a loaded and empty history, with nothing left at the
place of the file.  Lines that are run then reach the file as if it had been new.

* `corrupt_history_recovered` — what the start comes to, and the lines after it.
-/

namespace ExMode

/-! ## moving a file aside -/

namespace Disk

variable {d : Disk} {p q : Path} {n : Text} {loc l : Location}

/-- A path leads to where its sibling leads, as far as the file system takes its name. -/
theorem follow_sibling {parts : List Text} {a b : Text}
    (ha : d.follow loc (parts ++ [a]) = .ok l) :
    d.follow loc (parts ++ [b]) = .error .nameTooLong ∨
      ∃ m, d.follow loc (parts ++ [b]) = .ok m := by
  induction parts generalizing loc with
  | nil =>
    rw [List.nil_append, follow_singleton]
    split
    · exact .inl rfl
    · exact .inr ⟨_, rfl⟩
  | cons part rest ih =>
    obtain ⟨x, xs, hxs⟩ := List.exists_cons_of_ne_nil (l := rest ++ [a]) (by simp)
    obtain ⟨y, ys, hys⟩ := List.exists_cons_of_ne_nil (l := rest ++ [b]) (by simp)
    rw [List.cons_append, hxs, follow_cons_cons, ← hxs] at ha
    rw [List.cons_append, hys, follow_cons_cons, ← hys]
    split at ha
    · cases ha
    rename_i hlen
    rw [if_neg hlen]
    split at ha
    · cases ha
    · cases ha
    · exact ih ha

theorem locate_sibling (hq : p.withName? n = some q) (hp : d.locate p = .ok l) :
    d.locate q = .error .nameTooLong ∨ ∃ m, d.locate q = .ok m := by
  unfold Path.withName? at hq
  split at hq
  · cases hq
  rename_i hparts
  cases hq
  have hlast : p.parts = p.parts.dropLast ++ [p.name] := by
    rw [Path.name, List.getLast?_eq_some_getLast hparts, Option.getD_some,
      List.dropLast_concat_getLast]
  unfold locate at hp ⊢
  split at hp
  · cases hp
  rw [hlast] at hp
  split
  · exact .inl rfl
  · exact follow_sibling hp

/-- Where nothing lies beside a file, a file can be. -/
theorem takes_sibling (hq : p.withName? n = some q) (hp : d.locate p = .ok l)
    (hnul : q.hasNul = false) (hfree : d.pathExists q = .ok false) : d.Takes q := by
  refine ⟨hnul, ?_⟩
  obtain hlong | ⟨m, hm⟩ := locate_sibling hq hp
  · simp [pathExists, find?, stat, hnul, hlong, bind, Except.bind] at hfree
  · refine ⟨m, hm, fun hdir => ?_⟩
    simp [pathExists, find?, stat, hnul, hm, hdir, bind, Except.bind, pure, Except.pure] at hfree

end Disk

/-- Nothing keeps a file from being moved aside on a disk that refuses nothing, when nothing lies
under the name that it gets. -/
theorem History.runFrom_moveAside_of_free {d : Disk} (htree : d.IsTree) (hwilling : d.IsWilling)
    {path backup : Path} {bytes : Utf8.Bytes} (hread : d.readBytes path = .ok bytes) {stamp : Text}
    (hstamp : '\x00' ∉ stamp)
    (hbackup : path.withName? (path.name ++ ".corrupt-".toList ++ stamp) = some backup)
    (hfree : d.pathExists backup = .ok false) :
    ∃ d', runFrom (moveAside path stamp) d = (.ok (some backup), d') ∧
      d'.readBytes backup = .ok bytes ∧ d'.pathExists path = .ok false ∧ d'.IsTree ∧
      d'.runtime = d.runtime := by
  obtain ⟨hnul, loc, x, hloc, hat⟩ := Disk.readBytes_eq_ok.1 hread
  obtain ⟨d', hrename⟩ := hwilling.runFrom_rename hnul hloc hat
    (Disk.takes_sibling hbackup hloc (hasNul_backup hnul hstamp hbackup) hfree)
  have hmove := runFrom_moveAside_eq hread hbackup
  rw [hrename] at hmove
  obtain ⟨e, d'', hrefused, -⟩ | ⟨backup', d'', hmoved, hrest⟩ :=
    runFrom_moveAside htree hread hstamp
  · rw [hmove] at hrefused
    cases hrefused
  · rw [hmove] at hmoved
    cases hmoved
    exact ⟨d', hmove, hrest⟩

/-! ## starting a session -/

open History (FileKeeper Keeping Ledger)

/-- Loading a second time is refused, and changes nothing. -/
theorem Action.runFrom_load_of_loaded {s : Session} (h : s.history.loaded = true) :
    runFrom load s = (.error .alreadyLoaded, s) := by
  have hload : runFrom History.Recording.load ⟨s.history, s.editor.disk, []⟩ =
      (.error .alreadyLoaded, ⟨s.history, s.editor.disk, []⟩) := by
    simp only [History.Recording.load, runFrom_bind, runFrom_get, h, if_true]
    rfl
  rw [load, runFrom_bind, Action.runFrom_recording, hload]
  simp

namespace Workspace

variable {w : Workspace} {settings : Settings} {path : Path} {s : Session}

/-- A session starts when its history is loaded; looking for a program does not keep it from
that. -/
theorem runFrom_start (around : Surroundings)
    (hpath : w.historyFile s.editor.disk.homes settings = .ok path) :
    let x := runFrom (loadHistory path around.stamp) { s with history := .new (.file
      (.new path settings.history.maxEntries settings.history.flushEvery)) }
    let y := runFrom (w.start around settings) s
    y.1 = x.1.map (fun _ => Engine.builtIn settings s.editor.disk.homes
      (if settings.delegation.enabled then some around.interpreter else none)) ∧
    y.2.editor = x.2.editor ∧ y.2.history = x.2.history ∧ y.2.historyIndex = x.2.historyIndex := by
  intro x y
  have hy : y = runFrom (w.start around settings) s := rfl
  unfold start at hy
  simp only [runFrom_bind, runFrom_get, hpath, runFrom_ofExcept, runFrom_modify] at hy
  rw [show runFrom (loadHistory path around.stamp) _ = x from rfl] at hy
  rcases x with ⟨f | _, s₁⟩
  · rw [hy]
    exact ⟨rfl, rfl, rfl, rfl⟩
  · dsimp only at hy
    split at hy
    · rename_i henabled
      obtain ⟨logs, hstart⟩ := Delegate.runFrom_start around.search settings.delegation s₁
      rw [runFrom_bind, runFrom_discard, hstart] at hy
      rw [hy, if_pos henabled]
      exact ⟨rfl, rfl, rfl, rfl⟩
    · rename_i henabled
      rw [hy, if_neg henabled]
      exact ⟨rfl, rfl, rfl, rfl⟩

end Workspace

/-! ## the lines after that -/

namespace Engine

/-- The session after some lines, one after the other. -/
def afterLines (e : Engine) (lines : List Text) (s : Session) : Session :=
  lines.foldl (fun s raw => e.after raw s) s

/-- Whether lines, run one after the other, leave the history file at a path alone. -/
def LeaveHistory (e : Engine) (path : Path) : List Text → Session → Prop
  | [], _ => True
  | raw :: lines, s =>
    (raw ≠ [] → e.LeavesHistory path raw s) ∧ LeaveHistory e path lines (e.after raw s)

end Engine

/-- Lines that leave the history file alone are given to the history, one after the other. -/
theorem Session.Given.afterLines {path : Path} {maxEntries flushEvery : Int}
    {loaded given : List Text} {d : Disk} {settings : Settings} {homes : List (Text × Text)}
    {program : Option Interpreter} {s : Session} {lines : List Text} (hmax : 1 ≤ maxEntries)
    (h : s.Given path maxEntries flushEvery loaded d given)
    (hleave : (Engine.builtIn settings homes program).LeaveHistory path lines s) :
    ((Engine.builtIn settings homes program).afterLines lines s).Given path maxEntries flushEvery
      loaded d (given ++ lines.filter (· ≠ [])) := by
  induction lines generalizing s given with
  | nil => exact (List.append_nil given).symm ▸ h
  | cons raw lines ih =>
    obtain ⟨hraw, hlines⟩ := hleave
    by_cases hnil : raw = []
    · subst hnil
      exact ih h hlines
    · have hafter := ih (h.after hmax hnil (hraw hnil)) hlines
      rw [List.append_assoc] at hafter
      rwa [List.filter_cons_of_pos (by simpa using hnil)]

/-- A session that was given something, and writes it down, has the newest of it in its file. -/
theorem Session.Given.stored_of_flush {path : Path} {maxEntries flushEvery : Int}
    {loaded given : List Text} {d : Disk} {s : Session} (hmax : 1 ≤ maxEntries)
    (h : s.Given path maxEntries flushEvery loaded d given) (hgiven : given ≠ [])
    (hflush : (runFrom (Action.recording History.Recording.flush) s).1 = .ok true) :
    (FileKeeper.new path 1 1).stored
      (runFrom (Action.recording History.Recording.flush) s).2.editor.disk =
        .ok ((loaded ++ given).rtake maxEntries.toNat) := by
  obtain ⟨-, k, deeds, hk, hledger⟩ := h
  have hkeeping : runFrom History.Recording.flush ⟨s.history, s.editor.disk, []⟩ = _ :=
    History.runFrom_keeping (fun entries => (true, entries)) Keeping.flush hk s.editor.disk []
  rw [Action.runFrom_recording, hkeeping] at hflush ⊢
  exact (hledger.stored_of_flush hmax (Prod.ext hflush rfl)).1 hgiven

namespace Workspace

variable {w : Workspace} {settings : Settings} {path backup : Path} {s : Session}
  {bytes : Utf8.Bytes} {f : Fault}

/-- The place of a file that was moved aside can be told if its path closes no tag, and the console
can show the looks that the path asks for. -/
theorem display_movedText {r : Runtime} (h : ¬ Console.ClosesTag backup.text)
    (hlooks : r.unshown.get? (movedText backup) = none) :
    ∃ t, Console.display r (movedText backup) = .ok t :=
  Console.display_marked
    (Console.not_closesTag_between (by decide) h (by decide) (by decide)) hlooks

/-- How a session starts over a history file that is no history, on a disk that lets it be moved. -/
theorem start_of_badHistory (around : Surroundings) (htree : s.editor.disk.IsTree)
    (hwilling : s.editor.disk.IsWilling)
    (hpath : w.historyFile s.editor.disk.homes settings = .ok path)
    (hread : s.editor.disk.readBytes path = .ok bytes)
    (hstored : (FileKeeper.new path 1 1).stored s.editor.disk = .error f)
    (hf : f.isBadHistory = true) (hstamp : '\x00' ∉ around.stamp)
    (hbackup : path.withName? (path.name ++ ".corrupt-".toList ++ around.stamp) = some backup)
    (hfree : s.editor.disk.pathExists backup = .ok false) :
    let k := FileKeeper.new path settings.history.maxEntries settings.history.flushEvery
    let x := runFrom (w.start around settings) s
    x.2.editor.disk.IsTree ∧ x.2.editor.disk.readBytes backup = .ok bytes ∧
    x.2.editor.disk.pathExists path = .ok false ∧
    (x.1 = do
      let _ ← Console.display s.editor.disk.runtime (movedText backup)
      let _ ← Console.display s.editor.disk.runtime (reasonText f)
      return Engine.builtIn settings s.editor.disk.homes
        (if settings.delegation.enabled then some around.interpreter else none)) ∧
    (∀ e, x.1 = .ok e →
      x.2.history = ⟨[], true, .file (k.adopt [] [])⟩ ∧ x.2.historyIndex = 0) := by
  intro k
  let begun : Session := { s with history := .new (.file k) }
  obtain ⟨d', hmove, hkept, hgone, htree', hruntime⟩ :=
    History.runFrom_moveAside_of_free htree hwilling hread hstamp hbackup hfree
  have hload := runFrom_loadHistory_of_moved (s := begun) (k := k) rfl hstored hf hmove hgone
  have hstart := runFrom_start (s := s) around hpath
  rw [show runFrom (loadHistory k.path around.stamp) begun = runFrom (loadHistory path around.stamp)
    { s with history := .new (.file k) } from rfl] at hload
  rw [hruntime] at hload
  dsimp only at hload hstart ⊢
  generalize runFrom (loadHistory path around.stamp) { s with history := .new (.file k) } = y
    at hload hstart
  generalize runFrom (w.start around settings) s = x at hstart ⊢
  obtain ⟨htold, hdisk, hloaded⟩ := hload
  obtain ⟨hresult, heditor, hhistory, hindex⟩ := hstart
  rw [heditor, hdisk, hhistory, hindex]
  refine ⟨htree', hkept, hgone, ?_, fun e he => ?_⟩
  · rw [hresult, htold]
    rw [show begun.editor = s.editor from rfl]
    cases Console.display s.editor.disk.runtime (movedText backup) with
    | error g => rfl
    | ok shown => cases Console.display s.editor.disk.runtime (reasonText f) <;> rfl
  · obtain ⟨⟨⟩, hok, -⟩ := map_eq_ok.1 (hresult.symm.trans he)
    exact hloaded hok

/-- A session that starts over a history file that is no history loses nothing, on a disk that
refuses nothing and has nothing under the name that the file gets.  Under that name it is found with
all its bytes, whatever else comes of it.  The session starts if the console can show the two texts
that tell of it, as it can when neither the path nor the reason closes a tag, and the looks that
they ask for are ones that it can show.  Then the history counts as loaded, is empty, and one is at
its end; loading it again is refused and changes nothing; and after any lines that leave the history
file alone, not all of them empty, and a flush that says that it wrote, the file holds the newest of
the lines that are not empty. -/
theorem corrupt_history_recovered (around : Surroundings) (htree : s.editor.disk.IsTree)
    (hwilling : s.editor.disk.IsWilling)
    (hpath : w.historyFile s.editor.disk.homes settings = .ok path)
    (hread : s.editor.disk.readBytes path = .ok bytes)
    (hstored : (FileKeeper.new path 1 1).stored s.editor.disk = .error f)
    (hf : f.isBadHistory = true) (hmax : 1 ≤ settings.history.maxEntries)
    (hstamp : '\x00' ∉ around.stamp)
    (hbackup : path.withName? (path.name ++ ".corrupt-".toList ++ around.stamp) = some backup)
    (hfree : s.editor.disk.pathExists backup = .ok false) :
    let e := Engine.builtIn settings s.editor.disk.homes
      (if settings.delegation.enabled then some around.interpreter else none)
    let x := runFrom (w.start around settings) s
    x.2.editor.disk.readBytes backup = .ok bytes ∧
    (x.1 = do
      let _ ← Console.display s.editor.disk.runtime (movedText backup)
      let _ ← Console.display s.editor.disk.runtime (reasonText f)
      return e) ∧
    (¬ Console.ClosesTag backup.text → ¬ Console.ClosesTag f.message →
      (∀ t ∈ [movedText backup, reasonText f], s.editor.disk.runtime.unshown.get? t = none) →
      x.1 = .ok e) ∧
    (x.1 = .ok e →
      x.2.history.loaded = true ∧ x.2.history.entries = [] ∧ x.2.historyIndex = 0 ∧
      runFrom Action.load x.2 = (.error .alreadyLoaded, x.2) ∧
      ∀ lines, e.LeaveHistory path lines x.2 → (∃ raw ∈ lines, raw ≠ []) →
        let y := runFrom (Action.recording History.Recording.flush) (e.afterLines lines x.2)
        y.1 = .ok true → (FileKeeper.new path 1 1).stored y.2.editor.disk =
          .ok ((lines.filter (· ≠ [])).rtake settings.history.maxEntries.toNat)) := by
  intro e
  have hstart :=
    start_of_badHistory around htree hwilling hpath hread hstored hf hstamp hbackup hfree
  dsimp only at hstart ⊢
  generalize runFrom (w.start around settings) s = x at hstart ⊢
  obtain ⟨htree', hkept, hgone, hresult, hstarted⟩ := hstart
  refine ⟨hkept, hresult, fun hplace hreason hlooks => ?_, fun hok => ?_⟩
  · obtain ⟨_, hmoved⟩ := display_movedText hplace (hlooks _ (by simp))
    obtain ⟨_, htold⟩ := display_reasonText hreason (hlooks _ (by simp))
    rw [hresult, hmoved, htold]
    rfl
  obtain ⟨hhistory, hindex⟩ := hstarted e hok
  have hloaded : x.2.history.loaded = true := by rw [hhistory]
  refine ⟨hloaded, by rw [hhistory], hindex, Action.runFrom_load_of_loaded hloaded, ?_⟩
  intro lines hleave ⟨raw, hraw, hne⟩ hflush
  have hstored' : (FileKeeper.new path 1 1).stored x.2.editor.disk = .ok [] :=
    FileKeeper.stored_of_not_pathExists hgone
  have hgiven : x.2.Given path settings.history.maxEntries (max 1 settings.history.flushEvery) []
      x.2.editor.disk [] :=
    ⟨hloaded, _, [], by rw [hhistory], Ledger.given_nil htree' hstored'⟩
  have hlines : lines.filter (· ≠ []) ≠ [] :=
    List.ne_nil_of_mem (List.mem_filter.2 ⟨hraw, by simpa using hne⟩)
  exact (hgiven.afterLines hmax hleave).stored_of_flush hmax hlines hflush

/-- A file of a later version is moved aside; of three lines that are run two are kept. -/
theorem corrupt_history_recovered_later :
    let path := Path.ofText "/w/history.json".toList
    let bytes := Utf8.encode "\x7b\"schema_version\": 2\x7d".toList
    let d : Disk := (((⟨[], [], [], [], .standard⟩ : Disk).put ["w".toList] .directory).put
      ["w".toList, "history.json".toList] (.file bytes false))
    let w : Workspace := ⟨Path.ofText "/w".toList⟩
    let settings : Settings := { Settings.standard with history := ⟨"history.json".toList, 2, 2⟩ }
    let around : Surroundings := ⟨fun _ _ d => (.timedOut, d), ⟨[], []⟩, "7".toList⟩
    let s := Session.start ⟨Buffer.ofText "a\nb\nc".toList none, Registers.empty, d⟩
      (.new (.memory []))
    let e := Engine.builtIn settings [] none
    let x := runFrom (w.start around settings) s
    let y := runFrom (Action.recording History.Recording.flush)
      (e.afterLines (["d", "", "p", "y"].map String.toList) x.2)
    (FileKeeper.new path 1 1).stored d = .error (.unsupportedSchema "2".toList) ∧
      x.1 = .ok e ∧
      x.2.editor.disk.readBytes (Path.ofText "/w/history.json.corrupt-7".toList) = .ok bytes ∧
      (FileKeeper.new path 1 1).stored y.2.editor.disk = .ok (["p", "y"].map String.toList) := by
  intro path bytes d w settings around s e x y
  have hx : x = runFrom (w.start around settings) s := rfl
  -- what the start comes to is evaluated only where it is asked for
  clear_value x
  have htree : s.editor.disk.IsTree := by
    refine Disk.isTree_put (Disk.isTree_put (Disk.isTree_empty [] [] .standard) ?_ ?_ _) ?_ ?_ _ <;>
      decide
  have hpath : w.historyFile s.editor.disk.homes settings = .ok path := by decide +kernel
  have hread : s.editor.disk.readBytes path = .ok bytes := by decide +kernel
  have hstored : (FileKeeper.new path 1 1).stored s.editor.disk =
      .error (.unsupportedSchema "2".toList) := by
    decide +kernel
  obtain ⟨hkept, -, hstarts, hrest⟩ := corrupt_history_recovered around htree nofun hpath hread
    hstored rfl (by decide) (by decide) rfl (by decide +kernel)
  rw [← hx] at hkept hstarts hrest
  have hok : x.1 = .ok e := hstarts (by decide +kernel) (by decide +kernel) fun _ _ => rfl
  obtain ⟨-, -, -, -, hlines⟩ := hrest hok
  have hleave : e.LeaveHistory path (["d", "", "p", "y"].map String.toList) x.2 := by
    have hquiet {raw : Text} {s' : Session} (h : (e.wrote? raw s').isNone = true) :
        e.LeavesHistory path raw s' := by
      refine ⟨fun p hp => ?_, fun g hg => by cases (Engine.errand?_eq_away.1 hg).1⟩
      rw [hp] at h
      cases h
    refine ⟨fun _ => hquiet ?_, fun h => absurd rfl h, fun _ => hquiet ?_, fun _ => hquiet ?_,
      trivial⟩ <;>
    · rw [hx]
      decide +kernel
  have hflush : y.1 = .ok true := by
    show (runFrom (Action.recording History.Recording.flush)
      (e.afterLines (["d", "", "p", "y"].map String.toList) x.2)).1 = .ok true
    rw [hx]
    decide +kernel
  exact ⟨hstored, hok, hkept, hlines _ hleave ⟨['d'], by decide, by decide⟩ hflush⟩

/-- A version that ends a tag of the console keeps a session from starting, after its file was moved
aside. -/
theorem corrupt_history_told_badly :
    let bytes := Utf8.encode "\x7b\"schema_version\": \"[/x]\"\x7d".toList
    let d : Disk := (((⟨[], [], [], [], .standard⟩ : Disk).put ["w".toList] .directory).put
      ["w".toList, "history.json".toList] (.file bytes false))
    let w : Workspace := ⟨Path.ofText "/w".toList⟩
    let around : Surroundings := ⟨fun _ _ d => (.timedOut, d), ⟨[], []⟩, "7".toList⟩
    let s := Session.start ⟨Buffer.ofText [] none, Registers.empty, d⟩ (.new (.memory []))
    let x := runFrom (w.start around .standard) s
    (∃ f, (FileKeeper.new (Path.ofText "/w/history.json".toList) 1 1).stored d = .error f ∧
        f.isBadHistory = true) ∧
      (∀ e, x.1 ≠ .ok e) ∧
      x.2.editor.disk.readBytes (Path.ofText "/w/history.json.corrupt-7".toList) = .ok bytes := by
  intro bytes d w around s x
  have hx : x = runFrom (w.start around .standard) s := rfl
  clear_value x
  have hstored : (FileKeeper.new (Path.ofText "/w/history.json".toList) 1 1).stored d =
      .error (.unsupportedSchema "'[/x]'".toList) := by
    decide +kernel
  have hfails : x.1.toBool = false := by
    rw [hx]
    decide +kernel
  refine ⟨⟨_, hstored, rfl⟩, fun e he => ?_, ?_⟩
  · rw [he] at hfails
    cases hfails
  · rw [hx]
    decide +kernel

end Workspace

end ExMode
