import ExMode.Proofs.HistoryReload

/-!
# ExMode.Proofs.HistorySaved

What is flushed to a history file is loaded from it again.

A flush that says it wrote did write all entries, as long as there are no more of them
than are kept; any keeper that comes to the file afterwards is given these entries, whatever
characters they are made of (`ofText_text`, by way of `FileKeeper.stored_of_readBytes`).
A flush does write when nothing stands in its way: `Disk.HasRoom` says what that takes.

* `runFrom_replaceFile_of_hasRoom` — a file is replaced when there is room for it;
* `load_of_flush` — the entries of a flush are the entries of the next load.
-/

namespace ExMode

namespace Disk

variable {d : Disk} {p path temporary : Path}

/-! ## disks that take what is written -/

/-- Whether the device will refuse nothing. -/
def IsWilling (d : Disk) : Prop := ∀ r ∈ d.refusals, r = none

/-- Whether a file can be at a path. -/
def Takes (d : Disk) (p : Path) : Prop :=
  p.hasNul = false ∧ ∃ loc, d.locate p = .ok loc ∧ d.at? loc ≠ some .directory

/-- Whether nothing stands in the way of replacing the file at `path` by way of `temporary`. -/
structure HasRoom (d : Disk) (path temporary : Path) : Prop where
  willing : d.IsWilling
  parent : d.isDirectory path.parent = .ok true
  path : d.Takes path
  temporary : d.Takes temporary

theorem IsWilling.spend (h : d.IsWilling) : d.spend.IsWilling :=
  fun r hr => h r (List.mem_of_mem_tail hr)

theorem IsWilling.put (h : d.IsWilling) (loc : Location) (e : Entry) : (d.put loc e).IsWilling := h

theorem IsWilling.runFrom_attempt (h : d.IsWilling) (p : Path) (target : Option Path) :
    runFrom (attempt p target) d = (.ok (), d.spend) := by
  unfold attempt Disk.spend
  simp only [runFrom_bind, runFrom_get]
  rcases hr : d.refusals with _ | ⟨r, rs⟩
  · have : { d with refusals := [] } = d := by rw [← hr]
    rw [List.tail_nil, this]
    rfl
  · have hnone : r = none := h r (by rw [hr]; exact List.mem_cons_self)
    rw [hnone]
    rfl

theorem find?_spend (d : Disk) (p : Path) : d.spend.find? p = d.find? p := by
  unfold find? stat
  rw [locate_spend]
  rfl

/-- A directory that is there need not be made. -/
theorem IsWilling.runFrom_ensureDirectories (h : d.IsWilling) (hdir : d.isDirectory p = .ok true) :
    runFrom (ensureDirectories p) d = (.ok (), d.spend) := by
  obtain ⟨hnul, loc, hloc, hat⟩ := isDirectory_eq_true.1 hdir
  have hmake : runFrom (makeDirectory p) d =
      (.error (.os ⟨.fileExists, p.text, none⟩), d.spend) := by
    unfold makeDirectory
    simp only [hnul, Bool.false_eq_true, if_false, runFrom_bind, h.runFrom_attempt, runFrom_get,
      locate_spend, hloc, at?_spend, hat]
    rfl
  have hstill : d.spend.isDirectory p = .ok true := by
    unfold isDirectory
    rw [find?_spend]
    exact hdir
  have helse (above : OnDisk Unit) :
      runFrom (makeDirectoryElse p above) d = (.ok (), d.spend) := by
    unfold makeDirectoryElse
    rw [runFrom_tryCatch, hmake]
    simp only [runFrom_bind, runFrom_get, hstill]
    rfl
  unfold ensureDirectories
  simp only [runFrom_bind, runFrom_get]
  cases d.runtime.nesting with
  | zero => exact helse _
  | succ room => exact helse _

theorem IsWilling.runFrom_writeBytes (h : d.IsWilling) (hp : d.Takes p) (bytes : Utf8.Bytes) :
    ∃ loc x, d.locate p = .ok loc ∧ d.at? loc ≠ some .directory ∧
      runFrom (writeBytes p bytes) d = (.ok (), d.spend.put loc (.file bytes x)) := by
  obtain ⟨hnul, loc, hloc, hat⟩ := hp
  unfold writeBytes
  simp only [hnul, Bool.false_eq_true, if_false, runFrom_bind, h.runFrom_attempt, runFrom_get,
    locate_spend, hloc, at?_spend]
  rcases hentry : d.at? loc with _ | _ | ⟨old, x⟩
  · exact ⟨loc, false, rfl, by simp [hentry], rfl⟩
  · exact absurd hentry hat
  · exact ⟨loc, x, rfl, by simp [hentry], rfl⟩

theorem IsWilling.runFrom_rename (h : d.IsWilling) {source target : Path}
    (hsource : source.hasNul = false) {s : Location} {bytes : Utf8.Bytes} {x : Bool}
    (hs : d.locate source = .ok s) (hat : d.at? s = some (.file bytes x)) (ht : d.Takes target) :
    ∃ d', runFrom (rename source target) d = (.ok (), d') := by
  obtain ⟨htarget, t, ht, htdir⟩ := ht
  unfold rename
  simp only [hsource, htarget, Bool.or_self, Bool.false_eq_true, if_false, runFrom_bind,
    h.runFrom_attempt, runFrom_get, locate_spend, hs, ht, at?_spend, hat]
  rcases hentry : d.at? t with _ | _ | ⟨old, y⟩
  · dsimp only
    split <;> exact ⟨_, rfl⟩
  · exact absurd hentry htdir
  · dsimp only
    split <;> exact ⟨_, rfl⟩

/-- The file at a path is replaced when there is room for it. -/
theorem runFrom_replaceFile_of_hasRoom (h : d.HasRoom path temporary) (entries : List Text) :
    ∃ d', runFrom (History.Keeping.replaceFile path temporary entries) d = (.ok (), d') := by
  have hwilling := h.willing.spend
  have htaken {p : Path} (hp : d.Takes p) : d.spend.Takes p := by
    unfold Takes
    rw [locate_spend]
    exact hp
  obtain ⟨loc, x, hloc, hdir, hwrite⟩ := hwilling.runFrom_writeBytes (htaken h.temporary)
    (Utf8.encode (History.text entries))
  have hopens :
      d.spend.Opens (d.spend.spend.put loc (.file (Utf8.encode (History.text entries)) x)) :=
    (opens_spend d.spend).trans (opens_put (d := d.spend.spend) hdir _)
  -- the new file may be the only entry that is there, so it is no directory where the path leads
  have hpath :
      (d.spend.spend.put loc (.file (Utf8.encode (History.text entries)) x)).Takes path := by
    obtain ⟨hnul, t, ht, htdir⟩ := h.path
    refine ⟨hnul, t, hopens.locate ((locate_spend d path).trans ht), ?_⟩
    by_cases heq : t = loc
    · rw [heq, at?_put_self _ (ne_nil_of_at? hdir)]
      simp
    · rwa [at?_put_of_ne _ heq]
  obtain ⟨d', hrename⟩ := (hwilling.spend.put loc _).runFrom_rename h.temporary.1
    (hopens.locate hloc) (at?_put_self _ (ne_nil_of_at? hdir) _) hpath
  refine ⟨d', ?_⟩
  unfold History.Keeping.replaceFile
  simp only [runFrom_bind, h.willing.runFrom_ensureDirectories h.parent]
  rw [show runFrom (writeText temporary (History.text entries)) d.spend = _ from hwrite]
  exact hrename

end Disk

namespace History

open Disk

/-- Whether nothing stands in the way of a keeper's writing. -/
def FileKeeper.HasRoom (k : FileKeeper) (d : Disk) : Prop :=
  ∃ temporary, k.temporary? = some temporary ∧ d.HasRoom k.path temporary

namespace FileKeeper

theorem bounded_eq_self {k : FileKeeper} (h : (k.entries.length : Int) ≤ k.maxEntries) :
    k.bounded = k := if_neg (by omega)

theorem runFrom_write_of_hasRoom {k : FileKeeper} {d : Disk} (h : k.HasRoom d) :
    ∃ d', runFrom k.write d = (.ok (), d') := by
  obtain ⟨temporary, htemporary, hroom⟩ := h
  unfold write
  rw [htemporary]
  exact runFrom_replaceFile_of_hasRoom hroom k.entries

end FileKeeper

namespace Keeping

/-- Entries that were flushed are loaded again.  When a keeper that has something to write flushes
no more entries than it is to keep, and the flush says that it wrote, then the file holds the
written form of these entries, and any new keeper of the file is given exactly them and has nothing
to write.  And the flush does write them when nothing stands in its way. -/
theorem load_of_flush {d : Disk} (htree : d.IsTree) {k : FileKeeper} (hloaded : k.loaded = true)
    (hpending : k.pending ≠ 0) (hfits : (k.entries.length : Int) ≤ k.maxEntries)
    (log : List LogLine) :
    let x := runFrom flush ⟨k, d, log⟩
    (x.1 = .ok true →
      x.2.disk.readText k.path = .ok (text k.entries) ∧
      ∀ maxEntries flushEvery : Int,
        let fresh : FileKeeper := .new k.path maxEntries flushEvery
        runFrom load { x.2 with keeper := fresh } =
          (.ok k.entries, { x.2 with keeper := fresh.adopt k.entries [] })) ∧
    (k.HasRoom d → x.1 = .ok true) := by
  intro x
  have hflush := runFrom_flush (s := ⟨k, d, log⟩) hloaded hpending
  rw [FileKeeper.bounded_eq_self hfits] at hflush
  refine ⟨fun hwrote => ?_, fun hroom => ?_⟩
  · obtain ⟨f, d', hw, -⟩ | ⟨d', hw, -, hread⟩ := k.write_cases htree
    · rw [show x = _ from hflush, hw] at hwrote
      cases f <;> cases hwrote
    · have hx : x = (.ok true, ⟨{ k with pending := 0 }, d', log⟩) := by
        rw [show x = _ from hflush, hw]
      rw [hx]
      refine ⟨?_, fun maxEntries flushEvery => ?_⟩
      · simp [readText, hread, Utf8.decode_encode, unifyNewlines_text, bind, Except.bind]
      · have hstored : (FileKeeper.new k.path maxEntries flushEvery).stored d' = .ok k.entries :=
          FileKeeper.stored_of_readBytes hread
        dsimp only
        rw [runFrom_load]
        dsimp only
        rw [hstored]
        rfl
  · obtain ⟨d', hw⟩ := FileKeeper.runFrom_write_of_hasRoom hroom
    rw [show x = _ from hflush, hw]

/-- Quotes, backslashes, control characters, line separators and the empty line come back. -/
theorem load_of_flush_controls :
    let d : Disk := ⟨[], [], [], [], .standard⟩
    let path := Path.ofText "/h".toList
    let entries := ["\"\\\x00\x1f\r\n\t\x7f\u0085\u2028é".toList, []]
    let x := runFrom flush ⟨⟨path, 2, 1, entries, 1, true⟩, d, []⟩
    x.1 = .ok true ∧
      (runFrom load { x.2 with keeper := .new path 50 1 }).1 = .ok entries := by
  intro d path entries x
  have hroom : FileKeeper.HasRoom ⟨path, 2, 1, entries, 1, true⟩ d :=
    ⟨Path.ofText "/h.tmp".toList, rfl, nofun, rfl, ⟨rfl, [['h']], rfl, by decide⟩,
      ⟨rfl, ["h.tmp".toList], rfl, by decide⟩⟩
  obtain ⟨hloads, hwrites⟩ := load_of_flush (isTree_empty [] [] .standard)
    (k := ⟨path, 2, 1, entries, 1, true⟩) rfl (by decide) (by decide) []
  obtain ⟨-, hload⟩ := hloads (hwrites hroom)
  exact ⟨hwrites hroom, congrArg Prod.fst (hload 50 1)⟩

end Keeping

end History

end ExMode
