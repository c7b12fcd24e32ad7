import ExMode.Proofs.Disk
import Mathlib.Data.List.Induction

/-!
# ExMode.Proofs.Tree

Disks that are trees: whatever lies anywhere, lies in a directory.  Making
directories, writing files and moving a file keep a disk a tree.

* `AddsDirectories` — all that making directories does to a disk;
* `at?_relocate` — what lies where after a file was moved;
* `locate_sibling_ne` — two names in one directory are two places;
* `writeBeside_cases` — a file that is replaced by way of a sibling is replaced or
  spared.
-/

namespace ExMode

namespace Keyed

variable {κ ν : Type} [DecidableEq κ]

theorem get?_append (k : κ) (t u : Keyed κ ν) : get? k (t ++ u) = (get? k t).or (get? k u) := by
  induction t with
  | nil => rfl
  | cons x xs ih =>
    by_cases h : x.1 = k
    · simp [get?, h]
    · simp [get?, h, ih]

theorem get?_filter (q : κ → Bool) (k : κ) (t : Keyed κ ν) :
    get? k (t.filter fun x => q x.1) = if q k then get? k t else none := by
  induction t with
  | nil => simp
  | cons x xs ih =>
    by_cases h : x.1 = k
    · cases hq : q k <;> simp [get?, h, hq, ih]
    · cases hq : q x.1 <;> simp [get?, h, hq, ih]

end Keyed

namespace Disk

variable {d d' : Disk} {loc l : Location} {e : Entry} {p : Path}

/-- Everything lies in a directory, and the working directory is one. -/
structure IsTree (d : Disk) : Prop where
  here : d.at? d.here = some .directory
  parent : ∀ loc e, d.at? loc = some e → d.at? loc.dropLast = some .directory

theorem isTree_empty (homes : List (Text × Text)) (refusals : List (Option OsCause))
    (runtime : Runtime) : IsTree ⟨[], [], homes, refusals, runtime⟩ where
  here := rfl
  parent := by
    intro loc e hloc
    cases loc with
    | nil => rfl
    | cons part rest => cases hloc

/-! ## where paths lead -/

/-- Everything above a place where something lies is a directory. -/
theorem IsTree.directory_of_prefix (h : d.IsTree) (hl : d.at? l = some e) (hp : loc <+: l)
    (hne : loc ≠ l) : d.at? loc = some .directory := by
  induction l using List.reverseRecOn generalizing e with
  | nil => exact absurd (List.prefix_nil.1 hp) hne
  | append_singleton l part ih =>
    have hparent := h.parent _ _ hl
    rw [List.dropLast_concat] at hparent
    obtain hp | hp := List.prefix_concat_iff.1 hp
    · exact absurd hp hne
    · by_cases hloc : loc = l
      · rwa [hloc]
      · exact ih hparent hp hloc

/-- Below a file there is nothing. -/
theorem IsTree.at?_append_eq_none (h : d.IsTree) (hloc : d.at? loc ≠ some .directory)
    {rest : Location} (hrest : rest ≠ []) : d.at? (loc ++ rest) = none := by
  cases hl : d.at? (loc ++ rest) with
  | none => rfl
  | some e =>
    have hdir := h.directory_of_prefix hl (List.prefix_append loc rest) (by simpa using hrest)
    exact absurd hdir hloc

/-- Two names lead from one directory to two places. -/
theorem child_ne_child {a b : Text} (h : a ≠ b) : child loc a ≠ child loc b := by
  have hlen (part : Text) : loc.dropLast ≠ loc ++ [part] := by
    intro heq
    have := congrArg List.length heq
    simp at this
  unfold child
  by_cases ha : a = ['.', '.'] <;> by_cases hb : b = ['.', '.']
  · exact absurd (ha.trans hb.symm) h
  · rw [if_pos ha, if_neg hb]
    exact hlen b
  · rw [if_neg ha, if_pos hb]
    exact (hlen a).symm
  · rw [if_neg ha, if_neg hb]
    simpa using h

/-- Where a path leads to no directory, it leads into one. -/
theorem IsTree.parent_of_follow (h : d.IsTree) {parts : List Text}
    (hloc : d.at? loc = some .directory) (hf : d.follow loc parts = .ok l)
    (hl : d.at? l ≠ some .directory) : d.at? l.dropLast = some .directory := by
  induction parts generalizing loc with
  | nil =>
    cases hf
    exact absurd hloc hl
  | cons part rest ih =>
    cases rest with
    | nil =>
      rw [follow_singleton] at hf
      split at hf
      · cases hf
      · cases hf
        unfold child at hl ⊢
        split at hl
        · exact absurd (h.parent _ _ hloc) hl
        · rename_i hdots
          rwa [if_neg hdots, List.dropLast_concat]
    | cons q rest =>
      rw [follow_cons_cons] at hf
      split at hf
      · cases hf
      split at hf
      · cases hf
      · cases hf
      · rename_i hdir
        exact ih hdir hf

theorem IsTree.parent_of_locate (h : d.IsTree) (hp : d.locate p = .ok l)
    (hl : d.at? l ≠ some .directory) : d.at? l.dropLast = some .directory := by
  unfold locate at hp
  split at hp
  · cases hp
  · refine h.parent_of_follow ?_ hp hl
    split
    · rfl
    · exact h.here

/-- Paths that differ in their last part lead into one directory. -/
theorem follow_append_singleton_ne {parts : List Text} {a b : Text} {m : Location} (hab : a ≠ b)
    (ha : d.follow loc (parts ++ [a]) = .ok l) (hb : d.follow loc (parts ++ [b]) = .ok m) :
    l ≠ m := by
  induction parts generalizing loc with
  | nil =>
    rw [List.nil_append, follow_singleton] at ha hb
    split at ha <;> split at hb <;> cases ha <;> cases hb
    exact child_ne_child hab
  | cons part rest ih =>
    obtain ⟨q, qs, hqs⟩ := List.exists_cons_of_ne_nil (l := rest ++ [a]) (by simp)
    obtain ⟨r, rs, hrs⟩ := List.exists_cons_of_ne_nil (l := rest ++ [b]) (by simp)
    rw [List.cons_append, hqs, follow_cons_cons, ← hqs] at ha
    rw [List.cons_append, hrs, follow_cons_cons, ← hrs] at hb
    split at ha
    · cases ha
    rename_i hlen
    rw [if_neg hlen] at hb
    split at ha
    · cases ha
    · cases ha
    · rename_i hdir
      rw [hdir] at hb
      exact ih ha hb

/-- A path and its sibling of another name lead to two places. -/
theorem locate_sibling_ne {q : Path} {n : Text} {m : Location} (hq : p.withName? n = some q)
    (hn : p.name ≠ n) (hp : d.locate p = .ok l) (hm : d.locate q = .ok m) : l ≠ m := by
  unfold Path.withName? at hq
  split at hq
  · cases hq
  rename_i hparts
  cases hq
  have hlast : p.parts = p.parts.dropLast ++ [p.name] := by
    rw [Path.name, List.getLast?_eq_some_getLast hparts, Option.getD_some,
      List.dropLast_concat_getLast]
  unfold locate at hp hm
  split at hp
  · cases hp
  split at hm
  · cases hm
  rw [hlast] at hp
  exact follow_append_singleton_ne hn hp hm

/-! ## making directories and files -/

theorem isTree_spend (h : d.IsTree) : d.spend.IsTree := ⟨h.here, h.parent⟩

/-- In a directory, something other than a directory can be replaced. -/
theorem isTree_put (h : d.IsTree) (hloc : d.at? loc ≠ some .directory)
    (hparent : d.at? loc.dropLast = some .directory) (e : Entry) : (d.put loc e).IsTree where
  here := (opens_put hloc e).directory _ h.here
  parent := by
    intro l e' hl
    apply (opens_put hloc e).directory
    by_cases hne : l = loc
    · rwa [hne]
    · rw [at?_put_of_ne d hne] at hl
      exact h.parent l e' hl

/-- What making directories does: it puts directories where nothing is. -/
structure AddsDirectories (d d' : Disk) : Prop where
  here_eq : d'.here = d.here
  at?_eq : ∀ loc, d'.at? loc = d.at? loc ∨ (d.at? loc = none ∧ d'.at? loc = some .directory)
  isTree : d'.IsTree

theorem AddsDirectories.opens (h : d.AddsDirectories d') : d.Opens d' where
  here_eq := h.here_eq
  directory := by
    intro loc hloc
    obtain heq | ⟨-, hdir⟩ := h.at?_eq loc
    · rw [heq, hloc]
    · exact hdir

theorem AddsDirectories.at?_file_iff (h : d.AddsDirectories d') (loc : Location)
    (bytes : Utf8.Bytes) (x : Bool) :
    d'.at? loc = some (.file bytes x) ↔ d.at? loc = some (.file bytes x) := by
  obtain heq | ⟨hnone, hdir⟩ := h.at?_eq loc
  · rw [heq]
  · rw [hnone, hdir]
    simp

theorem AddsDirectories.spares (h : d.AddsDirectories d') (p : Path) : d.Spares p d' :=
  h.opens.spares fun loc bytes x _ => h.at?_file_iff loc bytes x

/-- What is spared after directories were added was spared all the time. -/
theorem AddsDirectories.spares_of_spares {d'' : Disk} (h : d.AddsDirectories d')
    (hspared : d'.Spares p d'') : d.Spares p d'' where
  read := fun bytes hread => hspared.read bytes ((h.spares p).read bytes hread)
  file := fun loc bytes x hloc hat =>
    (h.at?_file_iff loc bytes x).1 (hspared.file loc bytes x hloc hat)

theorem AddsDirectories.put (h : d.AddsDirectories d') (hloc : d'.at? loc = none)
    (hparent : d'.at? loc.dropLast = some .directory) :
    d.AddsDirectories (d'.put loc .directory) where
  here_eq := h.here_eq
  at?_eq := by
    intro l
    by_cases hne : l = loc
    · subst hne
      right
      have hnil : l ≠ [] := by
        rintro rfl
        cases hloc
      obtain heq | ⟨-, hdir⟩ := h.at?_eq l
      · exact ⟨heq ▸ hloc, at?_put_self d' hnil _⟩
      · rw [hloc] at hdir
        cases hdir
    · rw [at?_put_of_ne d' hne]
      exact h.at?_eq l
  isTree := isTree_put h.isTree (by simp [hloc]) hparent _

theorem keeps_makeDirectory (d : Disk) (p : Path) :
    Keeps (AddsDirectories d) (makeDirectory p) := by
  intro d' h
  unfold makeDirectory
  cases p.hasNul with
  | true => exact h
  | false =>
    have hspend : d.AddsDirectories d'.spend := ⟨h.here_eq, h.at?_eq, isTree_spend h.isTree⟩
    simp only [Bool.false_eq_true, if_false, runFrom_bind, runFrom_get]
    rcases attempt_cases p none d' with hattempt | ⟨e, hattempt⟩ <;> rw [hattempt]
    · dsimp only
      cases hl : d'.spend.locate p with
      | error cause => exact hspend
      | ok loc =>
        dsimp only
        cases ha : d'.spend.at? loc with
        | some e => exact hspend
        | none =>
          exact hspend.put ha (hspend.isTree.parent_of_locate hl (by simp [ha]))
    · exact hspend

theorem addsDirectories_ensureDirectories (h : d.IsTree) (p : Path) :
    d.AddsDirectories (runFrom (ensureDirectories p) d).2 :=
  keeps_ensureDirectories (keeps_makeDirectory d) p d ⟨rfl, fun _ => Or.inl rfl, h⟩

/-! ## moving a file -/

/-- The entries at and below `source`, seen from `target`. -/
def movedEntries (d : Disk) (source target : Location) : Keyed Location Entry :=
  d.entries.filterMap fun x =>
    if source.isPrefixOf x.1 then some (target ++ x.1.drop source.length, x.2) else none

theorem get?_movedEntries_append (d : Disk) (source target rest : Location) :
    (d.movedEntries source target).get? (target ++ rest) = d.entries.get? (source ++ rest) := by
  unfold movedEntries
  induction d.entries with
  | nil => rfl
  | cons x xs ih =>
    rw [List.filterMap_cons]
    by_cases hx : source.isPrefixOf x.1
    · obtain ⟨below, hbelow⟩ := List.isPrefixOf_iff_prefix.1 hx
      rw [if_pos hx, ← hbelow]
      simp only [List.drop_left, Keyed.get?, List.append_cancel_left_eq, ih, ← hbelow]
    · have hne : x.1 ≠ source ++ rest := by
        intro heq
        exact hx (List.isPrefixOf_iff_prefix.2 ⟨rest, heq.symm⟩)
      rw [if_neg hx]
      simp only [Keyed.get?, hne, if_false, ih]

theorem get?_movedEntries_eq_none (d : Disk) (source : Location) {target : Location}
    (h : ¬ target <+: l) : (d.movedEntries source target).get? l = none := by
  unfold movedEntries
  induction d.entries with
  | nil => rfl
  | cons x xs ih =>
    rw [List.filterMap_cons]
    by_cases hx : source.isPrefixOf x.1
    · have hne : target ++ x.1.drop source.length ≠ l := by
        rintro rfl
        exact h (List.prefix_append _ _)
      rw [if_pos hx]
      simp only [Keyed.get?, hne, if_false, ih]
    · rw [if_neg hx]
      exact ih

theorem at?_of_ne_nil (hl : l ≠ []) : d.at? l = d.entries.get? l := if_neg hl

theorem at?_relocate_of_ne_nil (d : Disk) (source target : Location) (hl : l ≠ []) :
    (d.relocate source target).at? l =
      (if source <+: l ∨ target <+: l then none else d.at? l).or
        ((d.movedEntries source target).get? l) := by
  have hkept : ((d.erase target).erase source).entries.get? l =
      if source <+: l ∨ target <+: l then none else d.at? l := by
    rw [erase, erase, Keyed.get?_filter fun k => ! source.isPrefixOf k,
      Keyed.get?_filter fun k => ! target.isPrefixOf k, at?_of_ne_nil hl]
    simp only [Bool.not_eq_true', ← Bool.not_eq_true, List.isPrefixOf_iff_prefix]
    by_cases hsource : source <+: l <;> by_cases htarget : target <+: l <;>
      simp [hsource, htarget]
  rw [at?_of_ne_nil hl, relocate, Keyed.get?_append, hkept]
  rfl

/-- On a tree, moving a file to another place that is no directory changes these two places only. -/
theorem at?_relocate (h : d.IsTree) {s t : Location} {bytes : Utf8.Bytes} {x : Bool}
    (hs : d.at? s = some (.file bytes x)) (ht : d.at? t ≠ some .directory) (l : Location) :
    (d.relocate s t).at? l =
      if l = t then some (.file bytes x) else if l = s then none else d.at? l := by
  have hsdir : d.at? s ≠ some .directory := by simp [hs]
  have hsnil := ne_nil_of_at? hsdir
  have htnil := ne_nil_of_at? ht
  by_cases hl : l = []
  · rw [hl, if_neg htnil.symm, if_neg hsnil.symm]
    rfl
  rw [at?_relocate_of_ne_nil d s t hl]
  by_cases htarget : t <+: l
  · -- what is there now was at or below the file
    obtain ⟨rest, rfl⟩ := htarget
    rw [if_pos (Or.inr (List.prefix_append t rest)), Option.none_or, get?_movedEntries_append,
      ← at?_of_ne_nil (by simp [hsnil])]
    by_cases hrest : rest = []
    · simp [hrest, hs]
    · rw [h.at?_append_eq_none hsdir hrest, h.at?_append_eq_none ht hrest,
        if_neg (by simpa using hrest)]
      split <;> rfl
  · have hne : l ≠ t := by
      rintro rfl
      exact htarget List.prefix_rfl
    rw [get?_movedEntries_eq_none d s htarget, Option.or_none, if_neg hne]
    by_cases hsource : s <+: l
    · obtain ⟨rest, rfl⟩ := hsource
      rw [if_pos (Or.inl (List.prefix_append s rest))]
      by_cases hrest : rest = []
      · simp [hrest]
      · rw [h.at?_append_eq_none hsdir hrest]
        split <;> rfl
    · have hne' : l ≠ s := by
        rintro rfl
        exact hsource List.prefix_rfl
      rw [if_neg (by simp [hsource, htarget]), if_neg hne']

theorem opens_relocate (h : d.IsTree) {s t : Location} {bytes : Utf8.Bytes} {x : Bool}
    (hs : d.at? s = some (.file bytes x)) (ht : d.at? t ≠ some .directory) :
    d.Opens (d.relocate s t) where
  here_eq := rfl
  directory := by
    intro l hl
    have hlt : l ≠ t := by
      rintro rfl
      exact ht hl
    have hls : l ≠ s := by
      rintro rfl
      simp [hs] at hl
    rw [at?_relocate h hs ht, if_neg hlt, if_neg hls, hl]

theorem isTree_relocate (h : d.IsTree) {s t : Location} {bytes : Utf8.Bytes} {x : Bool}
    (hs : d.at? s = some (.file bytes x)) (ht : d.at? t ≠ some .directory)
    (hparent : d.at? t.dropLast = some .directory) : (d.relocate s t).IsTree where
  here := (opens_relocate h hs ht).directory _ h.here
  parent := by
    intro l e hl
    apply (opens_relocate h hs ht).directory
    rw [at?_relocate h hs ht] at hl
    split at hl
    · rename_i heq
      rwa [heq]
    · split at hl
      · cases hl
      · exact h.parent l e hl

/-- Moving a file: it is refused and at most a refusal to come was used up, or the file lies where
the second path leads. -/
theorem rename_cases {source : Path} (target : Path) {s : Location} {bytes : Utf8.Bytes}
    {x : Bool} (hsource : d.locate source = .ok s)
    (hs : d.at? s = some (.file bytes x)) :
    (∃ f d', runFrom (rename source target) d = (.error f, d') ∧ (d' = d ∨ d' = d.spend)) ∨
    ∃ t, target.hasNul = false ∧ d.locate target = .ok t ∧ d.at? t ≠ some .directory ∧
      runFrom (rename source target) d =
        (.ok (), if s = t then d.spend else d.spend.relocate s t) := by
  unfold rename
  cases hnul : (source.hasNul || target.hasNul) with
  | true => exact Or.inl ⟨_, _, rfl, Or.inl rfl⟩
  | false =>
    rw [Bool.or_eq_false_iff] at hnul
    simp only [Bool.false_eq_true, if_false, runFrom_bind, runFrom_get]
    rcases attempt_cases source (some target) d with hattempt | ⟨e, hattempt⟩ <;> rw [hattempt]
    · dsimp only
      rw [locate_spend, locate_spend, hsource]
      cases ht : d.locate target with
      | error cause => exact Or.inl ⟨_, _, rfl, Or.inr rfl⟩
      | ok t =>
        dsimp only
        rw [at?_spend, at?_spend, hs]
        rcases hat : d.at? t with _ | _ | ⟨old, y⟩
        · refine Or.inr ⟨t, hnul.2, rfl, by simp [hat], ?_⟩
          dsimp only
          split <;> rfl
        · exact Or.inl ⟨_, _, rfl, Or.inr rfl⟩
        · refine Or.inr ⟨t, hnul.2, rfl, by simp [hat], ?_⟩
          dsimp only
          split <;> rfl
    · exact Or.inl ⟨_, _, rfl, Or.inr rfl⟩

/-! ## replacing a file by way of a sibling -/

section

variable {path temporary : Path} {n : Text} {bytes : Utf8.Bytes}

/-- Writing a sibling of a file spares the file. -/
theorem writeBytes_sibling_cases (h : d.IsTree) (htemporary : path.withName? n = some temporary)
    (hn : path.name ≠ n) (bytes : Utf8.Bytes) :
    (∃ f d', runFrom (writeBytes temporary bytes) d = (.error f, d') ∧ d'.IsTree ∧
      d.Spares path d') ∨
    ∃ d' s x, runFrom (writeBytes temporary bytes) d = (.ok (), d') ∧ d'.IsTree ∧
      d.Spares path d' ∧ d'.locate temporary = .ok s ∧ d'.at? s = some (.file bytes x) := by
  have htree := isTree_spend h
  obtain ⟨-, hwrite⟩ | ⟨e, hwrite⟩ | ⟨s, x, -, hs, hsdir, hwrite⟩ :=
    writeBytes_cases temporary bytes d
  · exact Or.inl ⟨_, d, hwrite, h, .refl d path⟩
  · exact Or.inl ⟨_, d.spend, hwrite, htree, (Spares.refl d path).spend⟩
  · have hdir : d.spend.at? s ≠ some .directory := hsdir
    have hopens := (opens_spend d).trans (opens_put hdir (.file bytes x))
    have hlocate := hopens.locate hs
    refine Or.inr ⟨_, s, x, hwrite, isTree_put htree hdir (h.parent_of_locate hs hsdir) _, ?_,
      hlocate, at?_put_self d.spend (ne_nil_of_at? hdir) _⟩
    refine hopens.spares fun loc bytes' y hloc => ?_
    -- the two paths lead to two places, and only the sibling's was written to
    rw [at?_put_of_ne d.spend (locate_sibling_ne htemporary hn hloc hlocate), at?_spend]

/-- Moving a sibling over a file: it is refused and both stay, or the file holds what the sibling
held. -/
theorem rename_sibling_cases (h : d.IsTree) (htemporary : path.withName? n = some temporary)
    (hn : path.name ≠ n) {s : Location} {x : Bool} (hs : d.locate temporary = .ok s)
    (hat : d.at? s = some (.file bytes x)) :
    (∃ f d', runFrom (rename temporary path) d = (.error f, d') ∧ (d' = d ∨ d' = d.spend)) ∨
    ∃ d', runFrom (rename temporary path) d = (.ok (), d') ∧ d'.IsTree ∧
      d'.readBytes path = .ok bytes := by
  have htree := isTree_spend h
  obtain hrefused | ⟨t, hnul, ht, htdir, hrename⟩ := rename_cases path hs hat
  · exact Or.inl hrefused
  · rw [if_neg (locate_sibling_ne htemporary hn ht hs).symm] at hrename
    refine Or.inr ⟨_, hrename, isTree_relocate htree hat htdir (h.parent_of_locate ht htdir), ?_⟩
    refine readBytes_eq_ok.2 ⟨hnul, t, x, ?_, ?_⟩
    · exact (opens_relocate htree hat htdir).locate ((locate_spend d path).trans ht)
    · rw [at?_relocate htree hat htdir, if_pos rfl]

/-- Writing a sibling and moving it over a file: as long as that fails the file is spared, and once
it succeeds the file holds what was written. -/
theorem writeBeside_cases (h : d.IsTree) (htemporary : path.withName? n = some temporary)
    (hn : path.name ≠ n) (bytes : Utf8.Bytes) :
    let act : OnDisk Unit := do
      writeBytes temporary bytes
      rename temporary path
    (∃ f d', runFrom act d = (.error f, d') ∧ d'.IsTree ∧ d.Spares path d') ∨
    ∃ d', runFrom act d = (.ok (), d') ∧ d'.IsTree ∧ d'.readBytes path = .ok bytes := by
  intro act
  have hact : runFrom act d = _ := runFrom_bind _ _ d
  obtain ⟨f, d', hwrite, htree, hspared⟩ | ⟨d', s, x, hwrite, htree, hspared, hs, hat⟩ :=
    writeBytes_sibling_cases h htemporary hn bytes <;> rw [hwrite] at hact
  · exact Or.inl ⟨f, d', hact, htree, hspared⟩
  · obtain ⟨f, d'', hrename, hd''⟩ | ⟨d'', hrename, htree', hread⟩ :=
      rename_sibling_cases htree htemporary hn hs hat
    · refine Or.inl ⟨f, d'', hact.trans hrename, ?_⟩
      obtain rfl | rfl := hd''
      · exact ⟨htree, hspared⟩
      · exact ⟨isTree_spend htree, hspared.spend⟩
    · exact Or.inr ⟨d'', hact.trans hrename, htree', hread⟩

end

end Disk

end ExMode
