import ExMode.Proofs.Tree
import Mathlib.Data.List.Nodup

/-!
# ExMode.Proofs.Directory

What lies in a directory.  Where every location is there once, under names that a file
system takes (`Disk.IsNamed`), the list of a directory has each of its entries once, and
asking about a name in it tells what lies there.

* `Disk.mem_list`, `Disk.IsNamed.nodup_list` — the list of a directory;
* `Disk.isDirectory_join` — asking about an entry of a directory;
* `Disk.entryIn?_ofText_append_slash` — a slash behind the path of a directory.
-/

namespace ExMode

/-! ## the text of a path to a directory -/

theorem Text.splitOn_append_sep (sep : Char) (t : Text) :
    splitOn sep (t ++ [sep]) = splitOn sep t ++ [[]] := by
  induction t with
  | nil => simp [splitOn]
  | cons c r ih =>
    simp only [List.cons_append, splitOn, ih]
    split
    · rfl
    · cases h : splitOn sep r with
      | nil => exact absurd h (splitOn_ne_nil sep r)
      | cons part parts => rfl

namespace Path

/-- What a file system takes as the name of an entry. -/
structure IsName (n : Text) : Prop where
  ne_nil : n ≠ []
  ne_parent : n ≠ ['.', '.']
  not_slash : '/' ∉ n
  not_nul : '\x00' ∉ n

instance (n : Text) : Decidable (IsName n) :=
  decidable_of_iff (n ≠ [] ∧ n ≠ ['.', '.'] ∧ '/' ∉ n ∧ '\x00' ∉ n)
    ⟨fun ⟨h, h', h'', h'''⟩ => ⟨h, h', h'', h'''⟩, fun ⟨h, h', h'', h'''⟩ => ⟨h, h', h'', h'''⟩⟩

theorem parts_ofText_append_slash (t : Text) : (ofText (t ++ ['/'])).parts = (ofText t).parts := by
  simp [ofText, Text.splitOn_append_sep, isPart]

/-- A slash behind a text changes the root that it names only if there are but slashes. -/
theorem rootOf_append_slash {t : Text} (ht : t ≠ []) :
    rootOf (t ++ ['/']) = rootOf t ∨ t = ['/'] ∨ t = ['/', '/'] := by
  rcases t with _ | ⟨a, _ | ⟨b, _ | ⟨c, r⟩⟩⟩
  · exact absurd rfl ht
  · by_cases ha : a = '/'
    · simp [ha]
    · simp [rootOf, ha]
  · by_cases ha : a = '/' <;> by_cases hb : b = '/' <;> simp [rootOf, ha, hb]
  · by_cases ha : a = '/' <;> by_cases hb : b = '/' <;> by_cases hc : c = '/' <;>
      simp [rootOf, ha, hb, hc]

end Path

namespace Disk

variable {d : Disk} {base : Path} {loc : Location} {n : Text} {e : Entry}

/-- Each location is there once, under names that a file system takes. -/
structure IsNamed (d : Disk) : Prop where
  nodup : (d.entries.map Prod.fst).Nodup
  name : ∀ x ∈ d.entries, ∀ n ∈ x.1, Path.IsName n

/-! ## the names in a directory -/

/-- A location is directly below another one by the name that is its last part. -/
theorem nameBelow_eq_some {l : Location} :
    (if l.dropLast = loc ∧ l ≠ [] then l.getLast? else none) = some n ↔ l = loc ++ [n] := by
  constructor
  · intro h
    split at h
    · rename_i hl
      rw [← hl.1]
      exact (List.dropLast_append_getLast? n h).symm
    · cases h
  · rintro rfl
    simp

theorem mem_children : n ∈ d.children loc ↔ (d.at? (loc ++ [n])).isSome := by
  rw [children, List.mem_mergeSort, List.mem_filterMap, at?_of_ne_nil (by simp),
    Keyed.isSome_get?, List.mem_map]
  simp only [nameBelow_eq_some]

/-- No name is twice in a directory. -/
theorem IsNamed.nodup_children (h : d.IsNamed) (loc : Location) : (d.children loc).Nodup := by
  have hkeys : (d.entries.filterMap fun x =>
        if x.1.dropLast = loc ∧ x.1 ≠ [] then x.1.getLast? else none) =
      (d.entries.map Prod.fst).filterMap fun l =>
        if l.dropLast = loc ∧ l ≠ [] then l.getLast? else none := by
    rw [List.filterMap_map]
    rfl
  rw [children, (List.mergeSort_perm _ _).nodup_iff, hkeys]
  refine h.nodup.filterMap fun l l' n hl hl' => ?_
  rw [nameBelow_eq_some.1 hl, nameBelow_eq_some.1 hl']

/-- What lies in a directory has a name. -/
theorem IsNamed.isName (h : d.IsNamed) (he : d.at? (loc ++ [n]) = some e) : Path.IsName n := by
  rw [at?_of_ne_nil (by simp)] at he
  have hkey : loc ++ [n] ∈ d.entries.map Prod.fst := by
    rw [← Keyed.isSome_get?, he]
    rfl
  obtain ⟨x, hx, hloc⟩ := List.mem_map.1 hkey
  exact h.name x hx n (by simp [hloc])

/-! ## asking about an entry -/

/-- A name behind a path leads into the directory that the path leads to. -/
theorem follow_append_name {parts : List Text} {l : Location}
    (h : d.follow loc parts = .ok l) (hl : d.at? l = some .directory) :
    d.follow loc (parts ++ [n]) = d.follow l [n] := by
  induction parts generalizing loc with
  | nil =>
    cases h
    rfl
  | cons part rest ih =>
    cases rest with
    | nil =>
      rw [follow_singleton] at h
      split at h
      · cases h
      · rename_i hlength
        cases h
        rw [List.cons_append, List.nil_append, follow_cons_cons, if_neg hlength, hl]
    | cons q rest =>
      rw [List.cons_append, List.cons_append, follow_cons_cons]
      rw [follow_cons_cons] at h
      split at h
      · cases h
      rename_i hlength
      rw [if_neg hlength]
      split at h
      · cases h
      · cases h
      · exact ih h

/-- The path of an entry cannot be followed if it is too long; else it leads to the entry. -/
theorem locate_join (hbase : d.locate base = .ok loc) (hdir : d.at? loc = some .directory)
    (hn : n ≠ ['.', '.']) :
    d.locate (base.join ⟨.here, [n]⟩) = .error .nameTooLong ∨
      d.locate (base.join ⟨.here, [n]⟩) = .ok (loc ++ [n]) := by
  rw [locate] at hbase
  split at hbase
  · cases hbase
  have hfollow : d.follow (if (base.join ⟨.here, [n]⟩).isAbsolute then [] else d.here)
      (base.join ⟨.here, [n]⟩).parts = d.follow loc [n] := follow_append_name hbase hdir
  rw [locate, hfollow, follow_singleton]
  split
  · exact Or.inl rfl
  split
  · exact Or.inl rfl
  · rw [child, if_neg hn]
    exact Or.inr rfl

/-- What lies under a name in the directory at a path. -/
def entryIn? (d : Disk) (base : Path) (n : Text) : Option Entry :=
  match d.isDirectory base, d.locate base with
  | .ok true, .ok loc => d.at? (loc ++ [n])
  | _, _ => none

theorem entryIn?_of_locate (hdir : d.isDirectory base = .ok true) (hloc : d.locate base = .ok loc)
    (n : Text) : d.entryIn? base n = d.at? (loc ++ [n]) := by
  rw [entryIn?, hdir, hloc]

theorem isDirectory_of_entryIn? (h : d.entryIn? base n = some e) :
    d.isDirectory base = .ok true := by
  unfold entryIn? at h
  split at h
  · assumption
  · cases h

theorem IsNamed.isName_of_entryIn? (h : d.IsNamed) (he : d.entryIn? base n = some e) :
    Path.IsName n := by
  unfold entryIn? at he
  split at he
  · exact h.isName he
  · cases he

/-- The list of a directory has what lies in it, -/
theorem mem_list (hdir : d.isDirectory base = .ok true) :
    n ∈ d.list base ↔ (d.entryIn? base n).isSome := by
  obtain ⟨-, loc, hloc, -⟩ := isDirectory_eq_true.1 hdir
  rw [entryIn?_of_locate hdir hloc, ← mem_children, list, hloc]

/-- each entry once. -/
theorem IsNamed.nodup_list (h : d.IsNamed) (base : Path) : (d.list base).Nodup := by
  rw [list]
  split
  · exact h.nodup_children _
  · exact List.nodup_nil

/-- What is said about the path of an entry is true of the entry. -/
theorem isDirectory_join (hbase : d.isDirectory base = .ok true) (hn : Path.IsName n) {b : Bool}
    (h : d.isDirectory (base.join ⟨.here, [n]⟩) = .ok b) :
    b = decide (d.entryIn? base n = some .directory) := by
  obtain ⟨hnul, loc, hloc, hdir⟩ := isDirectory_eq_true.1 hbase
  have hnul' : (base.join ⟨.here, [n]⟩).hasNul = false := by
    have hparts : (base.parts ++ [n]).any (·.contains '\x00') = false := by
      rw [List.any_append, show base.parts.any (·.contains '\x00') = false from hnul]
      simpa using hn.not_nul
    exact hparts
  obtain hlong | hfound := locate_join hloc hdir hn.ne_parent
  · rw [isDirectory, find?, hnul', if_neg Bool.false_ne_true, stat, hlong] at h
    cases h
  · rw [isDirectory_of_locate hnul' hfound, ← entryIn?_of_locate hbase hloc] at h
    exact (Except.ok.inj h).symm

/-- A slash behind the path of a directory makes no difference to what lies in it, unless there is
nothing in front of it. -/
theorem entryIn?_ofText_append_slash (d : Disk) {t : Text} (ht : t ≠ []) (n : Text) :
    d.entryIn? (Path.ofText (t ++ ['/'])) n = d.entryIn? (Path.ofText t) n := by
  obtain hroot | rfl | rfl := Path.rootOf_append_slash ht
  · have hpath : Path.ofText (t ++ ['/']) = Path.ofText t :=
      congrArg₂ Path.mk hroot (Path.parts_ofText_append_slash t)
    rw [hpath]
  · rfl
  · rfl

end Disk

end ExMode
