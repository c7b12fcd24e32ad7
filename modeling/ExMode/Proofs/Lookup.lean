import ExMode.Proofs.Completion

/-!
# ExMode.Proofs.Lookup

Which row a word names when several rows have one name.  Later rows are to shadow earlier ones, and
for a word that is the whole name they do.  A word that abbreviates the name is held against each
row by itself.  So where a later row asks for a longer abbreviation, the words that are too short
for it still find the row that it should shadow.

* `Table.find?_eq_some_iff` — a word finds the last row of its name, or without such a row the last
  one that it abbreviates;
* `Table.find?_name_iff` — the row that a name finds is the one that is not shadowed;
* `Table.find?_shadowing` — so a word finds a shadowed row just if it abbreviates its name and does
  not start with the abbreviation that the last row of that name asks for.
-/

namespace ExMode

/-- What a word abbreviates starts with it, and it starts with the shortest abbreviation. -/
theorem Row.matches_iff {row : Row} {typed : Text} :
    row.matches typed = true ↔ row.abbreviation <+: typed ∧ typed <+: row.name := by
  rw [Row.matches, Bool.and_eq_true, List.isPrefixOf_iff_prefix, List.isPrefixOf_iff_prefix]

namespace Table

variable {t : Table} {typed : Text} {row : Row} {p : Row → Bool}

/-- Whether a row is the last one of which something holds. -/
def IsLast (t : Table) (p : Row → Bool) (row : Row) : Prop :=
  p row = true ∧ ∃ before after, t.rows = before ++ row :: after ∧ ∀ later ∈ after, p later = false

/-- Whether wherever a row stands in the table, another one of its name stands behind it. -/
def Shadowed (t : Table) (row : Row) : Prop :=
  ∀ before after, t.rows = before ++ row :: after → ∃ later ∈ after, later.name = row.name

theorem IsLast.mem (h : t.IsLast p row) : row ∈ t.rows := by
  obtain ⟨-, before, after, hrows, -⟩ := h
  rw [hrows]
  exact List.mem_append_right before List.mem_cons_self

theorem isLast_iff : t.IsLast p row ↔ t.rows.reverse.find? p = some row := by
  rw [List.find?_eq_some_iff_append]
  constructor
  · rintro ⟨hp, before, after, hrows, hafter⟩
    refine ⟨hp, after.reverse, before.reverse, ?_, ?_⟩
    · simp [hrows]
    · simpa using hafter
  · rintro ⟨hp, behind, front, hrows, hbehind⟩
    refine ⟨hp, front.reverse, behind.reverse, ?_, ?_⟩
    · rw [← List.reverse_reverse t.rows, hrows]
      simp
    · simpa using hbehind

/-- A word finds the last row of its name; if no row has that name, the last one it abbreviates. -/
theorem find?_eq_some_iff : t.find? typed = some row ↔
    t.IsLast (fun r => r.name == typed) row ∨
      (∀ r ∈ t.rows, r.name ≠ typed) ∧ t.IsLast (fun r => r.matches typed) row := by
  rw [find?, Option.or_eq_some_iff, List.find?_eq_none, isLast_iff, isLast_iff]
  simp

/-- The last row of a name is not shadowed, and the others are. -/
theorem isLast_name_iff : t.IsLast (fun r => r.name == row.name) row ↔ ¬ t.Shadowed row := by
  simp [IsLast, Shadowed]

/-- A row is found by its name just if it is not shadowed. -/
theorem find?_name_iff : t.find? row.name = some row ↔ ¬ t.Shadowed row := by
  rw [find?_eq_some_iff, isLast_name_iff]
  constructor
  · rintro (h | ⟨hnone, h⟩)
    · exact h
    · exact absurd rfl (hnone row h.mem)
  · exact Or.inl

/-- If there is such a row in the last part of the table, the last one is there. -/
theorem IsLast.mem_of_append (h : t.IsLast p row) {before after : List Row}
    (hrows : t.rows = before ++ after) {r : Row} (hmem : r ∈ after) (hr : p r = true) :
    row ∈ after := by
  rw [isLast_iff, hrows, List.reverse_append, List.find?_append, Option.or_eq_some_iff] at h
  obtain h | ⟨hnone, -⟩ := h
  · exact List.mem_reverse.1 (List.mem_of_find?_eq_some h)
  · exact absurd hr (List.find?_eq_none.1 hnone r (List.mem_reverse.2 hmem))

/-- A shadowed row is found by abbreviations of its name only, and those do not start with what any
row of its name behind it asks for. -/
theorem short_of_shadowed (h : t.find? typed = some row) (hrow : t.Shadowed row) :
    typed ≠ row.name ∧ row.abbreviation <+: typed ∧ ∃ before after,
      t.rows = before ++ row :: after ∧
        ∀ later ∈ after, later.name = row.name → ¬ later.abbreviation <+: typed := by
  obtain hexact | ⟨hnone, hmatches, before, after, hrows, hafter⟩ := find?_eq_some_iff.1 h
  · have htyped : row.name = typed := beq_iff_eq.1 hexact.1
    subst htyped
    exact absurd hrow (isLast_name_iff.1 hexact)
  · obtain ⟨habbreviation, hname⟩ := Row.matches_iff.1 hmatches
    refine ⟨fun htyped => hnone row (mem_of_find? h) htyped.symm, habbreviation, before, after,
      hrows, fun later hmem hlater hshort => ?_⟩
    have haccepts : later.matches typed = true := Row.matches_iff.2 ⟨hshort, hlater ▸ hname⟩
    have hrefuses : later.matches typed = false := hafter later hmem
    rw [hrefuses] at haccepts
    cases haccepts

/-- A shadowed row is found just by the words that do not start with what the last row of its name
asks for. -/
theorem shadowed_iff (h : t.find? typed = some row) {last : Row}
    (hlast : t.find? row.name = some last) (hname : last.name = row.name) :
    t.Shadowed row ↔ typed ≠ row.name ∧ ¬ last.abbreviation <+: typed := by
  constructor
  · intro hrow
    obtain ⟨htyped, -, before, after, hrows, hafter⟩ := short_of_shadowed h hrow
    obtain ⟨later, hmem, hlater⟩ := hrow before after hrows
    have hend : t.IsLast (fun r => r.name == last.name) last :=
      isLast_name_iff.2 (find?_name_iff.1 (hname ▸ hlast))
    have hparts : t.rows = (before ++ [row]) ++ after := by
      rw [hrows, List.append_assoc, List.singleton_append]
    have hmem : last ∈ after :=
      hend.mem_of_append hparts hmem (beq_iff_eq.2 (hlater.trans hname.symm))
    exact ⟨htyped, hafter last hmem hname⟩
  · rintro ⟨htyped, hshort⟩
    by_contra hrow
    obtain rfl : last = row := Option.some.inj (hlast.symm.trans (find?_name_iff.2 hrow))
    obtain hexact | ⟨-, hmatches, -⟩ := find?_eq_some_iff.1 h
    · exact htyped (beq_iff_eq.1 hexact.1).symm
    · exact hshort (Row.matches_iff.1 hmatches).1

/-- Whether no row asks for a longer abbreviation than a row of its name in front of it. -/
def ShadowsWholly (t : Table) : Prop :=
  t.rows.Pairwise fun row later =>
    later.name = row.name → later.abbreviation <+: row.abbreviation

/-- Where no row asks for a longer abbreviation than one that it shadows, no shadowed row is
found. -/
theorem ShadowsWholly.not_shadowed (ht : t.ShadowsWholly) (h : t.find? typed = some row) :
    ¬ t.Shadowed row := by
  intro hrow
  obtain ⟨-, habbreviation, before, after, hrows, hafter⟩ := short_of_shadowed h hrow
  obtain ⟨later, hmem, hlater⟩ := hrow before after hrows
  rw [ShadowsWholly, hrows, List.pairwise_append, List.pairwise_cons] at ht
  exact hafter later hmem hlater ((ht.2.1.1 later hmem hlater).trans habbreviation)

/-- How looking up a word goes together with looking up the name of the row that it finds.  The name
finds the last row that has it, which is the same row unless that is shadowed; and a shadowed row is
found just by those words that abbreviate its name but do not start with the abbreviation that the
last row asks for.  So where no row asks for a longer abbreviation than one that it shadows, a word
and the name of its row find the same row, and no shadowed row is found. -/
theorem find?_shadowing (h : t.find? typed = some row) :
    (t.find? row.name = some row ↔ ¬ t.Shadowed row) ∧
    (∃ last, t.find? row.name = some last ∧ last.name = row.name ∧ ¬ t.Shadowed last ∧
      (t.Shadowed row ↔ typed ≠ row.name ∧ ¬ last.abbreviation <+: typed)) ∧
    (t.ShadowsWholly → t.find? row.name = some row ∧ ¬ t.Shadowed row) := by
  obtain ⟨last, hlast, hname⟩ := find?_of_mem (List.mem_map_of_mem (mem_of_find? h))
  refine ⟨find?_name_iff, ⟨last, hlast, hname, find?_name_iff.1 (hname ▸ hlast),
    shadowed_iff h hlast hname⟩, fun ht => ?_⟩
  have hrow := ht.not_shadowed h
  exact ⟨find?_name_iff.2 hrow, hrow⟩

/-- A row that takes the place of a built-in one, with an abbreviation as short as that one's. -/
theorem find?_shadowing_extra :
    let row : Row := ⟨"display".toList, "d".toList, true, true, true, false, .extra,
      fun _ => .ok .print⟩
    let t := ofExtra [] [row]
    t.find? "disp".toList = some row ∧ t.ShadowsWholly ∧ t.find? "display".toList = some row := by
  intro row t
  have h : t.find? "disp".toList = some row := rfl
  have ht : t.ShadowsWholly := by
    have hpairs : (t.rows.map fun r => (r.name, r.abbreviation)).Pairwise fun r later =>
        later.1 = r.1 → later.2 <+: r.2 := by decide +kernel
    exact List.pairwise_map.1 hpairs
  obtain ⟨-, -, hwhole⟩ := find?_shadowing h
  exact ⟨h, ht, (hwhole ht).1⟩

/-- A row of the name of a built-in one, but with a longer abbreviation, leaves that one to be found
by the shorter words. -/
theorem find?_shadowed :
    let later : Row := ⟨"delete".toList, "dele".toList, true, false, true, false, .extra,
      fun _ => .ok .print⟩
    let t := ofExtra [] [later]
    ∃ row : Row, t.find? ['d'] = some row ∧ row.name = later.name ∧ row.origin = .builtIn ∧
      t.Shadowed row ∧ t.find? row.name = some later := by
  intro later t
  obtain ⟨row, hrow⟩ : ∃ row, t.find? ['d'] = some row := ⟨_, rfl⟩
  have hfacts : ∀ r, t.find? ['d'] = some r → r.name = later.name ∧ r.origin = .builtIn := by
    rintro r ⟨⟩
    exact ⟨rfl, rfl⟩
  obtain ⟨hname, horigin⟩ := hfacts row hrow
  have hlater : t.find? row.name = some later := by
    rw [hname]
    rfl
  refine ⟨row, hrow, hname, horigin, (shadowed_iff hrow hlater hname.symm).2 ⟨?_, ?_⟩, hlater⟩
  · rw [hname]
    decide
  · decide

end Table

end ExMode
