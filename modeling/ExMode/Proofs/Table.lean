import ExMode.Command.Table
import ExMode.Proofs.Effect

/-!
# ExMode.Proofs.Table

What the command table reads.  A line is read as a command only through a row of
the table or as a bare range (`builds_of_parse`), and every row of the built-in
table builds a command of the library (`isBuiltIn_of_parse`).
-/

namespace ExMode

/-- A command that does not come from outside the library. -/
def Command.IsBuiltIn (c : Command) : Prop := ∀ f, c ≠ .foreign f

namespace Table

variable {t : Table} {raw : Text} {c : Command} {range : Option LineRange}

/-! ## the row of a line -/

theorem mem_of_find? {typed : Text} {row : Row} (h : t.find? typed = some row) :
    row ∈ t.rows := by
  rw [find?, Option.or_eq_some_iff] at h
  obtain h | ⟨-, h⟩ := h
  · exact List.mem_reverse.1 (List.mem_of_find?_eq_some h)
  · exact List.mem_reverse.1 (List.mem_of_find?_eq_some h)

theorem mem_of_recogniseBody {body : Text} {row : Row} {call : Call} {r : Option LineRange}
    (h : t.recogniseBody raw r body = .entry row call range) : row ∈ t.rows := by
  unfold recogniseBody at h
  dsimp only at h
  split at h
  · split at h <;> cases h
  split at h
  · cases h
  · rename_i found hfound
    have : found = row := by grind
    rw [← this]
    exact mem_of_find? hfound

theorem mem_of_recognise {row : Row} {call : Call}
    (h : t.recognise raw = .ok (.entry row call range)) : row ∈ t.rows := by
  unfold recognise at h
  split at h
  · simp only [Except.ok.injEq] at h
    exact mem_of_recogniseBody h
  · split at h <;> cases h

/-- A line that is read as a command is a bare range or a call of a row. -/
theorem builds_of_parse (h : t.parse raw = .ok (.command c range)) :
    c = .goto ∨ ∃ row ∈ t.rows, ∃ call, row.build call = .ok c := by
  obtain ⟨line, hline, h⟩ := bind_eq_ok.1 h
  cases line with
  | refused err => cases h
  | bare range =>
    cases h
    exact Or.inl rfl
  | entry row call range =>
    unfold Recognised.build at h
    dsimp only at h
    split at h
    · rename_i built hbuilt
      cases h
      exact Or.inr ⟨row, mem_of_recognise hline, call, hbuilt⟩
    · split at h <;> cases h

/-! ## the built-in rows -/

theorem isBuiltIn_of_mem {homes : List (Text × Text)} {row : Row} {call : Call}
    (hrow : row ∈ builtInRows homes) (h : row.build call = .ok c) : c.IsBuiltIn := by
  rintro f rfl
  simp only [builtInRows, List.mem_cons, List.not_mem_nil, or_false] at hrow
  obtain rfl | rfl | rfl | rfl | rfl | rfl | rfl | rfl | rfl | rfl | rfl := hrow
  all_goals first
    | cases h
    | obtain ⟨_, -, h⟩ := bind_eq_ok.1 h
      cases h

/-- The built-in table reads only commands of the library. -/
theorem isBuiltIn_of_parse {homes : List (Text × Text)}
    (h : (ofExtra homes []).parse raw = .ok (.command c range)) : c.IsBuiltIn := by
  obtain rfl | ⟨row, hrow, call, h⟩ := builds_of_parse h
  · exact fun f hf => by cases hf
  · exact isBuiltIn_of_mem (by simpa [ofExtra] using hrow) h

end Table

end ExMode
