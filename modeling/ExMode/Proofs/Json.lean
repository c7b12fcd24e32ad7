import ExMode.Json
import ExMode.Proofs.Effect
import Mathlib.Tactic.IntervalCases

/-!
# ExMode.Proofs.Json

Strings that were written are read back.  Reading goes character by character:
the escape of each character is one step of the reader (`stringCodes_writtenChar`),
so a written string is read up to its closing quote whatever comes after it
(`stringRest_writtenString`), and a written list of strings up to its closing
bracket (`items_written`).
-/

namespace ExMode.Json

open Document

/-! ## strings -/

/-- Control characters have a number of four hexadecimal digits. -/
theorem hexDigits_control {n : Nat} (hn : n < 32) :
    ∃ a b c d, Text.hexDigits 4 n = [a, b, c, d] ∧ hexCode? a b c d = some n := by
  interval_cases n <;> exact ⟨_, _, _, _, rfl, rfl⟩

/-- Each written character is read in one step. -/
theorem stringCodes_writtenChar (c : Char) (s : Text) :
    stringCodes (writtenChar c ++ s) = consCode c.toNat (stringCodes s) := by
  unfold writtenChar
  -- the characters with an escape of their own
  iterate 7
    split
    · rename_i h
      rw [h]
      rfl
  split
  · rename_i h
    obtain ⟨x, y, z, w, hdigits, hcode⟩ := hexDigits_control h
    rw [hdigits]
    simp only [List.cons_append, List.nil_append, stringCodes, hcode]
  · rename_i hquote hback _ _ _ _ _ hlow
    rw [List.singleton_append, stringCodes, if_neg hlow]
    · exact hquote
    · intro _ _ _ _ _ h
      exact absurd h hback
    · intro _ _ h
      exact absurd h hback

theorem stringCodes_flatMap_writtenChar (t s : Text) :
    stringCodes (t.flatMap writtenChar ++ '"' :: s) = .ok (t.map Char.toNat, s) := by
  induction t with
  | nil => simp [stringCodes]
  | cons c t ih =>
    rw [List.flatMap_cons, List.append_assoc, stringCodes_writtenChar, ih]
    rfl

/-- No character is half of a surrogate pair, so nothing is joined. -/
theorem joinPairs_toNat (t : Text) : joinPairs (t.map Char.toNat) = t.map Char.toNat := by
  induction t with
  | nil => rfl
  | cons c t ih =>
    cases t with
    | nil => rfl
    | cons d t =>
      have hc := c.valid
      have hhigh : isHigh c.toNat = false := by
        simp only [isHigh, Char.toNat, Bool.and_eq_false_iff, decide_eq_false_iff_not]
        rcases hc with hc | hc <;> grind
      simp only [List.map_cons, joinPairs, hhigh, Bool.false_and] at ih ⊢
      simp only [Bool.false_eq_true, if_false, ih]

theorem stringRest_writtenString (t s : Text) :
    stringRest (t.flatMap writtenChar ++ '"' :: s) = .ok (.text t, s) := by
  simp only [stringRest, stringCodes_flatMap_writtenChar]
  simp only [bind, Except.bind, pure, Except.pure, joinPairs_toNat, ofCodes_toNat]

/-! ## documents -/

theorem value_writtenString (fuel depth : Nat) (t s : Text) :
    value (fuel + 1) depth (writtenString t ++ s) = .ok (.string (.text t), s) := by
  rw [writtenString, List.append_assoc, List.cons_append, List.singleton_append, value,
    stringRest_writtenString]
  rfl

/-- Strings with a comma and layout between any two, up to the bracket after the last one. -/
theorem items_written (fuel depth : Nat) (t : Text) (ts : List Text) (s : Text)
    (hfuel : ts.length + 1 < fuel) :
    items fuel depth (writtenString t ++
        (ts.flatMap (fun u => ",\n    ".toList ++ writtenString u) ++ "\n  ]".toList ++ s)) =
      .ok ((t :: ts).map fun u => .string (.text u), s) := by
  induction ts generalizing t fuel with
  | nil =>
    obtain ⟨fuel, rfl⟩ : ∃ n, fuel = n + 2 := ⟨fuel - 2, by omega⟩
    rw [items, value_writtenString]
    rfl
  | cons u ts ih =>
    obtain ⟨fuel, rfl⟩ : ∃ n, fuel = n + 2 := ⟨fuel - 2, by omega⟩
    rw [items, value_writtenString]
    have hrest := ih (fuel + 1) u (by rw [List.length_cons] at hfuel; omega)
    simp only [List.flatMap_cons, List.append_assoc] at hrest ⊢
    generalize ts.flatMap _ ++ _ = rest at hrest ⊢
    have hcomma : skipLayout (",\n    ".toList ++ (writtenString u ++ rest)) =
        ',' :: ("\n    ".toList ++ (writtenString u ++ rest)) := rfl
    have hnext : skipLayout ("\n    ".toList ++ (writtenString u ++ rest)) =
        writtenString u ++ rest := rfl
    simp only [bind, Except.bind, hcomma, hnext, hrest]
    rfl

/-- A list that starts with a string is read as its items. -/
theorem value_items (fuel depth : Nat) {r s : Text} (h : skipLayout r = '"' :: s) :
    value (fuel + 1) (depth + 1) ('[' :: r) =
      (items fuel depth ('"' :: s)).map fun x => (.list x.1, x.2) := by
  rw [value, if_neg (by omega), h, Nat.add_sub_cancel]
  split
  · rename_i hbracket
    cases hbracket
  · cases items fuel depth ('"' :: s) <;> rfl

/-- A mapping that starts with a key is read as its members. -/
theorem value_members (fuel depth : Nat) {r s : Text} (h : skipLayout r = '"' :: s) :
    value (fuel + 1) (depth + 1) ('\x7b' :: r) =
      (members fuel depth [] ('"' :: s)).map fun x => (.map x.1, x.2) := by
  rw [value, if_neg (by omega), h, Nat.add_sub_cancel]
  split
  · rename_i hbrace
    cases hbrace
  · cases members fuel depth [] ('"' :: s) <;> rfl

end ExMode.Json
