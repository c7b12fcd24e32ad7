import ExMode.Proofs.Literal

/-!
# ExMode.Proofs.Fields

The fields of an argument, for every text and every delimiter but the backslash.

A field is made up of pieces (`Piece`), which are characters and backslashes with a character
behind them.  It is written with a backslash in front of each delimiter that is a character of it,
and then nothing in it is taken for the end of the field (`fieldsFrom_written`): so fields that were
written with delimiters in between are cut apart again.

Whatever an argument is, it is cut behind written fields, twice at most (`exists_cut`).  Behind the
second cut no delimiter counts any more.  What is left is one field, in which every delimiter
stands, and those that had a backslash have lost it.

* `fieldsFrom_joined` — cutting undoes joining;
* `fieldsFrom_last_field` — the field behind the last cut;
* `fieldsFrom_cut` — how any text is cut;
* `fields_cut` — both ways, for the argument of a substitution.
-/

namespace ExMode.Magic

variable {d : Char}

/-! ## fields in writing -/

/-- A piece of a field between delimiters `d`. -/
inductive Piece (d : Char) where
  /-- A character that stands for itself; it may be the delimiter. -/
  | char (c : Char) (ne_backslash : c ≠ '\\')
  /-- A backslash and the character behind it. -/
  | escape (c : Char) (ne_delimiter : c ≠ d)

/-- What a field holds. -/
abbrev Field (d : Char) := List (Piece d)

namespace Piece

/-- A piece as it is to be read. -/
def text : Piece d → Text
  | char c _ => [c]
  | escape c _ => ['\\', c]

/-- A piece in an argument: the delimiter has a backslash in front of it. -/
def written : Piece d → Text
  | char c _ => if c = d then ['\\', c] else [c]
  | escape c _ => ['\\', c]

end Piece

namespace Field

/-- A field as it is to be read. -/
def text (f : Field d) : Text := f.flatMap Piece.text

/-- A field in an argument. -/
def written (f : Field d) : Text := f.flatMap Piece.written

/-- Fields in an argument, with delimiters in between. -/
def joined (fields : List (Field d)) : Text := Text.joinWith [d] (fields.map written)

@[simp] theorem text_nil : text ([] : Field d) = [] := rfl

@[simp] theorem text_cons (p : Piece d) (f : Field d) : text (p :: f) = p.text ++ text f := rfl

@[simp] theorem written_nil : written ([] : Field d) = [] := rfl

@[simp] theorem written_cons (p : Piece d) (f : Field d) :
    written (p :: f) = p.written ++ written f := rfl

@[simp] theorem joined_singleton (f : Field d) : joined [f] = f.written := rfl

@[simp] theorem joined_cons_cons (f g : Field d) (fields : List (Field d)) :
    joined (f :: g :: fields) = f.written ++ d :: joined (g :: fields) := by
  simp [joined, Text.joinWith]

end Field

/-! ## cutting undoes joining -/

@[simp] theorem consField_nil {fs : List Text} (h : fs ≠ []) : consField [] fs = fs := by
  cases fs with
  | nil => contradiction
  | cons f fs => rfl

theorem consField_consField (t u : Text) (fs : List Text) :
    consField t (consField u fs) = consField (t ++ u) fs := by
  cases fs <;> simp [consField]

theorem fieldsFrom_ne_nil (splits : Nat) (t : Text) : fieldsFrom d splits t ≠ [] := by
  have hcons (u : Text) (fs : List Text) : consField u fs ≠ [] := by cases fs <;> simp [consField]
  fun_induction fieldsFrom d splits t <;> simp [hcons]

/-- A character that is neither special nor the delimiter belongs to the field. -/
theorem fieldsFrom_char {c : Char} (hc : c ≠ '\\') (hd : c ≠ d) (splits : Nat) (t : Text) :
    fieldsFrom d splits (c :: t) = consField [c] (fieldsFrom d splits t) := by
  cases t with
  | nil => simp [fieldsFrom, consField, hd]
  | cons x t => exact fieldsFrom_cons hc hd splits (by simp)

theorem fieldsFrom_piece (p : Piece d) (splits : Nat) (t : Text) :
    fieldsFrom d splits (p.written ++ t) = consField p.text (fieldsFrom d splits t) := by
  cases p with
  | char c hc =>
    by_cases hd : c = d
    · simp [Piece.written, Piece.text, hd, fieldsFrom_escape]
    · simp [Piece.written, Piece.text, hd, fieldsFrom_char hc hd]
  | escape c hd => simp [Piece.written, Piece.text, hd, fieldsFrom_escape]

/-- Nothing in a written field ends it. -/
theorem fieldsFrom_written (f : Field d) (splits : Nat) (t : Text) :
    fieldsFrom d splits (f.written ++ t) = consField f.text (fieldsFrom d splits t) := by
  induction f with
  | nil => simp [fieldsFrom_ne_nil]
  | cons p f ih => simp [fieldsFrom_piece, ih, consField_consField]

/-- The delimiter behind a written field ends it. -/
theorem fieldsFrom_written_cons (hd : d ≠ '\\') (f : Field d) (splits : Nat) (t : Text) :
    fieldsFrom d (splits + 1) (f.written ++ d :: t) = f.text :: fieldsFrom d splits t := by
  simp [fieldsFrom_written, fieldsFrom_delimiter hd, consField]

/-- Fields that were joined are cut apart again. -/
theorem fieldsFrom_joined (hd : d ≠ '\\') {fields : List (Field d)} (hne : fields ≠ [])
    {splits : Nat} (h : fields.length ≤ splits + 1) :
    fieldsFrom d splits (Field.joined fields) = fields.map Field.text := by
  induction fields generalizing splits with
  | nil => contradiction
  | cons f fields ih =>
    cases fields with
    | nil =>
      have hf := fieldsFrom_written f splits []
      simpa [fieldsFrom, consField] using hf
    | cons g fields =>
      obtain ⟨splits, rfl⟩ : ∃ n, splits = n + 1 := ⟨splits - 1, by simp at h; omega⟩
      have hrest : fieldsFrom d splits (Field.joined (g :: fields)) = _ :=
        ih (by simp) (by simpa using h)
      simp [fieldsFrom_written_cons hd, hrest]

/-! ## how a text is cut -/

/-- The number of delimiters that have no backslash in front of them. -/
def bareCount (d : Char) : Text → Nat
  | [] => 0
  | [c] => if c = d then 1 else 0
  | c :: x :: t =>
    if c = '\\' then bareCount d t else (if c = d then 1 else 0) + bareCount d (x :: t)

/-- A text in which each delimiter has lost the backslash in front of it. -/
def unescaped (d : Char) : Text → Text
  | [] => []
  | [c] => [c]
  | c :: x :: t =>
    if c = '\\' then (if x = d then [x] else [c, x]) ++ unescaped d t
    else c :: unescaped d (x :: t)

/-- No delimiter is lost with the backslashes. -/
theorem count_unescaped (hd : d ≠ '\\') (t : Text) : (unescaped d t).count d = t.count d := by
  fun_induction unescaped d t with
  | case1 => rfl
  | case2 c => rfl
  | case3 x t ih => split <;> simp_all [Ne.symm hd]
  | case4 c x t hc ih => simp [List.count_cons, ih]

/-- Where no delimiter counts, because there is none or enough have been cut at, the text is one
field. -/
theorem fieldsFrom_last_field {splits : Nat} {t : Text} (h : splits = 0 ∨ bareCount d t = 0) :
    fieldsFrom d splits t = [unescaped d t] := by
  fun_induction unescaped d t with
  | case1 => cases splits <;> rfl
  | case2 c => grind [fieldsFrom, bareCount]
  | case3 x t ih =>
    have hrest : splits = 0 ∨ bareCount d t = 0 := by simpa [bareCount] using h
    rw [fieldsFrom_escape, ih hrest]
    rfl
  | case4 c x t hc ih =>
    have hrest : splits = 0 ∨ bareCount d (x :: t) = 0 := by grind [bareCount]
    have hcut : ¬ (decide (c = d) && decide (0 < splits)) = true := by grind [bareCount]
    rw [fieldsFrom, if_neg hc, if_neg hcut, ih hrest]
    rfl

/-- A text in which a delimiter counts is a written field, the delimiter and a rest. -/
theorem exists_cut (hd : d ≠ '\\') {t : Text} (h : bareCount d t ≠ 0) :
    ∃ (f : Field d) (rest : Text),
      t = f.written ++ d :: rest ∧ bareCount d t = bareCount d rest + 1 := by
  fun_induction bareCount d t with
  | case1 => contradiction
  | case2 => exact ⟨[], [], rfl, rfl⟩
  | case3 => contradiction
  | case4 x t ih =>
    obtain ⟨f, rest, rfl, hrest⟩ := ih h
    by_cases hx : x = d
    · exact ⟨.char x (hx ▸ hd) :: f, rest, by simp [Piece.written, hx], hrest⟩
    · exact ⟨.escape x hx :: f, rest, by simp [Piece.written], hrest⟩
  | case5 c x t hc ih =>
    by_cases hcd : c = d
    · exact ⟨[], x :: t, by simp [hcd], by rw [if_pos hcd, Nat.add_comm]⟩
    · rw [if_neg hcd, Nat.zero_add] at h ⊢
      obtain ⟨f, rest, heq, hrest⟩ := ih h
      exact ⟨.char c hc :: f, rest, by simp [Piece.written, hcd, heq], hrest⟩

/-- A text is cut behind written fields, as often as it may be unless there is no delimiter to cut
at any more; what is left is the last field. -/
theorem fieldsFrom_cut (hd : d ≠ '\\') (splits : Nat) (t : Text) :
    ∃ (front : List (Field d)) (last : Text),
      t = (front.flatMap fun f => f.written ++ [d]) ++ last ∧
      fieldsFrom d splits t = front.map Field.text ++ [unescaped d last] ∧
      bareCount d t = front.length + bareCount d last ∧ front.length ≤ splits ∧
      (front.length < splits → bareCount d last = 0) := by
  induction splits generalizing t with
  | zero => exact ⟨[], t, rfl, fieldsFrom_last_field (.inl rfl), by simp, by simp, by simp⟩
  | succ splits ih =>
    by_cases hbare : bareCount d t = 0
    · exact ⟨[], t, rfl, fieldsFrom_last_field (.inr hbare), by simp, by simp, by simp [hbare]⟩
    · obtain ⟨f, rest, rfl, hrest⟩ := exists_cut hd hbare
      obtain ⟨front, last, rfl, hfields, hcount, hle, hlast⟩ := ih rest
      refine ⟨f :: front, last, by simp, ?_, ?_, by simpa using hle, by simpa using hlast⟩
      · rw [fieldsFrom_written_cons hd, hfields]
        rfl
      · rw [hrest, hcount, List.length_cons]
        omega

/-- Up to three fields that were joined with delimiters are cut apart again, whatever pieces they
are made of.  And every text is cut into one field more than there are delimiters without a
backslash, but into three at most: the fields in front are written ones, and in the last one every
delimiter that is left stands as it is. -/
theorem fields_cut (hd : d ≠ '\\') :
    (∀ fields : List (Field d), fields ≠ [] → fields.length ≤ 3 →
      splitFields (Field.joined fields) d = fields.map Field.text) ∧
    ∀ body : Text, (splitFields body d).length = min (bareCount d body) 2 + 1 ∧
      ∃ (front : List (Field d)) (last : Text),
        body = (front.flatMap fun f => f.written ++ [d]) ++ last ∧
        splitFields body d = front.map Field.text ++ [unescaped d last] ∧
        (front.length < 2 → bareCount d last = 0) ∧
        (unescaped d last).count d = last.count d := by
  constructor
  · intro fields hne hlength
    exact fieldsFrom_joined hd hne hlength
  · intro body
    obtain ⟨front, last, hbody, hfields, hcount, hle, hlast⟩ := fieldsFrom_cut hd 2 body
    constructor
    · rw [splitFields, hfields, List.length_append, List.length_map, List.length_singleton, hcount]
      omega
    · exact ⟨front, last, hbody, hfields, hlast, count_unescaped hd last⟩

/-- A slash inside a field, and slashes behind the second one that cuts. -/
theorem fields_cut_slashes :
    '/' ≠ '\\' ∧
      splitFields "a\\/b/\\1\\\\/g".toList '/' = ["a/b".toList, "\\1\\\\".toList, "g".toList] ∧
      (splitFields "/a/b\\/c/d".toList '/').length = 3 := by
  let a : Field '/' := [.char 'a' (by decide), .char '/' (by decide), .char 'b' (by decide)]
  let b : Field '/' := [.escape '1' (by decide), .escape '\\' (by decide)]
  let g : Field '/' := [.char 'g' (by decide)]
  obtain ⟨hjoined, hcut⟩ := fields_cut (d := '/') (by decide)
  obtain ⟨hlength, -⟩ := hcut "/a/b\\/c/d".toList
  have hbare : bareCount '/' "/a/b\\/c/d".toList = 3 := by decide
  rw [hbare] at hlength
  exact ⟨by decide, hjoined [a, b, g] (by simp) (by decide), hlength⟩

end ExMode.Magic
