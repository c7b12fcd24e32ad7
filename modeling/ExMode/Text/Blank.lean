import ExMode.Text
import ExMode.Text.CodeRange

/-!
# ExMode.Text.Blank

White space.  A character is blank when Unicode gives it the property
White_Space or when it is one of the four information separators U+001C to
U+001F; command lines are trimmed of all of these.
-/

namespace ExMode

/-- The blank characters. -/
def blankRanges : CodeRanges :=
  [
    (0x9, 0xD), (0x1C, 0x20), (0x85, 0x85), (0xA0, 0xA0), (0x1680, 0x1680), (0x2000, 0x200A),
    (0x2028, 0x2029), (0x202F, 0x202F), (0x205F, 0x205F), (0x3000, 0x3000)
  ]

/-- Whether a character is white space. -/
def isBlank (c : Char) : Bool := blankRanges.has c.toNat

example : [' ', '\t', '\n', '\r', '\x0b', '\x0c', '\x1c', '\x1f', '\u0085', '\u00a0', '\u2028',
    '\u3000'].all isBlank = true := by decide

example : ['a', ':', '0', '\x00', '\u200b', '\ufeff'].any isBlank = false := by decide

namespace Text

/-- The text without its leading blanks. -/
def trimLeft (t : Text) : Text := t.dropWhile isBlank

/-- The text without its trailing blanks. -/
def trimRight (t : Text) : Text := (t.reverse.dropWhile isBlank).reverse

/-- The text without blanks at either end. -/
def trim (t : Text) : Text := trimRight (trimLeft t)

/-- Whether the text holds nothing but blanks. -/
def isAllBlank (t : Text) : Bool := t.all isBlank

/-- Trimming on the left removes blanks only. -/
theorem takeWhile_append_trimLeft (t : Text) : t.takeWhile isBlank ++ trimLeft t = t := by
  simp [trimLeft, List.takeWhile_append_dropWhile]

@[simp] theorem trimLeft_nil : trimLeft [] = [] := rfl

@[simp] theorem trimRight_nil : trimRight [] = [] := rfl

@[simp] theorem trim_nil : trim [] = [] := rfl

theorem trimLeft_cons_of_blank {c : Char} {t : Text} (h : isBlank c = true) :
    trimLeft (c :: t) = trimLeft t := by
  simp [trimLeft, h]

theorem trimLeft_cons_of_not_blank {c : Char} {t : Text} (h : isBlank c = false) :
    trimLeft (c :: t) = c :: t := by
  simp [trimLeft, h]

/-- What is left after trimming on the left is empty or starts with a visible character. -/
theorem trimLeft_eq_nil_or (t : Text) :
    trimLeft t = [] ∨ ∃ c r, trimLeft t = c :: r ∧ isBlank c = false := by
  induction t with
  | nil => exact Or.inl rfl
  | cons c r ih =>
    cases h : isBlank c with
    | true => rw [trimLeft_cons_of_blank h]; exact ih
    | false => exact Or.inr ⟨c, r, trimLeft_cons_of_not_blank h, h⟩

/-- Trimming on the left twice is trimming once. -/
theorem trimLeft_trimLeft (t : Text) : trimLeft (trimLeft t) = trimLeft t := by
  rcases trimLeft_eq_nil_or t with h | ⟨c, r, h, hc⟩
  · rw [h]; rfl
  · rw [h, trimLeft_cons_of_not_blank hc]

theorem length_trimLeft_le (t : Text) : (trimLeft t).length ≤ t.length := by
  simp only [trimLeft]
  exact (List.dropWhile_suffix _).length_le

end Text

end ExMode
