/-!
# ExMode.Text

A text is the list of its characters.  Command lines, buffer lines, register
contents and messages are all texts: every scanner of this library takes
characters from the front and returns the rest, so a statement about "what is
left" is a statement about a list.

A character is a Unicode scalar value.  Strings with lone surrogates, such as a
command line is given for arguments that are not UTF-8, are no texts and outside
of what is modelled here.

The cutting operations here never lose a character: the `split` lemmas say how
the parts recombine.
-/

namespace ExMode

/-- A text: its characters in order. -/
abbrev Text := List Char

namespace Text

/-! ## cutting at a character -/

/-- What precedes the first `sep`, and what follows it; `none` for the second
part when `sep` does not occur. -/
def cut (sep : Char) : Text → Text × Option Text
  | [] => ([], none)
  | c :: rest =>
    if c = sep then ([], some rest)
    else ((c :: (cut sep rest).1), (cut sep rest).2)

/-- The parts between the occurrences of `sep`; one part more than there are
occurrences. -/
def splitOn (sep : Char) : Text → List Text
  | [] => [[]]
  | c :: rest =>
    if c = sep then [] :: splitOn sep rest
    else match splitOn sep rest with
      | [] => [[c]]
      | part :: parts => (c :: part) :: parts

/-- The texts in order with `sep` between any two neighbours. -/
def joinWith (sep : Text) : List Text → Text
  | [] => []
  | [t] => t
  | t :: u :: ts => t ++ sep ++ joinWith sep (u :: ts)

/-- Cut at the last `sep`: what precedes it (`none` without a `sep`), and what
follows it. -/
def cutLast (sep : Char) (t : Text) : Option Text × Text :=
  match (cut sep t.reverse) with
  | (tail, none) => (none, tail.reverse)
  | (tail, some head) => (some head.reverse, tail.reverse)

theorem splitOn_ne_nil (sep : Char) (t : Text) : splitOn sep t ≠ [] := by
  cases t with
  | nil => simp [splitOn]
  | cons c rest =>
    simp only [splitOn]
    split
    · simp
    · split <;> simp

/-- Joining undoes splitting. -/
theorem joinWith_splitOn (sep : Char) (t : Text) : joinWith [sep] (splitOn sep t) = t := by
  induction t with
  | nil => rfl
  | cons c rest ih =>
    simp only [splitOn]
    split
    · rename_i h
      subst h
      cases hs : splitOn c rest with
      | nil => exact absurd hs (splitOn_ne_nil c rest)
      | cons p ps =>
        rw [hs] at ih
        simp [joinWith, ih]
    · cases hs : splitOn sep rest with
      | nil => exact absurd hs (splitOn_ne_nil sep rest)
      | cons p ps =>
        rw [hs] at ih
        cases ps with
        | nil => simpa [joinWith] using ih
        | cons q qs => simpa [joinWith] using ih

/-- No part of a split text holds the separator. -/
theorem not_mem_of_mem_splitOn {sep : Char} {t part : Text} (h : part ∈ splitOn sep t) :
    sep ∉ part := by
  induction t generalizing part with
  | nil => simp_all [splitOn]
  | cons c rest ih =>
    simp only [splitOn] at h
    split at h
    · cases h with
      | head => simp
      | tail _ h => exact ih h
    · rename_i hc
      cases hs : splitOn sep rest with
      | nil => exact absurd hs (splitOn_ne_nil sep rest)
      | cons p ps =>
        rw [hs] at h ih
        cases h with
        | head =>
          have := ih (List.mem_cons_self)
          simp [this, Ne.symm hc]
        | tail _ h => exact ih (List.mem_cons_of_mem _ h)

/-! ## ends of a text -/

/-- The text without the leading characters that equal `c`. -/
def trimLeftOf (c : Char) (t : Text) : Text := t.dropWhile (· == c)

/-- The text without the trailing characters that equal `c`. -/
def trimRightOf (c : Char) (t : Text) : Text := (t.reverse.dropWhile (· == c)).reverse

/-! ## order -/

/-- Whether a text comes before another one or is the same: what counts is the first character in
which they differ. -/
def atMost : Text → Text → Bool
  | [], _ => true
  | _ :: _, [] => false
  | c :: r, d :: s => decide (c < d) || (c == d && atMost r s)

/-! ## numbers and fields -/

/-- The digits of a natural number in base ten. -/
def ofNat (n : Nat) : Text := Nat.toDigits 10 n

/-- An integer in base ten, a minus sign in front when it is negative. -/
def ofInt : Int → Text
  | .ofNat n => ofNat n
  | .negSucc n => '-' :: ofNat (n + 1)

/-- The text right-aligned in a field of `width` blanks; a longer text is kept whole. -/
def padLeft (width : Nat) (t : Text) : Text := List.replicate (width - t.length) ' ' ++ t

end Text

end ExMode
