import ExMode.Text

/-!
# ExMode.Text.Line

Texts as lines.  A text read from outside is cut at every line break of
Unicode: line feed, carriage return (with a following line feed taken as one
break), vertical tab, form feed, the separators U+001C to U+001E, U+0085,
U+2028 and U+2029.  A break ends the line before it, so a final break starts no
line of its own.

Going out, every line is followed by a line feed.  The two directions agree on
lines that hold no break at all (`splitLines_unlines`).
-/

namespace ExMode

/-- Whether a character ends a line. -/
def isLineBreak (c : Char) : Bool :=
  c == '\n' || c == '\r' || c == '\x0b' || c == '\x0c' || c == '\x1c' || c == '\x1d' ||
    c == '\x1e' || c == '\u0085' || c == '\u2028' || c == '\u2029'

namespace Text

/-- Put a character in front of the first line. -/
def consLine (c : Char) : List Text → List Text
  | [] => [[c]]
  | l :: ls => (c :: l) :: ls

/-- The lines of a text, without their breaks. -/
def splitLines : Text → List Text
  | [] => []
  | '\r' :: '\n' :: rest => [] :: splitLines rest
  | c :: rest => if isLineBreak c then [] :: splitLines rest else consLine c (splitLines rest)

/-- The lines in order, each followed by a line feed. -/
def unlines (lines : List Text) : Text := lines.flatMap (· ++ ['\n'])

/-- Every line ending of the three common kinds as a line feed, which is how text files are read. -/
def unifyNewlines : Text → Text
  | [] => []
  | '\r' :: '\n' :: rest => '\n' :: unifyNewlines rest
  | '\r' :: rest => '\n' :: unifyNewlines rest
  | c :: rest => c :: unifyNewlines rest

theorem splitLines_cons_of_not_break {c : Char} (h : isLineBreak c = false) (t : Text) :
    splitLines (c :: t) = consLine c (splitLines t) := by
  have hr : c ≠ '\r' := by rintro rfl; simp [isLineBreak] at h
  rw [splitLines]
  · simp [h]
  · intro rest hc
    exact absurd hc hr

theorem splitLines_cons_newline (t : Text) : splitLines ('\n' :: t) = [] :: splitLines t := by
  simp [splitLines, isLineBreak]

/-- A line without breaks, followed by a line feed, is split off whole. -/
theorem splitLines_append_newline {l : Text} (h : ∀ c ∈ l, isLineBreak c = false) (t : Text) :
    splitLines (l ++ '\n' :: t) = l :: splitLines t := by
  induction l with
  | nil => exact splitLines_cons_newline t
  | cons c l ih =>
    rw [List.cons_append, splitLines_cons_of_not_break (h c (by simp)),
      ih fun d hd => h d (by simp [hd])]
    rfl

/-- Lines without breaks come back from their text. -/
theorem splitLines_unlines {lines : List Text}
    (h : ∀ l ∈ lines, ∀ c ∈ l, isLineBreak c = false) : splitLines (unlines lines) = lines := by
  induction lines with
  | nil => rfl
  | cons l ls ih =>
    have : unlines (l :: ls) = l ++ '\n' :: unlines ls := by simp [unlines]
    rw [this, splitLines_append_newline (h l (by simp)), ih fun m hm => h m (by simp [hm])]

/-- No line of a split text holds a break. -/
theorem not_break_of_mem_splitLines {t l : Text} (h : l ∈ splitLines t) :
    ∀ c ∈ l, isLineBreak c = false := by
  induction t using splitLines.induct generalizing l with
  | case1 => simp [splitLines] at h
  | case2 rest ih =>
    rw [splitLines] at h
    rcases List.mem_cons.1 h with rfl | h
    · simp
    · exact ih h
  | case3 c rest hc hbreak ih =>
    rw [splitLines] at h
    · simp only [hbreak, if_true] at h
      rcases List.mem_cons.1 h with rfl | h
      · simp
      · exact ih h
    · exact hc
  | case4 c rest hc hbreak ih =>
    have hb : isLineBreak c = false := by simpa using hbreak
    rw [splitLines_cons_of_not_break hb] at h
    cases hs : splitLines rest with
    | nil =>
      rw [hs] at h
      simp only [consLine, List.mem_singleton] at h
      subst h
      simp [hb]
    | cons m ms =>
      rw [hs] at h ih
      simp only [consLine, List.mem_cons] at h
      rcases h with rfl | h
      · intro d hd
        rcases List.mem_cons.1 hd with rfl | hd
        · exact hb
        · exact ih (l := m) (by simp) d hd
      · exact ih (by simp [h])

end Text

end ExMode
