import ExMode.Pattern.Magic
import ExMode.Pattern.Template
import ExMode.Proofs.Register
import ExMode.Proofs.Spelling

/-!
# ExMode.Proofs.Replacement

What a replacement stands for.  It is written in template notation first and read from there, which
comes to the same as reading it as it was typed: `&` is the whole match, a digit behind a backslash
a group, `r` and `n` behind a backslash a line break, and anything else stands for itself.

* `Template.readFrom_text` — a template is read from its text, up to groups that are not there;
* `Magic.text_pieces` — a replacement is spelt as the text of its pieces;
* `Magic.ofText_templateText` — so a replacement is read as its pieces, or names a missing group.
-/

namespace ExMode

namespace Pattern

/-- How a piece is written in a template. -/
def Piece.text : Piece → Text
  | .char c => if c = '\\' then ['\\', '\\'] else [c]
  | .group i => '\\' :: 'g' :: '<' :: (Text.ofNat i ++ ['>'])

namespace Template

/-- How a template is written. -/
def text (t : Template) : Text := t.flatMap Piece.text

theorem text_cons (x : Piece) (t : Template) : text (x :: t) = x.text ++ text t :=
  List.flatMap_cons

/-- Whether a template names no group but those that are there. -/
def Fits (groups : Nat) (t : Template) : Prop := ∀ i, .group i ∈ t → i ≤ groups

/-- The refusal of a group that is not there. -/
def missingGroup (i position : Nat) : Refusal :=
  .malformed ("invalid group reference ".toList ++ Text.ofNat i) (some position)

variable {groups fuel place : Nat} {rest : Text}

theorem readFrom_char (c : Char) :
    readFrom groups (fuel + 1) place ((Piece.char c).text ++ rest) =
      (readFrom groups fuel (place + (Piece.char c).text.length) rest).map (.char c :: ·) := by
  by_cases hc : c = '\\'
  · subst hc
    rfl
  · have htext : (Piece.char c).text = [c] := if_neg hc
    rw [htext]
    exact if_pos hc

theorem readFrom_group (i : Nat) :
    readFrom groups (fuel + 1) place ((Piece.group i).text ++ rest) =
      if groups < i then .error (missingGroup i (place + 3))
      else (readFrom groups fuel (place + (Piece.group i).text.length) rest).map
        (.group i :: ·) := by
  have hdigits : ∀ c ∈ Text.ofNat i, isAsciiDigit c = true :=
    fun c hc => Text.isAsciiDigit_of_mem_ofNat hc
  have hname : (Text.ofNat i ++ '>' :: rest).takeWhile (· ≠ '>') = Text.ofNat i := by
    rw [List.takeWhile_append_of_pos]
    · simp
    · intro c hc
      have hne : c ≠ '>' := by
        rintro rfl
        exact absurd (hdigits '>' hc) (by decide)
      simp [hne]
  have hdrop : (Text.ofNat i ++ '>' :: rest).drop (Text.ofNat i).length = '>' :: rest :=
    List.drop_left
  have hgood : ¬ (Text.ofNat i = [] ∨ ! (Text.ofNat i).all isAsciiDigit) := by
    rw [List.all_eq_true.2 hdigits]
    simp [Text.ofNat_ne_nil]
  have hspelt : (Piece.group i).text ++ rest =
      '\\' :: 'g' :: '<' :: (Text.ofNat i ++ '>' :: rest) := by
    simp [Piece.text]
  have hlength : (Piece.group i).text.length = (Text.ofNat i).length + 4 := by
    simp [Piece.text]
  rw [hspelt, hlength, readFrom]
  simp only [hname, hdrop, if_neg hgood, Text.digitsValue_ofNat]
  rfl

/-- Reading a written template gives it back, unless it names a group that is not there. -/
theorem readFrom_text (t : Template) (hfuel : (text t).length ≤ fuel) :
    Fits groups t ∧ readFrom groups fuel place (text t) = .ok t ∨
      ∃ i position, .group i ∈ t ∧ groups < i ∧
        readFrom groups fuel place (text t) = .error (missingGroup i position) := by
  induction t generalizing fuel place with
  | nil =>
    refine Or.inl ⟨nofun, ?_⟩
    cases fuel <;> rfl
  | cons x t ih =>
    have hlength : 0 < x.text.length := by
      cases x with
      | char c =>
        rw [Piece.text]
        split <;> exact Nat.zero_lt_succ _
      | group i => exact Nat.zero_lt_succ _
    rw [text_cons, List.length_append] at hfuel
    obtain ⟨fuel, rfl⟩ := Nat.exists_eq_add_of_lt (Nat.lt_of_lt_of_le hlength
      (Nat.le_of_add_right_le hfuel))
    rw [text_cons, Nat.zero_add]
    have ih := @ih fuel (place + x.text.length) (by omega)
    cases x with
    | char c =>
      rw [readFrom_char]
      obtain ⟨hfits, hread⟩ | ⟨i, position, hi, hlt, hread⟩ := ih
      · refine Or.inl ⟨fun i hi => hfits i ?_, by rw [hread]; rfl⟩
        simpa using hi
      · exact Or.inr ⟨i, position, List.mem_cons_of_mem _ hi, hlt, by rw [hread]; rfl⟩
    | group j =>
      rw [readFrom_group]
      by_cases hj : groups < j
      · exact Or.inr ⟨j, place + 3, List.mem_cons_self, hj, if_pos hj⟩
      rw [if_neg hj]
      obtain ⟨hfits, hread⟩ | ⟨i, position, hi, hlt, hread⟩ := ih
      · refine Or.inl ⟨fun i hi => ?_, by rw [hread]; rfl⟩
        obtain hi | hi := List.mem_cons.1 hi
        · cases hi
          exact Nat.not_lt.1 hj
        · exact hfits i hi
      · exact Or.inr ⟨i, position, List.mem_cons_of_mem _ hi, hlt, by rw [hread]; rfl⟩

end Template

end Pattern

namespace Magic

open Pattern (Piece Template)

/-- What a character behind a backslash stands for in a replacement. -/
def escapedPiece (c : Char) : Piece :=
  if isAsciiDigit c then .group (Text.digitsValue [c])
  else if c = 'r' ∨ c = 'n' then .char '\n'
  else .char c

/-- What a character by itself stands for in a replacement. -/
def plainPiece (c : Char) : Piece := if c = '&' then .group 0 else .char c

/-- What a replacement stands for, as it was typed. -/
def pieces : Text → Template
  | [] => []
  | [c] => [plainPiece c]
  | c :: d :: r =>
    if c = '\\' then escapedPiece d :: pieces r else plainPiece c :: pieces (d :: r)

theorem pieces_cons {c : Char} {t : Text} (h : c ≠ '\\' ∨ t = []) :
    pieces (c :: t) = plainPiece c :: pieces t := by
  cases t with
  | nil => rfl
  | cons d t => rw [pieces, if_neg (h.resolve_right nofun)]

/-- A digit is the printed form of its value. -/
theorem ofNat_digitsValue {c : Char} (h : isAsciiDigit c = true) :
    Text.ofNat (Text.digitsValue [c]) = [c] := by
  have hall : ∀ c ∈ (List.range' 48 10).map Char.ofNat,
      Text.ofNat (Text.digitsValue [c]) = [c] := forall_mem_of_all (by decide +kernel)
  simp only [isAsciiDigit, Bool.and_eq_true, decide_eq_true_eq] at h
  exact hall c (mem_map_range' h.1 h.2)

theorem text_escapedPiece (c : Char) : (escapedPiece c).text = replacementEscape c := by
  unfold escapedPiece replacementEscape
  by_cases hdigit : isAsciiDigit c = true
  · rw [if_pos hdigit, if_pos hdigit, Piece.text, ofNat_digitsValue hdigit]
    rfl
  rw [if_neg hdigit, if_neg hdigit]
  by_cases hbreak : c = 'r' ∨ c = 'n'
  · have hbreak' : (c = 'r' || c = 'n') = true := by simpa using hbreak
    rw [if_pos hbreak, if_pos hbreak']
    rfl
  · have hbreak' : ¬ (c = 'r' || c = 'n') = true := by simpa using hbreak
    rw [if_neg hbreak, if_neg hbreak']
    rfl

theorem text_plainPiece (c : Char) : (plainPiece c).text = replacementPlain c := by
  unfold plainPiece replacementPlain
  by_cases hc : c = '&'
  · rw [if_pos hc, if_pos hc]
    rfl
  · rw [if_neg hc, if_neg hc]
    rfl

/-- Template notation spells the pieces that a replacement is made of. -/
theorem text_pieces (t : Text) : Template.text (pieces t) = templateText t := by
  fun_induction pieces t with
  | case1 => rfl
  | case2 c => rw [Template.text, List.flatMap_singleton, text_plainPiece, templateText]
  | case3 d r ih =>
    rw [Template.text_cons, text_escapedPiece, ih, templateText, if_pos rfl]
  | case4 c d r hc ih =>
    rw [Template.text_cons, text_plainPiece, ih, templateText, if_neg hc]

/-- A replacement is read as the pieces that it is made of, unless it names a group that is not
there. -/
theorem ofText_templateText (groups : Nat) (t : Text) :
    Template.Fits groups (pieces t) ∧ Template.ofText groups (templateText t) = .ok (pieces t) ∨
      ∃ i position, .group i ∈ pieces t ∧ groups < i ∧
        Template.ofText groups (templateText t) = .error (Template.missingGroup i position) := by
  rw [← text_pieces]
  exact Template.readFrom_text (pieces t) (Nat.le_refl _)

example : pieces "\\1, &\\r\\\\".toList =
    [.group 1, .char ',', .char ' ', .group 0, .char '\n', .char '\\'] := by decide

end Magic

end ExMode
