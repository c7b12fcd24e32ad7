import ExMode.Json
import ExMode.Proofs.Effect

/-!
# ExMode.Proofs.JsonReader

Why a text is no document in JSON.  Nearly always it is not of the format.  Apart
from that there are two limits that a text of the format can pass: a number may be
too long to be converted, and too many brackets may be open at once.  Either takes
a text that holds as many digits, or as many brackets (`Json.Grounds`).

`Json.Leaves n t` says of a step of reading `t`, with `n` brackets that may still be
opened, that it leaves an end of `t`, or refuses for these reasons.  The reader of
whole documents has three parts that call each other, and all three are reached by
one induction on the fuel they share (`leavesAll`).
-/

namespace ExMode.Json

open Document

/-- Whether a character opens a list or a mapping. -/
def isOpening (c : Char) : Bool := c == '[' || c == '\x7b'

/-- Why a text is refused in which so many brackets may be opened. -/
inductive Grounds (openable : Nat) (t : Text) : Refusal → Prop
  | malformed : Grounds openable t .malformed
  | numeral {n : Nat} : Text.maxNumeralDigits < n → n ≤ t.countP isAsciiDigit →
      Grounds openable t (.fault (.numeralTooLong n))
  | nesting (what : String) : openable < t.countP isOpening →
      Grounds openable t (.fault (.nestedTooDeeply what))

theorem Grounds.mono {m n : Nat} {s t : Text} {e : Refusal} (h : Grounds m s e)
    (hdigits : s.countP isAsciiDigit ≤ t.countP isAsciiDigit)
    (hopen : m < s.countP isOpening → n < t.countP isOpening) : Grounds n t e := by
  cases h with
  | malformed => exact .malformed
  | numeral hlong hn => exact .numeral hlong (Nat.le_trans hn hdigits)
  | nesting what hm => exact .nesting what (hopen hm)

/-- What is raised for a text is not said of the file that it is from, so a library remarks
nothing. -/
theorem Grounds.withRemark_eq {n : Nat} {t : Text} {f : Fault} (h : Grounds n t (.fault f))
    (remark : Text) : f.withRemark remark = f := by
  cases h <;> rfl

/-- A step of reading that leaves an end of the text. -/
def Leaves {α : Type} (openable : Nat) (t : Text) : Except Refusal (α × Text) → Prop :=
  Yields (fun x => x.2 <:+ t) (Grounds openable t)

section

variable {α β : Type} {n : Nat} {r s t : Text}

theorem Leaves.mono {x : Except Refusal (α × Text)} (h : Leaves n s x) (hs : s <:+ t) :
    Leaves n t x :=
  Yields.mono h (fun _ ha => ha.trans hs) fun _ he =>
    he.mono hs.sublist.countP_le fun hn => Nat.lt_of_lt_of_le hn hs.sublist.countP_le

/-- What comes after one step is done with what that leaves. -/
theorem Leaves.bind {x : Except Refusal (α × Text)} {f : α × Text → Except Refusal (β × Text)}
    (hx : Leaves n t x) (hf : ∀ a r, r <:+ t → Leaves n r (f (a, r))) : Leaves n t (x >>= f) :=
  Yields.bind hx fun a ha => (hf a.1 a.2 ha).mono ha

theorem leaves_ok {a : α} (h : r <:+ t) : Leaves n t (.ok (a, r)) := h

theorem leaves_malformed : Leaves n t (.error .malformed : Except Refusal (α × Text)) := .malformed

/-- Inside a bracket one bracket less may be opened. -/
theorem Leaves.inside {c : Char} {x : Except Refusal (α × Text)} (h : Leaves (n - 1) s x)
    (hc : isOpening c = true) (hs : s <:+ r) : Leaves n (c :: r) x := by
  have hopen : s.countP isOpening < (c :: r).countP isOpening := by
    rw [List.countP_cons_of_pos hc]
    exact Nat.lt_succ_of_le hs.sublist.countP_le
  have hall : s <:+ c :: r := hs.trans (List.suffix_cons c r)
  exact Yields.mono h (fun _ ha => ha.trans hall) fun _ he =>
    he.mono hall.sublist.countP_le fun hless => Nat.lt_of_le_of_lt (Nat.le_of_pred_lt hless) hopen

/-- There is a bracket where none may be opened. -/
theorem leaves_tooDeep {c : Char} (hc : isOpening c = true) (hn : n = 0) (what : String) :
    Leaves n (c :: r) (.error (tooDeep what) : Except Refusal (α × Text)) := by
  subst hn
  exact .nesting _ (List.countP_pos_iff.2 ⟨c, List.mem_cons_self, hc⟩)

theorem skipLayout_suffix (t : Text) : skipLayout t <:+ t := List.dropWhile_suffix _

theorem suffix_of_skipLayout {c : Char} (h : skipLayout r = c :: s) : s <:+ r :=
  (List.suffix_cons c s).trans (h ▸ skipLayout_suffix r)

/-- What is read past layout, a character and layout. -/
theorem Leaves.past {c : Char} {x : Except Refusal (α × Text)} (h : Leaves n (skipLayout s) x)
    (hs : skipLayout r = c :: s) : Leaves n r x :=
  h.mono ((skipLayout_suffix s).trans (suffix_of_skipLayout hs))

/-! ## strings -/

theorem Leaves.consCode {x : Except Refusal (List Nat × Text)} (h : Leaves n s x) (hs : s <:+ t)
    (m : Nat) : Leaves n t (consCode m x) :=
  Yields.map (h.mono hs) fun _ ha => ha

theorem leaves_stringCodes (t : Text) : Leaves n t (stringCodes t) := by
  fun_induction stringCodes t with
  | case1 => exact leaves_malformed
  | case2 r => exact leaves_ok (List.suffix_cons _ r)
  | case3 a b c d r m _ ih => exact ih.consCode (List.suffix_append ['\\', 'u', a, b, c, d] r) m
  | case4 => exact leaves_malformed
  | case5 c r _ m _ ih => exact ih.consCode (List.suffix_append ['\\', c] r) m
  | case6 => exact leaves_malformed
  | case7 => exact leaves_malformed
  | case8 c r _ _ _ _ ih => exact ih.consCode (List.suffix_cons c r) c.toNat

theorem leaves_stringRest (t : Text) : Leaves n t (stringRest t) :=
  (leaves_stringCodes t).bind fun _ _ _ => leaves_ok List.suffix_rfl

/-! ## numbers -/

theorem fraction_suffix (t : Text) : (fraction t).2 <:+ t := by
  unfold fraction
  split
  · split
    · exact List.suffix_rfl
    · exact (List.dropWhile_suffix _).trans (List.suffix_cons _ _)
  · exact List.suffix_rfl

theorem exponent?_suffix {x : Int × Text} (h : exponent? t = some x) : x.2 <:+ t := by
  unfold exponent? at h
  split at h
  · rename_i e r
    dsimp only at h
    split at h
    · split at h <;> obtain ⟨-, h⟩ := Option.ite_none_left_eq_some.1 h <;> cases h <;>
        refine (List.dropWhile_suffix _).trans ?_
      · exact List.suffix_append [e, '-'] _
      · exact List.suffix_append [e, '+'] _
      · exact List.suffix_cons e r
    · cases h
  · cases h

/-- The digits before the point are digits of the text. -/
theorem length_integerDigits_le (t : Text) :
    (integerDigits t).length ≤ t.countP isAsciiDigit := by
  unfold integerDigits
  split
  · rw [List.countP_cons_of_pos (by decide)]
    exact Nat.le_add_left 1 _
  · have hall : ∀ c ∈ frontDigits t, isAsciiDigit c = true := List.all_eq_true.1 List.all_takeWhile
    rw [← List.countP_eq_length.2 hall]
    exact (List.takeWhile_prefix _).sublist.countP_le

theorem leaves_numberRest (negative : Bool) (t : Text) : Leaves n t (numberRest negative t) := by
  unfold numberRest
  dsimp only
  split
  · exact leaves_malformed
  · have hrest : (fraction (t.drop (integerDigits t).length)).2 <:+ t :=
      (fraction_suffix _).trans (List.drop_suffix _ _)
    split
    · split
      · exact leaves_ok hrest
      · rename_i hf
        unfold Text.readNumeral Text.numeral at hf
        split at hf
        · rename_i hlong
          cases hf
          exact .numeral hlong (length_integerDigits_le t)
        · cases hf
    · cases hexponent : exponent? (fraction (t.drop (integerDigits t).length)).2 with
      | none => exact leaves_ok hrest
      | some x => exact leaves_ok ((exponent?_suffix hexponent).trans hrest)

theorem leaves_word (w : String) (d : Document) (t : Text) : Leaves n t (word w d t) := by
  unfold word
  split
  · exact leaves_ok (List.drop_suffix _ _)
  · exact leaves_malformed

end

/-! ## documents -/

/-- What the three parts of the reader leave with some fuel. -/
structure LeavesAll (fuel : Nat) : Prop where
  value : ∀ n t, Leaves n t (value fuel n t)
  items : ∀ n t, Leaves n t (items fuel n t)
  members : ∀ n before t, Leaves n t (members fuel n before t)

section

variable {fuel : Nat} (h : LeavesAll fuel) (n : Nat) (t : Text)

include h

theorem LeavesAll.value_succ : Leaves n t (Json.value (fuel + 1) n t) := by
  unfold Json.value
  split
  case h_1 r =>
    exact ((leaves_stringRest r).mono (List.suffix_cons _ r)).bind fun _ _ _ =>
      leaves_ok List.suffix_rfl
  case h_2 r =>
    split
    · rename_i hn
      exact leaves_tooDeep rfl hn _
    · split
      · rename_i hr
        exact leaves_ok ((suffix_of_skipLayout hr).trans (List.suffix_cons _ r))
      · refine Leaves.inside ?_ rfl (skipLayout_suffix r)
        exact (h.items _ _).bind fun _ _ _ => leaves_ok List.suffix_rfl
  case h_3 r =>
    split
    · rename_i hn
      exact leaves_tooDeep rfl hn _
    · split
      · rename_i hr
        exact leaves_ok ((suffix_of_skipLayout hr).trans (List.suffix_cons _ r))
      · refine Leaves.inside ?_ rfl (skipLayout_suffix r)
        exact (h.members _ _ _).bind fun _ _ _ => leaves_ok List.suffix_rfl
  case h_10 r _ => exact (leaves_numberRest true r).mono (List.suffix_cons _ r)
  case h_11 => exact leaves_numberRest false t
  all_goals exact leaves_word _ _ _

theorem LeavesAll.items_succ : Leaves n t (Json.items (fuel + 1) n t) := by
  unfold Json.items
  refine (h.value n t).bind fun d r hr => ?_
  dsimp only
  split
  · rename_i hbracket
    exact leaves_ok (suffix_of_skipLayout hbracket)
  · rename_i hcomma
    exact ((h.items n _).past hcomma).bind fun _ _ _ => leaves_ok List.suffix_rfl
  · exact leaves_malformed

theorem LeavesAll.members_succ (before : List (Document × Document)) :
    Leaves n t (Json.members (fuel + 1) n before t) := by
  unfold Json.members
  split
  · rename_i r
    refine ((leaves_stringRest r).mono (List.suffix_cons _ r)).bind fun k r _ => ?_
    dsimp only
    split
    · rename_i hcolon
      refine ((h.value n _).past hcolon).bind fun v r _ => ?_
      dsimp only
      split
      · rename_i hbrace
        exact leaves_ok (suffix_of_skipLayout hbrace)
      · rename_i hcomma
        exact (h.members n _ _).past hcomma
      · exact leaves_malformed
    · exact leaves_malformed
  · exact leaves_malformed

end

theorem leavesAll (fuel : Nat) : LeavesAll fuel := by
  induction fuel with
  | zero => exact ⟨fun _ _ => leaves_malformed, fun _ _ => leaves_malformed,
      fun _ _ _ => leaves_malformed⟩
  | succ fuel ih =>
    exact ⟨ih.value_succ, ih.items_succ, fun n before t => ih.members_succ n t before⟩

/-- Why a text is no document. -/
theorem grounds_of_read {t : Text} {e : Refusal} (h : read t = .error e) :
    Grounds maxDepth t e := by
  have hvalue : Leaves maxDepth t (value (2 * t.length + 2) maxDepth (skipLayout t)) :=
    ((leavesAll _).value _ _).mono (skipLayout_suffix t)
  have hread : Yields (fun _ => True) (Grounds maxDepth t) (read t) := by
    refine Yields.bind hvalue fun x _ => ?_
    obtain ⟨d, r⟩ := x
    dsimp only
    split
    · trivial
    · exact .malformed
  rw [h] at hread
  exact hread

end ExMode.Json
