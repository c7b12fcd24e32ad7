import ExMode.Proofs.Literal

/-!
# ExMode.Proofs.MagicTree

Patterns as they are typed, as trees.  A tree is written down as a list of signs, and a sign is
spelt in one way on the command line and in another for the reader of patterns: what is special
behind a backslash in the one is special without it in the other.  Spelling a pattern anew goes sign
by sign (`Magic.searchText_sign`), so nothing of one sign runs into the next, and a tree is spelt
anew as the same tree (`Magic.searchText_tree`).

A count is spelt with a backslash in front of both of its braces here.
-/

namespace ExMode

namespace Magic

open Pattern (countLimit)

/-! ## trees and their signs -/

/-- How often something stands in a row, as the text between braces. -/
inductive Count where
  | exactly (n : Nat)
  | atLeast (n : Nat)
  | between (n m : Nat)
  deriving DecidableEq, Repr

namespace Count

/-- What stands between the braces. -/
def text : Count → Text
  | exactly n => Text.ofNat n
  | atLeast n => Text.ofNat n ++ [',']
  | between n m => Text.ofNat n ++ ',' :: Text.ofNat m

def least : Count → Nat
  | exactly n => n
  | atLeast n => n
  | between n _ => n

def most : Count → Option Nat
  | exactly n => some n
  | atLeast _ => none
  | between _ m => some m

/-- Whether a count has its bounds in order and is not too large to be dealt with. -/
structure Fits (k : Count) : Prop where
  least_lt : k.least < countLimit
  ordered : ∀ m, k.most = some m → k.least ≤ m
  most_lt : ∀ m, k.most = some m → m < countLimit

end Count

/-- How often a part of a pattern is to stand in a row. -/
inductive Times where
  /-- Any number of times, `*`. -/
  | star
  /-- At least once, `\+`. -/
  | plus
  /-- At most once, `\=`. -/
  | maybe
  /-- At most once, `\?`. -/
  | query
  /-- As often as a count says. -/
  | counted (count : Count) (fits : count.Fits)

/-- One character of a pattern. -/
inductive Single where
  | char (c : Char)
  /-- Any character, `.`. -/
  | any
  deriving DecidableEq, Repr

/-- An edge of a word. -/
inductive Edge where
  /-- `\<` -/
  | start
  /-- `\>` -/
  | stop
  deriving DecidableEq, Repr

/-- A pattern, as it is typed. -/
inductive Tree where
  | single (x : Single) (times : Option Times)
  | group (inner : Tree) (times : Option Times)
  | edge (e : Edge)
  | seq (first second : Tree)
  | alt (first second : Tree)

/-- The signs that a pattern is written with. -/
inductive Sign where
  | single (x : Single)
  | times (k : Times)
  | edge (e : Edge)
  | opening
  | closing
  | bar

/-- The signs of a tree, from left to right. -/
def Tree.signs : Tree → List Sign
  | single x k => .single x :: k.toList.map .times
  | group t k => .opening :: (t.signs ++ .closing :: k.toList.map .times)
  | edge e => [.edge e]
  | seq t u => t.signs ++ u.signs
  | alt t u => t.signs ++ .bar :: u.signs

namespace Sign

/-- A sign as it is typed. -/
def typed : Sign → Text
  | single (.char c) => if isMagic c then ['\\', c] else [c]
  | single .any => ['.']
  | times .star => ['*']
  | times .plus => ['\\', '+']
  | times .maybe => ['\\', '=']
  | times .query => ['\\', '?']
  | times (.counted k _) => '\\' :: '{' :: (k.text ++ ['\\', '}'])
  | edge .start => ['\\', '<']
  | edge .stop => ['\\', '>']
  | opening => ['\\', '(']
  | closing => ['\\', ')']
  | bar => ['\\', '|']

/-- A sign as the reader of patterns has it. -/
def bare : Sign → Text
  | single (.char c) => if isSpecial c then ['\\', c] else [c]
  | single .any => ['.']
  | times .star => ['*']
  | times .plus => ['+']
  | times .maybe => ['?']
  | times .query => ['?']
  | times (.counted k _) => '{' :: (k.text ++ ['}'])
  | edge _ => ['\\', 'b']
  | opening => ['(']
  | closing => [')']
  | bar => ['|']

end Sign

/-- Signs as they are typed. -/
def typed (xs : List Sign) : Text := xs.flatMap Sign.typed

/-- Signs as the reader of patterns has them. -/
def bare (xs : List Sign) : Text := xs.flatMap Sign.bare

/-! ## spelling signs anew -/

/-- What is special neither behind a backslash nor without it is kept. -/
theorem searchText_kept {u : Text} (hu : ∀ c ∈ u, isSpecial c = false) (t : Text) :
    searchText (u ++ t) = (u ++ (searchText t).1, (searchText t).2) := by
  induction u with
  | nil => rfl
  | cons c u ih =>
    obtain ⟨hc, hu⟩ := List.forall_mem_cons.1 hu
    have hne : c ≠ '\\' := by
      rintro rfl
      exact Bool.false_ne_true hc.symm
    have hswap : isSwapped c = false := (Bool.or_eq_false_iff.1 hc).2
    rw [List.cons_append, searchText_cons hne, ih hu, plainText, hswap]
    rfl

theorem isSpecial_eq_false_of_isAsciiDigit {c : Char} (h : isAsciiDigit c = true) :
    isSpecial c = false := by
  refine eq_false_of_ne_true fun hc => ?_
  simp only [isSpecial, isMagic, isSwapped, Bool.or_eq_true, beq_iff_eq] at hc
  obtain (((((((rfl | rfl) | rfl) | rfl) | rfl) | rfl) | rfl) | rfl) |
    ((((((rfl | rfl) | rfl) | rfl) | rfl) | rfl) | rfl) := hc <;> cases h

/-- Between braces stand digits and commas. -/
theorem Count.isSpecial_text (k : Count) : ∀ c ∈ k.text, isSpecial c = false := by
  have hdigits (n : Nat) : ∀ c ∈ Text.ofNat n, isSpecial c = false := fun c hc =>
    isSpecial_eq_false_of_isAsciiDigit (Text.isAsciiDigit_of_mem_ofNat hc)
  have hcomma : isSpecial ',' = false := rfl
  cases k with
  | exactly n => exact hdigits n
  | atLeast n => exact List.forall_mem_append.2 ⟨hdigits n, by simpa using hcomma⟩
  | between n m =>
    exact List.forall_mem_append.2 ⟨hdigits n, List.forall_mem_cons.2 ⟨hcomma, hdigits m⟩⟩

/-- A count starts with a digit. -/
theorem Count.exists_text (k : Count) : ∃ c t, k.text = c :: t ∧ isAsciiDigit c = true := by
  have hdigits (n : Nat) (t : Text) :
      ∃ c u, Text.ofNat n ++ t = c :: u ∧ isAsciiDigit c = true := by
    obtain ⟨c, u, hc⟩ := List.exists_cons_of_ne_nil (Text.ofNat_ne_nil n)
    refine ⟨c, u ++ t, by rw [hc, List.cons_append], Text.isAsciiDigit_of_mem_ofNat (n := n) ?_⟩
    rw [hc]
    exact List.mem_cons_self
  cases k with
  | exactly n => simpa [Count.text] using hdigits n []
  | atLeast n => exact hdigits n [',']
  | between n m => exact hdigits n (',' :: Text.ofNat m)

theorem Count.text_append_ne (k : Count) (t : Text) : k.text ++ t ≠ ['\\'] := by
  obtain ⟨c, u, hc, hdigit⟩ := k.exists_text
  rw [hc]
  intro heq
  rw [(List.cons.inj heq).1] at hdigit
  exact absurd hdigit (by decide)

/-- A sign is spelt anew by itself, whatever follows it. -/
theorem searchText_sign (x : Sign) (t : Text) :
    searchText (x.typed ++ t) = (x.bare ++ (searchText t).1, (searchText t).2) := by
  cases x with
  | single x =>
    cases x with
    | char c => exact searchText_char c t
    | any => exact searchText_cons (by decide) t
  | times k =>
    cases k with
    | star => exact searchText_cons (by decide) t
    | plus | maybe | query => exact searchText_escape (by decide) t
    | counted k _ =>
      have hopening := searchText_escape (c := '{') (by decide) (k.text ++ ('\\' :: '}' :: t))
      have hclosing := searchText_escape (c := '}') (by decide) t
      rw [searchText_kept k.isSpecial_text, hclosing] at hopening
      simpa [Sign.typed, Sign.bare, escapeText, isSwapped] using hopening
  | edge e => cases e <;> exact searchText_escape (by decide) t
  | opening | closing | bar => exact searchText_escape (by decide) t

theorem searchText_typed (xs : List Sign) (t : Text) :
    searchText (typed xs ++ t) = (bare xs ++ (searchText t).1, (searchText t).2) := by
  induction xs with
  | nil => rfl
  | cons x xs ih =>
    rw [typed, List.flatMap_cons, List.append_assoc, searchText_sign]
    rw [typed] at ih
    rw [ih, bare, bare, List.flatMap_cons, List.append_assoc]

/-- Signs are spelt anew one by one. -/
theorem searchText_signs (xs : List Sign) : searchText (typed xs) = (bare xs, false) := by
  have h := searchText_typed xs []
  rwa [List.append_nil, searchText, List.append_nil] at h

/-- A tree is spelt anew as the same tree, and asks for nothing; with `\c` between any two of its
signs, or at either end, it is spelt as the same tree and asks for case to be ignored. -/
theorem searchText_tree (t : Tree) :
    searchText (typed t.signs) = (bare t.signs, false) ∧
      ∀ n, searchText (typed (t.signs.take n) ++ '\\' :: 'c' :: typed (t.signs.drop n)) =
        (bare t.signs, true) := by
  refine ⟨searchText_signs t.signs, fun n => ?_⟩
  rw [searchText_typed, searchText, if_pos rfl, if_pos rfl, searchText_signs, bare, bare, bare,
    ← List.flatMap_append, List.take_append_drop]

example :
    let t : Tree := .group (.alt (.single (.char '(') none) (.single .any none)) (some .plus)
    typed t.signs = "\\((\\|.\\)\\+".toList ∧ bare t.signs = "(\\(|.)+".toList := by decide

end Magic

end ExMode
