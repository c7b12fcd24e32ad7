import ExMode.Text.Blank
import ExMode.Text.Casing
import ExMode.Text.Letter
import ExMode.Text.Numeral

/-!
# ExMode.Pattern

Search patterns as trees: tests of one character, anchors, sequence and choice,
captured groups, three kinds of repetition, references to earlier groups, and
assertions about what stands before or after.

A tree carries everything that decides what it matches.  Options such as
"ignore case" are written into the nodes they act on, so a part of a pattern
means the same wherever it stands.
-/

namespace ExMode

/-- What a part of a pattern is told about its surroundings. -/
structure PatternOptions where
  ignoreCase : Bool
  multiline : Bool
  dotAll : Bool
  asciiOnly : Bool
  verbose : Bool
  deriving DecidableEq, Repr

/-- No option is on. -/
def PatternOptions.plain : PatternOptions := ⟨false, false, false, false, false⟩

/-! ## tests of one character -/

/-- The named classes of characters. -/
inductive CharClass where
  | digit
  | blank
  | word
  deriving DecidableEq, Repr

/-- Whether a character is of a class. -/
def CharClass.has (asciiOnly : Bool) (c : Char) : CharClass → Bool
  | .digit => if asciiOnly then isAsciiDigit c else isDigit c
  | .blank => if asciiOnly then (9 ≤ c.toNat && c.toNat ≤ 13) || c == ' ' else isBlank c
  | .word => if asciiOnly then isAsciiWordChar c else isWordChar c

/-- A member of a bracketed set.  Members are code points: a set may name ones that no character
has. -/
inductive SetItem where
  | code (n : Nat)
  | range (low high : Nat)
  | named (kind : CharClass) (negated : Bool)
  deriving DecidableEq, Repr

/-- The code points, other than `n` itself, whose lower case is `n`. -/
def upperCodes (n : Nat) : List Nat :=
  (if 97 ≤ n ∧ n ≤ 122 then [n - 32] else []) ++
    caseRuns.filterMap fun r =>
      let m := (n : Int) - r.shift
      if (r.first : Int) ≤ m ∧ m ≤ r.last ∧ (m - r.first) % r.step = 0 then some m.toNat else none

/-- The code points that count as the same letter as `n` when case is ignored. -/
def caseVariants (asciiOnly : Bool) (n : Nat) : List Nat :=
  if asciiOnly then
    if 65 ≤ n ∧ n ≤ 90 then [n, n + 32] else if 97 ≤ n ∧ n ≤ 122 then [n, n - 32] else [n]
  else (letterForms (lowerCode n)).flatMap fun l => l :: upperCodes l

/-- Whether the character is a member of the item, as it stands. -/
def SetItem.has (asciiOnly : Bool) (c : Char) : SetItem → Bool
  | .code n => c.toNat == n
  | .range low high => decide (low ≤ c.toNat) && decide (c.toNat ≤ high)
  | .named kind negated => kind.has asciiOnly c != negated

/-- Whether a code point is a member of the item, as it stands; named classes are left out. -/
def SetItem.hasCode (n : Nat) : SetItem → Bool
  | .code m => n == m
  | .range low high => decide (low ≤ n) && decide (n ≤ high)
  | .named _ _ => false

/-- A test of one character. -/
inductive CharTest where
  /-- Any character, or any but the line feed. -/
  | any
  /-- The character with this code point, or any other. -/
  | code (n : Nat) (negated : Bool)
  /-- A member of a set, or a character outside it. -/
  | set (items : List SetItem) (negated : Bool)
  deriving DecidableEq, Repr

/-- Whether two code points are the same under the options. -/
def PatternOptions.sameCode (o : PatternOptions) (m n : Nat) : Bool :=
  if o.ignoreCase then
    if o.asciiOnly then (caseVariants true m).contains n else sameLetter m n
  else m == n

/-- Whether a character passes a test. -/
def CharTest.accepts (o : PatternOptions) (c : Char) : CharTest → Bool
  | .any => o.dotAll || c != '\n'
  | .code n negated => o.sameCode n c.toNat != negated
  | .set items negated =>
    (items.any fun i => i.has o.asciiOnly c ||
      (o.ignoreCase && (caseVariants o.asciiOnly c.toNat).any fun n => i.hasCode n)) != negated

/-! ## patterns -/

/-- A place without extent. -/
inductive PatternAnchor where
  | lineStart
  | lineEnd
  | textStart
  | textEnd
  | wordBoundary
  | noWordBoundary
  deriving DecidableEq, Repr

/-- How a repetition chooses the number of rounds. -/
inductive Greed where
  /-- As many rounds as possible, fewer when the rest asks for it. -/
  | greedy
  /-- As few rounds as possible, more when the rest asks for it. -/
  | lazy
  /-- As many rounds as possible, and never fewer. -/
  | possessive
  deriving DecidableEq, Repr

/-- The name of a repetition in refusals. -/
def Greed.name : Greed → String
  | .greedy => "MAX_REPEAT"
  | .lazy => "MIN_REPEAT"
  | .possessive => "POSSESSIVE_REPEAT"

/-- A search pattern. -/
inductive Pattern where
  | empty
  | test (options : PatternOptions) (test : CharTest)
  | anchor (options : PatternOptions) (place : PatternAnchor)
  | seq (first second : Pattern)
  | alt (first second : Pattern)
  /-- A group without a number. -/
  | group (inner : Pattern)
  /-- A group whose text is kept under a number. -/
  | capture (index : Nat) (inner : Pattern)
  | repeated (greed : Greed) (least : Nat) (most : Option Nat) (inner : Pattern)
  /-- The text of an earlier group again. -/
  | reference (options : PatternOptions) (index : Nat)
  /-- What follows must match, or must not. -/
  | lookAhead (negated : Bool) (inner : Pattern)
  /-- What stands before must match, or must not; `least` and `most` bound its width. -/
  | lookBehind (negated : Bool) (least most : Nat) (inner : Pattern)
  /-- Once matched, no other way of matching is tried. -/
  | atomic (inner : Pattern)
  /-- One of two patterns, depending on whether a group has matched. -/
  | conditional (index : Nat) (yes no : Pattern)
  deriving DecidableEq, Repr

namespace Pattern

/-- Patterns one after the other. -/
def sequence : List Pattern → Pattern
  | [] => .empty
  | [p] => p
  | p :: ps => .seq p (sequence ps)

/-- One of several patterns, the first that fits. -/
def choice : List Pattern → Pattern
  | [] => .empty
  | [p] => p
  | p :: ps => .alt p (choice ps)

/-- Whether the pattern is a repetition, which cannot be repeated as it stands. -/
def isRepetition : Pattern → Bool
  | .repeated _ _ _ _ => true
  | _ => false

/-- Whether the pattern is an anchor, which cannot be repeated as it stands. -/
def isAnchor : Pattern → Bool
  | .anchor _ _ => true
  | _ => false

/-- Beyond this, widths are not told apart. -/
def maxWidth : Nat := 18446744073709551616

/-- The least and the greatest number of characters that a pattern takes, given the widths of the
groups it may refer to. -/
def width (groups : List (Nat × Nat × Nat)) : Pattern → Nat × Nat
  | .empty => (0, 0)
  | .test _ _ => (1, 1)
  | .anchor _ _ => (0, 0)
  | .seq p q =>
    (min ((p.width groups).1 + (q.width groups).1) maxWidth,
      min ((p.width groups).2 + (q.width groups).2) maxWidth)
  | .alt p q =>
    (min (p.width groups).1 (q.width groups).1, max (p.width groups).2 (q.width groups).2)
  | .group p => p.width groups
  | .capture _ p => p.width groups
  | .repeated _ least most p =>
    (min ((p.width groups).1 * least) maxWidth,
      match most with
      | none => if (p.width groups).2 = 0 then 0 else maxWidth
      | some n => min ((p.width groups).2 * n) maxWidth)
  | .reference _ i => (groups.lookup i).getD (0, 0)
  | .lookAhead _ _ => (0, 0)
  | .lookBehind _ _ _ _ => (0, 0)
  | .atomic p => p.width groups
  | .conditional _ p q =>
    (min (p.width groups).1 (q.width groups).1, max (p.width groups).2 (q.width groups).2)

/-- A look behind goes back no more characters than this. -/
def maxLookBehind : Nat := 4294967295

/-- What keeps a look behind from being carried out that takes from `least` to `most` characters. -/
def lookBehindRefusal? (least most : Nat) : Option Text :=
  if maxLookBehind < least then some "looks too much behind".toList
  else if least ≠ most then some "look-behind requires fixed-width pattern".toList
  else none

/-- What keeps a pattern from being carried out: what is wrong with the first part of it that cannot
be.  A pattern that is a mere `template` may not repeat anything. -/
def refusal? (template : Bool) : Pattern → Option Text
  | .seq p q => (p.refusal? template).or (q.refusal? template)
  | .alt p q => (p.refusal? template).or (q.refusal? template)
  | .group p => p.refusal? template
  | .capture _ p => p.refusal? template
  | .repeated greed _ _ p =>
    if template then some ("internal: unsupported template operator " ++ greed.name).toList
    else p.refusal? template
  | .lookAhead _ p => p.refusal? template
  | .lookBehind _ least most p => (lookBehindRefusal? least most).or (p.refusal? template)
  | .atomic p => p.refusal? template
  | .conditional _ p q => (p.refusal? template).or (q.refusal? template)
  | _ => none

end Pattern

end ExMode
