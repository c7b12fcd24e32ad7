import ExMode.Pattern

/-!
# ExMode.Pattern.Matcher

Matching a pattern against a line.  A match is looked for in a fixed order: at
the leftmost place, the first alternative, the greedy or lazy count first; what
comes after a part of the pattern is a function that says whether the rest fits,
and a part that finds no way to satisfy it gives up.

A repetition stops when a round took no characters, so the number of rounds is
bounded by what is left of the line, and every function here is a structural
recursion.
-/

namespace ExMode

/-- A place in a line: what stands before it, nearest character first, what stands after it, and
the texts of the groups matched so far. -/
structure Place where
  before : Text
  after : Text
  groups : List (Nat × Text)
  deriving DecidableEq, Repr

namespace Place

/-- The start of a line. -/
def start (line : Text) : Place := ⟨[], line, []⟩

/-- The text between a place and a later one. -/
def textTo (s e : Place) : Text := s.after.take (s.after.length - e.after.length)

/-- The place `n` characters further. -/
def advance : Nat → Place → Place
  | 0, s => s
  | n + 1, s =>
    match s.after with
    | [] => s
    | c :: r => advance n { s with before := c :: s.before, after := r }

/-- The place `n` characters back, if there are that many. -/
def back? : Nat → Place → Option Place
  | 0, s => some s
  | n + 1, s =>
    match s.before with
    | [] => none
    | c :: r => back? n { s with before := r, after := c :: s.after }

/-- The text of a group, if it has matched. -/
def group? (s : Place) (i : Nat) : Option Text := s.groups.lookup i

end Place

namespace Pattern

/-- Whether the rest of a pattern fits from a place on, and where it ends. -/
abbrev Rest := Place → Option Place

/-- Whether an anchor holds at a place. -/
def anchorHolds (o : PatternOptions) (s : Place) : PatternAnchor → Bool
  | .lineStart => s.before == [] || (o.multiline && s.before.head? == some '\n')
  | .lineEnd =>
    s.after == [] || s.after == ['\n'] || (o.multiline && s.after.head? == some '\n')
  | .textStart => s.before == []
  | .textEnd => s.after == []
  | .wordBoundary => ! (s.before == [] && s.after == []) && wordBefore o s != wordAfter o s
  | .noWordBoundary => ! (s.before == [] && s.after == []) && wordBefore o s == wordAfter o s
where
  /-- Whether the character before the place is part of a word. -/
  wordBefore (o : PatternOptions) (s : Place) : Bool :=
    s.before.head?.any fun c => CharClass.word.has o.asciiOnly c
  /-- Whether the character after the place is part of a word. -/
  wordAfter (o : PatternOptions) (s : Place) : Bool :=
    s.after.head?.any fun c => CharClass.word.has o.asciiOnly c

/-- Whether another round is allowed after `count` rounds. -/
def belowMost (count : Nat) : Option Nat → Bool
  | none => true
  | some most => decide (count < most)

/-- Rounds of `body`, as many as possible. -/
def greedyRounds (body : Place → Rest → Option Place) (least : Nat) (most : Option Nat)
    (k : Rest) : Nat → Nat → Option Nat → Place → Option Place
  | 0, _, _, s => k s
  | fuel + 1, count, last, s =>
    if count < least then
      body s (greedyRounds body least most k fuel (count + 1) last)
    else if belowMost count most && last != some s.after.length then
      match body s (greedyRounds body least most k fuel (count + 1) (some s.after.length)) with
      | some e => some e
      | none => k s
    else k s

/-- Rounds of `body`, as few as possible. -/
def lazyRounds (body : Place → Rest → Option Place) (least : Nat) (most : Option Nat)
    (k : Rest) : Nat → Nat → Option Nat → Place → Option Place
  | 0, _, _, s => k s
  | fuel + 1, count, last, s =>
    if count < least then
      body s (lazyRounds body least most k fuel (count + 1) last)
    else
      match k s with
      | some e => some e
      | none =>
        if belowMost count most && last != some s.after.length then
          body s (lazyRounds body least most k fuel (count + 1) (some s.after.length))
        else none

/-- Rounds of `body`, each taken the first way it matches, as many as possible. -/
def possessiveRounds (body : Place → Rest → Option Place) (least : Nat) (most : Option Nat) :
    Nat → Nat → Option Nat → Place → Option Place
  | 0, _, _, s => some s
  | fuel + 1, count, last, s =>
    if count < least then
      match body s some with
      | some e => possessiveRounds body least most fuel (count + 1) last e
      | none => none
    else if belowMost count most && last != some s.after.length then
      match body s some with
      | some e => possessiveRounds body least most fuel (count + 1) (some s.after.length) e
      | none => some s
    else some s

/-- Enough rounds for any repetition at a place: the required ones, one for each character that
is left, and an empty one. -/
def roundsAt (least : Nat) (s : Place) : Nat := least + s.after.length + 2

/-- Take a text from a place, up to case if the options say so. -/
def takeText (o : PatternOptions) : Text → Place → Option Place
  | [], s => some s
  | c :: t, s =>
    match s.after with
    | [] => none
    | d :: r =>
      let same := if o.ignoreCase then
          (if o.asciiOnly then lowerAscii c == lowerAscii d
            else lowerCode c.toNat == lowerCode d.toNat)
        else c == d
      if same then takeText o t { s with before := d :: s.before, after := r } else none

/-- Match a pattern at a place, so that the rest fits too. -/
def run : Pattern → Place → Rest → Option Place
  | .empty, s, k => k s
  | .test o t, s, k =>
    match s.after with
    | [] => none
    | c :: r => if t.accepts o c then k { s with before := c :: s.before, after := r } else none
  | .anchor o a, s, k => if anchorHolds o s a then k s else none
  | .seq p q, s, k => p.run s fun e => q.run e k
  | .alt p q, s, k =>
    match p.run s k with
    | some e => some e
    | none => q.run s k
  | .group p, s, k => p.run s k
  | .capture i p, s, k =>
    p.run s fun e => k { e with groups := (i, s.textTo e) :: e.groups }
  | .repeated .greedy least most p, s, k =>
    greedyRounds p.run least most k (roundsAt least s) 0 none s
  | .repeated .lazy least most p, s, k =>
    lazyRounds p.run least most k (roundsAt least s) 0 none s
  | .repeated .possessive least most p, s, k =>
    match possessiveRounds p.run least most (roundsAt least s) 0 none s with
    | some e => k e
    | none => none
  | .reference o i, s, k =>
    match s.group? i with
    | none => none
    | some t =>
      match takeText o t s with
      | some e => k e
      | none => none
  | .lookAhead negated p, s, k =>
    match p.run s some with
    | some e => if negated then none else k { s with groups := e.groups }
    | none => if negated then k s else none
  | .lookBehind negated least _ p, s, k =>
    match s.back? least with
    | none => if negated then k s else none
    | some b =>
      match p.run b some with
      | some e => if negated then none else k { s with groups := e.groups }
      | none => if negated then k s else none
  | .atomic p, s, k =>
    match p.run s some with
    | some e => k e
    | none => none
  | .conditional i p q, s, k =>
    match s.group? i with
    | some _ => p.run s k
    | none => q.run s k

/-! ## searching a line -/

/-- A match: where it starts, where it ends, and the groups at its end. -/
structure Match where
  start : Place
  stop : Place
  deriving DecidableEq, Repr

/-- The text of a match. -/
def Match.text (m : Match) : Text := m.start.textTo m.stop

/-- Whether a match takes no characters. -/
def Match.isEmpty (m : Match) : Bool := m.start.after.length == m.stop.after.length

/-- The text of a group of a match; group zero is the whole match, and a group that took no part
is empty. -/
def Match.groupText (m : Match) (i : Nat) : Text :=
  if i = 0 then m.text else (m.stop.group? i).getD []

/-- Match at a place; `nonempty` asks for a match that takes characters. -/
def matchAt? (p : Pattern) (nonempty : Bool) (s : Place) : Option Match :=
  (p.run s fun e => if nonempty && e.after.length == s.after.length then none else some e).map
    fun e => ⟨s, e⟩

/-- The leftmost match from a place on, given by what stands before and after it.  Only at the
first place can a match be asked to take characters. -/
def findFrom (p : Pattern) (nonempty : Bool) (before : Text) : Text → Option Match
  | [] => p.matchAt? nonempty ⟨before, [], []⟩
  | c :: r =>
    match p.matchAt? nonempty ⟨before, c :: r, []⟩ with
    | some m => some m
    | none => findFrom p false (c :: before) r

/-- The matches from a place on, from left to right and without overlap.  A match may be empty,
also right behind another, but not twice at one place. -/
def matchesFrom (p : Pattern) : Nat → Bool → Text → Text → List Match
  | 0, _, _, _ => []
  | fuel + 1, nonempty, before, after =>
    match p.findFrom nonempty before after with
    | none => []
    | some m => m :: matchesFrom p fuel m.isEmpty m.stop.before m.stop.after

/-- All matches in a line.  At most two end at any place. -/
def matchesIn (p : Pattern) (line : Text) : List Match :=
  p.matchesFrom (2 * line.length + 3) false [] line

/-- The first match in a line. -/
def firstIn? (p : Pattern) (line : Text) : Option Match := p.findFrom false [] line

/-- The line from a place on with matches replaced by texts. -/
def spliceFrom : Text → List (Match × Text) → Text
  | after, [] => after
  | after, (m, new) :: ms =>
    after.take (after.length - m.start.after.length) ++ new ++ spliceFrom m.stop.after ms

/-- A line with its first match or all its matches replaced, and the number of replacements. -/
def replaceIn (p : Pattern) (everywhere : Bool) (expand : Match → Text) (line : Text) :
    Text × Nat :=
  let ms := if everywhere then p.matchesIn line else (p.firstIn? line).toList
  (spliceFrom line (ms.map fun m => (m, expand m)), ms.length)

end Pattern

end ExMode
