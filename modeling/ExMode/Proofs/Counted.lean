import ExMode.Proofs.Taking
import ExMode.Proofs.TreeReader

/-!
# ExMode.Proofs.Counted

Counts and word edges in a pattern, as they are typed.

A count belongs between braces that both have a backslash.  Then a part of a pattern is taken as
often as the count says.  Without a backslash the closing brace is an ordinary character, and so are
the opening brace and the count in front of it: the part is taken once, and the text of the count
behind it.

Both edges of a word are read as a word boundary, which is where a run of the characters of words
begins or ends; they are not told apart.

* `Pattern.closed_blind` — nothing that is read from a tree looks at the groups that have matched;
* `Pattern.ofText_part`, `Pattern.ofText_unclosed` — the two spellings of a count;
* `Pattern.counted_taken` — what counts and edges take.
-/

namespace ExMode

namespace Magic

/-- A part of a pattern that can be counted. -/
inductive Part where
  | single (x : Single)
  | group (inner : Tree)

/-- The tree of a part that is to be taken as often as is asked for. -/
def Part.tree : Part → Option Times → Tree
  | single x, k => .single x k
  | group t, k => .group t k

/-- A part as it is typed. -/
def Part.typed (x : Part) : Text := Magic.typed (x.tree none).signs

/-- A count between braces. -/
def Count.braced (k : Count) : Text := '{' :: (k.text ++ ['}'])

end Magic

namespace Place

/-- Whether the character in front of a place belongs to a word. -/
def WordBefore (s : Place) : Prop := ∃ c, s.before.head? = some c ∧ isWordChar c = true

/-- Whether the character behind a place belongs to a word. -/
def WordAfter (s : Place) : Prop := ∃ c, s.after.head? = some c ∧ isWordChar c = true

/-- Whether a run of characters of words begins at a place, so that it goes no further back. -/
def WordStarts (s : Place) : Prop := ¬ s.WordBefore ∧ s.WordAfter

/-- Whether a run of characters of words ends at a place, so that it goes no further on. -/
def WordStops (s : Place) : Prop := s.WordBefore ∧ ¬ s.WordAfter

end Place

namespace Pattern

open Magic (Count Part Sign Times Tree bare searchText)

variable {s : Place} {u : Text}

/-! ## what is taken -/

theorem takes_literal {t : Text} : (literal t).Takes s u ↔ u = t ∧ t <+: s.after := by
  have hends (e : Place) : (literal t).EndsAt s e ↔ t <+: s.after ∧ s.past t = e := by
    rw [EndsAt, run_literal]
    split
    · rename_i h
      exact (isSome_only e _).trans (by simp [h, Place.past])
    · rename_i h
      simp [h]
  simp only [Takes, hends]
  constructor
  · rintro ⟨e, ⟨⟨r, hr⟩, rfl⟩, hu⟩
    have hafter : (s.past t).after = r := by simp [Place.past, ← hr]
    rw [hafter, ← hr] at hu
    exact ⟨(List.append_cancel_right hu).symm, r, hr⟩
  · rintro ⟨rfl, r, hr⟩
    have hafter : (s.past u).after = r := by simp [Place.past, ← hr]
    exact ⟨s.past u, ⟨⟨r, hr⟩, rfl⟩, by rw [hafter, hr]⟩

theorem blind_literal (t : Text) : (literal t).Blind := by
  intro s groups u
  rw [takes_literal, takes_literal]

theorem blind_anchor (o : PatternOptions) (a : PatternAnchor) : (anchor o a).Blind := by
  intro s groups u
  rw [takes_anchor, takes_anchor]
  cases a <;> exact Iff.rfl

/-- Nothing that is read from a tree looks at the groups that have matched. -/
theorem closed_blind : Closed Blind where
  empty := blind_literal []
  test t := blind_test _ t
  edge := blind_anchor _ _
  seq hp hq := hp.seq hq
  alt hp hq := hp.alt hq
  capture i hp := hp.capture i
  repeated hbounds hp := hp.repeated hbounds

/-- A word boundary is where a run of characters of words begins or ends. -/
theorem takes_wordBoundary : (anchor .plain .wordBoundary).Takes s u ↔
    u = [] ∧ (s.WordStarts ∨ s.WordStops) := by
  have hbefore : anchorHolds.wordBefore .plain s = true ↔ s.WordBefore := by
    simp [anchorHolds.wordBefore, Place.WordBefore, CharClass.has, PatternOptions.plain,
      Option.any_eq_true]
  have hafter : anchorHolds.wordAfter .plain s = true ↔ s.WordAfter := by
    simp [anchorHolds.wordAfter, Place.WordAfter, CharClass.has, PatternOptions.plain,
      Option.any_eq_true]
  -- in an empty line there is no word on either side
  have hholds : anchorHolds .plain s .wordBoundary =
      (anchorHolds.wordBefore .plain s != anchorHolds.wordAfter .plain s) := by
    obtain ⟨before, after, groups⟩ := s
    cases before <;> cases after <;>
      simp [anchorHolds, anchorHolds.wordBefore, anchorHolds.wordAfter]
  rw [takes_anchor, hholds, Place.WordStarts, Place.WordStops, ← hbefore, ← hafter]
  cases anchorHolds.wordBefore .plain s <;> cases anchorHolds.wordAfter .plain s <;> simp

/-! ## reading a count -/

/-- The pattern that a part is read as. -/
def ofPart : Part → Pattern
  | .single x => ofSingle x
  | .group t => .capture 1 (onto t ⟨[], [], 2⟩).pattern

/-- The number of the next group behind a part. -/
def groupBehind : Part → Nat
  | .single _ => 1
  | .group t => (onto t ⟨[], [], 2⟩).nextGroup

theorem onto_part (x : Part) (k : Option Times) :
    onto (x.tree k) ⟨[], [], 1⟩ = ⟨[], [timed k (ofPart x)], groupBehind x⟩ := by
  cases x <;> rfl

theorem Closed.part {P : Pattern → Prop} (hP : Closed P) (x : Part) : P (ofPart x) := by
  cases x with
  | single x => exact hP.single x
  | group t => exact hP.capture 1 (hP.pattern (hP.onto t (Alternatives.all_nil P 2)))

theorem ofText_part (x : Part) (k : Option Times) :
    ofText .plain (bare (x.tree k).signs) = .ok ⟨timed k (ofPart x), groupBehind x - 1⟩ := by
  rw [ofText_tree, onto_part]
  rfl

theorem escaped_cons_append (c : Char) (t z : Text) :
    Magic.escaped Magic.isSpecial (c :: t) ++ z =
      (Sign.single (.char c)).bare ++ (Magic.escaped Magic.isSpecial t ++ z) := by
  rw [escaped_cons, List.append_assoc, bare_char]

theorem follows_escaped {z : Text} (hz : Follows z) (t : Text) :
    Follows (Magic.escaped Magic.isSpecial t ++ z) := by
  cases t with
  | nil => exact hz
  | cons c t =>
    rw [escaped_cons_append]
    exact follows_single (.char c) _

/-- A text with a backslash in front of its special characters is read as its characters. -/
theorem Stage.At.literal {g : Stage} {z : Text} (t : Text)
    (h : g.At (Magic.escaped Magic.isSpecial t ++ z)) (hz : Follows z) (outermost : Bool) :
    g.Reaches outermost z { g.read with parts := (t.map ofChar).reverse ++ g.read.parts } := by
  induction t generalizing g with
  | nil => exact ⟨g, rfl, h, rfl⟩
  | cons c t ih =>
    have hsign : bare (Tree.single (.char c) none).signs = (Sign.single (.char c)).bare :=
      List.flatMap_singleton _ _
    rw [escaped_cons_append, ← hsign] at h
    refine (At.tree (.single (.char c) none) h (follows_escaped hz t) outermost).trans
      fun g' h' hread => ?_
    have hrest := ih h'
    rw [hread] at hrest
    rw [List.map_cons, List.reverse_cons, List.append_assoc]
    exact hrest

/-- With a backslash in front of the opening brace only, a count is read as its characters. -/
theorem ofText_unclosed (x : Part) (k : Count) :
    ofText .plain (bare (x.tree none).signs ++ '{' :: (k.text ++ ['\\', '}'])) =
      .ok ⟨.seq (ofPart x) (literal k.braced), groupBehind x - 1⟩ := by
  have hbrace : Follows ('{' :: (k.text ++ ['\\', '}'])) :=
    follows_cons (by decide) (by decide) (by decide) _
  have hescaped : Magic.escaped Magic.isSpecial (k.text ++ ['}']) = k.text ++ ['\\', '}'] :=
    Magic.escaped_append_of_none k.isSpecial_text ['}']
  let w : Alternatives := ⟨[], (k.braced.map ofChar).reverse ++ [ofPart x], groupBehind x⟩
  have hpattern : w.pattern = .seq (ofPart x) (literal k.braced) := by
    have hparts : w.parts.reverse = ofPart x :: k.braced.map ofChar := by simp [w]
    rw [Alternatives.pattern, hparts]
    rfl
  have hrefusal : w.pattern.refusal? false = none := by
    rw [hpattern]
    exact Option.or_eq_none_iff.2 ⟨closed_refusal?.part x, refusal?_literal false _⟩
  rw [← hpattern]
  refine ofText_of_stages (follows_tree (x.tree none) _).ne_backslash (fun g hg hread => ?_)
    hrefusal
  refine (Stage.At.tree (x.tree none) hg hbrace true).trans fun g₁ h₁ hread₁ => ?_
  refine (Stage.At.advance (u := ['{']) h₁ nofun (g₁.reading.past 1 _) rfl h₁.options h₁.asked
    h₁.letters (fun fuel _ => run_readSequence_brace k h₁.rest) true).trans fun g₂ h₂ hread₂ => ?_
  rw [hread, onto_part] at hread₁
  have hbehind : g₂.read = ⟨[], [ofChar '{', ofPart x], groupBehind x⟩ :=
    hread₂.trans (congrArg (Alternatives.push · (ofChar '{')) hread₁)
  have hw : w = ⟨[], ((k.text ++ ['}']).map ofChar).reverse ++ [ofChar '{', ofPart x],
      groupBehind x⟩ := by
    simp [w, Count.braced]
  have hrest : g₂.At (Magic.escaped Magic.isSpecial (k.text ++ ['}']) ++ []) := by
    rwa [hescaped, List.append_nil]
  have hlast := Stage.At.literal _ hrest follows_nil true
  rw [hbehind] at hlast
  rw [hw]
  exact hlast

/-! ## counts and edges as they are typed -/

theorem searchText_part (x : Part) : searchText x.typed = (bare (x.tree none).signs, false) :=
  Magic.searchText_signs _

theorem searchText_unclosed (x : Part) (k : Count) :
    searchText (x.typed ++ '\\' :: k.braced) =
      (bare (x.tree none).signs ++ '{' :: (k.text ++ ['\\', '}']), false) := by
  have hbraced : searchText ('\\' :: k.braced) = ('{' :: (k.text ++ ['\\', '}']), false) := by
    rw [Count.braced, Magic.searchText_escape (by decide), Magic.searchText_kept k.isSpecial_text]
    rfl
  rw [Part.typed, Magic.searchText_typed, hbraced]

theorem searchText_counted (x : Part) (k : Count) (hk : k.Fits) :
    searchText (x.typed ++ '\\' :: '{' :: (k.text ++ ['\\', '}'])) =
      (bare (x.tree (some (.counted k hk))).signs, false) := by
  have htyped : x.typed ++ '\\' :: '{' :: (k.text ++ ['\\', '}']) =
      Magic.typed (x.tree (some (.counted k hk))).signs := by
    cases x <;> simp [Part.typed, Part.tree, Tree.signs, Magic.typed, Sign.typed]
  rw [htyped]
  exact Magic.searchText_signs _

/-- What counts and word edges take, as they are typed.  A part of a pattern, with a count behind it
whose closing brace has no backslash, takes what the part takes and the text of the count behind it.
If both braces have one, it takes what the part takes as often in a row as the count says.  Either
edge of a word is taken where a run of the characters of words begins or ends. -/
theorem counted_taken (x : Part) (k : Count) :
    (∃ p q groups,
      ofText .plain (searchText x.typed).1 = .ok ⟨p, groups⟩ ∧
      ofText .plain (searchText (x.typed ++ '\\' :: k.braced)).1 = .ok ⟨q, groups⟩ ∧
      (∀ s u, q.Takes s u ↔
        ∃ v, u = v ++ k.braced ∧ p.Takes s v ∧ k.braced <+: (s.past v).after) ∧
      (k.Fits → ∃ q',
        ofText .plain (searchText (x.typed ++ '\\' :: '{' :: (k.text ++ ['\\', '}']))).1 =
          .ok ⟨q', groups⟩ ∧
        ∀ s u, q'.Takes s u ↔ ∃ us, u = us.flatten ∧ p.TakesInTurn s us ∧
          k.least ≤ us.length ∧ ∀ m, k.most = some m → us.length ≤ m)) ∧
    ∀ e ∈ ['<', '>'], ∃ b, ofText .plain (searchText ['\\', e]).1 = .ok ⟨b, 0⟩ ∧
      ∀ s u, b.Takes s u ↔ u = [] ∧ (s.WordStarts ∨ s.WordStops) := by
  refine ⟨⟨ofPart x, .seq (ofPart x) (literal k.braced), groupBehind x - 1, ?_, ?_, ?_, ?_⟩, ?_⟩
  · rw [searchText_part]
    exact ofText_part x none
  · rw [searchText_unclosed]
    exact ofText_unclosed x k
  · intro s u
    rw [takes_seq (blind_literal _)]
    simp only [takes_literal]
    constructor
    · rintro ⟨v, w, rfl, hv, rfl, hw⟩
      exact ⟨v, rfl, hv, hw⟩
    · rintro ⟨v, rfl, hv, hw⟩
      exact ⟨v, _, rfl, hv, rfl, hw⟩
  · intro hk
    refine ⟨_, ?_, fun s u => takes_repeated (closed_blind.part x) hk.ordered⟩
    rw [searchText_counted x k hk]
    exact ofText_part x (some (.counted k hk))
  · intro e he
    refine ⟨.anchor .plain .wordBoundary, ?_, fun s u => takes_wordBoundary⟩
    obtain rfl | rfl : e = '<' ∨ e = '>' := by simpa using he
    · exact ofText_tree (.edge .start)
    · exact ofText_tree (.edge .stop)

/-- The letter `a` is taken twice, where it is counted between one and two. -/
theorem counted_taken_letter :
    let k := Count.between 1 2
    k.Fits ∧ ∃ q, ofText .plain (searchText "a\\\x7b1,2\\\x7d".toList).1 = .ok ⟨q, 0⟩ ∧
      q.Takes (Place.start ['a', 'a', 'a']) ['a', 'a'] := by
  intro k
  have hk : k.Fits := ⟨by decide, by decide, by decide⟩
  obtain ⟨⟨p, q, groups, hp, -, -, hq⟩, -⟩ := counted_taken (.single (.char 'a')) k
  have hread := ofText_part (.single (.char 'a')) none
  rw [searchText_part, hread] at hp
  cases hp
  obtain ⟨q, hread, htakes⟩ := hq hk
  have hletter {r : Text} {s : Place} (hs : s.after = 'a' :: r) : (ofChar 'a').Takes s ['a'] :=
    takes_test.2 ⟨'a', rfl, ⟨r, hs.symm⟩, by decide⟩
  refine ⟨hk, q, hread, (htakes _ _).2 ⟨[['a'], ['a']], rfl, ?_, by decide, by decide⟩⟩
  exact ⟨hletter rfl, hletter rfl, trivial⟩

/-- With its closing brace left alone, the count two does not take two letters, but the letter and
the text of the count; and a word is taken to start where it ends. -/
theorem counted_taken_unclosed :
    ∃ p b, ofText .plain (searchText "a\\\x7b2\x7d".toList).1 = .ok p ∧
      ¬ p.pattern.Takes (Place.start ['a', 'a']) ['a', 'a'] ∧
      p.pattern.Takes (Place.start "a\x7b2\x7d".toList) "a\x7b2\x7d".toList ∧
      ofText .plain (searchText "\\<".toList).1 = .ok b ∧
      b.pattern.Takes ⟨['b', 'a'], [], []⟩ [] := by
  refine ⟨_, _, ofText_unclosed (.single (.char 'a')) (.exactly 2), ?_, ?_,
    ofText_tree (.edge .start), ?_⟩
  · rw [takes_iff_run (r := []) rfl]
    decide +kernel
  · rw [takes_iff_run (r := []) rfl]
    decide +kernel
  · rw [takes_iff_run (r := []) rfl]
    decide +kernel

end Pattern

end ExMode
