import ExMode.Proofs.SignReader

/-!
# ExMode.Proofs.TreeReader

Reading a tree.  Alternatives are read in stages: some of them are complete, the parts of the next
are put together, and the rest of the text is still to be read.  From the stage in front of a tree
reading gets to the stage behind it, where the tree is read onto what was there before
(`Pattern.onto`).  This is shown by induction on the tree; a group is a run of stages of its own.

Alternatives and parts are read with fuel.  A stage has enough of it if there is more than twice as
much as text, since no character takes more than two steps down.

* `Pattern.Stage.At.tree` — from one stage to the other;
* `Pattern.ofText_tree` — so every tree is read as a pattern;
* `Pattern.Closed` — what all patterns read from trees have in common.
-/

namespace ExMode

namespace Pattern

open Magic (Sign Single Times Tree bare)

variable {z : Text} {c : Char}

/-! ## what may follow what -/

theorem follows_nil : Follows [] := ⟨nofun, nofun, nofun⟩

theorem follows_cons (hbackslash : c ≠ '\\') (hquery : c ≠ '?') (hplus : c ≠ '+') (t : Text) :
    Follows (c :: t) :=
  ⟨by simp [hbackslash], by simpa using hquery, by simpa using hplus⟩

theorem follows_escape (c : Char) (t : Text) : Follows ('\\' :: c :: t) :=
  ⟨by simp, by simp, by simp⟩

theorem bare_cons (x : Sign) (xs : List Sign) (t : Text) :
    bare (x :: xs) ++ t = x.bare ++ (bare xs ++ t) := by
  rw [bare, List.flatMap_cons, List.append_assoc]
  rfl

theorem bare_append (xs ys : List Sign) (t : Text) :
    bare (xs ++ ys) ++ t = bare xs ++ (bare ys ++ t) := by
  rw [bare, List.flatMap_append, List.append_assoc]
  rfl

theorem follows_single (x : Single) (t : Text) : Follows ((Sign.single x).bare ++ t) := by
  cases x with
  | any => exact follows_cons (by decide) (by decide) (by decide) t
  | char c =>
    rw [Sign.bare]
    split
    · exact follows_escape c t
    · rename_i hc
      have hne {d : Char} (hd : Magic.isSpecial d = true) : c ≠ d := by
        rintro rfl
        exact hc hd
      exact follows_cons (hne rfl) (hne rfl) (hne rfl) t

/-- A tree can follow anything. -/
theorem follows_tree (t : Tree) (z : Text) : Follows (bare t.signs ++ z) := by
  induction t generalizing z with
  | single x k =>
    rw [Tree.signs, bare_cons]
    exact follows_single x _
  | group t k ih =>
    rw [Tree.signs, bare_cons]
    exact follows_cons (by decide) (by decide) (by decide) _
  | edge e =>
    rw [Tree.signs, bare_cons]
    exact follows_escape 'b' _
  | seq t u iht ihu | alt t u iht ihu =>
    rw [Tree.signs, bare_append]
    exact iht _

/-! ## stages of reading -/

/-- What has been read of some alternatives: those that are complete and the parts of the next, both
with the last first, and the number of the next group. -/
structure Alternatives where
  branches : List Pattern
  parts : List Pattern
  nextGroup : Nat

namespace Alternatives

/-- The pattern that the alternatives make, if nothing more comes. -/
def pattern (w : Alternatives) : Pattern := choice (sequence w.parts.reverse :: w.branches).reverse

def push (w : Alternatives) (p : Pattern) : Alternatives := { w with parts := p :: w.parts }

/-- The alternatives with as many groups as were read in a group. -/
def upTo (w : Alternatives) (n : Nat) : Alternatives := { w with nextGroup := n }

/-- The alternatives behind a bar. -/
def bar (w : Alternatives) : Alternatives :=
  ⟨sequence w.parts.reverse :: w.branches, [], w.nextGroup⟩

/-- Whether all that was read has a property. -/
structure All (w : Alternatives) (P : Pattern → Prop) : Prop where
  branches : ∀ p ∈ w.branches, P p
  parts : ∀ p ∈ w.parts, P p

theorem all_nil (P : Pattern → Prop) (n : Nat) : All ⟨[], [], n⟩ P :=
  ⟨List.forall_mem_nil _, List.forall_mem_nil _⟩

theorem All.push {w : Alternatives} {P : Pattern → Prop} {p : Pattern} (h : w.All P) (hp : P p) :
    (w.push p).All P :=
  ⟨h.branches, List.forall_mem_cons.2 ⟨hp, h.parts⟩⟩

end Alternatives

/-- A part of a pattern, to be taken as often as is asked for, if anything is. -/
def timed (k : Option Times) (p : Pattern) : Pattern := k.elim p fun k => repeatedBy k p

/-- What has been read once a tree is read as well. -/
def onto : Tree → Alternatives → Alternatives
  | .single x k, w => w.push (timed k (ofSingle x))
  | .group t k, w =>
    let inner := onto t ⟨[], [], w.nextGroup + 1⟩
    (w.upTo inner.nextGroup).push (timed k (.capture w.nextGroup inner.pattern))
  | .edge _, w => w.push (.anchor .plain .wordBoundary)
  | .seq t u, w => onto u (onto t w)
  | .alt t u, w => onto u (onto t w).bar

/-- A stage of reading alternatives. -/
structure Stage where
  choiceFuel : Nat
  sequenceFuel : Nat
  first : Bool
  branches : List Pattern
  parts : List Pattern
  reading : Reading

namespace Stage

/-- What has been read before a stage. -/
def read (g : Stage) : Alternatives := ⟨g.branches, g.parts, g.reading.nextGroup⟩

/-- The rest of reading the alternatives. -/
def run (g : Stage) (outermost : Bool) : Except Refusal (Pattern × Reading) :=
  (do
    let p ← readSequence none g.sequenceFuel .plain g.first g.parts
    if ← Read.accept '|' then
      let s ← get
      readChoice none g.choiceFuel (if outermost then s.options else .plain) outermost (p :: g.branches)
    else return choice (p :: g.branches).reverse : Read Pattern).run g.reading

/-- Whether a stage is in front of a text, with fuel for all of it. -/
structure At (g : Stage) (z : Text) : Prop where
  rest : g.reading.rest = z
  options : g.reading.options = .plain
  asked : g.reading.asked = []
  letters : g.reading.letters = []
  choiceFuel : 2 * z.length < g.choiceFuel
  sequenceFuel : 2 * z.length < g.sequenceFuel

/-- Whether reading gets from a stage to one in front of a text, where so much is read. -/
def Reaches (g : Stage) (outermost : Bool) (z : Text) (w : Alternatives) : Prop :=
  ∃ g' : Stage, g.run outermost = g'.run outermost ∧ g'.At z ∧ g'.read = w

variable {g : Stage} {u : Text} {w : Alternatives}

theorem Reaches.trans {outermost : Bool} {v : Alternatives} (h : g.Reaches outermost u w)
    (hnext : ∀ g' : Stage, g'.At u → g'.read = w → g'.Reaches outermost z v) :
    g.Reaches outermost z v := by
  obtain ⟨g₁, hrun₁, h₁, hread₁⟩ := h
  obtain ⟨g₂, hrun₂, h₂, hread₂⟩ := hnext g₁ h₁ hread₁
  exact ⟨g₂, hrun₁.trans hrun₂, h₂, hread₂⟩

theorem run_readChoice (fuel : Nat) (outermost : Bool) (bs : List Pattern) (s : Reading) :
    (readChoice none (fuel + 1) .plain outermost bs).run s =
      run ⟨fuel, fuel, outermost && bs.isEmpty, bs, [], s⟩ outermost := by
  rw [readChoice, run]

/-- Reading a part leads from one stage to another. -/
theorem At.advance (h : g.At (u ++ z)) (hu : u ≠ []) (s' : Reading) {ps : List Pattern}
    (hrest : s'.rest = z) (hoptions : s'.options = .plain) (hasked : s'.asked = [])
    (hletters : s'.letters = []) (hread : ∀ fuel, g.sequenceFuel = fuel + 1 →
      (readSequence none (fuel + 1) .plain g.first g.parts).run g.reading =
        (readSequence none fuel .plain g.first ps).run s') (outermost : Bool) :
    g.Reaches outermost z ⟨g.branches, ps, s'.nextGroup⟩ := by
  have hpos := List.length_pos_iff.2 hu
  have hsequence := h.sequenceFuel
  have hchoice := h.choiceFuel
  rw [List.length_append] at hsequence hchoice
  obtain ⟨fuel, hfuel⟩ : ∃ fuel, g.sequenceFuel = fuel + 1 := ⟨g.sequenceFuel - 1, by omega⟩
  have hchoice : 2 * z.length < g.choiceFuel := by omega
  have hsequence : 2 * z.length < fuel := by omega
  refine ⟨⟨g.choiceFuel, fuel, g.first, g.branches, ps, s'⟩, ?_,
    ⟨hrest, hoptions, hasked, hletters, hchoice, hsequence⟩, rfl⟩
  rw [run, run, hfuel, StateT.run_bind, StateT.run_bind, hread _ hfuel]

/-- At the end of the text, or of a group, what was read is given back. -/
theorem At.finish {y : Text} (h : g.At z) (hz : z = [] ∨ z = ')' :: y) (outermost : Bool) :
    g.run outermost = .ok (g.read.pattern, g.reading) := by
  obtain ⟨fuel, hfuel⟩ := Nat.exists_eq_add_of_lt h.sequenceFuel
  have hstop : (readSequence none g.sequenceFuel .plain g.first g.parts).run g.reading =
      .ok (sequence g.parts.reverse, g.reading) := by
    rw [hfuel]
    exact run_readSequence_stop (by rw [h.rest]; exact hz.imp id Or.inr)
  have hbar : (Read.accept '|').run g.reading = .ok (false, g.reading) := by
    refine run_accept_of_head_ne ?_
    rw [h.rest]
    obtain rfl | rfl := hz <;> simp
  rw [run, run_bind_ok hstop, run_bind_ok hbar]
  rfl

/-- A bar completes an alternative. -/
theorem At.bar (h : g.At ('|' :: z)) (hz : z ≠ ['\\']) (outermost : Bool) :
    g.Reaches outermost z g.read.bar := by
  have hchoice := h.choiceFuel
  obtain ⟨fuel, hfuel⟩ := Nat.exists_eq_add_of_lt h.sequenceFuel
  rw [List.length_cons] at hchoice
  obtain ⟨further, hfurther⟩ : ∃ further, g.choiceFuel = further + 1 := ⟨g.choiceFuel - 1, by omega⟩
  have hstop : (readSequence none g.sequenceFuel .plain g.first g.parts).run g.reading =
      .ok (sequence g.parts.reverse, g.reading) := by
    rw [hfuel]
    exact run_readSequence_stop (Or.inr (Or.inl h.rest))
  have hbar := run_accept_of_cons h.rest (by decide) hz
  have hoptions : (if outermost = true then (g.reading.past 1 z).options else .plain) =
      PatternOptions.plain := by
    split
    · exact h.options
    · rfl
  let bs := sequence g.parts.reverse :: g.branches
  have hfuel' : 2 * z.length < further := by omega
  refine ⟨⟨further, further, outermost && bs.isEmpty, bs, [], g.reading.past 1 z⟩, ?_,
    ⟨rfl, h.options, h.asked, h.letters, hfuel', hfuel'⟩, rfl⟩
  rw [run, run_bind_ok hstop, run_bind_ok hbar, if_pos rfl, run_bind_ok (run_get _), hoptions,
    hfurther, run_readChoice]

/-- How often a part is to be taken is read behind the part. -/
theorem At.times {q : Pattern} (k : Option Times) (h : g.At (bare (k.toList.map .times) ++ z))
    (hz : Follows z) (hread : g.read = w.push q) (hanchor : q.isAnchor = false)
    (hrepetition : q.isRepetition = false) (outermost : Bool) :
    g.Reaches outermost z (w.push (timed k q)) := by
  cases k with
  | none => exact ⟨g, rfl, h, hread⟩
  | some k =>
    have hcons : bare ((some k).toList.map .times) ++ z = (Sign.times k).bare ++ z :=
      bare_cons _ _ _
    have hne : (Sign.times k).bare ≠ [] := by
      cases k <;> exact nofun
    have hparts : g.parts = q :: w.parts := congrArg Alternatives.parts hread
    have hpushed : w.push (timed (some k) q) =
        ⟨g.branches, repeatedBy k q :: w.parts, g.reading.nextGroup⟩ :=
      congrArg (fun v : Alternatives =>
        (⟨v.branches, repeatedBy k q :: w.parts, v.nextGroup⟩ : Alternatives)) hread.symm
    rw [hcons] at h
    rw [hpushed]
    exact h.advance hne (g.reading.past _ z) rfl h.options h.asked h.letters
      (fun fuel _ => hparts ▸ run_readSequence_times h.rest hz hanchor hrepetition) outermost

theorem times_append_ne (k : Option Times) (hz : z ≠ ['\\']) :
    bare (k.toList.map .times) ++ z ≠ ['\\'] := by
  cases k with
  | none => exact hz
  | some k => cases k <;> exact fun heq => absurd (List.cons.inj heq).1 (by decide)

/-- A group is read by reading what stands in it. -/
theorem At.group (h : g.At ('(' :: (u ++ ')' :: z)))
    (hu : Follows (u ++ ')' :: z)) (hz : z ≠ ['\\'])
    (hinner : ∀ g' : Stage, g'.At (u ++ ')' :: z) → g'.read = ⟨[], [], g.read.nextGroup + 1⟩ →
      g'.Reaches false (')' :: z) w) (outermost : Bool) :
    g.Reaches outermost z
      ((g.read.upTo w.nextGroup).push (.capture g.read.nextGroup w.pattern)) := by
  have hsequence := h.sequenceFuel
  simp only [List.length_cons, List.length_append] at hsequence
  -- one step of fuel goes into the group and one into its alternatives; two characters pay for them
  obtain ⟨fuel, hfuel⟩ : ∃ fuel, g.sequenceFuel = fuel + 1 + 1 := ⟨g.sequenceFuel - 2, by omega⟩
  let s₀ : Reading :=
    { g.reading.past 1 (u ++ ')' :: z) with nextGroup := g.reading.nextGroup + 1 }
  have hfuel₀ : 2 * (u ++ ')' :: z).length < fuel := by
    rw [List.length_append, List.length_cons]
    omega
  obtain ⟨g₁, hrun, h₁, rfl⟩ := hinner ⟨fuel, fuel, false, [], [], s₀⟩
    ⟨rfl, h.options, h.asked, h.letters, hfuel₀, hfuel₀⟩ rfl
  have hchoice : (readChoice none (fuel + 1) .plain false []).run s₀ =
      .ok (g₁.read.pattern, g₁.reading) :=
    (run_readChoice fuel false [] s₀).trans (hrun.trans (h₁.finish (Or.inr rfl) false))
  have hclosed := run_accept_of_cons h₁.rest (by decide) hz
  have hclose : (close g.reading.position).run g₁.reading = .ok ((), g₁.reading.past 1 z) := by
    rw [close, run_bind_ok hclosed]
    rfl
  have htext : '(' :: (u ++ ')' :: z) = ('(' :: (u ++ [')'])) ++ z := by simp
  rw [htext] at h
  let s₂ : Reading := { g₁.reading.past 1 z with
    widths := (g.reading.nextGroup, g₁.read.pattern.width g₁.reading.widths) :: g₁.reading.widths }
  refine h.advance (List.cons_ne_nil _ _) s₂ rfl h₁.options h₁.asked h₁.letters
    (fun fuel' hfuel' => ?_) outermost
  obtain rfl : fuel' = fuel + 1 := by omega
  rw [run_readSequence_opening (h.rest.trans htext.symm) hu, run_bind_ok hchoice,
    run_bind_ok hclose]
  rfl

/-- A tree is read onto what was read before. -/
theorem At.tree (t : Tree) (h : g.At (bare t.signs ++ z)) (hz : Follows z) (outermost : Bool) :
    g.Reaches outermost z (onto t g.read) := by
  induction t generalizing g z outermost with
  | single x k =>
    have hne : (Sign.single x).bare ≠ [] := fun hnil =>
      (follows_single x ['\\']).ne_backslash (by rw [hnil]; rfl)
    have hsingle : (ofSingle x).isAnchor = false ∧ (ofSingle x).isRepetition = false := by
      cases x <;> exact ⟨rfl, rfl⟩
    have htimes := times_append_ne k hz.ne_backslash
    rw [Tree.signs, bare_cons] at h
    refine (h.advance hne (g.reading.past _ _) rfl h.options h.asked h.letters
      (fun fuel _ => run_readSequence_single h.rest htimes) outermost).trans fun g' h' hread => ?_
    exact h'.times (w := g.read) (q := ofSingle x) k hz hread hsingle.1 hsingle.2 outermost
  | group t k ih =>
    have htimes := times_append_ne k hz.ne_backslash
    rw [Tree.signs, bare_cons, bare_append, bare_cons] at h
    have hclosing := follows_cons (c := ')') (by decide) (by decide) (by decide)
      (bare (k.toList.map .times) ++ z)
    refine (At.group h (follows_tree t _) htimes (fun g' h' hread => hread ▸ ih h' hclosing false)
      outermost).trans fun g' h' hread => ?_
    exact h'.times k hz hread rfl rfl outermost
  | edge e =>
    rw [Tree.signs, bare_cons] at h
    exact h.advance nofun (g.reading.past 2 z) rfl h.options h.asked h.letters
      (fun fuel _ => run_readSequence_edge h.rest hz.ne_backslash) outermost
  | seq t u iht ihu =>
    rw [Tree.signs, bare_append] at h
    refine (iht h (follows_tree u z) outermost).trans fun g₁ h₁ hread₁ => ?_
    rw [onto, ← hread₁]
    exact ihu h₁ hz outermost
  | alt t u iht ihu =>
    rw [Tree.signs, bare_append, bare_cons] at h
    have hbar := follows_cons (c := '|') (by decide) (by decide) (by decide) (bare u.signs ++ z)
    refine (iht h hbar outermost).trans fun g₁ h₁ hread₁ => ?_
    refine (h₁.bar (follows_tree u z).ne_backslash outermost).trans fun g₂ h₂ hread₂ => ?_
    rw [onto, ← hread₁, ← hread₂]
    exact ihu h₂ hz outermost

end Stage

/-! ## whole patterns -/

/-- A text whose alternatives are read up to its end is read as what they make. -/
theorem ofText_of_stages {t : Text} {w : Alternatives} (ht : t ≠ ['\\'])
    (h : ∀ g : Stage, g.At t → g.read = ⟨[], [], 1⟩ → g.Reaches true [] w)
    (hrefusal : w.pattern.refusal? false = none) :
    ofText .plain t = .ok ⟨w.pattern, w.nextGroup - 1⟩ := by
  let s : Reading := .start .plain t
  have hfuel : 2 * t.length < 4 * t.length + 7 := by omega
  obtain ⟨g, hrun, hg, rfl⟩ := h ⟨4 * t.length + 7, 4 * t.length + 7, true, [], [], s⟩
    ⟨rfl, rfl, rfl, rfl, hfuel, hfuel⟩ rfl
  have hchoice : (readChoice none (4 * s.rest.length + 8) .plain true []).run s =
      .ok (g.read.pattern, g.reading) :=
    (Stage.run_readChoice _ true [] s).trans (hrun.trans (hg.finish (y := []) (Or.inl rfl) true))
  exact ofTextIn_of_readChoice ht hchoice hg.rest hg.asked hg.letters hrefusal

/-! ## properties of all that is read -/

/-- A property that the patterns read from trees have, as soon as it passes from parts to what is
made of them. -/
structure Closed (P : Pattern → Prop) : Prop where
  empty : P .empty
  test : ∀ t, P (.test .plain t)
  edge : P (.anchor .plain .wordBoundary)
  seq : ∀ {p q}, P p → P q → P (.seq p q)
  alt : ∀ {p q}, P p → P q → P (.alt p q)
  capture : ∀ {p} i, P p → P (.capture i p)
  repeated : ∀ {p least} {most : Option Nat}, (∀ n, most = some n → least ≤ n) → P p →
    P (.repeated .greedy least most p)

namespace Closed

variable {P : Pattern → Prop} {w : Alternatives}

theorem sequence (hP : Closed P) {ps : List Pattern} (h : ∀ p ∈ ps, P p) :
    P (Pattern.sequence ps) := by
  fun_induction Pattern.sequence ps with
  | case1 => exact hP.empty
  | case2 p => exact h p List.mem_cons_self
  | case3 p ps _ ih =>
    obtain ⟨hp, hps⟩ := List.forall_mem_cons.1 h
    exact hP.seq hp (ih hps)

theorem choice (hP : Closed P) {ps : List Pattern} (h : ∀ p ∈ ps, P p) : P (Pattern.choice ps) := by
  fun_induction Pattern.choice ps with
  | case1 => exact hP.empty
  | case2 p => exact h p List.mem_cons_self
  | case3 p ps _ ih =>
    obtain ⟨hp, hps⟩ := List.forall_mem_cons.1 h
    exact hP.alt hp (ih hps)

theorem single (hP : Closed P) (x : Single) : P (ofSingle x) := by
  cases x with
  | char c => exact hP.test _
  | any => exact hP.test _

theorem timed (hP : Closed P) {p : Pattern} (hp : P p) (k : Option Times) :
    P (Pattern.timed k p) := by
  cases k with
  | none => exact hp
  | some k =>
    refine hP.repeated ?_ hp
    cases k with
    | star | plus => exact nofun
    | maybe | query => exact fun n hn => Nat.zero_le n
    | counted k hk => exact hk.ordered

theorem pattern (hP : Closed P) (h : w.All P) : P w.pattern := by
  refine hP.choice fun p hp => ?_
  obtain rfl | hp := List.mem_cons.1 (List.mem_reverse.1 hp)
  · exact hP.sequence fun p hp => h.parts p (List.mem_reverse.1 hp)
  · exact h.branches p hp

theorem bar (hP : Closed P) (h : w.All P) : w.bar.All P := by
  refine ⟨List.forall_mem_cons.2 ⟨?_, h.branches⟩, List.forall_mem_nil _⟩
  exact hP.sequence fun p hp => h.parts p (List.mem_reverse.1 hp)

/-- What is read from a tree has the property, if what was read before has. -/
theorem onto (hP : Closed P) (t : Tree) (h : w.All P) : (Pattern.onto t w).All P := by
  induction t generalizing w with
  | single x k => exact h.push (hP.timed (hP.single x) k)
  | group t k ih =>
    have hinner := ih (Alternatives.all_nil P (w.nextGroup + 1))
    exact Alternatives.All.push ⟨h.branches, h.parts⟩
      (hP.timed (hP.capture _ (hP.pattern hinner)) k)
  | edge e => exact h.push hP.edge
  | seq t u iht ihu => exact ihu (iht h)
  | alt t u iht ihu => exact ihu (hP.bar (iht h))

end Closed

/-- Nothing that is read from a tree is refused: none of it looks behind or is repeated in a
template. -/
theorem closed_refusal? : Closed fun p => p.refusal? false = none where
  empty := rfl
  test _ := rfl
  edge := rfl
  seq hp hq := Option.or_eq_none_iff.2 ⟨hp, hq⟩
  alt hp hq := Option.or_eq_none_iff.2 ⟨hp, hq⟩
  capture _ hp := hp
  repeated _ hp := hp

/-- Every tree is read as a pattern. -/
theorem ofText_tree (t : Tree) :
    ofText .plain (bare t.signs) = .ok ⟨(onto t ⟨[], [], 1⟩).pattern,
      (onto t ⟨[], [], 1⟩).nextGroup - 1⟩ := by
  have hfollows := follows_tree t []
  rw [List.append_nil] at hfollows
  refine ofText_of_stages hfollows.ne_backslash (fun g hg hread => ?_)
    (closed_refusal?.pattern (closed_refusal?.onto t
      (Alternatives.all_nil _ 1)))
  rw [← hread]
  exact Stage.At.tree t (by rwa [List.append_nil]) follows_nil true

end Pattern

end ExMode
