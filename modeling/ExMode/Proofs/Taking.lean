import ExMode.Pattern.Matcher
import Mathlib.Tactic.Choose

/-!
# ExMode.Proofs.Taking

What a pattern takes.  Matching at a place comes down to a list of places further along the line,
which are tried in order until the rest fits from one of them (`searches_run`); which places these
are has nothing to do with the rest.  So a pattern can take a text at a place or not, whatever comes
behind it, and what a composed pattern can take is told from what its parts can take:

* `takes_test`, `takes_seq`, `takes_alt`, `takes_capture` — one part, two parts one after the other,
  either of two, and a group;
* `takes_repeated` — as many texts in turn as a repetition allows.

In the last the parts must be `Blind` to the groups that have matched so far.
-/

namespace ExMode

namespace Place

variable {s m e : Place}

/-- Whether a place is further along the line, or the same. -/
def Ahead (s e : Place) : Prop := ∃ u, s.after = u ++ e.after ∧ e.before = u.reverse ++ s.before

theorem Ahead.refl (s : Place) : s.Ahead s := ⟨[], rfl, rfl⟩

theorem Ahead.trans (h : s.Ahead m) (h' : m.Ahead e) : s.Ahead e := by
  obtain ⟨u, hafter, hbefore⟩ := h
  obtain ⟨v, hafter', hbefore'⟩ := h'
  refine ⟨u ++ v, ?_, ?_⟩
  · rw [hafter, hafter', List.append_assoc]
  · rw [hbefore', hbefore, List.reverse_append, List.append_assoc]

theorem ahead_step {c : Char} {r : Text} (h : s.after = c :: r) :
    s.Ahead { s with before := c :: s.before, after := r } := ⟨[c], h, rfl⟩

theorem Ahead.after_eq (h : s.Ahead e) : s.after = s.textTo e ++ e.after := by
  obtain ⟨u, hafter, -⟩ := h
  simp [textTo, hafter]

/-- Groups have nothing to do with where a place is. -/
theorem Ahead.withGroups (h : s.Ahead e) (groups : List (Nat × Text)) :
    s.Ahead { e with groups := groups } := h

/-- The place behind a text that stands there. -/
def past (s : Place) (u : Text) : Place := ⟨u.reverse ++ s.before, s.after.drop u.length, s.groups⟩

theorem Ahead.eq_past (h : s.Ahead e) {u : Text} (hu : s.after = u ++ e.after) :
    e = { s.past u with groups := e.groups } := by
  obtain ⟨v, hafter, hbefore⟩ := h
  obtain rfl : v = u := List.append_cancel_right (hafter.symm.trans hu)
  obtain ⟨before, after, groups⟩ := e
  simp only [past, hafter, List.drop_left] at hbefore ⊢
  rw [hbefore]

end Place

namespace Pattern

variable {s e : Place}

/-! ## places that are tried -/

/-- Whether a way of matching comes down to places ahead of `s` that are tried in order, until the
rest fits from one of them. -/
def Searches (body : Rest → Option Place) (s : Place) : Prop :=
  ∃ es : List Place, (∀ k, body k = es.findSome? k) ∧ ∀ e ∈ es, s.Ahead e

theorem Searches.congr {body body' : Rest → Option Place} (h : Searches body s)
    (hbody : ∀ k, body' k = body k) : Searches body' s := by
  obtain ⟨es, hrun, hahead⟩ := h
  exact ⟨es, fun k => (hbody k).trans (hrun k), hahead⟩

theorem searches_at (h : s.Ahead e) : Searches (fun k => k e) s := by
  refine ⟨[e], fun k => ?_, by simpa using h⟩
  dsimp only
  rw [List.findSome?_cons]
  cases k e <;> rfl

theorem searches_here (s : Place) : Searches (fun k => k s) s := searches_at (.refl s)

theorem searches_nowhere (s : Place) : Searches (fun _ => none) s :=
  ⟨[], fun _ => rfl, List.forall_mem_nil _⟩

/-- The place where a part of the pattern was settled, if it was. -/
theorem searches_settled {found : Option Place} : (∀ e, found = some e → s.Ahead e) →
    Searches (fun k => match found with | some e => k e | none => none) s := by
  intro h
  cases found with
  | none => exact searches_nowhere s
  | some e => exact searches_at (h e rfl)

theorem searches_ite {p : Prop} [Decidable p] {first second : Rest → Option Place}
    (h : Searches first s) (h' : Searches second s) :
    Searches (fun k => if p then first k else second k) s := by
  split
  · exact h
  · exact h'

/-- Looking around leaves the place where it is. -/
theorem searches_looked (negated : Bool) (found : Option Place) :
    Searches (fun k => match found with
      | some e => if negated then none else k { s with groups := e.groups }
      | none => if negated then k s else none) s := by
  cases found with
  | none => exact searches_ite (searches_here s) (searches_nowhere s)
  | some e =>
    exact searches_ite (searches_nowhere s) (searches_at ((Place.Ahead.refl s).withGroups _))

/-- Where the rest of a search goes on from every place that is tried, the places tried from each of
them are tried in turn. -/
theorem Searches.andThen {body : Rest → Option Place} {next : Place → Rest → Option Place}
    (h : Searches body s) (hnext : ∀ e, Searches (next e) e) :
    Searches (fun k => body fun e => next e k) s := by
  obtain ⟨es, hrun, hahead⟩ := h
  choose further hfurther hfar using hnext
  refine ⟨es.flatMap further, fun k => ?_, fun e he => ?_⟩
  · dsimp only
    rw [hrun]
    clear hrun hahead
    induction es with
    | nil => rfl
    | cons e es ih =>
      rw [List.findSome?_cons, List.flatMap_cons, List.findSome?_append, ih, hfurther]
      cases (further e).findSome? k <;> rfl
  · obtain ⟨m, hm, he⟩ := List.mem_flatMap.1 he
    exact (hahead m hm).trans (hfar m e he)

theorem Searches.orElse {first second : Rest → Option Place} (h : Searches first s)
    (h' : Searches second s) :
    Searches (fun k => match first k with | some e => some e | none => second k) s := by
  obtain ⟨es, hrun, hahead⟩ := h
  obtain ⟨es', hrun', hahead'⟩ := h'
  refine ⟨es ++ es', fun k => ?_, List.forall_mem_append.2 ⟨hahead, hahead'⟩⟩
  dsimp only
  rw [List.findSome?_append, ← hrun, ← hrun']
  cases first k <;> rfl

theorem Searches.ahead_of_some {body : Rest → Option Place} (h : Searches body s)
    (he : body some = some e) : s.Ahead e := by
  obtain ⟨es, hrun, hahead⟩ := h
  rw [hrun] at he
  obtain ⟨m, hm, hme⟩ := List.exists_of_findSome?_eq_some he
  exact Option.some.inj hme ▸ hahead m hm

theorem ahead_of_takeText {o : PatternOptions} {t : Text} {s : Place}
    (h : takeText o t s = some e) : s.Ahead e := by
  induction t generalizing s with
  | nil =>
    cases h
    exact .refl _
  | cons c t ih =>
    unfold takeText at h
    split at h
    · cases h
    · rename_i d r hafter
      extract_lets same at h
      split at h
      · exact (Place.ahead_step hafter).trans (ih h)
      · cases h

section

variable {body : Place → Rest → Option Place}

/-! The rounds of a repetition go by the fuel: each is one search of the body, and the rounds that
are left go on from where it ends. -/

theorem searches_greedyRounds (hbody : ∀ s, Searches (body s) s) (least : Nat)
    (most : Option Nat) (fuel count : Nat) (last : Option Nat) (s : Place) :
    Searches (fun k => greedyRounds body least most k fuel count last s) s := by
  induction fuel generalizing count last s with
  | zero => exact searches_here s
  | succ fuel ih =>
    simp only [greedyRounds]
    split
    · exact (hbody s).andThen fun e => ih (count + 1) last e
    split
    · exact ((hbody s).andThen fun e => ih (count + 1) _ e).orElse (searches_here s)
    · exact searches_here s

theorem searches_lazyRounds (hbody : ∀ s, Searches (body s) s) (least : Nat)
    (most : Option Nat) (fuel count : Nat) (last : Option Nat) (s : Place) :
    Searches (fun k => lazyRounds body least most k fuel count last s) s := by
  induction fuel generalizing count last s with
  | zero => exact searches_here s
  | succ fuel ih =>
    simp only [lazyRounds]
    split
    · exact (hbody s).andThen fun e => ih (count + 1) last e
    split
    · exact (searches_here s).orElse ((hbody s).andThen fun e => ih (count + 1) _ e)
    · exact (searches_here s).orElse (searches_nowhere s)

theorem ahead_of_possessiveRounds (hbody : ∀ s, Searches (body s) s) {least : Nat}
    {most : Option Nat} {fuel count : Nat} {last : Option Nat} {s : Place}
    (h : possessiveRounds body least most fuel count last s = some e) : s.Ahead e := by
  induction fuel generalizing count last s with
  | zero =>
    cases h
    exact .refl _
  | succ fuel ih =>
    unfold possessiveRounds at h
    split at h
    · split at h
      · rename_i m hm
        exact ((hbody s).ahead_of_some hm).trans (ih h)
      · cases h
    split at h
    · split at h
      · rename_i m hm
        exact ((hbody s).ahead_of_some hm).trans (ih h)
      · cases h
        exact .refl _
    · cases h
      exact .refl _

end

/-- Matching tries places ahead, whatever the pattern. -/
theorem searches_run (p : Pattern) (s : Place) : Searches (p.run s) s := by
  induction p generalizing s with
  | empty => exact searches_here s
  | test o t =>
    cases hafter : s.after with
    | nil => exact (searches_nowhere s).congr fun k => by rw [run, hafter]
    | cons c r =>
      have hstep := searches_at (Place.ahead_step hafter)
      exact (searches_ite hstep (searches_nowhere s)).congr fun k => by rw [run, hafter]
  | anchor o a => exact searches_ite (searches_here s) (searches_nowhere s)
  | seq p q hp hq => exact (hp s).andThen hq
  | alt p q hp hq => exact (hp s).orElse (hq s)
  | group p hp => exact hp s
  | capture i p hp =>
    exact (hp s).andThen fun e => searches_at ((Place.Ahead.refl e).withGroups _)
  | repeated greed least most p hp =>
    cases greed with
    | greedy => exact searches_greedyRounds hp least most _ 0 none s
    | lazy => exact searches_lazyRounds hp least most _ 0 none s
    | possessive => exact searches_settled fun e he => ahead_of_possessiveRounds hp he
  | reference o i =>
    cases hgroup : s.group? i with
    | none => exact (searches_nowhere s).congr fun k => by rw [run, hgroup]
    | some t =>
      cases htake : takeText o t s with
      | none => exact (searches_nowhere s).congr fun k => by simp only [run, hgroup, htake]
      | some e =>
        have hahead := ahead_of_takeText htake
        exact (searches_at hahead).congr fun k => by simp only [run, hgroup, htake]
  | lookAhead negated p hp => exact searches_looked negated (p.run s some)
  | lookBehind negated least most p hp =>
    cases hback : s.back? least with
    | none => exact (searches_looked negated none).congr fun k => by rw [run, hback]
    | some b =>
      cases hfound : p.run b some with
      | none =>
        exact (searches_looked negated none).congr fun k => by simp only [run, hback, hfound]
      | some e =>
        exact (searches_looked negated (some e)).congr fun k => by simp only [run, hback, hfound]
  | atomic p hp => exact searches_settled fun e he => (hp s).ahead_of_some he
  | conditional i p q hp hq =>
    cases hgroup : s.group? i with
    | none => exact (hq s).congr fun k => by rw [run, hgroup]
    | some t => exact (hp s).congr fun k => by rw [run, hgroup]

/-! ## what a pattern takes -/

/-- The rest that fits at one place and no other. -/
def only (e : Place) : Rest := fun e' => if e' = e then some e' else none

/-- Whether a pattern that starts at `s` can end at `e`. -/
def EndsAt (p : Pattern) (s e : Place) : Prop := (p.run s (only e)).isSome = true

/-- Whether a pattern can take a text from a place on. -/
def Takes (p : Pattern) (s : Place) (u : Text) : Prop := ∃ e, p.EndsAt s e ∧ s.after = u ++ e.after

/-- Whether a pattern can take texts one after the other from a place on. -/
def TakesInTurn (p : Pattern) : Place → List Text → Prop
  | _, [] => True
  | s, u :: us => p.Takes s u ∧ p.TakesInTurn (s.past u) us

/-- Whether what a pattern can take does not depend on the groups that have matched before. -/
def Blind (p : Pattern) : Prop :=
  ∀ s groups u, p.Takes { s with groups := groups } u ↔ p.Takes s u

variable {p q : Pattern} {k : Rest} {u : Text}

theorem isSome_only (e e' : Place) : (only e e').isSome = true ↔ e' = e := by
  unfold only
  split <;> simp [*]

/-- A pattern is matched by trying the places where it can end. -/
theorem exists_ends (p : Pattern) (s : Place) :
    ∃ es : List Place, (∀ k, p.run s k = es.findSome? k) ∧ ∀ e, p.EndsAt s e ↔ e ∈ es := by
  obtain ⟨es, hrun, -⟩ := searches_run p s
  refine ⟨es, hrun, fun e => ?_⟩
  rw [EndsAt, hrun, List.findSome?_isSome_iff]
  simp [isSome_only]

theorem EndsAt.ahead (h : p.EndsAt s e) : s.Ahead e := by
  obtain ⟨es, hrun, hahead⟩ := searches_run p s
  rw [EndsAt, hrun, List.findSome?_isSome_iff] at h
  obtain ⟨e', he', honly⟩ := h
  exact (isSome_only e e').1 honly ▸ hahead e' he'

/-- Where a pattern matches, the rest fits at some place where the pattern can end. -/
theorem exists_of_run {r : Place} (h : p.run s k = some r) : ∃ e, p.EndsAt s e ∧ k e = some r := by
  obtain ⟨es, hrun, hends⟩ := exists_ends p s
  rw [hrun] at h
  obtain ⟨e, he, hk⟩ := List.exists_of_findSome?_eq_some h
  exact ⟨e, (hends e).2 he, hk⟩

theorem isSome_run : (p.run s k).isSome = true ↔ ∃ e, p.EndsAt s e ∧ (k e).isSome = true := by
  obtain ⟨es, hrun, hends⟩ := exists_ends p s
  rw [hrun, List.findSome?_isSome_iff]
  simp only [hends]

/-- A place where a pattern can end is behind a text that it can take. -/
theorem EndsAt.exists_takes (h : p.EndsAt s e) :
    ∃ u, p.Takes s u ∧ s.after = u ++ e.after ∧ e = { s.past u with groups := e.groups } := by
  obtain ⟨u, hafter, hbefore⟩ := h.ahead
  exact ⟨u, ⟨e, h, hafter⟩, hafter, h.ahead.eq_past hafter⟩

theorem Takes.exists_endsAt (h : p.Takes s u) :
    ∃ groups, p.EndsAt s { s.past u with groups := groups } := by
  obtain ⟨e, he, hafter⟩ := h
  exact ⟨e.groups, he.ahead.eq_past hafter ▸ he⟩

theorem Takes.after_eq (h : p.Takes s u) : s.after = u ++ (s.past u).after := by
  obtain ⟨e, -, hafter⟩ := h
  simp [Place.past, hafter]

theorem Takes.isPrefix (h : p.Takes s u) : u <+: s.after := ⟨_, h.after_eq.symm⟩

theorem TakesInTurn.isPrefix {us : List Text} (h : p.TakesInTurn s us) :
    us.flatten <+: s.after := by
  induction us generalizing s with
  | nil => exact List.nil_prefix
  | cons u us ih =>
    rw [h.1.after_eq, List.flatten_cons, List.prefix_append_right_inj]
    exact ih h.2

/-- The rest that fits where a text is left. -/
def leaving (r : Text) : Rest := fun e => if e.after = r then some e else none

theorem isSome_leaving (r : Text) (e : Place) : (leaving r e).isSome = true ↔ e.after = r := by
  unfold leaving
  split <;> simp [*]

/-- A text can be taken just if the pattern matches with what is left behind it as the rest. -/
theorem takes_iff_run {r : Text} (hr : s.after = u ++ r) :
    p.Takes s u ↔ (p.run s (leaving r)).isSome = true := by
  simp only [isSome_run, isSome_leaving, Takes, hr, List.append_cancel_left_eq, @eq_comm _ r]

/-! ### parts of patterns -/

theorem takes_test {o : PatternOptions} {t : CharTest} :
    (test o t).Takes s u ↔ ∃ c, u = [c] ∧ [c] <+: s.after ∧ t.accepts o c = true := by
  have hends (e : Place) : (test o t).EndsAt s e ↔ ∃ c r, s.after = c :: r ∧
      t.accepts o c = true ∧ e = { s with before := c :: s.before, after := r } := by
    rw [EndsAt, run]
    split
    · rename_i hafter
      simp [hafter]
    · rename_i c r hafter
      split
      · rename_i hc
        rw [isSome_only]
        constructor
        · rintro rfl
          exact ⟨c, r, hafter, hc, rfl⟩
        · rintro ⟨c', r', hafter', -, rfl⟩
          obtain ⟨rfl, rfl⟩ := List.cons.inj (hafter.symm.trans hafter')
          rfl
      · rename_i hc
        simp [hafter, hc]
  constructor
  · rintro ⟨e, he, hu⟩
    obtain ⟨c, r, hafter, hc, rfl⟩ := (hends e).1 he
    obtain rfl : u = [c] := List.append_cancel_right (hu.symm.trans hafter)
    exact ⟨c, rfl, ⟨r, hafter.symm⟩, hc⟩
  · rintro ⟨c, rfl, ⟨r, hr⟩, hc⟩
    exact ⟨_, (hends _).2 ⟨c, r, hr.symm, hc, rfl⟩, hr.symm⟩

theorem takes_anchor {o : PatternOptions} {a : PatternAnchor} :
    (anchor o a).Takes s u ↔ u = [] ∧ anchorHolds o s a = true := by
  have hends (e : Place) : (anchor o a).EndsAt s e ↔ anchorHolds o s a = true ∧ s = e := by
    rw [EndsAt, run]
    split
    · rename_i h
      simp [isSome_only, h]
    · rename_i h
      simp [h]
  constructor
  · rintro ⟨e, he, hu⟩
    obtain ⟨ha, rfl⟩ := (hends e).1 he
    exact ⟨List.self_eq_append_left.1 hu, ha⟩
  · rintro ⟨rfl, ha⟩
    exact ⟨s, (hends s).2 ⟨ha, rfl⟩, rfl⟩

theorem endsAt_seq : (seq p q).EndsAt s e ↔ ∃ m, p.EndsAt s m ∧ q.EndsAt m e :=
  isSome_run (p := p) (k := fun m => q.run m (only e))

theorem takes_seq (hq : q.Blind) :
    (seq p q).Takes s u ↔ ∃ v w, u = v ++ w ∧ p.Takes s v ∧ q.Takes (s.past v) w := by
  constructor
  · rintro ⟨e, he, hu⟩
    obtain ⟨m, hm, he⟩ := endsAt_seq.1 he
    obtain ⟨v, hv, hsm, hpast⟩ := hm.exists_takes
    obtain ⟨w, hw, hme, -⟩ := he.exists_takes
    rw [hpast] at hw
    refine ⟨v, w, List.append_cancel_right (hu.symm.trans ?_), hv, (hq _ _ _).1 hw⟩
    rw [hsm, hme, List.append_assoc]
  · rintro ⟨v, w, rfl, hv, hw⟩
    obtain ⟨groups, hm⟩ := hv.exists_endsAt
    obtain ⟨e, he, hafter⟩ := (hq _ groups _).2 hw
    refine ⟨e, endsAt_seq.2 ⟨_, hm, he⟩, ?_⟩
    rw [hv.after_eq, List.append_assoc]
    exact congrArg (v ++ ·) hafter

theorem takes_alt : (alt p q).Takes s u ↔ p.Takes s u ∨ q.Takes s u := by
  have hends (e : Place) : (alt p q).EndsAt s e ↔ p.EndsAt s e ∨ q.EndsAt s e := by
    unfold EndsAt
    rw [run]
    cases p.run s (only e) <;> simp
  simp only [Takes, hends, or_and_right, exists_or]

theorem takes_capture (i : Nat) : (capture i p).Takes s u ↔ p.Takes s u := by
  have hends (e : Place) : (capture i p).EndsAt s e ↔
      ∃ m, p.EndsAt s m ∧ { m with groups := (i, s.textTo m) :: m.groups } = e := by
    rw [EndsAt, run, isSome_run]
    simp only [isSome_only]
  constructor
  · rintro ⟨e, he, hu⟩
    obtain ⟨m, hm, rfl⟩ := (hends e).1 he
    exact ⟨m, hm, hu⟩
  · rintro ⟨m, hm, hu⟩
    exact ⟨_, (hends _).2 ⟨m, hm, rfl⟩, hu⟩

theorem Blind.takesInTurn (hp : p.Blind) (groups : List (Nat × Text)) (us : List Text) :
    p.TakesInTurn { s with groups := groups } us ↔ p.TakesInTurn s us := by
  induction us generalizing s with
  | nil => exact Iff.rfl
  | cons u us ih =>
    have hrest : p.TakesInTurn (Place.past { s with groups := groups } u) us ↔
        p.TakesInTurn (s.past u) us := ih (s := s.past u)
    rw [TakesInTurn, TakesInTurn, hp, hrest]

/-! ### repetitions -/

/-- Whether texts that a pattern can take in turn lead up to `r`, as many of them as are missing
after `count` rounds. -/
def LeadsTo (p : Pattern) (least : Nat) (most : Option Nat) (r : Text) (count : Nat) (s : Place) :
    Prop :=
  ∃ us, s.after = us.flatten ++ r ∧ p.TakesInTurn s us ∧ least ≤ count + us.length ∧
    ∀ n, most = some n → count + us.length ≤ n

variable {least fuel count : Nat} {most last : Option Nat} {r : Text} {m : Place}

theorem leadsTo_here (hleast : least ≤ count) (hmost : ∀ n, most = some n → count ≤ n)
    (h : s.after = r) : p.LeadsTo least most r count s :=
  ⟨[], h, trivial, hleast, hmost⟩

theorem LeadsTo.round (hp : p.Blind) (hm : p.EndsAt s m)
    (h : p.LeadsTo least most r (count + 1) m) : p.LeadsTo least most r count s := by
  obtain ⟨us, hafter, hus, hleast, hmost⟩ := h
  obtain ⟨u, hu, hsm, hpast⟩ := hm.exists_takes
  rw [hpast] at hus
  refine ⟨u :: us, ?_, ⟨hu, (hp.takesInTurn _ us).1 hus⟩, ?_, fun n hn => ?_⟩
  · rw [hsm, hafter, List.flatten_cons, List.append_assoc]
  · rw [List.length_cons]
    omega
  · have := hmost n hn
    rw [List.length_cons]
    omega

theorem le_of_belowMost (h : belowMost count most = true) : ∀ n, most = some n → count + 1 ≤ n := by
  rintro n rfl
  exact of_decide_eq_true h

/-- What rounds take they take in turn, as many times as is allowed. -/
theorem leadsTo_of_greedyRounds (hp : p.Blind) (hbounds : ∀ n, most = some n → least ≤ n)
    (hfuel : least ≤ count + fuel) (hcount : ∀ n, most = some n → count ≤ n)
    (h : (greedyRounds p.run least most (leaving r) fuel count last s).isSome = true) :
    p.LeadsTo least most r count s := by
  induction fuel generalizing count last s with
  | zero => exact leadsTo_here hfuel hcount ((isSome_leaving r s).1 h)
  | succ fuel ih =>
    have hround {last : Option Nat} (hcount : ∀ n, most = some n → count + 1 ≤ n)
        (h : (p.run s (greedyRounds p.run least most (leaving r) fuel (count + 1) last)).isSome =
          true) : p.LeadsTo least most r count s := by
      obtain ⟨m, hm, h⟩ := isSome_run.1 h
      exact (ih (by omega) hcount h).round hp hm
    unfold greedyRounds at h
    split at h
    · rename_i hlt
      exact hround (fun n hn => Nat.le_trans hlt (hbounds n hn)) h
    · rename_i hge
      have hge := Nat.not_lt.1 hge
      split at h
      · rename_i hmay
        split at h
        · rename_i e he
          have hmost := le_of_belowMost ((Bool.and_eq_true _ _).mp hmay).1
          exact hround hmost (by rw [he]; rfl)
        · exact leadsTo_here hge hcount ((isSome_leaving r s).1 h)
      · exact leadsTo_here hge hcount ((isSome_leaving r s).1 h)

theorem belowMost_of_lt (h : ∀ n, most = some n → count < n) : belowMost count most = true := by
  cases most with
  | none => rfl
  | some n => exact decide_eq_true (h n rfl)

/-- A round that is allowed is tried before it is stopped. -/
theorem isSome_greedyRounds_of_round {body : Place → Rest → Option Place}
    (hcount : ¬ count < least) (hbelow : belowMost count most = true)
    (hmoved : last ≠ some s.after.length)
    (h : (body s (greedyRounds body least most k fuel (count + 1) (some s.after.length))).isSome =
      true) : (greedyRounds body least most k (fuel + 1) count last s).isSome = true := by
  have hmay : (belowMost count most && last != some s.after.length) = true := by
    rw [hbelow, Bool.true_and, bne_iff_ne]
    exact hmoved
  obtain ⟨e, he⟩ := Option.isSome_iff_exists.1 h
  rw [greedyRounds, if_neg hcount, if_pos hmay, he]
  rfl

/-- What can be taken in turn, rounds take; those that take nothing are left out where they are not
required. -/
theorem isSome_greedyRounds (hp : p.Blind) (hfuel : least - count + s.after.length < fuel)
    (hlast : last = none ∨ least ≤ count ∧ last ≠ some s.after.length)
    (h : p.LeadsTo least most r count s) :
    (greedyRounds p.run least most (leaving r) fuel count last s).isSome = true := by
  obtain ⟨us, hafter, hus, hleast, hmost⟩ := h
  induction us generalizing count last fuel s with
  | nil =>
    have hhere : (leaving r s).isSome = true := (isSome_leaving r s).2 hafter
    have hleast : least ≤ count := hleast
    obtain ⟨fuel, rfl⟩ := Nat.exists_eq_add_of_lt hfuel
    rw [greedyRounds, if_neg (Nat.not_lt.2 hleast)]
    split
    · split
      · rfl
      · exact hhere
    · exact hhere
  | cons u us ih =>
    obtain ⟨hu, hus⟩ := hus
    obtain ⟨groups, hm⟩ := hu.exists_endsAt
    have hsm := hu.after_eq
    rw [List.length_cons] at hleast hmost
    have hrest : (s.past u).after = us.flatten ++ r := by
      refine List.append_cancel_left (hsm.symm.trans (hafter.trans ?_))
      rw [List.flatten_cons, List.append_assoc]
    have hlength := congrArg List.length hsm
    rw [List.length_append] at hlength
    obtain ⟨fuel, rfl⟩ := Nat.exists_eq_add_of_lt hfuel
    have hround (last : Option Nat) (fuel : Nat)
        (hfuel : least - (count + 1) + (s.past u).after.length < fuel)
        (hlast : last = none ∨ least ≤ count + 1 ∧ last ≠ some (s.past u).after.length) :
        (p.run s (greedyRounds p.run least most (leaving r) fuel (count + 1) last)).isSome =
          true := by
      refine isSome_run.2 ⟨_, hm, ih (s := { s.past u with groups := groups }) hfuel hlast hrest
        ((hp.takesInTurn groups us).2 hus) (by omega) fun n hn => ?_⟩
      have := hmost n hn
      omega
    by_cases hrequired : count < least
    · have hnone : last = none := hlast.resolve_right fun h => Nat.not_le.2 hrequired h.1
      rw [greedyRounds, if_pos hrequired]
      exact hround _ _ (by omega) (Or.inl hnone)
    by_cases hempty : u = []
    -- the rounds stop where one takes nothing, so they are told to go on without it
    · subst hempty
      exact ih hfuel hlast hrest hus (by omega) fun n hn => by
        have := hmost n hn
        omega
    · have hpos := List.length_pos_iff.2 hempty
      have hbelow : belowMost count most = true := belowMost_of_lt fun n hn => by
        have := hmost n hn
        omega
      have hmoved : last ≠ some s.after.length := by
        obtain rfl | ⟨-, h⟩ := hlast
        · exact nofun
        · exact h
      have hfurther : some s.after.length ≠ some (s.past u).after.length := by
        rw [Ne, Option.some.injEq]
        omega
      exact isSome_greedyRounds_of_round hrequired hbelow hmoved
        (hround _ _ (by omega) (Or.inr ⟨by omega, hfurther⟩))

/-- A repetition takes what its pattern can take in turn, as many times as is allowed. -/
theorem takes_repeated (hp : p.Blind) (hbounds : ∀ n, most = some n → least ≤ n) :
    (repeated .greedy least most p).Takes s u ↔ ∃ us, u = us.flatten ∧ p.TakesInTurn s us ∧
      least ≤ us.length ∧ ∀ n, most = some n → us.length ≤ n := by
  have hrun (r : Text) : ((repeated .greedy least most p).run s (leaving r)).isSome = true ↔
      p.LeadsTo least most r 0 s := by
    constructor
    · exact leadsTo_of_greedyRounds hp hbounds (by rw [roundsAt]; omega) fun n _ => Nat.zero_le n
    · exact isSome_greedyRounds hp (by rw [roundsAt]; omega) (Or.inl rfl)
  constructor
  · intro h
    obtain ⟨r, hr⟩ := h.isPrefix
    obtain ⟨us, hafter, hus, hleast, hmost⟩ := (hrun r).1 ((takes_iff_run hr.symm).1 h)
    rw [Nat.zero_add] at hleast hmost
    exact ⟨us, List.append_cancel_right (hr.trans hafter), hus, hleast, hmost⟩
  · rintro ⟨us, rfl, hus, hleast, hmost⟩
    obtain ⟨r, hr⟩ := hus.isPrefix
    refine (takes_iff_run hr.symm).2 ((hrun r).2 ⟨us, hr.symm, hus, ?_, ?_⟩) <;> rwa [Nat.zero_add]

/-! ### patterns without references -/

theorem blind_test (o : PatternOptions) (t : CharTest) : (test o t).Blind := by
  intro s groups u
  rw [takes_test, takes_test]

theorem Blind.seq (hp : p.Blind) (hq : q.Blind) : (seq p q).Blind := by
  intro s groups u
  have hrest (v w : Text) : q.Takes (Place.past { s with groups := groups } v) w ↔
      q.Takes (s.past v) w := hq (s.past v) groups w
  rw [takes_seq hq, takes_seq hq]
  simp only [hp s groups, hrest]

theorem Blind.alt (hp : p.Blind) (hq : q.Blind) : (alt p q).Blind := by
  intro s groups u
  rw [takes_alt, takes_alt, hp, hq]

theorem Blind.capture (hp : p.Blind) (i : Nat) : (capture i p).Blind := by
  intro s groups u
  rw [takes_capture, takes_capture, hp]

theorem Blind.repeated (hp : p.Blind) (hbounds : ∀ n, most = some n → least ≤ n) :
    (repeated .greedy least most p).Blind := by
  intro s groups u
  rw [takes_repeated hp hbounds, takes_repeated hp hbounds]
  simp only [hp.takesInTurn]

end Pattern

end ExMode
