import ExMode.Proofs.Reader

/-!
# ExMode.Proofs.Nesting

What a bound on the depth of groups changes.  Reading with room for so many groups
inside one another is reading with room for any number, unless it is out of room, and
then more parentheses open in the pattern than there is room for.

Every group that is entered takes up room, and its parenthesis is behind what is left to
be read.  `Agrees k` says of two ways of reading that they are the same but for the first
one being out of room over a text that opens at least `k` more parentheses; inside a
group there is room for one group less, and one parenthesis less is to come.

* `agrees_read` — the two readers, by induction on their fuel;
* `ofTextIn_cases` — a pattern as a whole.
-/

namespace ExMode.Pattern

/-! ## steps that only take from the text -/

/-- A step that leaves an end of what there was to be read. -/
def Shrinks {α : Type} (act : Read α) : Prop :=
  ∀ s a s', act.run s = .ok (a, s') → s'.rest <:+ s.rest

/-- A step that stays inside whatever it is given takes from the front of it. -/
theorem shrinks {α : Type} {act : Read α} (h : ∀ w t, Within w t act) : Shrinks act := by
  intro s a s' hrun
  have hs : s.Inside (s.letters ++ s.rest) s.rest :=
    ⟨List.suffix_append _ _, List.suffix_refl _, List.subset_append_left _ _⟩
  have hleft := h _ _ s hs
  rw [hrun] at hleft
  exact hleft.1.rest

/-! ## agreement -/

/-- Two ways of reading that are the same, unless the first is out of room over a text that opens at
least so many parentheses. -/
def Agrees {α : Type} (k : Nat) (x y : Read α) : Prop :=
  ∀ s, x.run s = y.run s ∨ x.run s = .error (.fault .tooManyCalls) ∧ k ≤ s.rest.count '('

section

variable {α β : Type} {k n : Nat} {x y : Read α} {f g : α → Read β}

theorem agrees_refl (x : Read α) : Agrees k x x := fun _ => Or.inl rfl

theorem Agrees.mono (h : Agrees k x y) (hn : n ≤ k) : Agrees n x y :=
  fun s => (h s).imp_right fun ⟨hrun, hk⟩ => ⟨hrun, Nat.le_trans hn hk⟩

theorem agrees_bind (hx : Agrees k x y) (hy : Shrinks y) (hf : ∀ a, Agrees k (f a) (g a)) :
    Agrees k (x >>= f) (y >>= g) := by
  intro s
  obtain hrun | ⟨hrun, hk⟩ := hx s
  · cases h : y.run s with
    | error e =>
      rw [h] at hrun
      exact Or.inl ((run_bind_error hrun).trans (run_bind_error h).symm)
    | ok a =>
      rw [h] at hrun
      rw [run_bind_ok hrun, run_bind_ok h]
      exact (hf a.1 a.2).imp_right fun ⟨hstop, hk⟩ =>
        ⟨hstop, Nat.le_trans hk ((hy s a.1 a.2 h).sublist.count_le _)⟩
  · exact Or.inr ⟨run_bind_error hrun, hk⟩

/-- The same step in front of two ways of going on. -/
theorem agrees_after (hx : ∀ w t, Within w t x) (hf : ∀ a, Agrees k (f a) (g a)) :
    Agrees k (x >>= f) (x >>= g) := agrees_bind (agrees_refl x) (shrinks hx) hf

theorem agrees_get_bind {f g : Reading → Read β} (hf : ∀ s, Agrees k (f s) (g s)) :
    Agrees k (get >>= f) (get >>= g) := fun s => hf s s

theorem agrees_if {p : Prop} [Decidable p] {x' y' : Read α} (hx : p → Agrees k x y)
    (hy : Agrees k x' y') : Agrees k (if p then x else x') (if p then y else y') := by
  split
  · exact hx ‹p›
  · exact hy

theorem agrees_ite {p : Prop} [Decidable p] {x' y' : Read α} (hx : Agrees k x y)
    (hy : Agrees k x' y') : Agrees k (if p then x else x') (if p then y else y') :=
  agrees_if (fun _ => hx) hy

/-- Entering a group takes up room for one. -/
theorem agrees_enter {f g : Option Nat → Read β}
    (hf : ∀ room, n = room + 1 → Agrees n (f (some room)) (g none)) :
    Agrees n (enter (some n) >>= f) (enter none >>= g) := by
  cases n with
  | zero => exact fun s => Or.inr ⟨rfl, Nat.zero_le _⟩
  | succ room => exact hf room rfl

/-- Behind a parenthesis that opens there is one less to come. -/
theorem agrees_behind {f g : Reading → Option Token → Read β} {s : Reading} {c : Char}
    (hpeek : Read.peek.run s = .ok (some (.plain c), s))
    (hf : ∀ s a, Agrees (if c = '(' then n else n + 1) (f s a) (g s a)) :
    (get >>= fun s => Read.next >>= f s).run s = (get >>= fun s => Read.next >>= g s).run s ∨
      (get >>= fun s => Read.next >>= f s).run s = .error (.fault .tooManyCalls) ∧
        n + 1 ≤ s.rest.count '(' := by
  rw [run_bind_ok (x := get) (s := s) rfl, run_bind_ok (x := get) (s := s) rfl]
  obtain ⟨tok, s', hnext, htok, hrest, -⟩ | ⟨what, position, hnext⟩ := run_next s
  · obtain rfl : some (Token.plain c) = tok := by
      injection hpeek.symm.trans htok with h
      exact congrArg Prod.fst h
    have hcount : s.rest.count '(' = s'.rest.count '(' + if c = '(' then 1 else 0 := by
      simp [hrest, Token.text, List.count_cons]
    rw [run_bind_ok hnext, run_bind_ok hnext]
    refine (hf _ _ s').imp_right fun ⟨hstop, hk⟩ => ⟨hstop, ?_⟩
    split at hk <;> simp_all
  · exact Or.inl ((run_bind_error hnext).trans (run_bind_error hnext).symm)

end

/-- What a parenthesis opened is read the same with some room, if what stands in it is with one
less. -/
theorem agrees_readOpened {alternatives : Option Nat → PatternOptions → Read Pattern}
    {side : Option Nat → Read Pattern}
    (halternatives : ∀ room o, Agrees (room + 1) (alternatives (some room) o) (alternatives none o))
    (hinner : ∀ o, Shrinks (alternatives none o))
    (hside : ∀ room, Agrees (room + 1) (side (some room)) (side none))
    (hshrinks : Shrinks (side none)) (o : PatternOptions) (opened : Nat) (what : Opening) :
    Agrees n (readOpened (some n) alternatives side o opened what)
      (readOpened none alternatives side o opened what) := by
  have hinside (inner : PatternOptions) (f : Pattern → Read (Option Pattern)) : Agrees n
      (do f (← alternatives (← enter (some n)) inner))
      (do f (← alternatives (← enter none) inner)) :=
    agrees_enter fun room hroom =>
      agrees_bind (hroom ▸ halternatives room _) (hinner _) fun p => agrees_refl _
  cases what with
  | whole part => exact agrees_refl _
  | plain inner => exact hinside _ _
  | atomic => exact hinside _ _
  | capture name => exact agrees_after (fun _ _ => within_openGroup _) fun i => hinside _ _
  | ahead negated => exact hinside _ _
  | behind negated =>
    refine agrees_get_bind fun s => agrees_after (fun _ _ => within_modify fun s hs => ?_)
      fun _ => hinside _ _
    exact ⟨hs.whole, hs.rest, hs.letters⟩
  | condition i =>
    refine agrees_after (fun _ _ => within_checkReference _) fun _ => ?_
    refine agrees_enter fun room hroom => ?_
    have hbranch : Agrees n (side (some room)) (side none) := hroom ▸ hside room
    refine agrees_bind hbranch hshrinks fun yes => ?_
    refine agrees_after (fun _ _ => within_accept _) fun more => ?_
    exact agrees_ite (agrees_bind hbranch hshrinks fun no => agrees_refl _) (agrees_refl _)

/-! ## the grammar -/

/-- The readers with room for so many groups and for any number are the same, unless the first is
out of room, and then there are more parentheses to come. -/
theorem agrees_read (fuel : Nat) : ∀ n,
    (∀ o outermost ps, Agrees (n + 1) (readChoice (some n) fuel o outermost ps)
      (readChoice none fuel o outermost ps)) ∧
    ∀ o first ps, Agrees (n + 1) (readSequence (some n) fuel o first ps)
      (readSequence none fuel o first ps) := by
  induction fuel with
  | zero => exact fun n => ⟨fun o outermost ps => agrees_refl _, fun o first ps => agrees_refl _⟩
  | succ fuel ih =>
    intro n
    have ihChoice := fun n => (ih n).1
    have ihSequence := fun n => (ih n).2
    have hchoice (o : PatternOptions) (ps : List Pattern) :
        Shrinks (readChoice none fuel o false ps) := shrinks fun _ _ => (within_read fuel).1 _ _ _
    have hsequence (o : PatternOptions) (first : Bool) (ps : List Pattern) :
        Shrinks (readSequence none fuel o first ps) := shrinks fun _ _ => (within_read fuel).2 _ _ _
    constructor
    · intro o outermost ps
      refine agrees_bind (ihSequence n _ _ _) (hsequence _ _ _) fun p => ?_
      refine agrees_after (fun _ _ => within_accept _) fun more => ?_
      exact agrees_ite (agrees_get_bind fun s => ihChoice n _ _ _) (agrees_refl _)
    · intro o first ps s
      obtain ⟨tok, hpeek, -⟩ := run_peek s
      rw [readSequence, readSequence, run_bind_ok hpeek, run_bind_ok hpeek]
      split
      · exact Or.inl rfl
      · exact Or.inl rfl
      · exact Or.inl rfl
      split
      · refine agrees_get_bind (fun s => agrees_after (fun _ _ => within_next) fun _ => ?_) s
        exact agrees_after (fun _ _ => within_escape _ _) fun _ => ihSequence n _ _ _
      rename_i c _ _
      refine agrees_behind hpeek fun s _ => ?_
      -- inside a group, `n` parentheses to come are too many, and elsewhere one more
      obtain ⟨k, hk, hle, hparen⟩ : ∃ k, (if c = '(' then n else n + 1) = k ∧ k ≤ n + 1 ∧
          (c = '(' → k = n) := by
        refine ⟨_, rfl, ?_, fun h => if_pos h⟩
        split <;> omega
      rw [hk]
      have hgo (o : PatternOptions) (ps : List Pattern) : Agrees k
          (readSequence (some n) fuel o first ps) (readSequence none fuel o first ps) :=
        (ihSequence n o first ps).mono hle
      have hrepeat (opened least : Nat) (most : Option Nat) : Agrees k
          (do readSequence (some n) fuel o first (← repeatLast opened least most ps))
          (do readSequence none fuel o first (← repeatLast opened least most ps)) :=
        agrees_after (fun _ _ => within_repeatLast _ _ _ _) fun _ => hgo _ _
      dsimp only
      refine agrees_ite (hgo _ _) (agrees_ite ?_ (agrees_ite ?_ ?_))
      · exact agrees_after (fun _ _ => within_fuel) fun _ =>
          agrees_after (fun _ _ => within_skipLine _) fun _ => hgo _ _
      · refine agrees_after (fun _ _ => within_accept _) fun negated => ?_
        exact agrees_after (fun _ _ => within_fuel) fun _ =>
          agrees_after (fun _ _ => within_setItems _ _ _) fun items => hgo _ _
      refine agrees_ite (hrepeat _ _ _) (agrees_ite (hrepeat _ _ _) (agrees_ite (hrepeat _ _ _) ?_))
      refine agrees_ite (agrees_after (fun _ _ => within_bracedBounds) fun bounds => ?_) ?_
      · split
        · exact hgo _ _
        · exact hrepeat _ _ _
      refine agrees_ite (hgo _ _) (agrees_ite (hgo _ _) (agrees_ite (hgo _ _) ?_))
      refine agrees_if (fun hc => ?_) (hgo _ _)
      obtain rfl := hparen hc
      refine agrees_after (fun _ _ => within_opening _ _ _) fun what => ?_
      refine agrees_bind ?_ ?_ fun part => ?_
      · exact agrees_readOpened (fun room o => ihChoice room _ _ _) (fun o => hchoice o _)
          (fun room => ihSequence room _ _ _) (hsequence _ _ _) _ _ what
      · exact shrinks fun _ _ => within_readOpened (fun o => (within_read fuel).1 _ _ _)
          ((within_read fuel).2 _ _ _) _ _ what
      cases part with
      | some p => exact hgo _ _
      | none => exact agrees_get_bind fun _ => hgo _ _

/-- Reading a pattern with room for so many groups inside one another is reading it with room for
any number, unless it opens more parentheses. -/
theorem ofTextIn_cases (n : Nat) (o : PatternOptions) (t : Text) :
    ofTextIn (some n) o t = ofText o t ∨
      ofTextIn (some n) o t = .error (.fault .tooManyCalls) ∧ n < t.count '(' := by
  have hall : Agrees (n + 1) (readAll (some n)) (readAll none) :=
    agrees_after (fun _ _ => within_checkEnd) fun _ => agrees_get_bind fun s =>
      agrees_bind ((agrees_read _ n).1 _ _ _) (shrinks fun _ _ => (within_read _).1 _ _ _) fun p =>
        agrees_refl _
  unfold ofText ofTextIn
  obtain h | ⟨h, hn⟩ := hall (.start o t)
  · rw [h]
    exact Or.inl rfl
  · rw [h]
    exact Or.inr ⟨rfl, hn⟩

end ExMode.Pattern
