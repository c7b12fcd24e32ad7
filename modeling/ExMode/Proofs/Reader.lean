import ExMode.Pattern.Reader
import ExMode.Proofs.Effect

/-!
# ExMode.Proofs.Reader

Why a pattern is refused.  Nearly every refusal says what is wrong with the wording.
The only others are numbers in braces that are too long to be converted or too large
to be counted to, and options that exclude each other.  Such a number takes many
digits and each option a letter, and they all stand in the pattern.

`Gives w t Q` says of a step of reading that it stays inside the text `t`, an end of
the pattern `w`: it leaves an end of `t` to be read, refuses for no other reasons than
these, and gives something with `Q`.  It is built up along each step as the step is
built up, and the reader as a whole is reached by induction on its fuel
(`within_read`).  All of this is about groups however deep; what a bound on their
depth changes is told elsewhere.
-/

namespace ExMode

/-- Whether a fault is a number that is too long or too large, written with at most so many
digits. -/
def Fault.Oversized (digits : Nat) (f : Fault) : Prop :=
  (∃ n, f = .numeralTooLong n ∧ Text.maxNumeralDigits < n ∧ n ≤ digits) ∨
    f = .repetitionTooLarge ∧ 10 ≤ digits

theorem Fault.Oversized.mono {m n : Nat} {f : Fault} (h : f.Oversized m) (hmn : m ≤ n) :
    f.Oversized n := by
  obtain ⟨k, rfl, hk, hkm⟩ | ⟨rfl, hm⟩ := h
  · exact Or.inl ⟨k, rfl, hk, Nat.le_trans hkm hmn⟩
  · exact Or.inr ⟨rfl, Nat.le_trans hm hmn⟩

/-- Why a pattern can be refused other than for its wording: a number in it that is too long or too
large, or options that exclude each other, for which it has the letters. -/
def Fault.Unreadable (w : Text) (f : Fault) : Prop :=
  f.Oversized (w.countP isDigit) ∨ f = .incompatibleOptions ∧ 'a' ∈ w ∧ 'u' ∈ w

/-! ## numerals -/

theorem toNat_of_isAsciiDigit {c : Char} (h : isAsciiDigit c = true) :
    48 ≤ c.toNat ∧ c.toNat ≤ 57 := by
  have h0 : '0'.toNat = 48 := rfl
  have h9 : '9'.toNat = 57 := rfl
  simp only [isAsciiDigit, Bool.and_eq_true, decide_eq_true_eq, Char.le_def,
    UInt32.le_iff_toNat_le, Char.toNat_val] at h
  omega

theorem digitValue?_of_isAsciiDigit {c : Char} (h : isAsciiDigit c = true) :
    digitValue? c = some (c.toNat - 48) := by
  have hc := toNat_of_isAsciiDigit h
  rw [digitValue?, if_pos (by omega)]
  exact if_pos h

theorem isDigit_of_isAsciiDigit {c : Char} (h : isAsciiDigit c = true) : isDigit c = true := by
  rw [isDigit, digitValue?_of_isAsciiDigit h, Option.isSome_some]

theorem digitValue?_le {c : Char} {v : Nat} (h : digitValue? c = some v) : v ≤ 9 := by
  by_cases hc : isAsciiDigit c = true
  · have := toNat_of_isAsciiDigit hc
    rw [digitValue?_of_isAsciiDigit hc] at h
    cases h
    omega
  · unfold digitValue? at h
    split at h
    · cases h.symm.trans (if_neg hc)
    · obtain ⟨z, hz, rfl⟩ := Option.map_eq_some_iff.1 h
      have := List.find?_some hz
      simp only [Bool.and_eq_true, decide_eq_true_eq] at this
      omega

/-- A text holds as many digits as any numeral that is part of it. -/
theorem length_le_countP_isDigit {ds t : Text} (hsub : ds.Sublist t)
    (hds : ∀ c ∈ ds, isDigit c = true) : ds.length ≤ t.countP isDigit := by
  rw [← List.countP_eq_length.2 hds]
  exact hsub.countP_le

/-- A value takes as many digits as it does in base ten. -/
theorem digitsValue_lt (t : Text) : t.digitsValue < Nat.pow 10 t.length := by
  have hfrom (n : Nat) : t.foldl (fun n c => 10 * n + (digitValue? c).getD 0) n <
      (n + 1) * Nat.pow 10 t.length := by
    induction t generalizing n with
    | nil => exact Nat.lt_of_lt_of_eq (Nat.lt_succ_self n) (Nat.mul_one _).symm
    | cons c r ih =>
      have hv : (digitValue? c).getD 0 ≤ 9 := by
        cases h : digitValue? c with
        | none => exact Nat.zero_le 9
        | some v => exact digitValue?_le h
      calc r.foldl _ (10 * n + (digitValue? c).getD 0)
          < (10 * n + (digitValue? c).getD 0 + 1) * Nat.pow 10 r.length := ih _
        _ ≤ ((n + 1) * 10) * Nat.pow 10 r.length := Nat.mul_le_mul_right _ (by omega)
        _ = (n + 1) * (Nat.pow 10 r.length * 10) := by rw [Nat.mul_assoc, Nat.mul_comm 10]
  exact Nat.lt_of_lt_of_eq (hfrom 0) (Nat.one_mul _)

theorem oversized_of_readNumeral {t : Text} {f : Fault} (h : t.readNumeral = .error f) {n : Nat}
    (hn : t.length ≤ n) : f.Oversized n := by
  unfold Text.readNumeral Text.numeral at h
  split at h
  · rename_i hlong
    cases h
    exact Or.inl ⟨_, rfl, hlong, hn⟩
  · cases h

namespace Pattern

/-- Whether a refusal of a pattern is one of wording, or for what stands in the pattern. -/
def Refusal.Fits (w : Text) : Refusal → Prop
  | .malformed _ _ => True
  | .fault f => f.Unreadable w

/-- Whether what is left of the pattern `w` is an end of `t`, an end of the pattern itself, and the
letters of the options set so far stand in the pattern. -/
structure Reading.Inside (w t : Text) (s : Reading) : Prop where
  whole : t <:+ w
  rest : s.rest <:+ t
  letters : s.letters ⊆ w

theorem Reading.Inside.shrink {w t : Text} {s s' : Reading} (h : s.Inside w t)
    (hrest : s'.rest <:+ s.rest) (hletters : s'.letters = s.letters) : s'.Inside w t :=
  ⟨h.whole, hrest.trans h.rest, hletters ▸ h.letters⟩

/-- A step of reading the pattern `w` that stays inside `t`, and refuses the pattern for its wording
or for what stands in it; what it gives has `Q`. -/
def Gives {α : Type} (w t : Text) (Q : α → Prop) (act : Read α) : Prop :=
  ∀ s : Reading, s.Inside w t →
    Yields (fun (a, s') => s'.Inside w t ∧ Q a) (Refusal.Fits w) (act.run s)

/-- A step of reading that stays inside a text. -/
abbrev Within {α : Type} (w t : Text) (act : Read α) : Prop := Gives w t (fun _ => True) act

section

variable {α β : Type} {w t : Text} {Q : α → Prop} {R : β → Prop}

theorem gives_pure {a : α} (h : Q a) : Gives w t Q (pure a) := fun _ hs => ⟨hs, h⟩

theorem within_pure (a : α) : Within w t (pure a) := gives_pure trivial

theorem Gives.mono {act : Read α} {P : α → Prop} (h : Gives w t P act) (hPQ : ∀ a, P a → Q a) :
    Gives w t Q act :=
  fun s hs => (h s hs).mono (fun (a, _) ha => ⟨ha.1, hPQ a ha.2⟩) fun _ he => he

theorem gives_bind {x : Read α} {f : α → Read β} (hx : Gives w t Q x)
    (hf : ∀ a, Q a → Gives w t R (f a)) : Gives w t R (x >>= f) := by
  intro s hs
  rw [StateT.run_bind]
  exact (hx s hs).bind fun (a, s') ha => hf a ha.2 s' ha.1

theorem within_bind {x : Read α} {f : α → Read β} (hx : Within w t x)
    (hf : ∀ a, Gives w t R (f a)) : Gives w t R (x >>= f) := gives_bind hx fun a _ => hf a

theorem gives_get_bind {f : Reading → Read β} (hf : ∀ s, s.Inside w t → Gives w t R (f s)) :
    Gives w t R (get >>= f) := fun s hs => hf s hs s hs

theorem within_set {s : Reading} (h : s.Inside w t) : Within w t (set s) := fun _ _ => ⟨h, trivial⟩

theorem within_modify {f : Reading → Reading} (h : ∀ s, s.Inside w t → (f s).Inside w t) :
    Within w t (modify f) := fun s hs => ⟨h s hs, trivial⟩

theorem gives_malformed (what : Text) (position : Option Nat) :
    Gives w t Q (throw (.malformed what position)) := fun _ _ => trivial

theorem gives_fault {f : Fault} (h : f.Unreadable w) :
    Gives w t Q (throw (.fault f)) := fun _ _ => h

theorem gives_refuse (what : Text) (back : Nat) : Gives w t Q (Read.refuse what back) :=
  gives_get_bind fun _ _ => gives_malformed _ _

theorem gives_refuseAt (what : Text) (position : Nat) : Gives w t Q (Read.refuseAt what position) :=
  gives_malformed _ _

/-- Nothing happens behind a step that always refuses. -/
theorem gives_refused {x : Read α} {f : α → Read β} (hx : Gives w t (fun _ => False) x) :
    Gives w t R (x >>= f) := gives_bind hx fun _ h => h.elim

/-- A check that refuses, in front of the rest of a step. -/
theorem gives_guard {p : Prop} [Decidable p] {x : Read PUnit} {f : PUnit → Read β}
    (hx : Gives w t (fun _ => False) x) (hf : Gives w t R (f ())) :
    Gives w t R (if p then x >>= f else f ()) := by
  split
  · exact gives_refused hx
  · exact hf

/-- Either of two steps, in front of the same rest. -/
theorem within_join {p : Prop} [Decidable p] {x y : Read α} {f : α → Read β} (hx : Within w t x)
    (hy : Within w t y) (hf : ∀ a, Gives w t R (f a)) :
    Gives w t R (if p then x >>= f else y >>= f) := by
  split
  · exact within_bind hx hf
  · exact within_bind hy hf

theorem gives_ite {p : Prop} [Decidable p] {x y : Read α} (hx : Gives w t Q x)
    (hy : Gives w t Q y) : Gives w t Q (if p then x else y) := by
  split
  · exact hx
  · exact hy

end

/-! ## tokens -/

section

variable {α : Type} {w t : Text} {Q : α → Prop}

theorem run_bind_ok {β : Type} {x : Read α} {f : α → Read β} {s s' : Reading} {a : α}
    (h : x.run s = .ok (a, s')) : (x >>= f).run s = (f a).run s' := by
  rw [StateT.run_bind, h]
  rfl

theorem run_bind_error {β : Type} {x : Read α} {f : α → Read β} {s : Reading} {e : Refusal}
    (h : x.run s = .error e) : (x >>= f).run s = .error e := by
  rw [StateT.run_bind, h]
  rfl

theorem run_checkEnd (s : Reading) : Read.checkEnd.run s = .ok ((), s) ∨
    ∃ what position, Read.checkEnd.run s = .error (.malformed what position) := by
  by_cases h : s.rest = ['\\']
  · exact Or.inr ⟨_, _, congrArg (fun x : Read Unit => x.run s) (if_pos h)⟩
  · exact Or.inl (congrArg (fun x : Read Unit => x.run s) (if_neg h))

theorem run_peek (s : Reading) : ∃ tok, Read.peek.run s = .ok (tok, s) ∧
    tok.elim [] Token.text <+: s.rest := by
  unfold Read.peek
  rw [StateT.run_bind, StateT.run_get, pure_bind]
  dsimp only
  split
  · exact ⟨none, rfl, List.nil_prefix⟩
  · rename_i c r h
    exact ⟨some (.escaped c), rfl, r, h.symm⟩
  · rename_i c r _ h
    exact ⟨some (.plain c), rfl, r, h.symm⟩

/-- Taking a token takes the token in view from the front, unless a lone backslash comes into view
behind it. -/
theorem run_next (s : Reading) :
    (∃ tok s', Read.next.run s = .ok (tok, s') ∧ Read.peek.run s = .ok (tok, s) ∧
      s.rest = tok.elim [] Token.text ++ s'.rest ∧ s'.letters = s.letters) ∨
    ∃ what position, Read.next.run s = .error (.malformed what position) := by
  obtain ⟨tok, hpeek, r, hr⟩ := run_peek s
  cases tok with
  | none =>
    refine Or.inl ⟨none, s, ?_, hpeek, rfl, rfl⟩
    exact run_bind_ok hpeek
  | some tok =>
    let taken : Reading :=
      { s with rest := s.rest.drop tok.text.length, position := s.position + tok.text.length }
    have hrest : taken.rest = r := (congrArg _ hr.symm).trans List.drop_left
    have hnext : Read.next.run s = (Read.checkEnd >>= fun _ => pure (some tok)).run taken :=
      run_bind_ok hpeek
    rw [hnext]
    obtain hend | ⟨what, position, hend⟩ := run_checkEnd taken
    · refine Or.inl ⟨some tok, taken, run_bind_ok hend, hpeek, ?_, rfl⟩
      rw [hrest]
      exact hr.symm
    · exact Or.inr ⟨what, position, run_bind_error hend⟩

theorem within_peek : Within w t Read.peek := by
  intro s hs
  obtain ⟨tok, hpeek, -⟩ := run_peek s
  rw [hpeek]
  exact ⟨hs, trivial⟩

theorem within_checkEnd : Within w t Read.checkEnd :=
  gives_get_bind fun _ _ => gives_ite (gives_refuse _ _) (within_pure _)

/-- A token that is taken is part of the pattern. -/
theorem gives_next : Gives w t (fun tok => ∀ x ∈ tok, x.text ⊆ w) Read.next := by
  intro s hs
  obtain ⟨tok, s', hnext, -, hrest, hletters⟩ | ⟨what, position, hnext⟩ := run_next s <;> rw [hnext]
  · refine ⟨hs.shrink (hrest ▸ List.suffix_append _ _) hletters, ?_⟩
    rintro x rfl
    have hsub : x.text ⊆ s.rest := hrest ▸ List.subset_append_left _ _
    exact List.Subset.trans hsub (hs.rest.trans hs.whole).subset
  · exact trivial

theorem within_next : Within w t Read.next := gives_next.mono fun _ _ => trivial

theorem within_accept (c : Char) : Within w t (Read.accept c) := by
  unfold Read.accept
  refine within_bind within_peek fun tok => ?_
  split
  · exact within_bind within_next fun _ => within_pure _
  · exact within_pure _

/-- What is taken stands in front of what is left. -/
theorem run_takeWhile (p : Char → Bool) (n : Nat) (s : Reading) :
    (∃ ds s', (Read.takeWhile p n).run s = .ok (ds, s') ∧ s.rest = ds ++ s'.rest ∧
      s'.letters = s.letters ∧ ∀ c ∈ ds, p c = true) ∨
    ∃ what position, (Read.takeWhile p n).run s = .error (.malformed what position) := by
  induction n generalizing s with
  | zero => exact Or.inl ⟨[], s, rfl, rfl, rfl, List.forall_mem_nil _⟩
  | succ n ih =>
    obtain ⟨tok, hpeek, -⟩ := run_peek s
    rw [Read.takeWhile, run_bind_ok hpeek]
    match tok, hpeek with
    | none, _ => exact Or.inl ⟨[], s, rfl, rfl, rfl, List.forall_mem_nil _⟩
    | some (.escaped _), _ => exact Or.inl ⟨[], s, rfl, rfl, rfl, List.forall_mem_nil _⟩
    | some (.plain c), hpeek =>
      dsimp only
      split
      · rename_i hc
        obtain ⟨tok, s', hnext, htok, hrest, hkept⟩ | ⟨what, position, hnext⟩ := run_next s
        · obtain rfl : some (Token.plain c) = tok := by
            injection hpeek.symm.trans htok with h
            exact congrArg Prod.fst h
          rw [run_bind_ok hnext]
          obtain ⟨ds, s'', htake, hrest', hkept', hds⟩ | ⟨what, position, htake⟩ := ih s'
          · refine Or.inl ⟨c :: ds, s'', run_bind_ok htake, ?_, hkept'.trans hkept,
              List.forall_mem_cons.2 ⟨hc, hds⟩⟩
            rw [hrest, hrest']
            rfl
          · exact Or.inr ⟨what, position, run_bind_error htake⟩
        · exact Or.inr ⟨what, position, run_bind_error hnext⟩
      · exact Or.inl ⟨[], s, rfl, rfl, rfl, List.forall_mem_nil _⟩

/-- Characters that are taken are part of the text. -/
theorem gives_takeWhile (p : Char → Bool) (n : Nat) :
    Gives w t (fun ds => ds.Sublist w ∧ ∀ c ∈ ds, p c = true) (Read.takeWhile p n) := by
  intro s hs
  obtain ⟨ds, s', htake, hrest, hletters, hds⟩ | ⟨what, position, htake⟩ := run_takeWhile p n s <;>
    rw [htake]
  · have hsub : ds.Sublist s.rest := hrest ▸ List.sublist_append_left _ _
    exact ⟨hs.shrink (hrest ▸ List.suffix_append _ _) hletters,
      hsub.trans (hs.rest.trans hs.whole).sublist, hds⟩
  · exact trivial

theorem within_takeWhile (p : Char → Bool) (n : Nat) : Within w t (Read.takeWhile p n) :=
  (gives_takeWhile p n).mono fun _ _ => trivial

theorem within_takeUntil (close : Char) (what : String) (fuel : Nat) (taken : Text) :
    Within w t (Read.takeUntil close what fuel taken) := by
  induction fuel generalizing taken with
  | zero => exact within_pure taken
  | succ fuel ih =>
    refine within_bind within_next fun tok => ?_
    split
    · split
      · exact gives_refuse _ _
      · exact gives_refuse _ _
    · split
      · split
        · exact gives_refuse _ _
        · exact within_pure _
      · exact ih _

theorem within_fuel : Within w t Read.fuel := gives_get_bind fun _ _ => within_pure _

end

/-! ## escapes -/

section

variable {w t : Text}

theorem within_hexEscape (c : Char) (n : Nat) : Within w t (hexEscape c n) := by
  refine within_bind (within_takeWhile _ _) fun ds => gives_ite ?_ (gives_refuse _ _)
  exact gives_ite (gives_refuse _ _) (within_pure _)

theorem within_namedEscape : Within w t namedEscape := by
  refine within_bind (within_accept _) fun b => ?_
  split
  · exact within_bind within_fuel fun n => within_bind (within_takeUntil _ _ _ _) fun _ =>
      gives_refuse _ _
  · exact gives_refuse _ _

theorem within_setEscape (c : Char) : Within w t (setEscape c) := by
  unfold setEscape
  have hex (n : Nat) : Within w t (do return SetItem.code (← hexEscape c n)) :=
    within_bind (within_hexEscape c n) fun _ => within_pure _
  split
  · exact within_pure _
  · exact within_pure _
  · split
    · exact within_pure _
    split
    · exact hex 2
    split
    · exact hex 4
    split
    · exact hex 8
    split
    · exact within_bind within_namedEscape fun _ => within_pure _
    split
    · exact within_bind (within_takeWhile _ _) fun _ =>
        gives_ite (gives_refuse _ _) (within_pure _)
    split
    · exact gives_refuse _ _
    · exact within_pure _

theorem within_checkReference (i : Nat) : Within w t (checkReference i) := by
  refine gives_get_bind fun s hs => ?_
  split
  · exact within_pure _
  · refine gives_guard (gives_refuse _ _) ?_
    split
    · exact gives_refuse _ _
    · exact within_pure _

theorem within_groupReference (o : PatternOptions) (i width : Nat) :
    Within w t (groupReference o i width) := by
  refine gives_get_bind fun s hs => ?_
  split
  · exact gives_guard (gives_refuse _ _)
      (within_bind (within_checkReference i) fun _ => within_pure _)
  · exact gives_refuse _ _

theorem within_escape (o : PatternOptions) (c : Char) : Within w t (escape o c) := by
  unfold escape
  have hex (n : Nat) : Within w t (do return Pattern.test o (.code (← hexEscape c n) false)) :=
    within_bind (within_hexEscape c n) fun _ => within_pure _
  split
  · exact within_pure _
  · exact within_pure _
  · exact within_pure _
  · split
    · exact hex 2
    split
    · exact hex 4
    split
    · exact hex 8
    split
    · exact within_bind within_namedEscape fun _ => within_pure _
    split
    · exact within_bind (within_takeWhile _ _) fun _ => within_pure _
    split
    · refine within_bind (within_takeWhile _ _) fun ds => ?_
      split
      · refine within_join (within_takeWhile _ _) (within_pure _) fun es => ?_
        dsimp only
        split
        · exact gives_ite (gives_refuse _ _) (within_pure _)
        · exact within_groupReference _ _ _
      · exact within_groupReference _ _ _
    split
    · exact gives_refuse _ _
    · exact within_pure _

/-! ## sets and repetitions -/

theorem within_setItem (tok : Token) : Within w t (setItem tok) := by
  cases tok with
  | plain c => exact within_pure _
  | escaped c => exact within_setEscape c

theorem within_setItems (opened fuel : Nat) (items : List SetItem) :
    Within w t (setItems opened fuel items) := by
  induction fuel generalizing items with
  | zero => exact within_pure items
  | succ fuel ih =>
    refine within_bind within_next fun tok => ?_
    split
    · exact gives_refuseAt _ _
    · refine gives_ite (within_pure _) (within_bind (within_setItem _) fun low => ?_)
      refine within_bind (within_accept _) fun ranged => gives_ite ?_ (ih _)
      refine within_bind within_next fun tok => ?_
      split
      · exact gives_refuseAt _ _
      · refine gives_ite (within_pure _) (within_bind (within_setItem _) fun high => ?_)
        split
        · exact gives_ite (gives_refuse _ _) (ih _)
        · exact gives_refuse _ _

/-- A number as large as the limit has ten digits. -/
theorem ten_le_of_countLimit_le {ds : Text} (h : countLimit ≤ ds.digitsValue) : 10 ≤ ds.length := by
  have hlt : Nat.pow 10 9 < Nat.pow 10 ds.length :=
    calc Nat.pow 10 9 < countLimit := by decide
      _ ≤ ds.digitsValue := h
      _ < Nat.pow 10 ds.length := digitsValue_lt ds
  exact (Nat.pow_lt_pow_iff_right (by decide)).1 hlt

theorem within_readCount {ds : Text} (h : ds.length ≤ w.countP isDigit) :
    Within w t (readCount ds) := by
  unfold readCount
  split
  · rename_i f hf
    exact gives_fault (Or.inl (oversized_of_readNumeral hf h))
  · rename_i n hn
    split
    · rename_i hlimit
      obtain rfl : ds.digitsValue = n := by
        unfold Text.readNumeral Text.numeral at hn
        split at hn <;> cases hn
        rfl
      have hten := Nat.le_trans (ten_le_of_countLimit_le hlimit) h
      exact gives_fault (Or.inl (Or.inr ⟨rfl, hten⟩))
    · exact within_pure n

/-- A numeral that is taken from a text has no more digits than the text. -/
theorem gives_takeDigits (n : Nat) :
    Gives w t (fun ds => ds.length ≤ w.countP isDigit) (Read.takeWhile isAsciiDigit n) := by
  refine (gives_takeWhile _ _).mono fun ds ⟨hsub, hds⟩ => ?_
  exact length_le_countP_isDigit hsub fun c hc => isDigit_of_isAsciiDigit (hds c hc)

theorem within_bracedBounds : Within w t bracedBounds := by
  refine gives_get_bind fun s hs => within_bind within_peek fun tok => ?_
  refine gives_ite (within_pure _) (within_bind within_fuel fun n => ?_)
  refine gives_bind (gives_takeDigits n) fun los hlos => ?_
  refine within_bind (within_accept _) fun comma => ?_
  extract_lets bounded
  have hbounded (his : Text) (hhis : his.length ≤ w.countP isDigit) : Within w t (bounded his) := by
    refine within_bind (within_accept _) fun closed => gives_ite ?_ ?_
    · refine within_join (within_pure 0) (within_readCount hlos) fun least => ?_
      refine gives_ite (within_pure _) (within_bind (within_readCount hhis) fun most => ?_)
      exact gives_ite (gives_refuseAt _ _) (within_pure _)
    · exact within_bind (within_set hs) fun _ => within_pure _
  refine gives_ite (within_bind within_fuel fun n => ?_) (hbounded los hlos)
  exact gives_bind (gives_takeDigits n) hbounded

theorem within_repeatLast (opened least : Nat) (most : Option Nat) (ps : List Pattern) :
    Within w t (repeatLast opened least most ps) := by
  unfold repeatLast
  split
  · exact gives_refuseAt _ _
  · refine gives_guard (gives_refuseAt _ _) (gives_guard (gives_refuseAt _ _) ?_)
    refine within_bind (within_accept _) fun lazy => gives_ite (within_pure _) ?_
    exact within_bind (within_accept _) fun possessive =>
      gives_ite (within_pure _) (within_pure _)

/-! ## groups -/

theorem within_checkGroupName (name : Text) : Within w t (checkGroupName name) :=
  gives_ite (gives_refuse _ _) (within_pure _)

theorem gives_refuseOption {α : Type} {Q : α → Prop} (missing : String) (tok : Token) :
    Gives w t Q (refuseOption missing tok) := gives_refuse _ _

theorem within_optionsOff (fuel : Nat) (tok : Token) (off : Text) (o : PatternOptions) :
    Within w t (optionsOff fuel tok off o) := by
  induction fuel generalizing tok off o with
  | zero => exact within_pure _
  | succ fuel ih =>
    unfold optionsOff
    split
    · refine gives_guard (gives_refuse _ _) ?_
      dsimp only
      split
      · exact within_pure _
      · refine within_bind within_next fun tok => ?_
        split
        · exact gives_refuse _ _
        · exact gives_ite (within_pure _) (gives_ite (ih _ _ _) (gives_refuseOption _ _))
    · exact within_pure _

/-- The letters of the options that are turned on for the whole pattern. -/
def OptionScope.letters : OptionScope → Text
  | .global letters _ => letters
  | .inside _ => []

theorem OptionScope.letters_inside (o : PatternOptions) : (inside o).letters ⊆ w :=
  List.nil_subset w

theorem gives_endOptions (fuel : Nat) (tok : Token) {on : Text} (hon : on ⊆ w)
    (o : PatternOptions) : Gives w t (fun x => x.letters ⊆ w) (endOptions fuel tok on o) := by
  unfold endOptions
  refine gives_ite (gives_pure hon) (gives_guard (gives_refuse _ _) ?_)
  refine gives_ite (gives_pure (OptionScope.letters_inside _)) ?_
  refine within_bind within_next fun tok => ?_
  split
  · exact gives_refuse _ _
  · refine gives_ite (within_bind (within_optionsOff _ _ _ _) fun x => ?_) (gives_refuseOption _ _)
    exact gives_guard (gives_refuse _ _) (gives_guard (gives_refuse _ _)
      (gives_pure (OptionScope.letters_inside _)))

/-- The letters that are read for the whole pattern stand in it. -/
theorem gives_optionsOn (fuel : Nat) {tok : Token} (htok : tok.text ⊆ w) {on : Text}
    (hon : on ⊆ w) (o : PatternOptions) :
    Gives w t (fun x => x.letters ⊆ w) (optionsOn fuel tok on o) := by
  induction fuel generalizing tok on o with
  | zero => exact gives_pure (OptionScope.letters_inside _)
  | succ fuel ih =>
    unfold optionsOn
    refine gives_ite (gives_endOptions _ _ hon _) ?_
    split
    · exact gives_pure (OptionScope.letters_inside _)
    · rename_i c
      have hmore : c :: on ⊆ w := List.cons_subset.2 ⟨htok List.mem_cons_self, hon⟩
      refine gives_guard (gives_refuse _ _) (gives_guard (gives_refuse _ _) ?_)
      dsimp only
      split
      · exact gives_pure (OptionScope.letters_inside _)
      · refine gives_bind gives_next fun tok htok => ?_
        split
        · exact gives_refuse _ _
        · exact gives_ite (gives_endOptions _ _ hmore _)
            (gives_ite (ih (htok _ rfl) hmore _) (gives_refuseOption _ _))

theorem within_skipComment (opened fuel : Nat) : Within w t (skipComment opened fuel) := by
  induction fuel with
  | zero => exact within_pure _
  | succ fuel ih =>
    refine within_bind within_peek fun tok => ?_
    split
    · exact gives_refuseAt _ _
    · exact within_bind within_next fun _ => gives_ite (within_pure _) ih

theorem within_skipLine (fuel : Nat) : Within w t (skipLine fuel) := by
  induction fuel with
  | zero => exact within_pure _
  | succ fuel ih =>
    refine within_bind within_next fun tok => ?_
    split
    · exact within_pure _
    · exact within_pure _
    · exact ih

theorem within_conditionIndex : Within w t conditionIndex := by
  refine within_bind within_fuel fun n => within_bind (within_takeUntil _ _ _ _) fun name => ?_
  refine gives_get_bind fun s hs => gives_ite (gives_get_bind fun s hs => ?_) ?_
  · split
    · exact gives_refuseAt _ _
    · exact within_pure _
  · split
    · exact gives_refuseAt _ _
    · refine gives_guard (gives_refuseAt _ _) (gives_guard (gives_refuseAt _ _) ?_)
      refine within_bind (within_modify fun s hs => ?_) fun _ => within_pure _
      split
      · exact hs
      · exact ⟨hs.whole, hs.rest, hs.letters⟩

theorem within_opening (o : PatternOptions) (opened : Nat) (atStart : Bool) :
    Within w t (opening o opened atStart) := by
  refine within_bind (within_accept _) fun asked => gives_ite ?_ (within_pure _)
  refine gives_bind gives_next fun tok htok => ?_
  split
  · exact gives_refuse _ _
  · split
    · refine within_bind (within_accept _) fun named => gives_ite ?_ ?_
      · refine within_bind within_fuel fun n => ?_
        refine within_bind (within_takeUntil _ _ _ _) fun name => ?_
        exact within_bind (within_checkGroupName name) fun _ => within_pure _
      refine within_bind (within_accept _) fun again => gives_ite ?_ ?_
      · refine within_bind within_fuel fun n => ?_
        refine within_bind (within_takeUntil _ _ _ _) fun name => ?_
        refine within_bind (within_checkGroupName name) fun _ => gives_get_bind fun s hs => ?_
        split
        · exact gives_refuse _ _
        · exact gives_guard (gives_refuse _ _)
            (within_bind (within_checkReference _) fun _ => within_pure _)
      · refine within_bind within_next fun tok => ?_
        split
        · exact gives_refuse _ _
        · exact gives_refuse _ _
    · exact within_pure _
    · exact within_bind within_fuel fun _ => within_bind (within_skipComment _ _) fun _ =>
        within_pure _
    · exact within_pure _
    · exact within_pure _
    · refine within_bind within_next fun tok => ?_
      split
      · exact gives_refuse _ _
      · exact within_pure _
      · exact within_pure _
      · exact gives_refuse _ _
    · exact within_bind within_conditionIndex fun _ => within_pure _
    · exact within_pure _
    · refine gives_ite (within_bind within_fuel fun n => ?_) (gives_refuse _ _)
      refine gives_bind (gives_optionsOn _ (htok _ rfl) (List.nil_subset w) _)
        fun scope hscope => ?_
      split
      · exact within_pure _
      · refine gives_guard (gives_refuseAt _ _) (within_bind (within_modify fun s hs => ?_) ?_)
        · exact ⟨hs.whole, hs.rest, List.append_subset.2 ⟨hscope, hs.letters⟩⟩
        · exact fun _ => within_pure _

theorem within_close (opened : Nat) : Within w t (close opened) :=
  within_bind (within_accept _) fun _ => gives_ite (gives_refuseAt _ _) (within_pure _)

theorem within_openGroup (name : Option Text) : Within w t (openGroup name) := by
  refine gives_get_bind fun s hs => ?_
  extract_lets opened
  have hopened : Within w t (opened ()) := by
    exact within_bind (within_set ⟨hs.whole, hs.rest, hs.letters⟩) fun _ => within_pure _
  split
  · exact hopened
  · split
    · exact hopened
    · exact gives_refused (gives_refuse _ _)

/-- What a parenthesis opened is read inside the text, if what stands in it is. -/
theorem within_readOpened {alternatives : Option Nat → PatternOptions → Read Pattern}
    {side : Option Nat → Read Pattern} (halternatives : ∀ o, Within w t (alternatives none o))
    (hside : Within w t (side none)) (o : PatternOptions) (opened : Nat) (what : Opening) :
    Within w t (readOpened none alternatives side o opened what) := by
  have henter {α : Type} {f : Option Nat → Read α} (hf : Within w t (f none)) :
      Within w t (enter none >>= f) :=
    gives_bind (gives_pure (w := w) rfl) fun room (hroom : none = room) => hroom ▸ hf
  have hinside (inner : PatternOptions) {f : Pattern → Read (Option Pattern)}
      (hf : ∀ p, Within w t (f p)) : Within w t (do
        let p ← alternatives (← enter none) inner
        close opened
        f p) :=
    henter (within_bind (halternatives _) fun p => within_bind (within_close _) fun _ => hf p)
  cases what with
  | whole part => exact within_pure _
  | plain inner => exact hinside _ fun p => within_pure _
  | atomic => exact hinside _ fun p => within_pure _
  | capture name =>
    refine within_bind (within_openGroup _) fun i => hinside _ fun p => ?_
    refine within_bind (within_modify fun s hs => ?_) fun _ => within_pure _
    exact ⟨hs.whole, hs.rest, hs.letters⟩
  | ahead negated => exact hinside _ fun p => within_pure _
  | behind negated =>
    have hbehind (n : Option Nat) : Within w t (modify fun s => { s with behindFrom := n }) :=
      within_modify fun s hs => ⟨hs.whole, hs.rest, hs.letters⟩
    refine gives_get_bind fun s _ => within_bind (within_modify fun s hs => ?_) fun _ => henter ?_
    · exact ⟨hs.whole, hs.rest, hs.letters⟩
    refine within_bind (halternatives _) fun p => within_bind (hbehind _) fun _ => ?_
    exact within_bind (within_close _) fun _ => gives_get_bind fun s _ => within_pure _
  | condition i =>
    refine within_bind (within_checkReference _) fun _ => henter ?_
    refine within_bind hside fun yes => within_bind (within_accept _) fun more => ?_
    have hrest (no : Pattern) : Within w t (do
        let no ← pure no
        close opened
        return some (Pattern.conditional i yes no)) :=
      within_bind (within_pure no) fun no => within_bind (within_close _) fun _ => within_pure _
    refine gives_ite (within_bind hside fun no => ?_) (hrest _)
    exact within_bind within_peek fun tok =>
      gives_ite (gives_refused (gives_refuse _ _)) (hrest no)

/-! ## the grammar -/

/-- With groups however deep, the reader stays inside its text, whatever its fuel. -/
theorem within_read (fuel : Nat) :
    (∀ o outermost ps, Within w t (readChoice none fuel o outermost ps)) ∧
      ∀ o first ps, Within w t (readSequence none fuel o first ps) := by
  induction fuel with
  | zero => exact ⟨fun o outermost ps => within_pure _, fun o first ps => within_pure _⟩
  | succ fuel ih =>
    obtain ⟨ihChoice, ihSequence⟩ := ih
    constructor
    · intro o outermost ps
      refine within_bind (ihSequence _ _ _) fun p => within_bind (within_accept _) fun more => ?_
      exact gives_ite (gives_get_bind fun s _ => ihChoice _ _ _) (within_pure _)
    · intro o first ps
      refine within_bind within_peek fun tok => ?_
      split
      · exact within_pure _
      · exact within_pure _
      · exact within_pure _
      refine gives_get_bind fun s _ => within_bind within_next fun _ => ?_
      dsimp only
      split
      · exact within_bind (within_escape _ _) fun _ => ihSequence _ _ _
      refine gives_ite (ihSequence _ _ _) (gives_ite ?_ (gives_ite ?_ ?_))
      · exact within_bind within_fuel fun _ => within_bind (within_skipLine _) fun _ =>
          ihSequence _ _ _
      · refine within_bind (within_accept _) fun negated => within_bind within_fuel fun n => ?_
        exact within_bind (within_setItems _ _ _) fun items => ihSequence _ _ _
      have hrepeat (opened least : Nat) (most : Option Nat) : Within w t (do
          readSequence none fuel o first (← repeatLast opened least most ps)) :=
        within_bind (within_repeatLast _ _ _ _) fun _ => ihSequence _ _ _
      refine gives_ite (hrepeat _ _ _) (gives_ite (hrepeat _ _ _) (gives_ite (hrepeat _ _ _) ?_))
      refine gives_ite (within_bind within_bracedBounds fun bounds => ?_) ?_
      · split
        · exact ihSequence _ _ _
        · exact hrepeat _ _ _
      refine gives_ite (ihSequence _ _ _) (gives_ite (ihSequence _ _ _)
        (gives_ite (ihSequence _ _ _) (gives_ite ?_ (ihSequence _ _ _))))
      refine within_bind (within_opening _ _ _) fun what => within_bind ?_ fun part => ?_
      · exact within_readOpened (fun o => ihChoice _ _ _) (ihSequence _ _ _) _ _ what
      cases part with
      | some p => exact ihSequence _ _ _
      | none => exact gives_get_bind fun _ _ => ihSequence _ _ _

/-- Kinds of letters that are mixed are both asked for in the pattern. -/
theorem unreadable_of_mixesKinds {letters : Text} (hmixed : mixesKinds letters = true)
    (hletters : letters ⊆ w) : Fault.incompatibleOptions.Unreadable w := by
  obtain ⟨ha, hu⟩ := Bool.and_eq_true_iff.1 hmixed
  exact Or.inr ⟨rfl, hletters (List.contains_iff_mem.1 ha), hletters (List.contains_iff_mem.1 hu)⟩

theorem within_finish (p : Pattern) : Within w t (finish p) := by
  refine within_bind within_peek fun tok => ?_
  cases tok with
  | some tok => exact gives_refused (gives_refuse _ _)
  | none =>
    refine gives_get_bind fun s _ => ?_
    dsimp only
    split
    · exact gives_refused (gives_refuseAt _ _)
    · split
      · exact gives_malformed _ _
      · exact within_pure p

theorem within_readAll : Within w t (readAll none) := by
  refine within_bind within_checkEnd fun _ => gives_get_bind fun s _ => ?_
  refine within_bind ((within_read _).1 _ _ _) fun p => gives_get_bind fun s hs => ?_
  dsimp only
  split
  · rename_i hmixed
    exact gives_refused (gives_fault (unreadable_of_mixesKinds hmixed hs.letters))
  · exact within_finish p

end

/-- A pattern whose groups may be however deep is refused for its wording, or for what stands in
it. -/
theorem fits_of_ofText {o : PatternOptions} {t : Text} {e : Refusal} (h : ofText o t = .error e) :
    e.Fits t := by
  have hread := within_readAll (.start o t) ⟨List.suffix_refl t, List.suffix_refl t,
    List.nil_subset t⟩
  unfold ofText ofTextIn at h
  split at h
  · cases h
  · rename_i e' herror
    rw [herror] at hread
    cases h
    exact hread

end Pattern

end ExMode
