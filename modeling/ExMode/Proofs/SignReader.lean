import ExMode.Proofs.AddressGrammar
import ExMode.Proofs.MagicTree

/-!
# ExMode.Proofs.SignReader

Reading the signs that a pattern is written with, one at a time.  Each takes one step of the reader,
which adds a part to those that were read before, or changes the last of them, and leaves what
follows to be read.

Two signs look further than their own text.  A repetition asks whether what follows makes it another
kind of repetition, so there is a condition on that (`Pattern.Follows`).  And an opening brace asks
whether a count and a closing brace follow; if not, it goes back and is an ordinary character.

* `Pattern.run_bracedBounds`, `Pattern.run_bracedBounds_escaped` — a count that is closed, and one
  that is not;
* `Pattern.run_readSequence_single`, `Pattern.run_readSequence_times`,
  `Pattern.run_readSequence_edge`, `Pattern.run_readSequence_opening` — the steps.
-/

namespace ExMode

namespace Pattern

open Magic (Count Edge Sign Single Times)

variable {s : Reading} {z : Text} {c : Char}

/-! ## characters -/

/-- A reading further along the text, at `z`. -/
def Reading.past (s : Reading) (n : Nat) (z : Text) : Reading :=
  { s with rest := z, position := s.position + n }

theorem Reading.past_past (s : Reading) (m n : Nat) (y z : Text) :
    (s.past m y).past n z = s.past (m + n) z := by
  rw [past, past, past, Nat.add_assoc]

theorem run_peek_next (h : s.rest = c :: z) (hc : c ≠ '\\') (hz : z ≠ ['\\']) :
    Read.peek.run s = .ok (some (.plain c), s) ∧
      Read.next.run s = .ok (some (.plain c), s.past 1 z) := by
  have htok : Token.plain c ≠ .plain '\\' := fun heq => hc (Token.plain.inj heq)
  exact ⟨run_peek_of_rest h htok, run_next_of_rest h htok hz⟩

theorem run_accept_of_cons (h : s.rest = c :: z) (hc : c ≠ '\\') (hz : z ≠ ['\\']) :
    (Read.accept c).run s = .ok (true, s.past 1 z) := by
  obtain ⟨hpeek, hnext⟩ := run_peek_next h hc hz
  unfold Read.accept
  rw [run_bind_ok hpeek, if_pos rfl, run_bind_ok hnext]
  rfl

theorem run_accept_of_head_ne (h : s.rest.head? ≠ some c) :
    (Read.accept c).run s = .ok (false, s) := by
  obtain ⟨tok, hpeek, hprefix⟩ := run_peek s
  have htok : tok ≠ some (.plain c) := by
    rintro rfl
    obtain ⟨r, hr⟩ := hprefix
    exact h (hr ▸ rfl)
  unfold Read.accept
  rw [run_bind_ok hpeek, if_neg htok]
  rfl

variable {p : Char → Bool}

theorem run_takeWhile_stop (h : ∀ c, s.rest.head? = some c → p c = false) (n : Nat) :
    (Read.takeWhile p n).run s = .ok ([], s) := by
  cases n with
  | zero => rfl
  | succ n =>
    obtain ⟨tok, hpeek, hprefix⟩ := run_peek s
    rw [Read.takeWhile, run_bind_ok hpeek]
    cases tok with
    | none => rfl
    | some tok =>
      cases tok with
      | escaped c => rfl
      | plain c =>
        obtain ⟨r, hr⟩ := hprefix
        have hc : ¬ p c = true := by
          rw [h c (hr ▸ rfl)]
          exact Bool.false_ne_true
        exact congrArg (fun x : Read Text => x.run s) (if_neg hc)

/-- Characters are taken up to the first that does not belong to them. -/
theorem run_takeWhile_of_rest {u : Text} (h : s.rest = u ++ z) (hu : ∀ c ∈ u, p c = true)
    (hp : p '\\' = false) (hz : ∀ c, z.head? = some c → p c = false) (hlast : z ≠ ['\\']) {n : Nat}
    (hn : u.length < n) : (Read.takeWhile p n).run s = .ok (u, s.past u.length z) := by
  obtain ⟨n, rfl⟩ := Nat.exists_eq_add_of_lt hn
  induction u generalizing s with
  | nil =>
    have hs : s.past 0 z = s := by
      rw [← List.nil_append z, ← h]
      rfl
    rw [List.length_nil, hs]
    refine run_takeWhile_stop (fun c hc => hz c ?_) _
    rwa [h] at hc
  | cons c u ih =>
    obtain ⟨hc, hu⟩ := List.forall_mem_cons.1 hu
    have hne {d : Char} (hd : p d = true) : d ≠ '\\' := by
      rintro rfl
      exact Bool.false_ne_true (hp.symm.trans hd)
    have hrest : u ++ z ≠ ['\\'] := by
      cases u with
      | nil => exact hlast
      | cons d u => exact fun heq => hne (hu d List.mem_cons_self) (List.cons.inj heq).1
    obtain ⟨hpeek, hnext⟩ := run_peek_next (z := u ++ z) h (hne hc) hrest
    have htake := ih (s := s.past 1 (u ++ z)) rfl hu (by omega)
    have hlength : (c :: u).length + n + 1 = (u.length + n + 1) + 1 := by
      rw [List.length_cons]
      omega
    rw [hlength, Read.takeWhile, run_bind_ok hpeek]
    dsimp only
    rw [if_pos hc, run_bind_ok hnext, run_bind_ok htake, Reading.past_past, Nat.add_comm 1]
    rfl

/-! ## counts -/

/-- The bounds between braces, once they are taken: they count if a brace closes them. -/
def boundsTaken (s : Reading) (los his : Text) : Read (Option (Nat × Option Nat)) := do
  if ← Read.accept '}' then
    let least ← if los = [] then pure 0 else readCount los
    if his = [] then return some (least, none)
    else
      let most ← readCount his
      if most < least then Read.refuseAt "min repeat greater than max repeat".toList s.position
      else return some (least, some most)
  else
    set s
    return none

theorem run_fuel (s : Reading) : Read.fuel.run s = .ok (s.rest.length + 1, s) := rfl

theorem run_readCount {n : Nat} (hn : n < countLimit) (s : Reading) :
    (readCount (Text.ofNat n)).run s = .ok (n, s) := by
  have hlength : (Text.ofNat n).length ≤ Text.maxNumeralDigits := by
    refine Nat.le_trans (Nat.toDigits_length 10 n 10 (by decide) (Nat.lt_trans hn (by decide))) ?_
    decide
  unfold readCount
  rw [Text.readNumeral_of_length_le hlength, Text.digitsValue_ofNat]
  exact congrArg (fun x : Read Nat => x.run s) (if_neg (Nat.not_le.2 hn))

/-- Digits are taken up to what follows them. -/
theorem run_takeDigits (n : Nat) (h : s.rest = Text.ofNat n ++ z)
    (hz : ∀ c, z.head? = some c → isAsciiDigit c = false) (hlast : z ≠ ['\\']) :
    (Read.takeWhile isAsciiDigit (s.rest.length + 1)).run s =
      .ok (Text.ofNat n, s.past (Text.ofNat n).length z) := by
  refine run_takeWhile_of_rest h (fun c hc => Text.isAsciiDigit_of_mem_ofNat hc) rfl hz hlast ?_
  rw [h, List.length_append]
  omega

/-- The bounds of a count are taken from between the braces. -/
theorem run_bracedBounds_text (k : Count) (h : s.rest = k.text ++ z)
    (hz : ∀ c, z.head? = some c → isAsciiDigit c = false ∧ c ≠ ',') (hlast : z ≠ ['\\']) :
    bracedBounds.run s =
      (boundsTaken s (Text.ofNat k.least) (k.most.elim [] Text.ofNat)).run
        (s.past k.text.length z) := by
  obtain ⟨tok, hpeek, hprefix⟩ := run_peek s
  have htok : tok ≠ some (.plain '}') := by
    rintro rfl
    obtain ⟨r, hr⟩ := hprefix
    obtain ⟨c, t, hc, hdigit⟩ := k.exists_text
    rw [h, hc] at hr
    rw [← (List.cons.inj hr).1] at hdigit
    exact absurd hdigit (by decide)
  unfold bracedBounds
  rw [run_bind_ok (run_get s), run_bind_ok hpeek, if_neg htok]
  have hcomma : isAsciiDigit ',' = false := rfl
  cases k with
  | exactly n =>
    have htake := run_takeDigits n h (fun c hc => (hz c hc).1) hlast
    have hnone : (Read.accept ',').run (s.past (Text.ofNat n).length z) = .ok (false, _) :=
      run_accept_of_head_ne fun hc => (hz ',' hc).2 rfl
    rw [run_bind_ok (run_fuel s), run_bind_ok htake, run_bind_ok hnone]
    rfl
  | atLeast n =>
    have h : s.rest = Text.ofNat n ++ ',' :: z := by rw [h, Count.text, List.append_assoc]; rfl
    have htake := run_takeDigits n h (by simpa using hcomma) (by simp)
    have hsome := run_accept_of_cons (s := s.past (Text.ofNat n).length (',' :: z)) (z := z) rfl
      (by decide) hlast
    rw [run_bind_ok (run_fuel s), run_bind_ok htake, run_bind_ok hsome]
    rw [Reading.past_past, if_pos rfl, run_bind_ok (run_fuel _),
      run_bind_ok (run_takeWhile_stop (fun c hc => (hz c hc).1) _), Count.text, List.length_append]
    rfl
  | between n m =>
    have h : s.rest = Text.ofNat n ++ ',' :: (Text.ofNat m ++ z) := by
      rw [h, Count.text, List.append_assoc]
      rfl
    have hne : Text.ofNat m ++ z ≠ ['\\'] := (Count.exactly m).text_append_ne z
    have htake := run_takeDigits n h (by simpa using hcomma) (by simp)
    have hsome := run_accept_of_cons
      (s := s.past (Text.ofNat n).length (',' :: (Text.ofNat m ++ z))) rfl (by decide) hne
    rw [run_bind_ok (run_fuel s), run_bind_ok htake, run_bind_ok hsome]
    have htake' := run_takeDigits m (s := s.past ((Text.ofNat n).length + 1) (Text.ofNat m ++ z))
      rfl (fun c hc => (hz c hc).1) hlast
    rw [Reading.past_past, if_pos rfl, run_bind_ok (run_fuel _), run_bind_ok htake',
      Reading.past_past, Count.text, List.length_append, List.length_cons, Nat.add_assoc,
      Nat.add_comm 1]
    rfl

/-- A closing brace makes a count of what stands in front of it. -/
theorem run_bracedBounds (k : Count) (hk : k.Fits) (h : s.rest = k.text ++ '}' :: z)
    (hz : z ≠ ['\\']) :
    bracedBounds.run s = .ok (some (k.least, k.most), s.past (k.text.length + 1) z) := by
  have hclosed := run_accept_of_cons (s := s.past k.text.length ('}' :: z)) rfl (by decide) hz
  have hbrace : isAsciiDigit '}' = false ∧ '}' ≠ ',' := by decide
  rw [run_bracedBounds_text k h (by simpa using hbrace) (by simp), boundsTaken,
    run_bind_ok hclosed, if_pos rfl, if_neg (Text.ofNat_ne_nil _),
    run_bind_ok (run_readCount hk.least_lt _), Reading.past_past]
  cases hmost : k.most with
  | none => rfl
  | some m =>
    have hordered : ¬ m < k.least := Nat.not_lt.2 (hk.ordered m hmost)
    rw [Option.elim_some]
    dsimp only
    rw [if_neg (Text.ofNat_ne_nil _), run_bind_ok (run_readCount (hk.most_lt m hmost) _),
      if_neg hordered]
    rfl

/-- Behind a backslash, a closing brace does not close anything. -/
theorem run_bracedBounds_escaped (k : Count) (h : s.rest = k.text ++ '\\' :: '}' :: z) :
    bracedBounds.run s = .ok (none, s) := by
  have hopen : (Read.accept '}').run (s.past k.text.length ('\\' :: '}' :: z)) = .ok (false, _) :=
    run_accept_of_head_ne (by simp [Reading.past])
  have hbackslash : isAsciiDigit '\\' = false ∧ '\\' ≠ ',' := by decide
  rw [run_bracedBounds_text k h (by simpa using hbackslash) (by simp), boundsTaken,
    run_bind_ok hopen]
  rfl

/-! ## signs -/

/-- The pattern that stands for one character. -/
def ofSingle : Single → Pattern
  | .char c => ofChar c
  | .any => .test .plain .any

/-- How often a part of a pattern is to stand in a row: the least and the most. -/
def boundsOf : Times → Nat × Option Nat
  | .star => (0, none)
  | .plus => (1, none)
  | .maybe => (0, some 1)
  | .query => (0, some 1)
  | .counted k _ => (k.least, k.most)

/-- A part of a pattern, to be taken as often as is asked for. -/
def repeatedBy (k : Times) (p : Pattern) : Pattern :=
  .repeated .greedy (boundsOf k).1 (boundsOf k).2 p

/-- Whether a text can follow a sign without being taken for a part of it: it is not a lone
backslash, and it makes no other kind of repetition of one that stands in front. -/
structure Follows (z : Text) : Prop where
  ne_backslash : z ≠ ['\\']
  ne_query : z.head? ≠ some '?'
  ne_plus : z.head? ≠ some '+'

variable {room : Option Nat} {fuel : Nat} {first : Bool} {ps : List Pattern} {q : Pattern}

theorem bare_char (c : Char) : (Sign.single (.char c)).bare = (literalToken c).text := by
  rw [literalToken, Sign.bare]
  split <;> rfl

theorem run_readSequence_single {x : Single} (h : s.rest = (Sign.single x).bare ++ z)
    (hz : z ≠ ['\\']) : (readSequence room (fuel + 1) .plain first ps).run s =
      (readSequence room fuel .plain first (ofSingle x :: ps)).run
        (s.past (Sign.single x).bare.length z) := by
  cases x with
  | char c =>
    rw [bare_char] at h ⊢
    exact run_readSequence_cons h hz
  | any =>
    obtain ⟨hpeek, hnext⟩ := run_peek_next h (by decide) hz
    rw [readSequence, run_bind_ok hpeek]
    exact (run_bind_ok (run_get s)).trans (run_bind_ok hnext)

/-- A word edge is read as a word boundary, whichever edge it is. -/
theorem run_readSequence_edge {e : Edge} (h : s.rest = (Sign.edge e).bare ++ z) (hz : z ≠ ['\\']) :
    (readSequence room (fuel + 1) .plain first ps).run s =
      (readSequence room fuel .plain first (.anchor .plain .wordBoundary :: ps)).run
        (s.past 2 z) := by
  have hpeek : Read.peek.run s = .ok (some (.escaped 'b'), s) := run_peek_of_rest h nofun
  have hnext : Read.next.run s = .ok (some (.escaped 'b'), s.past 2 z) :=
    run_next_of_rest h nofun hz
  rw [readSequence, run_bind_ok hpeek]
  exact (run_bind_ok (run_get s)).trans (run_bind_ok hnext)

theorem run_repeatLast (hanchor : q.isAnchor = false) (hrepetition : q.isRepetition = false)
    (hs : Follows s.rest) (opened least : Nat) (most : Option Nat) :
    (repeatLast opened least most (q :: ps)).run s =
      .ok (.repeated .greedy least most q :: ps, s) := by
  have hlazy := run_accept_of_head_ne hs.ne_query
  have hpossessive := run_accept_of_head_ne hs.ne_plus
  rw [repeatLast, hanchor, hrepetition]
  exact (run_bind_ok hlazy).trans (run_bind_ok hpossessive)

theorem run_readSequence_times {k : Times} (h : s.rest = (Sign.times k).bare ++ z)
    (hz : Follows z) (hanchor : q.isAnchor = false) (hrepetition : q.isRepetition = false) :
    (readSequence room (fuel + 1) .plain first (q :: ps)).run s =
      (readSequence room fuel .plain first (repeatedBy k q :: ps)).run
        (s.past (Sign.times k).bare.length z) := by
  have hlast {n : Nat} (opened least : Nat) (most : Option Nat) :
      (repeatLast opened least most (q :: ps)).run (s.past n z) =
        .ok (.repeated .greedy least most q :: ps, s.past n z) :=
    run_repeatLast hanchor hrepetition hz opened least most
  cases k with
  | star | plus | maybe | query =>
    obtain ⟨hpeek, hnext⟩ := run_peek_next h (by decide) hz.ne_backslash
    rw [readSequence, run_bind_ok hpeek]
    exact (run_bind_ok (run_get s)).trans ((run_bind_ok hnext).trans (run_bind_ok (hlast _ _ _)))
  | counted k hk =>
    have h : s.rest = '{' :: (k.text ++ '}' :: z) := by
      rw [h, Sign.bare, List.cons_append, List.append_assoc]
      rfl
    obtain ⟨hpeek, hnext⟩ := run_peek_next h (by decide) (k.text_append_ne _)
    have hbounds := run_bracedBounds (s := s.past 1 (k.text ++ '}' :: z)) k hk rfl hz.ne_backslash
    rw [Reading.past_past, Nat.add_comm 1] at hbounds
    have hlength : (Sign.times (.counted k hk)).bare.length = k.text.length + 1 + 1 := by
      simp [Sign.bare]
    rw [readSequence, run_bind_ok hpeek, hlength]
    exact (run_bind_ok (run_get s)).trans ((run_bind_ok hnext).trans
      ((run_bind_ok hbounds).trans (run_bind_ok (hlast _ _ _))))

/-- A brace that is not closed stands for itself. -/
theorem run_readSequence_brace (k : Count) (h : s.rest = '{' :: (k.text ++ '\\' :: '}' :: z)) :
    (readSequence room (fuel + 1) .plain first ps).run s =
      (readSequence room fuel .plain first (ofChar '{' :: ps)).run
        (s.past 1 (k.text ++ '\\' :: '}' :: z)) := by
  obtain ⟨hpeek, hnext⟩ := run_peek_next h (by decide) (k.text_append_ne _)
  have hbounds := run_bracedBounds_escaped (s := s.past 1 (k.text ++ '\\' :: '}' :: z)) k rfl
  rw [readSequence, run_bind_ok hpeek]
  exact (run_bind_ok (run_get s)).trans ((run_bind_ok hnext).trans (run_bind_ok hbounds))

/-- Parts come to an end at the end of the text, at a bar and at a closing parenthesis. -/
theorem run_readSequence_stop (hs : s.rest = [] ∨ s.rest = '|' :: z ∨ s.rest = ')' :: z) :
    (readSequence room (fuel + 1) .plain first ps).run s = .ok (sequence ps.reverse, s) := by
  rw [readSequence]
  obtain hs | hs | hs := hs
  · rw [run_bind_ok (run_peek_of_nil hs)]
    rfl
  · have hpeek : Read.peek.run s = .ok (some (.plain '|'), s) := run_peek_of_rest hs (by decide)
    rw [run_bind_ok hpeek]
    rfl
  · have hpeek : Read.peek.run s = .ok (some (.plain ')'), s) := run_peek_of_rest hs (by decide)
    rw [run_bind_ok hpeek]
    rfl

/-- A parenthesis starts a group, if there is always room for one: what stands in it is read by
itself, up to the parenthesis that closes it. -/
theorem run_readSequence_opening (h : s.rest = '(' :: z) (hz : Follows z) :
    (readSequence none (fuel + 1) .plain first ps).run s =
      (do
        let p ← readChoice none fuel .plain false []
        close s.position
        modify fun s' => { s' with widths := (s.nextGroup, p.width s'.widths) :: s'.widths }
        readSequence none fuel .plain first (.capture s.nextGroup p :: ps) : Read Pattern).run
        { s.past 1 z with nextGroup := s.nextGroup + 1 } := by
  obtain ⟨hpeek, hnext⟩ := run_peek_next h (by decide) hz.ne_backslash
  have hquery : (Read.accept '?').run (s.past 1 z) = .ok (false, _) :=
    run_accept_of_head_ne hz.ne_query
  have hopening : (opening .plain s.position (first && ps.isEmpty)).run (s.past 1 z) =
      .ok (.capture none, s.past 1 z) := by
    rw [opening, run_bind_ok hquery]
    rfl
  have hgroup : (openGroup none).run (s.past 1 z) =
      .ok (s.nextGroup, { s.past 1 z with nextGroup := s.nextGroup + 1 }) := rfl
  rw [readSequence, run_bind_ok hpeek]
  refine (run_bind_ok (run_get s)).trans ((run_bind_ok hnext).trans
    ((run_bind_ok hopening).trans ?_))
  simp only [readOpened, enter, bind_assoc, pure_bind]
  exact run_bind_ok hgroup

end Pattern

end ExMode
