import ExMode.Proofs.AddressGrammar

/-!
# ExMode.Proofs.RangeGrammar

The grammar of ranges, and what the reader of ranges has to do with it.

A range is `%`, an address, or two addresses with a separator between them, of which either may be
left out.  `LineRange.Written` holds the parts as they are written; `text` is what they spell and
`value` what they mean.

Behind the longest range at the front of a text stands nothing that lengthens it, and from there
the reader takes its parts one after the other.  A separator that is followed by no address is the
end of the range, except that what follows must not look like a botched address.  The canonical
spelling of a range is read by the same lemma, since nothing that stops a range lengthens it.

* `LineRange.Written.IsLongest` — the longest range at the front of a text;
* `LineRange.Written.parse_text` — a range is read as far as it is written;
* `LineRange.Written.Stops.isLongest` — a range that nothing lengthens is the longest;
* `LineRange.parse_longest` — what is read from any text whose numbers can be converted.
-/

namespace ExMode

namespace LineRange

/-- The offsets of the addresses of a range. -/
def offsets : LineRange → List Int
  | .wholeFile => []
  | .single a => [a.offset]
  | .pair a _ c => [a.offset, c.offset]

/-- A range as it is written; either side of a separator can be left out. -/
inductive Written where
  | wholeFile
  | single (address : Address.Written)
  | pair (start : Option Address.Written) (separator : Separator) (stop : Option Address.Written)
  deriving DecidableEq, Repr

namespace Written

open Address.Written (sideText sideValue)

/-- What the parts spell. -/
def text : Written → Text
  | .wholeFile => ['%']
  | .single a => a.text
  | .pair a s c => sideText a ++ s.char :: sideText c

/-- What the parts mean. -/
def value : Written → LineRange
  | .wholeFile => .wholeFile
  | .single a => .single a.value
  | .pair a s c => .pair (sideValue a) s (sideValue c)

/-- The addresses that are written. -/
def addresses : Written → List Address.Written
  | .wholeFile => []
  | .single a => [a]
  | .pair a _ c => a.toList ++ c.toList

/-- Whether what is written is a range. -/
def WellFormed (w : Written) : Prop := ∀ a ∈ w.addresses, a.WellFormed

/-- Whether the numbers of a range can be converted. -/
def Fits (w : Written) : Prop := ∀ a ∈ w.addresses, a.Fits

/-- Whether a text can stand behind a range without lengthening it. -/
def Stops : Written → Text → Prop
  | .wholeFile, _ => True
  | .single a, rest => a.Stops rest ∧ ∀ c ∈ rest.head?, Separator.ofChar? c = none
  | .pair _ _ (some c), rest => c.Stops rest
  | .pair _ _ none, rest => ¬ ∃ c : Address.Written, c.WellFormed ∧ c.text <+: rest

/-- Whether what follows a separator looks like a botched address. -/
def Botched : Written → Text → Prop
  | .pair _ _ none, rest => ∃ c ∈ rest.head?, isLetter c = false ∧ isBlank c = false
  | _, _ => False

/-- Whether a text is made up of a range and a rest, and no longer range stands at its front. -/
structure IsLongest (w : Written) (t rest : Text) : Prop where
  wellFormed : w.WellFormed
  spells : w.text ++ rest = t
  longest : ∀ w' : Written, w'.WellFormed → w'.text <+: t → w'.text.length ≤ w.text.length

variable {w : Written} {t rest : Text}

theorem wellFormed_pair {start stop : Option Address.Written} {sep : Separator} :
    (pair start sep stop).WellFormed ↔
      (∀ a ∈ start, a.WellFormed) ∧ ∀ c ∈ stop, c.WellFormed := by
  simp [WellFormed, addresses, or_imp, forall_and]

theorem fits_pair {start stop : Option Address.Written} {sep : Separator} :
    (pair start sep stop).Fits ↔ (∀ a ∈ start, a.Fits) ∧ ∀ c ∈ stop, c.Fits := by
  simp [Fits, addresses, or_imp, forall_and]

/-! ### reading a range -/

/-- What looks like a botched address behind a separator is refused, and named. -/
theorem parse_of_botched {c : Char} {r between : Text} {start : Option Address} {sep : Separator}
    (hc : isBlank c = false) (hpercent : c ≠ '%')
    (hstart : Address.parse (c :: r) = .ok (start, sep.char :: between))
    (hstop : Address.parse between = .ok (none, rest))
    (hrest : ∃ d ∈ rest.head?, isLetter d = false ∧ isBlank d = false) :
    parse (c :: r) = .error (.command ⟨.invalidAddress, rest⟩) := by
  rw [parse, Text.trimLeft_cons_of_not_blank hc]
  split
  · rename_i h
    exact absurd (List.cons.inj h).1 hpercent
  · rw [hstart]
    obtain ⟨d, hd, hletter, hblank⟩ := hrest
    obtain ⟨r, rfl⟩ := List.head?_eq_some_iff.1 hd
    simp only [bind, Except.bind, Separator.ofChar?_char, hstop, hletter, hblank]
    rfl

/-- A range is read as far as it is written, in front of a text that does not lengthen it, unless
that text makes it a botched one. -/
theorem parse_text (hw : w.WellFormed) (hfits : w.Fits) (h : w.Stops rest) :
    (w.Botched rest → parse (w.text ++ rest) = .error (.command ⟨.invalidAddress, rest⟩)) ∧
      (¬ w.Botched rest → parse (w.text ++ rest) = .ok (some w.value, rest)) := by
  cases w with
  | wholeFile => exact ⟨False.elim, fun _ => rfl⟩
  | single a =>
    refine ⟨False.elim, fun _ => ?_⟩
    have hw : a.WellFormed := hw a List.mem_cons_self
    obtain ⟨hstops, hsep⟩ := h
    have haddress := Address.Written.parse_text hw (hfits a List.mem_cons_self) hstops
    obtain ⟨c, r, htext, hblank, hpercent⟩ := Address.Written.exists_text_eq_cons hw
    show parse (a.text ++ rest) = _
    rw [htext] at haddress ⊢
    exact parse_of_address hblank hpercent haddress hsep
  | pair start sep stop =>
    obtain ⟨hstart, hstop⟩ := wellFormed_pair.1 hw
    obtain ⟨hstartFits, hstopFits⟩ := fits_pair.1 hfits
    have hfirst := Address.Written.parse_sideText hstart hstartFits sep (sideText stop ++ rest)
    obtain ⟨c, r, htext, hblank, hpercent⟩ :=
      Address.Written.exists_sideText_eq_cons hstart sep (sideText stop ++ rest)
    rw [text, List.append_assoc, List.cons_append]
    rw [htext] at hfirst ⊢
    cases stop with
    | some stop =>
      refine ⟨False.elim, fun _ => ?_⟩
      have hsecond := Address.Written.parse_text (hstop stop rfl) (hstopFits stop rfl) h
      exact parse_of_addresses hblank hpercent hfirst hsecond
    | none =>
      have hsecond := Address.Written.parse_eq_none h
      refine ⟨parse_of_botched hblank hpercent hfirst hsecond, fun hbotched => ?_⟩
      refine parse_of_separator hblank hpercent hfirst hsecond fun d hd => ?_
      rw [← Bool.not_eq_false, ← Bool.not_eq_false, ← not_and_or]
      exact fun hneither => hbotched ⟨d, hd, hneither⟩

/-- Where no range stands, none is read. -/
theorem parse_eq_none (h : ¬ ∃ w : Written, w.WellFormed ∧ w.text <+: t.trimLeft) :
    parse t = .ok (none, t.trimLeft) := by
  rw [parse_eq_of_trimLeft (Text.trimLeft_trimLeft t).symm]
  obtain hnil | ⟨c, r, hcons, hc⟩ := Text.trimLeft_eq_nil_or t
  · rw [hnil]
    rfl
  rw [hcons] at h ⊢
  have haddress : Address.parse (c :: r) = .ok (none, c :: r) := by
    refine Address.Written.parse_eq_none ?_
    rintro ⟨a, ha, hprefix⟩
    exact h ⟨.single a, List.forall_mem_singleton.2 ha, hprefix⟩
  refine parse_of_address hc ?_ haddress fun d hd => ?_
  · rintro rfl
    exact h ⟨.wholeFile, nofun, r, rfl⟩
  · cases hsep : Separator.ofChar? d with
    | none => rfl
    | some sep =>
      cases hd
      obtain rfl := Separator.eq_char_of_ofChar? hsep
      exact absurd ⟨.pair none sep none, wellFormed_pair.2 ⟨nofun, nofun⟩, r, rfl⟩ h

/-! ### longest ranges -/

/-- Behind the longest range stands nothing that would lengthen it. -/
theorem IsLongest.stops (h : w.IsLongest t rest) : w.Stops rest := by
  obtain ⟨hw, rfl, hlongest⟩ := h
  have hlonger {w' : Written} {more : Text} (hw' : w'.WellFormed) (hne : more ≠ [])
      (htext : w'.text = w.text ++ more) (hmore : more <+: rest) : False := by
    have hle := hlongest w' hw' (htext ▸ (List.prefix_append_right_inj _).2 hmore)
    rw [htext, List.length_append] at hle
    exact hne (List.length_eq_zero_iff.1 (by omega))
  have hhead {c : Char} (hc : c ∈ rest.head?) : [c] <+: rest := by
    obtain ⟨r, rfl⟩ := List.head?_eq_some_iff.1 hc
    exact ⟨r, rfl⟩
  cases w with
  | wholeFile => trivial
  | single a =>
    have hw : a.WellFormed := hw a List.mem_cons_self
    refine ⟨?_, fun c hc => ?_⟩
    · by_contra hstops
      obtain ⟨c, hc, a', ha', htext⟩ := Address.Written.exists_longer hw hstops
      have hsingle : (single a').WellFormed := List.forall_mem_singleton.2 ha'
      exact hlonger hsingle (List.cons_ne_nil c []) htext (hhead hc)
    · cases hsep : Separator.ofChar? c with
      | none => rfl
      | some sep =>
        obtain rfl := Separator.eq_char_of_ofChar? hsep
        have hpair : (pair (some a) sep none).WellFormed :=
          wellFormed_pair.2 ⟨by rintro _ ⟨⟩; exact hw, nofun⟩
        exact (hlonger hpair (List.cons_ne_nil sep.char []) rfl (hhead hc)).elim
  | pair start sep stop =>
    obtain ⟨hstart, hstop⟩ := wellFormed_pair.1 hw
    have hpair {c : Address.Written} (hc : c.WellFormed) :
        (pair start sep (some c)).WellFormed :=
      wellFormed_pair.2 ⟨hstart, by rintro _ ⟨⟩; exact hc⟩
    cases stop with
    | some c =>
      by_contra hstops
      obtain ⟨d, hd, c', hc', htext⟩ := Address.Written.exists_longer (hstop c rfl) hstops
      refine hlonger (hpair hc') (List.cons_ne_nil d []) ?_ (hhead hd)
      simp [text, sideText, htext]
    | none =>
      rintro ⟨c, hc, hprefix⟩
      exact hlonger (hpair hc) hc.ne_nil (by simp [text, sideText]) hprefix

/-- Where a range stands, a longest one does. -/
theorem exists_isLongest (h : ∃ w : Written, w.WellFormed ∧ w.text <+: t) :
    ∃ (w : Written) (rest : Text), w.IsLongest t rest := by
  obtain ⟨w, ⟨hw, rest, rfl⟩, hmin⟩ :=
    (measure fun w : Written => t.length - w.text.length).wf.has_min
      {w | w.WellFormed ∧ w.text <+: t} h
  refine ⟨w, rest, hw, rfl, fun w' hw' hprefix => ?_⟩
  have hlength := hprefix.length_le
  have hle : ¬ (w.text ++ rest).length - w'.text.length < (w.text ++ rest).length - w.text.length :=
    hmin w' ⟨hw', hprefix⟩
  omega

theorem fits_of_front (hw : w.WellFormed) (ht : t.NumbersFit) (h : w.text <+: t) : w.Fits := by
  intro a ha
  refine Address.Written.fits_of_isInfix (hw a ha) (ht.mono h.isInfix) ?_
  cases w with
  | wholeFile => cases ha
  | single b =>
    obtain rfl := List.mem_singleton.1 ha
    exact List.infix_refl _
  | pair start sep stop =>
    obtain hstart | hstop := List.mem_append.1 ha
    · obtain rfl := Option.mem_toList.1 hstart
      exact (List.prefix_append _ _).isInfix
    · obtain rfl := Option.mem_toList.1 hstop
      exact ((List.suffix_cons _ _).trans (List.suffix_append _ _)).isInfix

/-- A range that nothing lengthens is the longest: the reader takes it, and the longest one too. -/
theorem Stops.isLongest (h : w.Stops rest) (hw : w.WellFormed)
    (ht : (w.text ++ rest).NumbersFit) : w.IsLongest (w.text ++ rest) rest := by
  have hprefix : w.text <+: w.text ++ rest := List.prefix_append _ _
  obtain ⟨w', rest', h'⟩ := exists_isLongest ⟨w, hw, hprefix⟩
  obtain ⟨hbotched, hread⟩ := parse_text hw (fits_of_front hw ht hprefix) h
  obtain ⟨hbotched', hread'⟩ := parse_text h'.wellFormed
    (fits_of_front h'.wellFormed ht ⟨rest', h'.spells⟩) h'.stops
  rw [h'.spells] at hbotched' hread'
  have hrest : rest = rest' := by
    by_cases hb : w.Botched rest
    · by_cases hb' : w'.Botched rest'
      · cases (hbotched hb).symm.trans (hbotched' hb')
        rfl
      · cases (hbotched hb).symm.trans (hread' hb')
    · by_cases hb' : w'.Botched rest'
      · cases (hread hb).symm.trans (hbotched' hb')
      · exact (Prod.mk.inj (Except.ok.inj ((hread hb).symm.trans (hread' hb')))).2
  subst hrest
  have htext : w'.text = w.text := List.append_cancel_right h'.spells
  exact ⟨hw, rfl, htext ▸ h'.longest⟩

/-! ### the canonical spelling -/

/-- The parts of the canonical spelling of a range. -/
def ofRange : LineRange → Written
  | .wholeFile => .wholeFile
  | .single a => .single (.ofAddress a)
  | .pair a s c => .pair (some (.ofAddress a)) s (some (.ofAddress c))

theorem readable_value (hw : w.WellFormed) (hfits : w.Fits)
    (hoffsets : ∀ n ∈ w.value.offsets, Text.Convertible n.natAbs) : w.value.Readable := by
  have hside {side : Option Address.Written} (hw : ∀ a ∈ side, a.WellFormed)
      (hfits : ∀ a ∈ side, a.Fits) (hoffset : Text.Convertible (sideValue side).offset.natAbs) :
      (sideValue side).Readable := by
    cases side with
    | none => exact ⟨nofun, nofun, hoffset⟩
    | some a => exact Address.Written.readable_value (hw a rfl) (hfits a rfl) hoffset
  cases w with
  | wholeFile => trivial
  | single a =>
    exact Address.Written.readable_value (hw a List.mem_cons_self) (hfits a List.mem_cons_self)
      (hoffsets _ List.mem_cons_self)
  | pair start sep stop =>
    obtain ⟨hstart, hstop⟩ := wellFormed_pair.1 hw
    obtain ⟨hstartFits, hstopFits⟩ := fits_pair.1 hfits
    exact ⟨hside hstart hstartFits (hoffsets _ List.mem_cons_self),
      hside hstop hstopFits (hoffsets _ (List.mem_cons_of_mem _ List.mem_cons_self))⟩

section

variable {r : LineRange}

theorem text_ofRange (hr : r.Readable) : (ofRange r).text = r.text := by
  cases r with
  | wholeFile => rfl
  | single a => exact Address.Written.text_ofAddress hr
  | pair a s c =>
    show (Address.Written.ofAddress a).text ++ s.char :: (Address.Written.ofAddress c).text = _
    rw [Address.Written.text_ofAddress hr.1, Address.Written.text_ofAddress hr.2]
    rfl

theorem value_ofRange (hr : r.Readable) : (ofRange r).value = r := by
  cases r with
  | wholeFile => rfl
  | single a => exact congrArg LineRange.single (Address.Written.value_ofAddress hr)
  | pair a s c =>
    show LineRange.pair (Address.Written.ofAddress a).value s
      (Address.Written.ofAddress c).value = _
    rw [Address.Written.value_ofAddress hr.1, Address.Written.value_ofAddress hr.2]

theorem forall_addresses_ofRange {P : Address.Written → Prop} (hr : r.Readable)
    (h : ∀ a : Address, a.Readable → P (.ofAddress a)) : ∀ a ∈ (ofRange r).addresses, P a := by
  cases r with
  | wholeFile => exact nofun
  | single a => exact List.forall_mem_singleton.2 (h a hr)
  | pair a s c => exact List.forall_mem_cons.2 ⟨h a hr.1, List.forall_mem_singleton.2 (h c hr.2)⟩

theorem wellFormed_ofRange (hr : r.Readable) : (ofRange r).WellFormed :=
  forall_addresses_ofRange hr fun _ => Address.Written.wellFormed_ofAddress

theorem fits_ofRange (hr : r.Readable) : (ofRange r).Fits :=
  forall_addresses_ofRange hr fun _ => Address.Written.fits_ofAddress

end

/-- What stops a range stops its canonical spelling. -/
theorem Stops.ofRange_value (h : w.Stops rest) : (ofRange w.value).Stops rest := by
  cases w with
  | wholeFile => trivial
  | single a => exact ⟨h.1.ofAddress_value, h.2⟩
  | pair start sep stop =>
    cases stop with
    | some c => exact Address.Written.Stops.ofAddress_value h
    | none =>
      -- a sign would be an address, and behind the cursor line a digit does no harm
      intro c hc
      obtain ⟨r, rfl⟩ := List.head?_eq_some_iff.1 hc
      have hsign : ¬ (c = '+' ∨ c = '-') := by
        intro hc
        obtain ⟨a, ha, htext⟩ := Address.Written.exists_text_of_sign hc
        exact h ⟨a, ha, r, by rw [htext, List.singleton_append]⟩
      rw [not_or] at hsign
      exact ⟨hsign.1, hsign.2, fun _ => ⟨rfl, nofun⟩⟩

theorem not_botched_ofRange (r : LineRange) (rest : Text) : ¬ (ofRange r).Botched rest := by
  cases r <;> exact id

/-- The canonical spelling of a range is read back in front of whatever the range was read in front
of, if its numbers can be converted. -/
theorem parse_text_value (hw : w.WellFormed) (hfits : w.Fits) (h : w.Stops rest)
    (hoffsets : ∀ n ∈ w.value.offsets, Text.Convertible n.natAbs) :
    parse (w.value.text ++ rest) = .ok (some w.value, rest) := by
  have hr := readable_value hw hfits hoffsets
  have hread := (parse_text (wellFormed_ofRange hr) (fits_ofRange hr) h.ofRange_value).2
    (not_botched_ofRange _ _)
  rwa [text_ofRange hr, value_ofRange hr] at hread

end Written

/-! ### sums that grow too long -/

/-- Two terms are read as their sum, however long that is. -/
theorem parse_sum {m n : Nat} (hm : (Text.ofNat m).length ≤ Text.maxNumeralDigits)
    (hn : (Text.ofNat n).length ≤ Text.maxNumeralDigits) :
    parse ('+' :: (Text.ofNat m ++ '+' :: Text.ofNat n)) =
      .ok (some (.single ⟨.cursor, (m + n : Nat)⟩), []) := by
  let w : Address.Written := ⟨.omitted, [(true, Text.ofNat m), (true, Text.ofNat n)]⟩
  have hterms {P : Address.Term → Prop} (hm : P (true, Text.ofNat m))
      (hn : P (true, Text.ofNat n)) : ∀ x ∈ w.terms, P x :=
    List.forall_mem_cons.2 ⟨hm, List.forall_mem_singleton.2 hn⟩
  have hw : w.WellFormed := by
    refine ⟨trivial, hterms ?_ ?_, List.cons_ne_nil _ _⟩
    · exact fun _ => Text.isDigit_of_mem_ofNat
    · exact fun _ => Text.isDigit_of_mem_ofNat
  have hfits : w.Fits := by
    refine ⟨fun ds hds => ?_, hterms hm hn⟩
    cases hds
  have hamount (k : Nat) : Address.termAmount (true, Text.ofNat k) = k := by
    rw [Address.termAmount, if_neg (Text.ofNat_ne_nil k), Text.digitsValue_ofNat]
    rfl
  have hvalue : w.value = ⟨.cursor, (m + n : Nat)⟩ := by
    show Address.mk .cursor (_ + (_ + 0)) = _
    rw [hamount, hamount, Int.add_zero, Int.natCast_add]
  have htext : w.text = '+' :: (Text.ofNat m ++ '+' :: Text.ofNat n) := by
    show '+' :: (Text.ofNat m ++ '+' :: (Text.ofNat n ++ [])) = _
    rw [List.append_nil]
  have hsingle : (Written.single w).WellFormed := List.forall_mem_singleton.2 hw
  have hstops : (Written.single w).Stops [] := ⟨w.stops_nil, fun c hc => by cases hc⟩
  have hread : parse (w.text ++ []) = .ok (some (.single w.value), []) :=
    (Written.parse_text hsingle (List.forall_mem_singleton.2 hfits) hstops).2 id
  rwa [List.append_nil, htext, hvalue] at hread

theorem parse_of_error {c : Char} {r : Text} {f : Fault} (hc : isBlank c = false)
    (hpercent : c ≠ '%') (h : Address.parse (c :: r) = .error f) :
    parse (c :: r) = .error f := by
  rw [parse, Text.trimLeft_cons_of_not_blank hc]
  split
  · rename_i hcons
    exact absurd (List.cons.inj hcons).1 hpercent
  · rw [h]
    rfl

/-- An offset that is printed with too many digits is not read back. -/
theorem parse_text_of_lt {n : Nat} (h : Text.maxNumeralDigits < (Text.ofNat n).length) :
    parse (text (.single ⟨.cursor, n⟩)) = .error (.numeralTooLong (Text.ofNat n).length) := by
  have hpos : (0 : Int) < n := by
    rcases n with _ | n
    · exact absurd h (by decide)
    · omega
  have hterms : Address.scanTerms (Address.offsetText n) = ([(true, Text.ofNat n)], []) := by
    have hscan := Address.scanTerms_offsetText n Address.ends_nil
    rwa [List.append_nil, Address.offsetTerms, if_neg (by omega), decide_eq_true hpos] at hscan
  have hvalue : Address.termValue (true, Text.ofNat n) =
      .error (.numeralTooLong (Text.ofNat n).length) := by
    rw [Address.termValue, if_neg (Text.ofNat_ne_nil n), Text.readNumeral, Text.numeral, if_pos h]
    rfl
  have haddress : Address.parse ('.' :: Address.offsetText n) =
      .error (.numeralTooLong (Text.ofNat n).length) := by
    show (do
      return (some (Address.mk .cursor
        (← Address.sumTerms (Address.scanTerms (Address.offsetText n)).1)), _) :
        Except Fault (Option Address × Text)) = _
    rw [hterms, Address.sumTerms, hvalue]
    rfl
  exact parse_of_error (by decide) (by decide) haddress

/-- A sum that outgrows the digits of its two numbers has one digit more. -/
theorem length_ofNat_sum {m n digits : Nat} (hm : m < 10 ^ digits) (hn : n < 10 ^ digits)
    (hle : 10 ^ digits ≤ m + n) : (Text.ofNat (m + n)).length = digits + 1 := by
  refine Nat.le_antisymm (Nat.toDigits_length 10 _ _ (Nat.succ_pos _) ?_) ?_
  · rw [Nat.pow_succ]
    omega
  · have hvalue := digitsValue_lt (Text.ofNat (m + n))
    rw [Text.digitsValue_ofNat] at hvalue
    exact (Nat.pow_lt_pow_iff_right (by decide)).1 (Nat.lt_of_le_of_lt hle hvalue)

/-! ### any text -/

/-- Of a text whose numbers can be converted, behind its leading blanks, the longest range is read
and the rest is left; none is read where none stands.  The range means what it says, side by side
and term by term, and its canonical spelling in front of the same rest is read as the same range,
if its numbers can be converted too.  Only one thing is refused: a separator followed by no address
and by a character that is neither a letter nor blank, and then what follows the separator is named.
-/
theorem parse_longest {t : Text} (ht : t.NumbersFit) :
    ((¬ ∃ w : Written, w.WellFormed ∧ w.text <+: t.trimLeft) →
      parse t = .ok (none, t.trimLeft)) ∧
    ((∃ w : Written, w.WellFormed ∧ w.text <+: t.trimLeft) →
      ∃ (w : Written) (rest : Text), w.IsLongest t.trimLeft rest) ∧
    (∀ (w : Written) (rest : Text), w.IsLongest t.trimLeft rest →
      (w.Botched rest → parse t = .error (.command ⟨.invalidAddress, rest⟩)) ∧
      (¬ w.Botched rest → parse t = .ok (some w.value, rest) ∧
        ((∀ n ∈ w.value.offsets, Text.Convertible n.natAbs) →
          parse (w.value.text ++ rest) = .ok (some w.value, rest)))) ∧
    ∀ f : Fault, parse t = .error f ↔
      ∃ (start : Option Address.Written) (sep : Separator) (rest : Text),
        (∀ a ∈ start, a.WellFormed) ∧
        t.trimLeft = Address.Written.sideText start ++ sep.char :: rest ∧
        (¬ ∃ c : Address.Written, c.WellFormed ∧ c.text <+: rest) ∧
        (∃ d ∈ rest.head?, isLetter d = false ∧ isBlank d = false) ∧
        f = .command ⟨.invalidAddress, rest⟩ := by
  have hs : t.trimLeft.NumbersFit := ht.mono (List.dropWhile_suffix _).isInfix
  have hself : parse t = parse t.trimLeft := parse_eq_of_trimLeft (Text.trimLeft_trimLeft t).symm
  have hread (w : Written) (rest : Text) (hw : w.IsLongest t.trimLeft rest) :
      (w.Botched rest → parse t = .error (.command ⟨.invalidAddress, rest⟩)) ∧
        (¬ w.Botched rest → parse t = .ok (some w.value, rest)) := by
    have hfits := Written.fits_of_front hw.wellFormed hs ⟨rest, hw.spells⟩
    rw [hself, ← hw.spells]
    exact Written.parse_text hw.wellFormed hfits hw.stops
  refine ⟨Written.parse_eq_none, Written.exists_isLongest, fun w rest hw => ?_, fun f => ⟨?_, ?_⟩⟩
  · obtain ⟨hbotched, hok⟩ := hread w rest hw
    refine ⟨hbotched, fun hb => ⟨hok hb, ?_⟩⟩
    exact Written.parse_text_value hw.wellFormed
      (Written.fits_of_front hw.wellFormed hs ⟨rest, hw.spells⟩) hw.stops
  · intro hf
    by_cases hrange : ∃ w : Written, w.WellFormed ∧ w.text <+: t.trimLeft
    · obtain ⟨w, rest, hw⟩ := Written.exists_isLongest hrange
      obtain ⟨hbotched, hok⟩ := hread w rest hw
      by_cases hb : w.Botched rest
      · cases hf.symm.trans (hbotched hb)
        match w, hw, hb with
        | .pair start sep none, hw, hb =>
          refine ⟨start, sep, rest, (Written.wellFormed_pair.1 hw.wellFormed).1, ?_, hw.stops, hb,
            rfl⟩
          rw [← hw.spells, Written.text, List.append_assoc]
          rfl
      · cases hf.symm.trans (hok hb)
    · cases hf.symm.trans (Written.parse_eq_none hrange)
  · rintro ⟨start, sep, rest, hstart, htext, hnone, hb, rfl⟩
    have hw : (Written.pair start sep none).WellFormed :=
      Written.wellFormed_pair.2 ⟨hstart, nofun⟩
    have htext : (Written.pair start sep none).text ++ rest = t.trimLeft := by
      rw [htext, Written.text, List.append_assoc]
      rfl
    rw [hself, ← htext]
    exact (Written.parse_text hw (Written.fits_of_front hw hs ⟨rest, htext⟩) hnone).1 hb

/-- A digit of another script, a bare sign, and a mark that ends before a digit. -/
theorem parse_longest_mark :
    let t : Text := " \u0663+-2;'a5x".toList
    let w : Written := .pair (some ⟨.digits ['\u0663'], [(true, []), (false, ['2'])]⟩) .semicolon
      (some ⟨.mark 'a', []⟩)
    t.NumbersFit ∧ w.IsLongest t.trimLeft "5x".toList ∧ ¬ w.Botched "5x".toList ∧
      w.value = .pair ⟨.line 3, -1⟩ .semicolon ⟨.mark 'a', 0⟩ ∧
      parse t = .ok (some w.value, "5x".toList) ∧
      parse "3-1;'a5x".toList = .ok (some w.value, "5x".toList) := by
  intro t w
  have ht : t.NumbersFit := Text.numbersFit_of_length_le (by decide)
  have hw : w.WellFormed := Written.wellFormed_pair.2 ⟨by
    rintro _ ⟨⟩
    exact ⟨by simp [Address.Base.WellFormed]; decide, by simp [Address.DigitTerms]; decide,
      by decide⟩, by
    rintro _ ⟨⟩
    exact ⟨by simp [Address.Base.WellFormed]; decide, by simp [Address.DigitTerms], by decide⟩⟩
  have hstops : w.Stops "5x".toList := by
    intro c hc
    cases hc
    exact ⟨by decide, by decide, fun _ => ⟨rfl, fun ds hds => by cases hds⟩⟩
  have hlongest : w.IsLongest t.trimLeft "5x".toList :=
    hstops.isLongest hw (Text.numbersFit_of_length_le (by decide))
  obtain ⟨hparse, hcanonical⟩ := ((parse_longest ht).2.2.1 w _ hlongest).2 id
  refine ⟨ht, hlongest, id, by decide, hparse, hcanonical ?_⟩
  decide

/-- Two numbers that can be converted add up to one that is printed with a digit too many, so that
what was read is not read back. -/
theorem parse_longest_sum :
    let n : Nat := 10 ^ Text.maxNumeralDigits - 1
    let t : Text := '+' :: (Text.ofNat n ++ '+' :: Text.ofNat n)
    let r : LineRange := .single ⟨.cursor, (n + n : Nat)⟩
    t.NumbersFit ∧ parse t = .ok (some r, []) ∧
      parse (r.text ++ []) = .error (.numeralTooLong (Text.maxNumeralDigits + 1)) := by
  intro n t r
  have hpos : 0 < 10 ^ Text.maxNumeralDigits := Nat.pow_pos (by decide)
  have hlt : n < 10 ^ Text.maxNumeralDigits := Nat.sub_lt hpos Nat.one_pos
  have hle : 10 ^ Text.maxNumeralDigits ≤ n + n := by
    have : 10 ^ 1 ≤ 10 ^ Text.maxNumeralDigits := Nat.pow_le_pow_right (by decide) (by decide)
    show _ ≤ 10 ^ Text.maxNumeralDigits - 1 + (10 ^ Text.maxNumeralDigits - 1)
    omega
  clear_value n
  have hlength : (Text.ofNat n).length ≤ Text.maxNumeralDigits :=
    Nat.toDigits_length 10 n _ (by decide) hlt
  have hn := Text.numbersFit_of_length_le hlength
  refine ⟨?_, parse_sum hlength hlength, ?_⟩
  · exact (Text.numbersFit_of_length_le (Nat.zero_le _)).append_cons (t := [])
      (hn.append_cons hn rfl) rfl
  · have hprinted := length_ofNat_sum hlt hlt hle
    rw [List.append_nil, ← hprinted]
    exact parse_text_of_lt (by omega)

end LineRange

end ExMode
