import ExMode.Proofs.Completion
import Mathlib.Data.List.Basic
import Mathlib.Data.Nat.Digits.Defs

/-!
# ExMode.Proofs.AddressGrammar

The grammar of addresses, and what the reader of addresses has to do with it.

An address is a base, which may be left out, and signed terms, but not nothing at all.
`Address.Written` holds the parts as they are written; `text` is what they spell and `value` what
they mean.

The reader takes each part as far as it goes.  So two things are shown.  Nothing runs long: in front
of a text that does not lengthen the address (`Stops`) the written parts are what the reader takes.
And nothing stops short: any other text makes a longer address.

* `Address.Written.parse_text` — an address is read as far as it is written;
* `Address.Written.parse_eq_none` — where no address stands none is read;
* `Address.Written.exists_longer` — what does not stop an address lengthens it;
* `Address.Written.ofAddress` — the parts of the canonical spelling of an address, which stops
  wherever the spelling it was read from does.
-/

namespace ExMode

/-! ## numbers in a text -/

namespace Text

/-- Whether no run of digits of a text is too long to be converted. -/
def NumbersFit (t : Text) : Prop :=
  ∀ ds : Text, ds <:+: t → (∀ c ∈ ds, isDigit c = true) → ds.length ≤ maxNumeralDigits

theorem NumbersFit.mono {t u : Text} (h : t.NumbersFit) (hu : u <:+: t) : u.NumbersFit :=
  fun ds hds => h ds (hds.trans hu)

theorem numbersFit_of_length_le {t : Text} (h : t.length ≤ maxNumeralDigits) : t.NumbersFit :=
  fun _ hds _ => Nat.le_trans hds.length_le h

/-- No number reaches over a character that is no digit. -/
theorem NumbersFit.append_cons {t u : Text} {c : Char} (ht : t.NumbersFit) (hu : u.NumbersFit)
    (hc : isDigit c = false) : (t ++ c :: u).NumbersFit := by
  rintro ds ⟨front, back, h⟩ hds
  have hnot : c ∉ ds := fun hmem => absurd ((hds c hmem).symm.trans hc) Bool.noConfusion
  obtain ⟨x, rfl, -⟩ | ⟨x, hx, hback⟩ := List.append_eq_append_iff.1 h
  · exact ht ds ⟨front, x, rfl⟩ hds
  cases x with
  | nil => exact ht ds ⟨front, [], by simpa using hx⟩ hds
  | cons d x =>
    obtain ⟨rfl, rfl⟩ := List.cons.inj hback
    -- the digits begin behind the character, since they cannot hold it
    obtain ⟨y, rfl, hy⟩ | ⟨y, rfl, hy⟩ := List.append_eq_append_iff.1 hx
    · exact absurd (hy ▸ List.mem_append_right y List.mem_cons_self) hnot
    · cases y with
      | nil =>
        rw [List.nil_append] at hy
        exact absurd (hy ▸ List.mem_cons_self) hnot
      | cons d y =>
        obtain ⟨-, rfl⟩ := List.cons.inj hy
        exact hu ds ⟨y, back, rfl⟩ hds

theorem readNumeral_of_length_le {ds : Text} (h : ds.length ≤ maxNumeralDigits) :
    ds.readNumeral = .ok ds.digitsValue := by
  rw [readNumeral, numeral, if_neg (Nat.not_lt.2 h)]
  rfl

/-- The value of digits that can be converted can be printed with digits that can. -/
theorem convertible_digitsValue {ds : Text} (hne : ds ≠ []) (h : ds.length ≤ maxNumeralDigits) :
    Convertible ds.digitsValue :=
  Nat.le_trans (Nat.toDigits_length 10 _ _ (List.length_pos_iff.2 hne) (digitsValue_lt ds)) h

end Text

/-- No digit of any script is blank. -/
theorem isBlank_of_isDigit {c : Char} (h : isDigit c = true) : isBlank c = false := by
  by_cases hc : isAsciiDigit c = true
  · have := toNat_of_isAsciiDigit hc
    exact isBlank_eq_false_of_toNat (by omega) (by omega)
  have hruns : ∀ z ∈ digitZeros, ∀ k < 10, blankRanges.has (z + k) = false := by decide
  unfold isDigit digitValue? at h
  split at h
  · exact (Option.isSome_iff_ne_none.1 h (if_neg hc)).elim
  · rw [Option.isSome_map] at h
    obtain ⟨z, hz⟩ := Option.isSome_iff_exists.1 h
    have hmem := List.mem_of_find?_eq_some hz
    have hrun := List.find?_some hz
    simp only [Bool.and_eq_true, decide_eq_true_eq] at hrun
    rw [isBlank, show c.toNat = z + (c.toNat - z) by omega]
    exact hruns z hmem _ (by omega)

/-! ## addresses -/

namespace Address

/-- Whether every term is written with digits. -/
def DigitTerms (ts : List Term) : Prop := ∀ x ∈ ts, ∀ c ∈ x.2, isDigit c = true

/-- The text of signed terms. -/
def termsText (ts : List Term) : Text := ts.flatMap fun x => (if x.1 then '+' else '-') :: x.2

/-- What a term adds: its number, or one if it is a sign alone, and that with its sign. -/
def termAmount (x : Term) : Int :=
  let n : Nat := if x.2 = [] then 1 else Text.digitsValue x.2
  if x.1 then n else -n

/-- What stands in front of the terms of an address. -/
inductive Base where
  | omitted
  | digits (ds : Text)
  | dot
  | dollar
  | mark (name : Char)
  deriving DecidableEq, Repr

namespace Base

/-- The text of a base. -/
def text : Base → Text
  | .omitted => []
  | .digits ds => ds
  | .dot => ['.']
  | .dollar => ['$']
  | .mark m => ['\'', m]

/-- What an address with a base counts from. -/
def anchor : Base → Anchor
  | .omitted => .cursor
  | .digits ds => .line ds.digitsValue
  | .dot => .cursor
  | .dollar => .last
  | .mark m => .mark m

/-- Whether a number has digits and nothing else, and a mark has a name of one. -/
def WellFormed : Base → Prop
  | .digits ds => ds ≠ [] ∧ ∀ c ∈ ds, isDigit c = true
  | .mark m => isMarkName m = true
  | _ => True

end Base

/-- An address as it is written. -/
structure Written where
  base : Base
  terms : List Term
  deriving DecidableEq, Repr

namespace Written

/-- What the parts spell. -/
def text (w : Written) : Text := w.base.text ++ termsText w.terms

/-- What the parts mean: the offset is the sum of the terms. -/
def value (w : Written) : Address := ⟨w.base.anchor, (w.terms.map termAmount).sum⟩

/-- Whether the parts are parts of an address, and there are any. -/
structure WellFormed (w : Written) : Prop where
  base : w.base.WellFormed
  terms : DigitTerms w.terms
  ne_nil : w.text ≠ []

/-- Whether the numbers of an address can be converted. -/
structure Fits (w : Written) : Prop where
  base : ∀ ds, w.base = .digits ds → ds.length ≤ Text.maxNumeralDigits
  terms : ∀ x ∈ w.terms, x.2.length ≤ Text.maxNumeralDigits

/-- Whether a text can stand behind an address without lengthening it: it does not go on with a
sign, nor with a digit behind a number or a term. -/
def Stops (w : Written) (rest : Text) : Prop :=
  ∀ c ∈ rest.head?, c ≠ '+' ∧ c ≠ '-' ∧
    (isDigit c = true → w.terms = [] ∧ ∀ ds, w.base ≠ .digits ds)

end Written

variable {w : Written} {rest : Text} {ts : List Term}

theorem ends_nil : Ends [] := by
  intro c hc
  cases hc

theorem Written.stops_nil (w : Written) : w.Stops [] := by
  intro c hc
  cases hc

/-- Without a base there are terms. -/
theorem Written.WellFormed.exists_terms_eq_cons (hw : (⟨.omitted, ts⟩ : Written).WellFormed) :
    ∃ x us, ts = x :: us := by
  refine List.exists_cons_of_ne_nil ?_
  rintro rfl
  exact hw.ne_nil rfl

/-! ### reading the parts -/

theorem termsText_cons (x : Term) (ts : List Term) :
    termsText (x :: ts) = (if x.1 then '+' else '-') :: (x.2 ++ termsText ts) := by
  rw [termsText, List.flatMap_cons, List.cons_append]
  rfl

theorem termsText_append (ts us : List Term) :
    termsText (ts ++ us) = termsText ts ++ termsText us := List.flatMap_append

/-- Terms are scanned as they are written. -/
theorem scan_termsText (hts : DigitTerms ts) (h : Ends rest) :
    scan (termsText ts ++ rest) = ([], ts, rest) := by
  induction ts with
  | nil => exact scan_of_ends h
  | cons x ts ih =>
    obtain ⟨added, ds⟩ := x
    obtain ⟨hds, hts⟩ := List.forall_mem_cons.1 hts
    have hscan : scan (ds ++ (termsText ts ++ rest)) = (ds, ts, rest) := by
      rw [scan_append hds, ih hts, List.append_nil]
    rw [termsText_cons, List.cons_append, List.append_assoc]
    cases added with
    | true =>
      show scan ('+' :: (ds ++ (termsText ts ++ rest))) = _
      rw [scan, if_neg (by decide), if_pos rfl, hscan]
    | false =>
      show scan ('-' :: (ds ++ (termsText ts ++ rest))) = _
      rw [scan, if_neg (by decide), if_neg (by decide), if_pos rfl, hscan]

theorem Written.Stops.ends (h : w.Stops rest)
    (hw : w.terms ≠ [] ∨ ∃ ds, w.base = .digits ds) : Ends rest := by
  intro c hc
  obtain ⟨hplus, hminus, hdigit⟩ := h c hc
  refine ⟨?_, hplus, hminus⟩
  cases hd : isDigit c with
  | false => rfl
  | true =>
    obtain ⟨hterms, hbase⟩ := hdigit hd
    obtain hne | ⟨ds, hds⟩ := hw
    · exact absurd hterms hne
    · exact absurd hds (hbase ds)

/-- Behind a base that is no number, a text that neither lengthens the terms nor is one is left. -/
theorem Written.Stops.scanTerms (h : w.Stops rest) (hw : DigitTerms w.terms) :
    scanTerms (termsText w.terms ++ rest) = (w.terms, rest) := by
  unfold Address.scanTerms
  by_cases hterms : w.terms = []
  · rw [hterms]
    show (if (scan rest).1 = [] then (scan rest).2 else ([], rest)) = ([], rest)
    rcases rest with _ | ⟨c, r⟩
    · rfl
    · obtain ⟨hplus, hminus, -⟩ := h c rfl
      cases hd : isDigit c with
      | true => simp [scan, hd]
      | false => simp [scan, hd, hplus, hminus]
  · rw [scan_termsText hw (h.ends (Or.inl hterms))]
    rfl

theorem termValue_eq {x : Term} (hx : x.2.length ≤ Text.maxNumeralDigits) :
    termValue x = .ok (termAmount x) := by
  obtain ⟨added, ds⟩ := x
  unfold termValue termAmount
  dsimp only
  split
  · rfl
  · rw [Text.readNumeral_of_length_le hx]
    rfl

theorem sumTerms_eq (hts : ∀ x ∈ ts, x.2.length ≤ Text.maxNumeralDigits) :
    sumTerms ts = .ok (ts.map termAmount).sum := by
  induction ts with
  | nil => rfl
  | cons x ts ih =>
    obtain ⟨hx, hts⟩ := List.forall_mem_cons.1 hts
    rw [sumTerms, termValue_eq hx, ih hts, List.map_cons, List.sum_cons]
    rfl

namespace Written

/-- An address is read as far as it is written, in front of a text that does not lengthen it. -/
theorem parse_text (hw : w.WellFormed) (hfits : w.Fits) (h : w.Stops rest) :
    parse (w.text ++ rest) = .ok (some w.value, rest) := by
  have hsum := sumTerms_eq hfits.terms
  have hterms := h.scanTerms hw.terms
  have hafter (x : Anchor) :
      (do return (some (Address.mk x (← sumTerms (scanTerms (termsText w.terms ++ rest)).1)),
        (scanTerms (termsText w.terms ++ rest)).2) : Except Fault (Option Address × Text)) =
        .ok (some ⟨x, (w.terms.map termAmount).sum⟩, rest) := by
    rw [hterms, hsum]
    rfl
  obtain ⟨base, terms⟩ := w
  rw [text, List.append_assoc]
  cases base with
  | dot => exact hafter .cursor
  | dollar => exact hafter .last
  | mark m => exact (parse_mark hw.base _).trans (hafter (.mark m))
  | digits ds =>
    obtain ⟨hne, hdigits⟩ := hw.base
    have hscan : scan (ds ++ (termsText terms ++ rest)) = (ds, terms, rest) := by
      rw [scan_append hdigits, scan_termsText hw.terms (h.ends (Or.inr ⟨ds, rfl⟩)),
        List.append_nil]
    have hnumber := Text.readNumeral_of_length_le (hfits.base ds rfl)
    obtain ⟨c, r, rfl⟩ := List.exists_cons_of_ne_nil hne
    show parse (c :: r ++ (termsText terms ++ rest)) = _
    rw [List.cons_append] at hscan ⊢
    rw [parse_of_isDigit (hdigits c List.mem_cons_self), hscan]
    simp only [hsum, hnumber]
    rfl
  | omitted =>
    obtain ⟨⟨added, ds⟩, ts, rfl⟩ := hw.exists_terms_eq_cons
    cases added with
    | true => exact hafter .cursor
    | false => exact hafter .cursor

/-! ### longer addresses -/

/-- A character that does not stop an address lengthens it. -/
theorem exists_longer (hw : w.WellFormed) (h : ¬ w.Stops rest) :
    ∃ c ∈ rest.head?, ∃ w' : Written, w'.WellFormed ∧ w'.text = w.text ++ [c] := by
  simp only [Stops, not_forall] at h
  obtain ⟨c, hc, h⟩ := h
  refine ⟨c, hc, ?_⟩
  obtain ⟨base, ts⟩ := w
  have hlonger (base' : Base) (ts' : List Term) (hbase : base'.WellFormed) (hts : DigitTerms ts')
      (htext : base'.text ++ termsText ts' = base.text ++ termsText ts ++ [c]) :
      ∃ w' : Written, w'.WellFormed ∧ w'.text = base.text ++ termsText ts ++ [c] := by
    refine ⟨⟨base', ts'⟩, ⟨hbase, hts, ?_⟩, htext⟩
    rw [text, htext]
    simp
  -- a sign begins a term, and a digit goes on with the last term or else with the number
  have hsign (added : Bool) (hc : c = if added then '+' else '-') :
      ∃ w' : Written, w'.WellFormed ∧ w'.text = base.text ++ termsText ts ++ [c] := by
    refine hlonger base (ts ++ [(added, [])]) hw.base
      (List.forall_mem_append.2 ⟨hw.terms, by simp⟩) ?_
    rw [termsText_append, termsText_cons, hc, List.append_assoc]
    rfl
  by_cases hplus : c = '+'
  · exact hsign true hplus
  by_cases hminus : c = '-'
  · exact hsign false hminus
  by_cases hdigit : isDigit c = true
  · have hds {ds : Text} (hds : ∀ d ∈ ds, isDigit d = true) :
        ∀ d ∈ ds ++ [c], isDigit d = true :=
      List.forall_mem_append.2 ⟨hds, by simpa using hdigit⟩
    obtain rfl | ⟨us, ⟨added, ds⟩, rfl⟩ := List.eq_nil_or_concat' ts
    · have hbase : ∃ ds, base = .digits ds := by
        simpa [hplus, hminus, hdigit] using h
      obtain ⟨ds, rfl⟩ := hbase
      refine hlonger (.digits (ds ++ [c])) [] ⟨by simp, hds hw.base.2⟩ hw.terms ?_
      show ds ++ [c] ++ [] = ds ++ [] ++ [c]
      rw [List.append_nil, List.append_nil]
    · obtain ⟨hus, hlast⟩ := List.forall_mem_append.1 hw.terms
      refine hlonger base (us ++ [(added, ds ++ [c])]) hw.base
        (List.forall_mem_append.2 ⟨hus, ?_⟩) ?_
      · simpa using hds (hlast (added, ds) List.mem_cons_self)
      · simp only [termsText_append, termsText_cons, List.append_assoc, List.cons_append]
        rfl
  · exact absurd ⟨hplus, hminus, fun hd => absurd hd hdigit⟩ h

/-- A sign alone is an address. -/
theorem exists_text_of_sign {c : Char} (hc : c = '+' ∨ c = '-') :
    ∃ w : Written, w.WellFormed ∧ w.text = [c] := by
  obtain rfl | rfl := hc
  · exact ⟨⟨.omitted, [(true, [])]⟩, ⟨trivial, by simp [DigitTerms], by decide⟩, rfl⟩
  · exact ⟨⟨.omitted, [(false, [])]⟩, ⟨trivial, by simp [DigitTerms], by decide⟩, rfl⟩

theorem wellFormed_of_base {b : Base} (hb : b.WellFormed) (hne : b.text ≠ []) :
    (⟨b, []⟩ : Written).WellFormed ∧ (⟨b, []⟩ : Written).text = b.text := by
  have htext : (⟨b, []⟩ : Written).text = b.text := List.append_nil _
  exact ⟨⟨hb, by simp [DigitTerms], htext.symm ▸ hne⟩, htext⟩

/-- Where no address stands, none is read. -/
theorem parse_eq_none {t : Text} (h : ¬ ∃ w : Written, w.WellFormed ∧ w.text <+: t) :
    parse t = .ok (none, t) := by
  rcases t with _ | ⟨c, r⟩
  · rfl
  have hbase {b : Base} (hb : b.WellFormed) (hne : b.text ≠ []) : ¬ b.text <+: c :: r := by
    obtain ⟨hwf, htext⟩ := wellFormed_of_base hb hne
    exact fun hprefix => h ⟨_, hwf, htext.symm ▸ hprefix⟩
  have hsign : ¬ (c = '+' ∨ c = '-') := by
    intro hc
    obtain ⟨w, hw, htext⟩ := exists_text_of_sign hc
    exact h ⟨w, hw, htext.symm ▸ ⟨r, rfl⟩⟩
  have hdigit : ¬ isDigit c = true := fun hc =>
    hbase (b := .digits [c]) ⟨by simp, by simpa using hc⟩ (by simp [Base.text]) ⟨r, rfl⟩
  have hdot : c ≠ '.' := by
    rintro rfl
    exact hbase (b := .dot) trivial (by simp [Base.text]) ⟨r, rfl⟩
  have hdollar : c ≠ '$' := by
    rintro rfl
    exact hbase (b := .dollar) trivial (by simp [Base.text]) ⟨r, rfl⟩
  unfold parse
  dsimp only
  rw [if_neg hdigit, if_neg hdot, if_neg hdollar, if_neg hsign]
  split
  · rename_i hquote
    subst hquote
    rcases r with _ | ⟨m, r⟩
    · rfl
    · refine if_neg fun hm => ?_
      exact hbase (b := .mark m) hm (by simp [Base.text]) ⟨r, rfl⟩
  · rfl

/-! ### the canonical spelling -/

/-- The parts of the canonical spelling of an address. -/
def ofAddress (a : Address) : Written where
  base := match a.anchor with
    | .line n => .digits (Text.ofNat n.toNat)
    | .cursor => .dot
    | .last => .dollar
    | .mark m => .mark m
  terms := offsetTerms a.offset

theorem readable_value (hw : w.WellFormed) (hfits : w.Fits)
    (hoffset : Text.Convertible w.value.offset.natAbs) : w.value.Readable := by
  obtain ⟨base, ts⟩ := w
  refine ⟨fun n hn => ?_, fun m hm => ?_, hoffset⟩
  · cases base with
    | digits ds =>
      cases hn
      exact ⟨Int.natCast_nonneg _, Text.convertible_digitsValue hw.base.1 (hfits.base ds rfl)⟩
    | _ => cases hn
  · cases base with
    | mark name =>
      cases hm
      exact hw.base
    | _ => cases hm

section

variable {a : Address}

theorem termsText_offsetTerms (n : Int) : termsText (offsetTerms n) = offsetText n := by
  rcases Int.lt_trichotomy n 0 with hn | rfl | hn
  · rw [offsetText_of_neg hn, offsetTerms, if_neg (Int.ne_of_lt hn),
      decide_eq_false (Int.lt_asymm hn)]
    exact List.append_nil _
  · rfl
  · rw [offsetText_of_pos hn, offsetTerms, if_neg (by omega), decide_eq_true hn]
    exact List.append_nil _

theorem text_ofAddress (ha : a.Readable) : (ofAddress a).text = a.text := by
  have hterms := termsText_offsetTerms a.offset
  obtain ⟨anchor, offset⟩ := a
  unfold text Address.text
  rw [← hterms]
  congr 1
  cases anchor with
  | line n =>
    obtain ⟨k, rfl⟩ := Int.eq_ofNat_of_zero_le (ha.line n rfl).1
    rfl
  | _ => rfl

theorem termAmount_offsetTerms (n : Int) : ((offsetTerms n).map termAmount).sum = n := by
  unfold offsetTerms
  split
  · rename_i hn
    exact hn.symm
  · rw [List.map_cons, List.map_nil, List.sum_cons, List.sum_nil, termAmount,
      if_neg (Text.ofNat_ne_nil _), Text.digitsValue_ofNat]
    dsimp only
    split
    · rename_i hpos
      rw [decide_eq_true_eq] at hpos
      omega
    · rename_i hpos
      rw [decide_eq_true_eq] at hpos
      omega

theorem value_ofAddress (ha : a.Readable) : (ofAddress a).value = a := by
  have hterms := termAmount_offsetTerms a.offset
  obtain ⟨anchor, offset⟩ := a
  have hanchor : (ofAddress ⟨anchor, offset⟩).base.anchor = anchor := by
    cases anchor with
    | line n =>
      obtain ⟨k, rfl⟩ := Int.eq_ofNat_of_zero_le (ha.line n rfl).1
      exact congrArg (fun k : Nat => Anchor.line k) (Text.digitsValue_ofNat k)
    | _ => rfl
  show Address.mk _ _ = _
  rw [hanchor]
  exact congrArg (Address.mk anchor) hterms

theorem wellFormed_ofAddress (ha : a.Readable) : (ofAddress a).WellFormed := by
  refine ⟨?_, ?_, ?_⟩
  · obtain ⟨anchor, offset⟩ := a
    cases anchor with
    | line n => exact ⟨Text.ofNat_ne_nil _, fun _ => Text.isDigit_of_mem_ofNat⟩
    | mark m => exact ha.mark m rfl
    | _ => trivial
  · intro x hx c hc
    have hx : x ∈ offsetTerms a.offset := hx
    unfold offsetTerms at hx
    split at hx
    · cases hx
    · rw [List.mem_singleton.1 hx] at hc
      exact Text.isDigit_of_mem_ofNat hc
  · obtain ⟨c, r, htext, -⟩ := exists_text_eq_cons ha
    rw [text_ofAddress ha, htext]
    exact List.cons_ne_nil c r

theorem fits_ofAddress (ha : a.Readable) : (ofAddress a).Fits := by
  refine ⟨fun ds hds => ?_, fun x hx => ?_⟩
  · obtain ⟨anchor, offset⟩ := a
    cases anchor with
    | line n =>
      obtain ⟨hn, hline⟩ := ha.line n rfl
      obtain ⟨k, rfl⟩ := Int.eq_ofNat_of_zero_le hn
      cases hds
      exact hline
    | _ => cases hds
  · have hx : x ∈ offsetTerms a.offset := hx
    unfold offsetTerms at hx
    split at hx
    · cases hx
    · rw [List.mem_singleton.1 hx]
      exact ha.offset

end

/-- What stops an address stops its canonical spelling. -/
theorem Stops.ofAddress_value (h : w.Stops rest) : (ofAddress w.value).Stops rest := by
  intro c hc
  obtain ⟨hplus, hminus, hdigit⟩ := h c hc
  refine ⟨hplus, hminus, fun hd => ?_⟩
  obtain ⟨hterms, hbase⟩ := hdigit hd
  obtain ⟨base, ts⟩ := w
  obtain rfl : ts = [] := hterms
  refine ⟨rfl, fun ds hds => ?_⟩
  cases base with
  | digits ds' => exact hbase ds' rfl
  | _ => cases hds

/-! ### where addresses stand -/

/-- The numbers of an address that stands in a text are numbers of the text. -/
theorem fits_of_isInfix {t : Text} (hw : w.WellFormed) (ht : t.NumbersFit) (h : w.text <:+: t) :
    w.Fits := by
  obtain ⟨base, ts⟩ := w
  have ht : (base.text ++ termsText ts).NumbersFit := ht.mono h
  refine ⟨?_, fun x hx => ?_⟩
  · rintro ds rfl
    exact ht ds (List.prefix_append ds _).isInfix hw.base.2
  · obtain ⟨us, vs, rfl⟩ := List.append_of_mem hx
    refine ht x.2 ?_ (hw.terms x hx)
    rw [termsText_append, termsText_cons]
    exact ⟨base.text ++ (termsText us ++ [if x.1 then '+' else '-']), termsText vs, by simp⟩

/-- No address starts with a blank or with a percent sign. -/
theorem exists_text_eq_cons (hw : w.WellFormed) :
    ∃ c r, w.text = c :: r ∧ isBlank c = false ∧ c ≠ '%' := by
  obtain ⟨base, ts⟩ := w
  cases base with
  | omitted =>
    obtain ⟨⟨added, ds⟩, ts, rfl⟩ := hw.exists_terms_eq_cons
    cases added with
    | true => exact ⟨'+', ds ++ termsText ts, rfl, by decide, by decide⟩
    | false => exact ⟨'-', ds ++ termsText ts, rfl, by decide, by decide⟩
  | digits ds =>
    obtain ⟨hne, hdigits⟩ := hw.base
    obtain ⟨c, r, rfl⟩ := List.exists_cons_of_ne_nil hne
    have hc := hdigits c List.mem_cons_self
    refine ⟨c, r ++ termsText ts, rfl, isBlank_of_isDigit hc, ?_⟩
    rintro rfl
    exact absurd hc (by decide)
  | dot => exact ⟨'.', termsText ts, rfl, by decide, by decide⟩
  | dollar => exact ⟨'$', termsText ts, rfl, by decide, by decide⟩
  | mark m => exact ⟨'\'', m :: termsText ts, rfl, by decide, by decide⟩

/-! ### a side of a range -/

/-- The text of a side of a range, which can be left out. -/
def sideText (side : Option Written) : Text := side.elim [] text

/-- What a side of a range means: left out, the cursor line. -/
def sideValue (side : Option Written) : Address := (side.map value).getD .current

/-- The side in front of a separator is read up to there. -/
theorem parse_sideText {side : Option Written} (hside : ∀ w ∈ side, w.WellFormed)
    (hfits : ∀ w ∈ side, w.Fits) (sep : Separator) (u : Text) :
    parse (sideText side ++ sep.char :: u) = .ok (side.map value, sep.char :: u) := by
  cases side with
  | none => cases sep <;> rfl
  | some w =>
    refine parse_text (hside w rfl) (hfits w rfl) fun c hc => ?_
    obtain ⟨hdigit, hplus, hminus⟩ := LineRange.ends_separator sep u c hc
    exact ⟨hplus, hminus, fun hd => absurd (hdigit.symm.trans hd) Bool.false_ne_true⟩

theorem exists_sideText_eq_cons {side : Option Written} (hside : ∀ w ∈ side, w.WellFormed)
    (sep : Separator) (u : Text) :
    ∃ c r, sideText side ++ sep.char :: u = c :: r ∧ isBlank c = false ∧ c ≠ '%' := by
  cases side with
  | none => exact ⟨sep.char, u, rfl, by cases sep <;> decide, by cases sep <;> decide⟩
  | some w =>
    obtain ⟨c, r, htext, hblank, hpercent⟩ := exists_text_eq_cons (hside w rfl)
    refine ⟨c, r ++ sep.char :: u, ?_, hblank, hpercent⟩
    show w.text ++ _ = _
    rw [htext, List.cons_append]

end Written

end Address

end ExMode
