import ExMode.Command.Table
import ExMode.Proofs.Effect
import ExMode.Proofs.Reader

/-!
# ExMode.Proofs.Spelling

The canonical spelling of a command line: colons, a range as `LineRange.text` prints it, a word that
names a row, a bang, and arguments.  Reading such a line gives back its parts, none of them longer
or shorter than it was written.

The line is cut by scanners that each take as much as they can, so what is to be shown is that none
of them reaches into the next part.  Each scanner gets a lemma about a printed part with an
arbitrary rest behind it, and a condition on the first character of the rest:

* `Address.parse_text` — an address ends before anything but a digit or a sign;
* `LineRange.parse_text` — a range ends before a letter;
* `Spelling.Calls.recognise_text` — the word ends before anything but a letter, and the rest is bang
  and arguments;
* `Table.parse_spelling` — the whole line, as the row of its word makes of it.
-/

namespace ExMode

/-! ## characters of ASCII -/

theorem toNat_of_isAsciiLetter {c : Char} (h : isAsciiLetter c = true) :
    65 ≤ c.toNat ∧ c.toNat ≤ 122 := by
  have ha : 'a'.toNat = 97 := rfl
  have hz : 'z'.toNat = 122 := rfl
  have hA : 'A'.toNat = 65 := rfl
  have hZ : 'Z'.toNat = 90 := rfl
  simp only [isAsciiLetter, Bool.or_eq_true, Bool.and_eq_true, decide_eq_true_eq, Char.le_def,
    UInt32.le_iff_toNat_le, Char.toNat_val] at h
  omega

/-- The characters of ASCII that leave ink are not blank. -/
theorem isBlank_eq_false_of_toNat {c : Char} (h : 33 ≤ c.toNat) (h' : c.toNat ≤ 126) :
    isBlank c = false := by
  simp only [isBlank, blankRanges, CodeRanges.has, List.any_cons, List.any_nil, Bool.or_false,
    Bool.or_eq_false_iff, Bool.and_eq_false_iff, decide_eq_false_iff_not]
  omega

theorem isBlank_of_isAsciiLetter {c : Char} (h : isAsciiLetter c = true) : isBlank c = false := by
  have := toNat_of_isAsciiLetter h
  exact isBlank_eq_false_of_toNat (by omega) (by omega)

theorem isDigit_of_isAsciiLetter {c : Char} (h : isAsciiLetter c = true) : isDigit c = false := by
  have hc := toNat_of_isAsciiLetter h
  have h9 : ¬ c ≤ '9' := by
    have h9 : '9'.toNat = 57 := rfl
    rw [Char.le_def, UInt32.le_iff_toNat_le, Char.toNat_val, Char.toNat_val]
    omega
  simp [isDigit, digitValue?, show c.toNat < 128 by omega, h9]

theorem ne_of_isAsciiLetter {c d : Char} (h : isAsciiLetter c = true)
    (hd : isAsciiLetter d = false) : c ≠ d := by
  rintro rfl
  rw [hd] at h
  cases h

/-! ## printed numbers -/

namespace Text

/-- Whether a number is written with no more digits than are ever converted. -/
def Convertible (n : Nat) : Prop := (ofNat n).length ≤ maxNumeralDigits

instance (n : Nat) : Decidable (Convertible n) :=
  inferInstanceAs (Decidable ((ofNat n).length ≤ maxNumeralDigits))

theorem isAsciiDigit_of_mem_ofNat {n : Nat} {c : Char} (h : c ∈ ofNat n) :
    isAsciiDigit c = true := by
  have hc : c.isDigit = true := Nat.isDigit_of_mem_toDigits (by decide) (by decide) h
  simpa [Char.isDigit, isAsciiDigit, Char.le_def] using hc

theorem isDigit_of_mem_ofNat {n : Nat} {c : Char} (h : c ∈ ofNat n) : isDigit c = true :=
  isDigit_of_isAsciiDigit (isAsciiDigit_of_mem_ofNat h)

theorem ofNat_ne_nil (n : Nat) : ofNat n ≠ [] := List.length_pos_iff.1 Nat.length_toDigits_pos

/-- A printed number has the value it was printed from. -/
theorem digitsValue_ofNat (n : Nat) : digitsValue (ofNat n) = n := by
  have hfold (t : Text) (ht : ∀ c ∈ t, isAsciiDigit c = true) (v : Nat) :
      t.foldl (fun n c => 10 * n + (digitValue? c).getD 0) v = Nat.ofDigitChars 10 t v := by
    induction t generalizing v with
    | nil => rfl
    | cons c t ih =>
      have hc := digitValue?_of_isAsciiDigit (ht c List.mem_cons_self)
      rw [List.foldl_cons, Nat.ofDigitChars_cons, hc, Option.getD_some,
        ih fun d hd => ht d (List.mem_cons_of_mem c hd)]
      rfl
  calc digitsValue (ofNat n)
      = Nat.ofDigitChars 10 (ofNat n) 0 := hfold _ (fun _ => isAsciiDigit_of_mem_ofNat) 0
    _ = n := Nat.ofDigitChars_toDigits (by decide) (by decide)

theorem readNumeral_ofNat {n : Nat} (h : Convertible n) : (ofNat n).readNumeral = .ok n := by
  rw [readNumeral, numeral, if_neg (Nat.not_lt.2 h), digitsValue_ofNat]
  rfl

/-! ## ends of texts -/

/-- A text that neither starts nor ends with a blank is not trimmed. -/
theorem trimLeft_eq_self {t : Text} (hfirst : ∀ c ∈ t.head?, isBlank c = false) :
    trimLeft t = t := by
  cases t with
  | nil => rfl
  | cons c r => exact trimLeft_cons_of_not_blank (hfirst c rfl)

theorem trimRight_eq_self {t : Text} (hlast : ∀ c ∈ t.getLast?, isBlank c = false) :
    trimRight t = t := by
  have hreverse : trimLeft t.reverse = t.reverse := trimLeft_eq_self (by simpa using hlast)
  exact (congrArg List.reverse hreverse).trans t.reverse_reverse

theorem trim_eq_self {t : Text} (hfirst : ∀ c ∈ t.head?, isBlank c = false)
    (hlast : ∀ c ∈ t.getLast?, isBlank c = false) : trim t = t := by
  rw [trim, trimLeft_eq_self hfirst, trimRight_eq_self hlast]

end Text

/-! ## addresses -/

namespace Address

/-- Whether a text can stand behind an address without lengthening it. -/
def Ends (rest : Text) : Prop := ∀ c ∈ rest.head?, isDigit c = false ∧ c ≠ '+' ∧ c ≠ '-'

/-- An address that can be read back: marks have their names, lines are counted from zero, and
no number is too long to be converted. -/
structure Readable (a : Address) : Prop where
  line : ∀ n, a.anchor = .line n → 0 ≤ n ∧ Text.Convertible n.natAbs
  mark : ∀ m, a.anchor = .mark m → isMarkName m = true
  offset : Text.Convertible a.offset.natAbs

variable {rest : Text}

theorem scan_of_ends (h : Ends rest) : scan rest = ([], [], rest) := by
  cases rest with
  | nil => rfl
  | cons c r =>
    obtain ⟨hdigit, hplus, hminus⟩ := h c rfl
    simp [scan, hdigit, hplus, hminus]

/-- The digits in front of a text are scanned before it. -/
theorem scan_append {ds : Text} (hds : ∀ c ∈ ds, isDigit c = true) (rest : Text) :
    scan (ds ++ rest) = (ds ++ (scan rest).1, (scan rest).2) := by
  induction ds with
  | nil => rfl
  | cons c ds ih =>
    obtain ⟨hc, hds⟩ := List.forall_mem_cons.1 hds
    rw [List.cons_append, scan, if_pos hc, ih hds]
    rfl

/-- The terms that a printed offset is read as. -/
def offsetTerms (n : Int) : List Term :=
  if n = 0 then [] else [(decide (0 < n), Text.ofNat n.natAbs)]

theorem offsetText_of_pos {n : Int} (h : 0 < n) : offsetText n = '+' :: Text.ofNat n.natAbs := by
  obtain ⟨k, rfl⟩ := Int.eq_ofNat_of_zero_le (Int.le_of_lt h)
  rw [offsetText, if_neg (by omega), if_pos h]
  rfl

theorem offsetText_of_neg {n : Int} (h : n < 0) : offsetText n = '-' :: Text.ofNat n.natAbs := by
  obtain ⟨k, rfl⟩ := Int.eq_negSucc_of_lt_zero h
  rw [offsetText, if_neg (Int.ne_of_lt h), if_neg (Int.lt_asymm h)]
  rfl

/-- A printed offset is one term, or none for zero. -/
theorem scan_offsetText (n : Int) (h : Ends rest) :
    scan (offsetText n ++ rest) = ([], offsetTerms n, rest) := by
  have hdigits : scan (Text.ofNat n.natAbs ++ rest) = (Text.ofNat n.natAbs, [], rest) := by
    rw [scan_append (fun _ => Text.isDigit_of_mem_ofNat), scan_of_ends h, List.append_nil]
  rcases Int.lt_trichotomy n 0 with hn | rfl | hn
  · have hterms : offsetTerms n = [(false, Text.ofNat n.natAbs)] := by
      rw [offsetTerms, if_neg (Int.ne_of_lt hn), decide_eq_false (Int.lt_asymm hn)]
    rw [offsetText_of_neg hn, hterms, List.cons_append, scan, hdigits]
    rfl
  · exact scan_of_ends h
  · have hterms : offsetTerms n = [(true, Text.ofNat n.natAbs)] := by
      rw [offsetTerms, if_neg (by omega), decide_eq_true hn]
    rw [offsetText_of_pos hn, hterms, List.cons_append, scan, hdigits]
    rfl

theorem scanTerms_offsetText (n : Int) (h : Ends rest) :
    scanTerms (offsetText n ++ rest) = (offsetTerms n, rest) := by
  rw [scanTerms, scan_offsetText n h, if_pos rfl]

theorem sumTerms_offsetTerms {n : Int} (h : Text.Convertible n.natAbs) :
    sumTerms (offsetTerms n) = .ok n := by
  unfold offsetTerms
  split
  · rename_i hn
    rw [hn]
    rfl
  · have hvalue : termValue (decide (0 < n), Text.ofNat n.natAbs) = .ok n := by
      rw [termValue, if_neg (Text.ofNat_ne_nil _), Text.readNumeral_ofNat h]
      show Except.ok (if decide (0 < n) = true then (n.natAbs : Int) else -n.natAbs) = .ok n
      congr 1
      split
      · rename_i hpos
        rw [decide_eq_true_eq] at hpos
        omega
      · rename_i hpos
        rw [decide_eq_true_eq] at hpos
        omega
    rw [sumTerms, hvalue]
    show Except.ok (n + 0) = .ok n
    rw [Int.add_zero]

theorem parse_of_isDigit {c : Char} (hc : isDigit c = true) (r : Text) :
    parse (c :: r) = (do
      let offset ← sumTerms (scan (c :: r)).2.1
      let n ← (scan (c :: r)).1.readNumeral
      return (some ⟨.line n, offset⟩, (scan (c :: r)).2.2)) := by
  unfold parse
  exact if_pos hc

theorem parse_mark {m : Char} (hm : isMarkName m = true) (r : Text) :
    parse ('\'' :: m :: r) = (do
      return (some ⟨.mark m, ← sumTerms (scanTerms r).1⟩, (scanTerms r).2)) := by
  unfold parse
  exact if_pos hm

/-- A printed address is read back, and everything behind it is left. -/
theorem parse_text {a : Address} (ha : a.Readable) (h : Ends rest) :
    parse (a.text ++ rest) = .ok (some a, rest) := by
  obtain ⟨anchor, offset⟩ := a
  have hsum : sumTerms (offsetTerms offset) = .ok offset := sumTerms_offsetTerms ha.offset
  have hterms := scanTerms_offsetText offset h
  have hafter (x : Anchor) :
      (do return (some (Address.mk x (← sumTerms (scanTerms (offsetText offset ++ rest)).1)),
        (scanTerms (offsetText offset ++ rest)).2) : Except Fault (Option Address × Text)) =
        .ok (some ⟨x, offset⟩, rest) := by
    rw [hterms, hsum]
    rfl
  rw [text, List.append_assoc]
  cases anchor with
  | line n =>
    obtain ⟨hn, hline⟩ := ha.line n rfl
    obtain ⟨k, rfl⟩ := Int.eq_ofNat_of_zero_le hn
    have hscan : scan (Text.ofNat k ++ (offsetText offset ++ rest)) =
        (Text.ofNat k, offsetTerms offset, rest) := by
      rw [scan_append (fun _ => Text.isDigit_of_mem_ofNat), scan_offsetText offset h,
        List.append_nil]
    obtain ⟨c, r, hdigits⟩ := List.exists_cons_of_ne_nil (Text.ofNat_ne_nil k)
    have hc : isDigit c = true := Text.isDigit_of_mem_ofNat (n := k) (by rw [hdigits]; simp)
    show parse (Text.ofNat k ++ (offsetText offset ++ rest)) = _
    rw [hdigits, List.cons_append] at hscan ⊢
    have hnumeral : (Text.ofNat k).readNumeral = .ok k := Text.readNumeral_ofNat hline
    rw [parse_of_isDigit hc, hscan, ← hdigits, hsum, hnumeral]
    rfl
  | cursor => exact hafter .cursor
  | last => exact hafter .last
  | mark m => exact (parse_mark (ha.mark m rfl) _).trans (hafter (.mark m))

/-- A printed address starts with a character that is neither blank, nor a percent sign, nor a
colon. -/
theorem exists_text_eq_cons {a : Address} (ha : a.Readable) :
    ∃ c r, a.text = c :: r ∧ isBlank c = false ∧ c ≠ '%' ∧ c ≠ ':' := by
  obtain ⟨anchor, offset⟩ := a
  cases anchor with
  | line n =>
    obtain ⟨hn, -⟩ := ha.line n rfl
    obtain ⟨k, rfl⟩ := Int.eq_ofNat_of_zero_le hn
    obtain ⟨c, r, hdigits⟩ := List.exists_cons_of_ne_nil (Text.ofNat_ne_nil k)
    have hc : isAsciiDigit c = true := Text.isAsciiDigit_of_mem_ofNat (n := k) (by
      rw [hdigits]
      simp)
    have hbounds := toNat_of_isAsciiDigit hc
    refine ⟨c, r ++ offsetText offset, ?_, ?_, ?_, ?_⟩
    · show Text.ofNat k ++ offsetText offset = _
      rw [hdigits, List.cons_append]
    · exact isBlank_eq_false_of_toNat (by omega) (by omega)
    · rintro rfl
      cases hc
    · rintro rfl
      cases hc
  | cursor => exact ⟨'.', offsetText offset, rfl, by decide, by decide, by decide⟩
  | last => exact ⟨'$', offsetText offset, rfl, by decide, by decide, by decide⟩
  | mark m => exact ⟨'\'', m :: offsetText offset, rfl, by decide, by decide, by decide⟩

end Address

/-! ## ranges -/

namespace LineRange

/-- A range whose addresses can be read back. -/
def Readable : LineRange → Prop
  | .wholeFile => True
  | .single a => a.Readable
  | .pair a _ b => a.Readable ∧ b.Readable

/-- Whether a text starts with a letter of ASCII. -/
def StartsWord (t : Text) : Prop := ∃ c r, t = c :: r ∧ isAsciiLetter c = true

variable {rest : Text}

theorem StartsWord.ends (h : StartsWord rest) : Address.Ends rest := by
  obtain ⟨c, r, rfl, hc⟩ := h
  intro d hd
  obtain rfl : c = d := Option.some.inj hd
  exact ⟨isDigit_of_isAsciiLetter hc, ne_of_isAsciiLetter hc (by decide),
    ne_of_isAsciiLetter hc (by decide)⟩

theorem StartsWord.trimLeft (h : StartsWord rest) : Text.trimLeft rest = rest := by
  obtain ⟨c, r, rfl, hc⟩ := h
  exact Text.trimLeft_cons_of_not_blank (isBlank_of_isAsciiLetter hc)

/-- A letter is no separator. -/
theorem StartsWord.ofChar?_eq_none (h : StartsWord rest) :
    ∀ c ∈ rest.head?, Separator.ofChar? c = none := by
  obtain ⟨c, r, rfl, hc⟩ := h
  intro d hd
  obtain rfl : c = d := Option.some.inj hd
  rw [Separator.ofChar?, if_neg (ne_of_isAsciiLetter hc (by decide)),
    if_neg (ne_of_isAsciiLetter hc (by decide))]

/-- No address starts with a letter. -/
theorem StartsWord.parse_address (h : StartsWord rest) :
    Address.parse rest = .ok (none, rest) := by
  obtain ⟨c, r, rfl, hc⟩ := h
  have hne (d : Char) (hd : isAsciiLetter d = false) : c ≠ d := ne_of_isAsciiLetter hc hd
  simp [Address.parse, isDigit_of_isAsciiLetter hc, hne '.' (by decide), hne '$' (by decide),
    hne '+' (by decide), hne '-' (by decide), hne '\'' (by decide)]

section

variable {c : Char} {r : Text} {start : Option Address}

/-- Without a separator behind its first address, a range is that address, or there is none. -/
theorem parse_of_address (hc : isBlank c = false) (hpercent : c ≠ '%')
    (hstart : Address.parse (c :: r) = .ok (start, rest))
    (hrest : ∀ d ∈ rest.head?, Separator.ofChar? d = none) :
    parse (c :: r) = .ok (start.map .single, rest) := by
  rw [parse, Text.trimLeft_cons_of_not_blank hc]
  split
  · rename_i h
    exact absurd (List.cons.inj h).1 hpercent
  · rw [hstart]
    cases rest with
    | nil => rfl
    | cons d rest =>
      have hd := hrest d rfl
      simp only [bind, Except.bind, hd]
      rfl

/-- With a separator behind its first address and an address behind that, a range is both. -/
theorem parse_of_addresses {sep : Separator} {stop : Address} {between : Text}
    (hc : isBlank c = false) (hpercent : c ≠ '%')
    (hstart : Address.parse (c :: r) = .ok (start, sep.char :: between))
    (hstop : Address.parse between = .ok (some stop, rest)) :
    parse (c :: r) = .ok (some (.pair (start.getD .current) sep stop), rest) := by
  rw [parse, Text.trimLeft_cons_of_not_blank hc]
  split
  · rename_i h
    exact absurd (List.cons.inj h).1 hpercent
  · rw [hstart]
    simp only [bind, Except.bind, Separator.ofChar?_char, hstop]
    rfl

end

/-- A separator ends an address. -/
theorem ends_separator (s : Separator) (t : Text) : Address.Ends (s.char :: t) := by
  intro c hc
  obtain rfl : s.char = c := Option.some.inj hc
  cases s <;> decide

/-- A printed range is read back, and the word behind it is left. -/
theorem parse_text {r : LineRange} (hr : r.Readable) (h : StartsWord rest) :
    parse (r.text ++ rest) = .ok (some r, rest) := by
  cases r with
  | wholeFile => rfl
  | single a =>
    have haddress := Address.parse_text hr h.ends
    obtain ⟨c, t, htext, hblank, hpercent, -⟩ := Address.exists_text_eq_cons hr
    show parse (a.text ++ rest) = _
    rw [htext] at haddress ⊢
    exact parse_of_address hblank hpercent haddress h.ofChar?_eq_none
  | pair a s b =>
    obtain ⟨ha, hb⟩ := hr
    have hstart := Address.parse_text ha (ends_separator s (b.text ++ rest))
    have hstop := Address.parse_text hb h.ends
    obtain ⟨c, t, htext, hblank, hpercent, -⟩ := Address.exists_text_eq_cons ha
    show parse ((a.text ++ s.char :: b.text) ++ rest) = _
    rw [List.append_assoc, List.cons_append]
    rw [htext] at hstart ⊢
    exact parse_of_addresses hblank hpercent hstart hstop

/-- In front of a word there is no range. -/
theorem StartsWord.parse_eq_none (h : StartsWord rest) : parse rest = .ok (none, rest) := by
  have haddress := h.parse_address
  have hsep := h.ofChar?_eq_none
  obtain ⟨c, r, rfl, hc⟩ := h
  exact parse_of_address (isBlank_of_isAsciiLetter hc) (ne_of_isAsciiLetter hc (by decide))
    haddress hsep

/-- A printed range starts with a character that is neither blank nor a colon. -/
theorem exists_text_eq_cons {r : LineRange} (hr : r.Readable) :
    ∃ c t, r.text = c :: t ∧ isBlank c = false ∧ c ≠ ':' := by
  cases r with
  | wholeFile => exact ⟨'%', [], rfl, by decide, by decide⟩
  | single a =>
    obtain ⟨c, t, htext, hblank, -, hcolon⟩ := Address.exists_text_eq_cons hr
    exact ⟨c, t, htext, hblank, hcolon⟩
  | pair a s b =>
    obtain ⟨c, t, htext, hblank, -, hcolon⟩ := Address.exists_text_eq_cons hr.1
    refine ⟨c, t ++ s.char :: b.text, ?_, hblank, hcolon⟩
    show a.text ++ s.char :: b.text = _
    rw [htext, List.cons_append]

end LineRange

/-! ## command lines -/

namespace Table

/-- A command line in its canonical spelling, part by part. -/
structure Spelling where
  colons : Nat
  range : Option LineRange
  word : Text
  bang : Bool
  args : Text
  deriving DecidableEq, Repr

namespace Spelling

/-- What is written behind the word. -/
def tail (l : Spelling) : Text := if l.bang then '!' :: l.args else l.args

/-- What is written behind the colons. -/
def body (l : Spelling) : Text := l.range.elim [] LineRange.text ++ (l.word ++ l.tail)

/-- The whole line. -/
def text (l : Spelling) : Text := List.replicate l.colons ':' ++ l.body

/-- The call of a row that the line is meant to be. -/
def call (l : Spelling) (row : Row) : Call := ⟨row.name, l.bang, l.args, l.text⟩

/-- Whether the line calls a row of the table with all that is written around its word.  The
arguments may neither go on with the word nor start with a bang of their own, and they end where
the line ends. -/
structure Calls (l : Spelling) (t : Table) (row : Row) : Prop where
  found : t.find? l.word = some row
  word_ne_nil : l.word ≠ []
  word_letters : ∀ c ∈ l.word, isAsciiLetter c = true
  range_readable : ∀ r, l.range = some r → r.Readable
  range_accepted : l.range.isSome = true → row.acceptsRange = true
  bang_accepted : l.bang = true → row.acceptsBang = true
  args_first : ∀ c ∈ l.args.head?, isAsciiLetter c = false ∧ (l.bang = false → c ≠ '!')
  args_last : ∀ c ∈ l.args.getLast?, isBlank c = false
  args_accepted : row.acceptsArgs = false → l.args.isAllBlank = true

variable {l : Spelling} {t : Table} {row : Row}

/-! ### where the parts meet -/

theorem Calls.startsWord (h : l.Calls t row) : LineRange.StartsWord (l.word ++ l.tail) := by
  obtain ⟨c, w, hword⟩ := List.exists_cons_of_ne_nil h.word_ne_nil
  refine ⟨c, w ++ l.tail, by rw [hword, List.cons_append], ?_⟩
  exact h.word_letters c (by rw [hword]; exact List.mem_cons_self)

theorem Calls.exists_body_eq_cons (h : l.Calls t row) :
    ∃ c r, l.body = c :: r ∧ isBlank c = false ∧ c ≠ ':' := by
  unfold body
  cases hr : l.range with
  | none =>
    obtain ⟨c, r, hword, hc⟩ := h.startsWord
    exact ⟨c, r, hword, isBlank_of_isAsciiLetter hc, ne_of_isAsciiLetter hc (by decide)⟩
  | some range =>
    obtain ⟨c, r, htext, hblank, hcolon⟩ :=
      LineRange.exists_text_eq_cons (h.range_readable range hr)
    refine ⟨c, r ++ (l.word ++ l.tail), ?_, hblank, hcolon⟩
    rw [Option.elim_some, htext, List.cons_append]

/-- A line ends with its arguments, its bang or its word, none of which ends with a blank. -/
theorem Calls.body_last (h : l.Calls t row) : ∀ c ∈ l.body.getLast?, isBlank c = false := by
  have hword : ∀ c ∈ l.word.getLast?, isBlank c = false := fun c hc =>
    isBlank_of_isAsciiLetter (h.word_letters c (List.mem_of_getLast? hc))
  have htail : ∀ c ∈ l.tail.getLast?, isBlank c = false := by
    intro c hc
    unfold tail at hc
    split at hc
    · rw [List.getLast?_cons] at hc
      obtain rfl : l.args.getLast?.getD '!' = c := Option.some.inj hc
      cases hargs : l.args.getLast? with
      | none => decide
      | some d => exact h.args_last d hargs
    · exact h.args_last c hc
  have hlast : ∀ c ∈ (l.word ++ l.tail).getLast?, isBlank c = false := by
    intro c hc
    rw [List.getLast?_append, Option.mem_def, Option.or_eq_some_iff] at hc
    obtain hc | ⟨-, hc⟩ := hc
    · exact htail c hc
    · exact hword c hc
  intro c hc
  obtain ⟨d, r, hd, -⟩ := h.startsWord
  have hsome : (l.word ++ l.tail).getLast? ≠ none := by
    rw [hd]
    simp
  rw [body, List.getLast?_append, Option.mem_def, Option.or_eq_some_iff] at hc
  obtain hc | ⟨hnone, -⟩ := hc
  · exact hlast c hc
  · exact absurd hnone hsome

/-! ### reading the line -/

/-- Of a line only the colons are taken off. -/
theorem Calls.commandText_text (h : l.Calls t row) : commandText l.text = l.body := by
  obtain ⟨c, r, hbody, hblank, hcolon⟩ := h.exists_body_eq_cons
  have hfirst : ∀ d ∈ l.text.head?, isBlank d = false := by
    intro d hd
    rw [text, List.head?_append, Option.mem_def, Option.or_eq_some_iff] at hd
    obtain hd | ⟨-, hd⟩ := hd
    · rw [List.eq_of_mem_replicate (List.mem_of_head? hd)]
      decide
    · rw [hbody] at hd
      obtain rfl : c = d := Option.some.inj hd
      exact hblank
  have hlast : ∀ d ∈ l.text.getLast?, isBlank d = false := by
    intro d hd
    have hsome : l.body.getLast? ≠ none := by
      rw [hbody]
      simp
    rw [text, List.getLast?_append, Option.mem_def, Option.or_eq_some_iff] at hd
    obtain hd | ⟨hnone, -⟩ := hd
    · exact h.body_last d hd
    · exact absurd hnone hsome
  have hcolons : Text.trimLeftOf ':' l.text = l.body := by
    have hall : ∀ d ∈ List.replicate l.colons ':', (d == ':') = true := fun d hd =>
      beq_iff_eq.2 (List.eq_of_mem_replicate hd)
    rw [Text.trimLeftOf, text, List.dropWhile_append_of_pos hall, hbody,
      List.dropWhile_cons_of_neg (by simpa using hcolon)]
  rw [commandText, Text.trim_eq_self hfirst hlast, hcolons, hbody]
  exact Text.trimLeft_cons_of_not_blank hblank

theorem Calls.parse_body (h : l.Calls t row) :
    LineRange.parse l.body = .ok (l.range, l.word ++ l.tail) := by
  have hword := h.startsWord
  unfold body
  cases hr : l.range with
  | none => exact hword.parse_eq_none
  | some r => exact LineRange.parse_text (h.range_readable r hr) hword

/-- The word ends where its letters end. -/
theorem Calls.takeWhile_letters (h : l.Calls t row) :
    (l.word ++ l.tail).takeWhile isAsciiLetter = l.word := by
  have htail : l.tail.takeWhile isAsciiLetter = [] := by
    unfold tail
    split
    · rfl
    · cases hargs : l.args with
      | nil => rfl
      | cons c r =>
        have hc := (h.args_first c (by rw [hargs]; rfl)).1
        rw [List.takeWhile_cons, hc, if_neg (by decide)]
  rw [List.takeWhile_append_of_pos h.word_letters, htail, List.append_nil]

/-- A bang is told from the arguments. -/
theorem Calls.head?_tail (h : l.Calls t row) : (l.tail.head? == some '!') = l.bang := by
  unfold tail
  cases hbang : l.bang with
  | true => rfl
  | false =>
    cases hargs : l.args with
    | nil => rfl
    | cons c r =>
      have hc := (h.args_first c (by rw [hargs]; rfl)).2 hbang
      simpa using hc

theorem tail_args (l : Spelling) : (if l.bang then l.tail.drop 1 else l.tail) = l.args := by
  unfold tail
  cases l.bang <;> rfl

/-- A line is recognised as the call that it is meant to be. -/
theorem Calls.recognise_text (h : l.Calls t row) :
    t.recognise l.text = .ok (.entry row (l.call row) l.range) := by
  have hparse : LineRange.parse (commandText l.text) = .ok (l.range, l.word ++ l.tail) := by
    rw [h.commandText_text, h.parse_body]
  have hrest : (l.word ++ l.tail).drop l.word.length = l.tail := List.drop_left
  have hbang : ¬ (l.bang && ! row.acceptsBang) = true := by
    have := h.bang_accepted
    cases hb : l.bang <;> simp_all
  have hrange : ¬ (l.range.isSome && ! row.acceptsRange) = true := by
    have := h.range_accepted
    cases hr : l.range.isSome <;> simp_all
  have hargs : ¬ (! l.args.isAllBlank && ! row.acceptsArgs) = true := by
    have := h.args_accepted
    cases ha : row.acceptsArgs <;> simp_all
  simp only [recognise, hparse, h.startsWord.trimLeft, recogniseBody, h.takeWhile_letters, hrest,
    h.word_ne_nil, if_false, h.found, h.head?_tail, tail_args, if_neg hbang, if_neg hrange,
    if_neg hargs]
  rfl

end Spelling

/-- A line that is recognised as a call is what the row makes of that call. -/
theorem parse_of_recognise {t : Table} {raw : Text} {row : Row} {call : Call}
    {range : Option LineRange} (h : t.recognise raw = .ok (.entry row call range)) :
    t.parse raw = match row.build call with
      | .ok c => .ok (.command c range)
      | .error f => match f.asCommandError? with
        | some e => .ok (.refused e)
        | none => .error f := by
  rw [parse, h]
  rfl

/-- Reading undoes printing: from the canonical spelling of a command line the row of its word is
called with exactly the name, bang, arguments and line that were written, and what the row makes of
that call is what the line is read as, with exactly the range that was written. -/
theorem parse_spelling {l : Spelling} {t : Table} {row : Row} (h : l.Calls t row) :
    t.recognise l.text = .ok (.entry row ⟨row.name, l.bang, l.args, l.text⟩ l.range) ∧
      t.parse l.text = match row.build ⟨row.name, l.bang, l.args, l.text⟩ with
        | .ok c => .ok (.command c l.range)
        | .error f => match f.asCommandError? with
          | some e => .ok (.refused e)
          | none => .error f :=
  ⟨h.recognise_text, parse_of_recognise h.recognise_text⟩

/-- A mark named like a command, digits and a comma in the arguments, and a second bang: each stays
in its part. -/
theorem parse_spelling_marks :
    let row : Row := ⟨"frobnicate".toList, "fro".toList, true, true, true, false, .extra,
      fun call => if call.args = "!5,3 x".toList then .ok .print else .error .noSuchItem⟩
    let t := ofExtra [] [row]
    let l : Spelling := ⟨2, some (.pair ⟨.mark 'd', 3⟩ .semicolon ⟨.last, -2⟩), "frob".toList, true,
      "!5,3 x".toList⟩
    l.text = "::'d+3;$-2frob!!5,3 x".toList ∧ l.Calls t row ∧
      t.parse l.text = .ok (.command .print l.range) := by
  intro row t l
  have hcalls : l.Calls t row := {
    found := rfl
    word_ne_nil := by decide
    word_letters := by
      apply List.all_eq_true.1
      decide
    range_readable := by
      rintro r hr
      cases hr
      refine ⟨⟨fun n hn => ?_, fun m hm => ?_, by decide⟩,
        fun n hn => ?_, fun m hm => ?_, by decide⟩
      · cases hn
      · cases hm
        decide
      · cases hn
      · cases hm
    range_accepted := fun _ => rfl
    bang_accepted := fun _ => rfl
    args_first := by
      intro c hc
      obtain rfl : '!' = c := Option.some.inj hc
      decide
    args_last := by
      intro c hc
      obtain rfl : 'x' = c := Option.some.inj hc
      decide
    args_accepted := fun h => by cases h }
  exact ⟨by decide, hcalls, (parse_spelling hcalls).2⟩

end Table

end ExMode
