import ExMode.Proofs.AddressGrammar
import Mathlib.Data.List.Induction

/-!
# ExMode.Proofs.TargetGrammar

The grammar of a register and a count, and what their reader has to do with it.

The text of a target is a register and a count, of which either may be left out, with blanks in
front, in between and behind.  `LineTarget.Written` holds the parts as they are written; `text` is
what they spell and `value` what they mean.

Neither a digit nor a blank is a register, and no digit is blank.  So each part ends where the next
one begins, and the reader, which takes each as far as it goes, takes the parts that were written.
The other way round, what the reader takes are parts of a target (`exists_written`), unless
something is left behind them.

* `LineTarget.Written.takeRegister_text`, `LineTarget.Written.digits_text` — the parts that are
  taken are those that were written;
* `LineTarget.Written.parse_text` — a target is read as it is written;
* `LineTarget.parse_of_not_written` — what is no target is refused, and named;
* `LineTarget.tail_read` — what is read from any text.
-/

namespace ExMode

/-! ## runs of one kind -/

namespace Text

variable {t ds : Text}

theorem trimLeft_eq_nil_iff : trimLeft t = [] ↔ ∀ c ∈ t, isBlank c = true :=
  List.dropWhile_eq_nil_iff

/-- Blanks in front of a text are trimmed with those that it starts with. -/
theorem trimLeft_blanks_append (h : ∀ c ∈ t, isBlank c = true) (u : Text) :
    trimLeft (t ++ u) = trimLeft u := List.dropWhile_append_of_pos h

/-- Blanks end a run of digits. -/
theorem leadingDigits_append_blanks (hds : ∀ c ∈ ds, isDigit c = true)
    (ht : ∀ c ∈ t, isBlank c = true) : leadingDigits (ds ++ t) = ds := by
  have hnone : t.takeWhile isDigit = [] := by
    cases t with
    | nil => rfl
    | cons c r =>
      have hc : ¬ isDigit c = true := fun hdigit => by
        simpa [isBlank_of_isDigit hdigit] using ht c List.mem_cons_self
      simp [hc]
  rw [leadingDigits, List.takeWhile_append_of_pos hds, hnone, List.append_nil]

theorem afterDigits_append_blanks (hds : ∀ c ∈ ds, isDigit c = true)
    (ht : ∀ c ∈ t, isBlank c = true) : afterDigits (ds ++ t) = t := by
  have h := leadingDigits_append_afterDigits (ds ++ t)
  rw [leadingDigits_append_blanks hds ht] at h
  exact List.append_cancel_left h

/-- The value of a run of digits is the number that has them in base ten. -/
theorem digitsValue_eq_ofDigits (h : ∀ c ∈ ds, isDigit c = true) :
    digitsValue ds = Nat.ofDigits 10 (ds.reverse.filterMap digitValue?) := by
  induction ds using List.reverseRecOn with
  | nil => rfl
  | append_singleton ds c ih =>
    obtain ⟨hds, hc⟩ := List.forall_mem_append.1 h
    obtain ⟨v, hv⟩ := Option.isSome_iff_exists.1 (hc c List.mem_cons_self)
    have hstep : digitsValue (ds ++ [c]) = 10 * digitsValue ds + v := by
      simp [digitsValue, hv]
    rw [hstep, ih hds, List.reverse_append, List.reverse_singleton, List.singleton_append,
      List.filterMap_cons_some hv, Nat.ofDigits_cons, Nat.add_comm]

end Text

namespace LineTarget

/-! ## targets as they are written -/

/-- A register and a count as they are written, either of them left out or not. -/
structure Written where
  front : Text
  register : Option Char
  gap : Text
  digits : Text
  back : Text
  front_blank : ∀ c ∈ front, isBlank c = true
  register_name : ∀ c ∈ register, isDigit c = false ∧ isBlank c = false
  gap_blank : ∀ c ∈ gap, isBlank c = true
  digits_digit : ∀ c ∈ digits, isDigit c = true
  back_blank : ∀ c ∈ back, isBlank c = true

namespace Written

/-- What the parts spell. -/
def text (w : Written) : Text :=
  w.front ++ (w.register.toList ++ (w.gap ++ (w.digits ++ w.back)))

/-- The count, if there are digits: the number that has them in base ten. -/
def count (w : Written) : Option Nat :=
  if w.digits = [] then none else some (Nat.ofDigits 10 (w.digits.reverse.filterMap digitValue?))

/-- What the parts mean. -/
def value (w : Written) : LineTarget := ⟨w.register, w.count⟩

/-- Whether the count can be converted. -/
def Fits (w : Written) : Prop := w.digits.length ≤ Text.maxNumeralDigits

instance (w : Written) : Decidable w.Fits :=
  inferInstanceAs (Decidable (w.digits.length ≤ Text.maxNumeralDigits))

/-! ### reading the parts -/

variable (w : Written)

/-- The register that is taken is the one that is written, and the digits are left behind it. -/
theorem takeRegister_text :
    (takeRegister w.text.trimLeft).1 = w.register ∧
      (takeRegister w.text.trimLeft).2.trimLeft = (w.digits ++ w.back).trimLeft := by
  rw [text, Text.trimLeft_blanks_append w.front_blank]
  cases hregister : w.register with
  | some c =>
    obtain ⟨hdigit, hblank⟩ := w.register_name c hregister
    rw [Option.toList_some, List.singleton_append, Text.trimLeft_cons_of_not_blank hblank]
    simp [takeRegister, hdigit, hblank, Text.trimLeft_blanks_append w.gap_blank]
  | none =>
    rw [Option.toList_none, List.nil_append, Text.trimLeft_blanks_append w.gap_blank]
    -- a digit or nothing stands first, and neither is taken for a register
    have htake : takeRegister (w.digits ++ w.back).trimLeft =
        (none, (w.digits ++ w.back).trimLeft) := by
      cases hdigits : w.digits with
      | nil =>
        rw [List.nil_append, Text.trimLeft_eq_nil_iff.2 w.back_blank]
        rfl
      | cons d ds =>
        have hd : isDigit d = true := w.digits_digit d (by simp [hdigits])
        rw [List.cons_append, Text.trimLeft_cons_of_not_blank (isBlank_of_isDigit hd)]
        simp [takeRegister, hd]
    rw [htake]
    exact ⟨rfl, Text.trimLeft_trimLeft _⟩

/-- The digits that are taken are those that are written, and but for blanks nothing is left. -/
theorem digits_text :
    (takeRegister w.text.trimLeft).2.trimLeft.leadingDigits = w.digits ∧
      (takeRegister w.text.trimLeft).2.trimLeft.afterDigits.trimLeft = [] := by
  rw [w.takeRegister_text.2]
  by_cases hdigits : w.digits = []
  · rw [hdigits, List.nil_append, Text.trimLeft_eq_nil_iff.2 w.back_blank]
    exact ⟨rfl, rfl⟩
  · obtain ⟨d, ds, hcons⟩ := List.exists_cons_of_ne_nil hdigits
    have hd : isDigit d = true := w.digits_digit d (by simp [hcons])
    have htrim : (w.digits ++ w.back).trimLeft = w.digits ++ w.back := by
      rw [hcons, List.cons_append, Text.trimLeft_cons_of_not_blank (isBlank_of_isDigit hd)]
    rw [htrim, Text.leadingDigits_append_blanks w.digits_digit w.back_blank,
      Text.afterDigits_append_blanks w.digits_digit w.back_blank]
    exact ⟨rfl, Text.trimLeft_eq_nil_iff.2 w.back_blank⟩

variable {w}

/-- A text is that of one register and one run of digits. -/
theorem eq_of_text_eq {v : Written} (h : v.text = w.text) :
    v.register = w.register ∧ v.digits = w.digits := by
  rw [← v.takeRegister_text.1, ← w.takeRegister_text.1, ← v.digits_text.1, ← w.digits_text.1, h]
  exact ⟨rfl, rfl⟩

/-- A target is read as it is written, but for a count of zero. -/
theorem parse_text (hfits : w.Fits) :
    parse w.text = if w.count = some 0 then .error (.command ⟨.invalidArgument, w.digits⟩)
      else .ok w.value := by
  obtain ⟨hdigits, hback⟩ := w.digits_text
  have hvalue := Text.digitsValue_eq_ofDigits w.digits_digit
  simp only [parse, hdigits, hback, w.takeRegister_text.1, value, count]
  by_cases hnil : w.digits = []
  · simp [hnil]
  · rw [Text.readNumeral_of_length_le hfits, hvalue]
    simp [hnil, bind, Except.bind, pure, Except.pure]

/-- A count with too many digits is refused, and the number of digits is told. -/
theorem parse_text_of_not_fits (hfits : ¬ w.Fits) :
    parse w.text = .error (.numeralTooLong w.digits.length) := by
  obtain ⟨hdigits, hback⟩ := w.digits_text
  have hlong : w.digits.length > Text.maxNumeralDigits := Nat.not_le.1 hfits
  have hnil : w.digits ≠ [] := by
    intro hnil
    simp [hnil] at hlong
  have hread : w.digits.readNumeral = .error (.numeralTooLong w.digits.length) := by
    rw [Text.readNumeral, Text.numeral, if_pos hlong]
    rfl
  simp [parse, hdigits, hback, hnil, hread, bind, Except.bind]

end Written

/-! ## texts that are no targets -/

variable {args : Text}

theorem takeRegister_append (t : Text) : (takeRegister t).1.toList ++ (takeRegister t).2 = t := by
  cases t with
  | nil => rfl
  | cons c r =>
    rw [takeRegister]
    split <;> rfl

theorem takeRegister_name (t : Text) :
    ∀ c ∈ (takeRegister t).1, isDigit c = false ∧ isBlank c = false := by
  cases t with
  | nil => simp [takeRegister]
  | cons c r =>
    rw [takeRegister]
    split
    · simp
    · rename_i hc
      simpa using hc

/-- What is taken from a text are parts of a target, if nothing but blanks is left. -/
theorem exists_written (h : (takeRegister args.trimLeft).2.trimLeft.afterDigits.trimLeft = []) :
    ∃ w : Written, w.text = args := by
  let rest := (takeRegister args.trimLeft).2
  have hspells : args.takeWhile isBlank ++ ((takeRegister args.trimLeft).1.toList ++
      (rest.takeWhile isBlank ++ (rest.trimLeft.leadingDigits ++ rest.trimLeft.afterDigits))) =
      args := by
    rw [Text.leadingDigits_append_afterDigits, Text.takeWhile_append_trimLeft,
      takeRegister_append, Text.takeWhile_append_trimLeft]
  exact ⟨{ front := args.takeWhile isBlank
           register := (takeRegister args.trimLeft).1
           gap := rest.takeWhile isBlank
           digits := rest.trimLeft.leadingDigits
           back := rest.trimLeft.afterDigits
           front_blank := List.all_eq_true.1 List.all_takeWhile
           register_name := takeRegister_name _
           gap_blank := List.all_eq_true.1 List.all_takeWhile
           digits_digit := List.all_eq_true.1 List.all_takeWhile
           back_blank := Text.trimLeft_eq_nil_iff.1 h }, hspells⟩

/-- A text that is none of a target is refused, and named without the blanks around it. -/
theorem parse_of_not_written (h : ¬ ∃ w : Written, w.text = args) :
    parse args = .error (.command ⟨.trailingCharacters, args.trim⟩) := by
  simp only [parse, if_pos (mt exists_written h)]

/-! ## every text -/

/-- The four ways in which a text can be answered. -/
theorem parse_cases (args : Text) :
    (∃ w : Written, w.text = args ∧ w.Fits ∧ w.count ≠ some 0 ∧ parse args = .ok w.value) ∨
    (∃ w : Written, w.text = args ∧ w.Fits ∧ w.count = some 0 ∧
      parse args = .error (.command ⟨.invalidArgument, w.digits⟩)) ∨
    (∃ w : Written, w.text = args ∧ ¬ w.Fits ∧
      parse args = .error (.numeralTooLong w.digits.length)) ∨
    ((¬ ∃ w : Written, w.text = args) ∧
      parse args = .error (.command ⟨.trailingCharacters, args.trim⟩)) := by
  by_cases hw : ∃ w : Written, w.text = args
  · obtain ⟨w, rfl⟩ := hw
    by_cases hfits : w.Fits
    · have hread := Written.parse_text hfits
      by_cases hcount : w.count = some 0
      · rw [if_pos hcount] at hread
        exact Or.inr (Or.inl ⟨w, rfl, hfits, hcount, hread⟩)
      · rw [if_neg hcount] at hread
        exact Or.inl ⟨w, rfl, hfits, hcount, hread⟩
    · exact Or.inr (Or.inr (Or.inl ⟨w, rfl, hfits, Written.parse_text_of_not_fits hfits⟩))
  · exact Or.inr (Or.inr (Or.inr ⟨hw, parse_of_not_written hw⟩))

/-- A text is read if it is that of a target whose count can be converted and is not zero. -/
theorem parse_eq_ok_iff {target : LineTarget} : parse args = .ok target ↔
    ∃ w : Written, w.text = args ∧ w.Fits ∧ w.count ≠ some 0 ∧ w.value = target := by
  constructor
  · intro h
    obtain ⟨w, hw, hfits, hcount, hread⟩ | ⟨_, _, _, _, hread⟩ | ⟨_, _, _, hread⟩ | ⟨_, hread⟩ :=
      parse_cases args
    · exact ⟨w, hw, hfits, hcount, Except.ok.inj (hread.symm.trans h)⟩
    all_goals cases hread.symm.trans h
  · rintro ⟨w, rfl, hfits, hcount, rfl⟩
    rw [Written.parse_text hfits, if_neg hcount]

/-- A text is refused for its count, which is zero or cannot be converted, or as no target. -/
theorem parse_eq_error_iff {f : Fault} : parse args = .error f ↔
    (∃ w : Written, w.text = args ∧ w.Fits ∧ w.count = some 0 ∧
      f = .command ⟨.invalidArgument, w.digits⟩) ∨
    (∃ w : Written, w.text = args ∧ ¬ w.Fits ∧ f = .numeralTooLong w.digits.length) ∨
    ((¬ ∃ w : Written, w.text = args) ∧ f = .command ⟨.trailingCharacters, args.trim⟩) := by
  constructor
  · intro h
    obtain ⟨w, _, _, _, hread⟩ | ⟨w, hw, hfits, hcount, hread⟩ | ⟨w, hw, hfits, hread⟩ |
      ⟨hnone, hread⟩ := parse_cases args
    · cases hread.symm.trans h
    · exact Or.inl ⟨w, hw, hfits, hcount, Except.error.inj (h.symm.trans hread)⟩
    · exact Or.inr (Or.inl ⟨w, hw, hfits, Except.error.inj (h.symm.trans hread)⟩)
    · exact Or.inr (Or.inr ⟨hnone, Except.error.inj (h.symm.trans hread)⟩)
  · rintro (⟨w, rfl, hfits, hcount, rfl⟩ | ⟨w, rfl, hfits, rfl⟩ | ⟨hnone, rfl⟩)
    · rw [Written.parse_text hfits, if_pos hcount]
    · exact Written.parse_text_of_not_fits hfits
    · exact parse_of_not_written hnone

/-- A register and a count are read back, whatever blanks they are printed with. -/
theorem parse_spaced {x : Char} {n : Nat} {front gap back : Text} (hdigit : isDigit x = false)
    (hblank : isBlank x = false) (hpos : 0 < n) (hfits : Text.Convertible n)
    (hfront : ∀ c ∈ front, isBlank c = true) (hgap : ∀ c ∈ gap, isBlank c = true)
    (hback : ∀ c ∈ back, isBlank c = true) :
    parse (front ++ x :: (gap ++ (Text.ofNat n ++ back))) = .ok ⟨some x, some n⟩ := by
  let w : Written :=
    { front, register := some x, gap, digits := Text.ofNat n, back
      front_blank := hfront
      register_name := by rintro _ ⟨⟩; exact ⟨hdigit, hblank⟩
      gap_blank := hgap
      digits_digit := fun _ => Text.isDigit_of_mem_ofNat
      back_blank := hback }
  have hcount : w.count = some n := by
    rw [Written.count, if_neg (Text.ofNat_ne_nil n),
      ← Text.digitsValue_eq_ofDigits w.digits_digit, Text.digitsValue_ofNat]
  refine parse_eq_ok_iff.2 ⟨w, rfl, hfits, ?_, ?_⟩
  · rw [hcount, Ne, Option.some.injEq]
    omega
  · rw [Written.value, hcount]

/-- What is read from a text: the one target that it is the text of, unless the count is zero or
cannot be converted.  The digits of a count can be those of any script, and the first of them can be
zeros.  A text that is not read is refused for its count or as no target.  So a register and a count
are read back, whatever blanks they are printed with. -/
theorem tail_read (args : Text) :
    (∀ v w : Written, v.text = args → w.text = args →
      v.register = w.register ∧ v.digits = w.digits) ∧
    (∀ target, parse args = .ok target ↔
      ∃ w : Written, w.text = args ∧ w.Fits ∧ w.count ≠ some 0 ∧ w.value = target) ∧
    (∀ f, parse args = .error f ↔
      (∃ w : Written, w.text = args ∧ w.Fits ∧ w.count = some 0 ∧
        f = .command ⟨.invalidArgument, w.digits⟩) ∨
      (∃ w : Written, w.text = args ∧ ¬ w.Fits ∧ f = .numeralTooLong w.digits.length) ∨
      ((¬ ∃ w : Written, w.text = args) ∧ f = .command ⟨.trailingCharacters, args.trim⟩)) ∧
    ∀ (x : Char) (n : Nat) (front gap back : Text), isDigit x = false → isBlank x = false →
      0 < n → Text.Convertible n → (∀ c ∈ front, isBlank c = true) →
      (∀ c ∈ gap, isBlank c = true) → (∀ c ∈ back, isBlank c = true) →
      args = front ++ x :: (gap ++ (Text.ofNat n ++ back)) →
      parse args = .ok ⟨some x, some n⟩ := by
  refine ⟨?_, fun target => parse_eq_ok_iff, fun f => parse_eq_error_iff, ?_⟩
  · intro v w hv hw
    exact Written.eq_of_text_eq (hv.trans hw.symm)
  · intro x n front gap back hdigit hblank hpos hfits hfront hgap hback hargs
    rw [hargs]
    exact parse_spaced hdigit hblank hpos hfits hfront hgap hback

/-- A quote and a number with blanks of three kinds; digits of another script right behind their
register, with a zero in front; that zero alone; and a letter behind a count. -/
theorem tail_read_scripts :
    (isDigit '"' = false ∧ isBlank '"' = false ∧ 0 < 12 ∧ Text.Convertible 12 ∧
      (∀ c ∈ [' '], isBlank c = true) ∧ (∀ c ∈ ['\t'], isBlank c = true) ∧
      (∀ c ∈ ['\n'], isBlank c = true) ∧
      parse " \"\t12\n".toList = .ok ⟨some '"', some 12⟩) ∧
    ((∃ w : Written, w.text = "\u00a0x\u0660\u0663\n".toList ∧ w.Fits ∧ w.count = some 3) ∧
      parse "\u00a0x\u0660\u0663\n".toList = .ok ⟨some 'x', some 3⟩) ∧
    ((∃ w : Written, w.text = ['\u0660'] ∧ w.Fits ∧ w.count = some 0) ∧
      parse ['\u0660'] = .error (.command ⟨.invalidArgument, ['\u0660']⟩)) ∧
    (¬ ∃ w : Written, w.text = " 5 y".toList) ∧
      parse " 5 y".toList = .error (.command ⟨.trailingCharacters, "5 y".toList⟩) := by
  have hspace : ∀ c ∈ [' '], isBlank c = true := List.all_eq_true.1 rfl
  have htab : ∀ c ∈ ['\t'], isBlank c = true := List.all_eq_true.1 rfl
  have hnewline : ∀ c ∈ ['\n'], isBlank c = true := List.all_eq_true.1 rfl
  have htwelve : Text.Convertible 12 := by decide
  let three : Written :=
    { front := ['\u00a0'], register := some 'x', gap := [], digits := ['\u0660', '\u0663']
      back := ['\n']
      front_blank := List.all_eq_true.1 rfl
      register_name := by rintro _ ⟨⟩; exact ⟨rfl, rfl⟩
      gap_blank := nofun
      digits_digit := List.all_eq_true.1 rfl
      back_blank := List.all_eq_true.1 rfl }
  let zero : Written :=
    { front := [], register := none, gap := [], digits := ['\u0660'], back := []
      front_blank := nofun
      register_name := nofun
      gap_blank := nofun
      digits_digit := List.all_eq_true.1 rfl
      back_blank := nofun }
  have hthree : three.Fits := by decide
  have hzero : zero.Fits := by decide
  have hrest : parse " 5 y".toList = .error (.command ⟨.trailingCharacters, "5 y".toList⟩) := rfl
  refine ⟨⟨rfl, rfl, by decide, htwelve, hspace, htab, hnewline, ?_⟩,
    ⟨⟨three, rfl, hthree, rfl⟩, ?_⟩, ⟨⟨zero, rfl, hzero, rfl⟩, ?_⟩, ?_, hrest⟩
  · exact (tail_read _).2.2.2 '"' 12 [' '] ['\t'] ['\n'] rfl rfl (by decide) htwelve hspace htab
      hnewline rfl
  · exact ((tail_read _).2.1 _).2 ⟨three, rfl, hthree, by decide, rfl⟩
  · exact ((tail_read _).2.2.1 _).2 (Or.inl ⟨zero, rfl, hzero, rfl, rfl⟩)
  · rcases ((tail_read _).2.2.1 _).1 hrest with ⟨w, -, -, -, hw⟩ | ⟨w, -, -, hw⟩ | ⟨hnone, -⟩
    · cases hw
    · cases hw
    · exact hnone

end LineTarget

end ExMode
