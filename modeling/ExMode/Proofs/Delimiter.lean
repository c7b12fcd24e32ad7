import ExMode.Proofs.LineFront
import ExMode.Proofs.Literal

/-!
# ExMode.Proofs.Delimiter

The delimiter of a substitution.  Whatever stands between its parts, the parts are cut out as they
are, so the substitution that is read does not depend on the delimiter.  A blank never is one: those
in front of the argument are skipped.

A command line is taken apart before its argument is looked at, and there the delimiter is the first
character behind the name.  One of those that a substitution could have has a meaning there: the
exclamation mark, which is taken for a bang and refused.

The last delimiter can be left out, since a part that is not there counts as empty.  But then the
last part ends where the line ends, and blanks at the end of a line belong to no part of it.

* `Magic.splitFields_parts` — parts without special characters are cut out as they are;
* `Substitution.ofArgs_of_fields` — and the argument is read by its parts;
* `Substitution.ofArgs_argument` — so the delimiter makes no difference to the argument;
* `Table.parse_delimited` — nor to a command line, the exclamation mark apart;
* `Table.parse_unclosed` — and the last delimiter makes none but for blanks.
-/

namespace ExMode

namespace Magic

variable {delimiter : Char}

/-- A part without the delimiter and backslashes is cut out as it is. -/
theorem fieldsFrom_part (hd : delimiter ≠ '\\') {t : Text} (ht : delimiter ∉ t) (ht' : '\\' ∉ t)
    (splits : Nat) (rest : Text) : fieldsFrom delimiter (splits + 1) (t ++ delimiter :: rest) =
      t :: fieldsFrom delimiter splits rest := by
  have hkept {special : Char → Bool} (h : ∀ c ∈ t, special c = false) : escaped special t = t := by
    have hnone := escaped_append_of_none h []
    rwa [List.append_nil, escaped, escaped, List.flatMap_nil, List.append_nil] at hnone
  have hbackslash : ∀ c ∈ t, (c == '\\') = false := fun c hc =>
    beq_eq_false_iff_ne.2 (ne_of_mem_of_not_mem hc ht')
  have hdelimiter : ∀ c ∈ t, (c == '\\' || c == delimiter) = false := fun c hc =>
    Bool.or_eq_false_iff.2 ⟨hbackslash c hc, beq_eq_false_iff_ne.2 (ne_of_mem_of_not_mem hc ht)⟩
  have h := @fieldsFrom_escaped (· == '\\') delimiter rfl (beq_eq_false_iff_ne.2 hd) splits t rest
  rwa [hkept hdelimiter, hkept hbackslash] at h

/-- Where no delimiter counts any more, or none follows, a part without backslashes is the rest of
the text. -/
theorem fieldsFrom_last {t : Text} (ht : '\\' ∉ t) {splits : Nat}
    (hlast : splits = 0 ∨ delimiter ∉ t) : fieldsFrom delimiter splits t = [t] := by
  induction t with
  | nil => cases splits <;> rfl
  | cons c t ih =>
    obtain ⟨hc, ht⟩ := not_or.1 (mt List.mem_cons.2 ht)
    have hsplit : (decide (c = delimiter) && decide (0 < splits)) = false := by
      obtain rfl | hlast := hlast
      · exact Bool.and_false _
      · rw [decide_eq_false (Ne.symm (not_or.1 (mt List.mem_cons.2 hlast)).1), Bool.false_and]
    cases t with
    | nil => rw [fieldsFrom, hsplit, if_neg Bool.false_ne_true]
    | cons d t =>
      rw [fieldsFrom, if_neg (Ne.symm hc), hsplit, if_neg Bool.false_ne_true,
        ih ht (hlast.imp_right fun h => (not_or.1 (mt List.mem_cons.2 h)).2)]
      rfl

/-- The three parts of the argument of a substitution. -/
theorem splitFields_parts (hd : delimiter ≠ '\\') {p r tail : Text} (hp : delimiter ∉ p)
    (hp' : '\\' ∉ p) (hr : delimiter ∉ r) (hr' : '\\' ∉ r) (htail : '\\' ∉ tail) :
    splitFields (p ++ delimiter :: (r ++ delimiter :: tail)) delimiter = [p, r, tail] := by
  rw [splitFields, fieldsFrom_part hd hp hp', fieldsFrom_part hd hr hr',
    fieldsFrom_last htail (.inl rfl)]

/-- The two parts of an argument that ends with the replacement. -/
theorem splitFields_unclosed (hd : delimiter ≠ '\\') {p r : Text} (hp : delimiter ∉ p)
    (hp' : '\\' ∉ p) (hr : delimiter ∉ r) (hr' : '\\' ∉ r) :
    splitFields (p ++ delimiter :: r) delimiter = [p, r] := by
  rw [splitFields, fieldsFrom_part hd hp hp', fieldsFrom_last hr' (.inr hr)]

end Magic

namespace Substitution

/-- The argument of a substitution: a pattern, a replacement and what follows them, with a delimiter
in front of each. -/
def argument (d : Char) (p r tail : Text) : Text := d :: (p ++ d :: (r ++ d :: tail))

variable {d : Char} {p r tail : Text}

/-- A blank is no delimiter. -/
theorem ofArgs_blank (hd : isBlank d = true) (t : Text) : ofArgs (d :: t) = ofArgs t := by
  rw [ofArgs, ofArgs, Text.trimLeft_cons_of_blank hd]

theorem ne_backslash_of_isDelimiter (hd : isDelimiter d = true) : d ≠ '\\' := by
  rintro rfl
  cases hd

/-- An argument is read by its parts, those that are missing counting as empty. -/
theorem ofArgs_of_fields {d d' : Char} (hd : isDelimiter d = true) (hd' : isDelimiter d' = true)
    (hblank : isBlank d = false) (hblank' : isBlank d' = false) {body body' : Text}
    (h : ∀ i : Nat, (Magic.splitFields body d)[i]?.getD [] =
      (Magic.splitFields body' d')[i]?.getD []) :
    ofArgs (d :: body) = ofArgs (d' :: body') := by
  rw [ofArgs, ofArgs, Text.trimLeft_cons_of_not_blank hblank,
    Text.trimLeft_cons_of_not_blank hblank']
  simp only [hd, hd', List.head?_eq_getElem?, h]
  rfl

/-- With one delimiter as with another, the argument is read as the same substitution. -/
theorem ofArgs_argument (hd : isDelimiter d = true) (hblank : isBlank d = false)
    (hp : d ∉ p ∧ '/' ∉ p ∧ '\\' ∉ p) (hr : d ∉ r ∧ '/' ∉ r ∧ '\\' ∉ r) (htail : '\\' ∉ tail) :
    ofArgs (argument d p r tail) = ofArgs (argument '/' p r tail) := by
  have hne := ne_backslash_of_isDelimiter hd
  have hfields := Magic.splitFields_parts hne hp.1 hp.2.2 hr.1 hr.2.2 htail
  have hfields' := Magic.splitFields_parts (by decide) hp.2.1 hp.2.2 hr.2.1 hr.2.2 htail
  refine ofArgs_of_fields hd (by decide) hblank (by decide) fun i => ?_
  rw [hfields, hfields']

/-- Behind the replacement the delimiter can be left out. -/
theorem ofArgs_unclosed (hd : isDelimiter d = true) (hblank : isBlank d = false)
    (hp : d ∉ p ∧ '\\' ∉ p) (hr : d ∉ r ∧ '\\' ∉ r) :
    ofArgs (d :: (p ++ d :: r)) = ofArgs (argument d p r []) := by
  have hne := ne_backslash_of_isDelimiter hd
  have hfields := Magic.splitFields_unclosed hne hp.1 hp.2 hr.1 hr.2
  have hfields' := Magic.splitFields_parts hne hp.1 hp.2 hr.1 hr.2 List.not_mem_nil
  refine ofArgs_of_fields hd hd hblank hblank fun i => ?_
  rw [hfields, hfields']
  rcases i with _ | _ | _ | i <;> rfl

/-- Behind the pattern all that follows it can be left out. -/
theorem ofArgs_pattern (hd : isDelimiter d = true) (hblank : isBlank d = false)
    (hp : d ∉ p ∧ '\\' ∉ p) : ofArgs (d :: p) = ofArgs (argument d p [] []) := by
  have hne := ne_backslash_of_isDelimiter hd
  have hfields : Magic.splitFields p d = [p] := Magic.fieldsFrom_last hp.2 (.inr hp.1)
  have hfields' := Magic.splitFields_parts hne hp.1 hp.2 List.not_mem_nil List.not_mem_nil
    List.not_mem_nil
  refine ofArgs_of_fields hd hd hblank hblank fun i => ?_
  rw [hfields, hfields']
  rcases i with _ | _ | _ | i <;> rfl

end Substitution

namespace Table

open Substitution (isDelimiter argument)

variable {d : Char} {p r tail : Text}

/-- The row of the built-in table for substitutions. -/
def substituteRow : Row :=
  lineRow "substitute" "s" fun call => do return .substitute (← Substitution.ofArgs call.args)

theorem find?_s (homes : List (Text × Text)) :
    (ofExtra homes []).find? ['s'] = some substituteRow :=
  rfl

/-- Blanks at the end of a line belong to no part of it. -/
theorem commandText_s (hd : isBlank d = false) (body : Text) :
    commandText ('s' :: d :: body) = 's' :: d :: body.trimRight := by
  rw [commandText, Text.trim, Text.trimLeft_cons_of_not_blank (by decide),
    Text.trimRight_cons_of_not_blank (by decide), Text.trimRight_cons_of_not_blank hd]
  exact Text.trimLeft_cons_of_not_blank (by decide)

theorem isAsciiLetter_of_isDelimiter (hd : isDelimiter d = true) : isAsciiLetter d = false := by
  refine eq_false_of_ne_true fun hletter => ?_
  have halphanumeric : isAlphanumeric d = true := by
    have := toNat_of_isAsciiLetter hletter
    rw [isAlphanumeric, if_pos (by omega), hletter, Bool.true_or]
  simp [isDelimiter, halphanumeric] at hd

/-- What stands behind the name is the argument, unless it starts with a bang. -/
theorem recognise_s {t : Table} (ht : t.find? ['s'] = some substituteRow)
    (hd : isDelimiter d = true) (hblank : isBlank d = false) (body : Text) :
    t.recognise ('s' :: d :: body) =
      .ok (if d = '!' then .refused (.plain .noBangAllowed)
        else .entry substituteRow ⟨"substitute".toList, false, d :: body.trimRight,
          's' :: d :: body⟩ none) := by
  have hletter := isAsciiLetter_of_isDelimiter hd
  have hstarts : LineRange.StartsWord (commandText ('s' :: d :: body)) := by
    rw [commandText_s hblank]
    exact ⟨'s', _, rfl, by decide⟩
  -- the delimiter is no letter, so the name ends in front of it
  have hname : ('s' :: d :: body.trimRight).takeWhile isAsciiLetter = ['s'] := by
    rw [List.takeWhile_cons_of_pos (by decide), List.takeWhile_cons_of_neg (by simp [hletter])]
  have hdrop : ('s' :: d :: body.trimRight).drop (['s'] : Text).length = d :: body.trimRight := rfl
  rw [recognise, hstarts.parse_eq_none]
  dsimp only
  rw [hstarts.trimLeft, commandText_s hblank, recogniseBody]
  dsimp only
  rw [hname, hdrop, if_neg (List.cons_ne_nil _ _), ht]
  dsimp only
  rw [List.head?_cons]
  by_cases hbang : d = '!'
  · subst hbang
    rfl
  · have hplain : (some d == some '!') = false := by simpa using hbang
    have hargs : (! Text.isAllBlank (d :: body.trimRight) && ! substituteRow.acceptsArgs) = false :=
      Bool.and_false _
    rw [hplain, if_neg hbang, if_neg Bool.false_ne_true, hargs]
    rfl

/-- Where `s` names the row for substitutions, a line of it is read by its argument. -/
theorem parse_s {t : Table} (ht : t.find? ['s'] = some substituteRow) (hd : isDelimiter d = true)
    (hblank : isBlank d = false) (hbang : d ≠ '!') (body : Text) :
    t.parse ('s' :: d :: body) = match Substitution.ofArgs (d :: body.trimRight) with
      | .ok sub => .ok (.command (.substitute sub) none)
      | .error f => match f.asCommandError? with
        | some e => .ok (.refused e)
        | none => .error f := by
  have hline := recognise_s ht hd hblank body
  rw [if_neg hbang] at hline
  have hbuild : substituteRow.build ⟨"substitute".toList, false, d :: body.trimRight,
      's' :: d :: body⟩ = (Substitution.ofArgs (d :: body.trimRight)).map Command.substitute := by
    rw [substituteRow, lineRow]
    dsimp only
    cases Substitution.ofArgs (d :: body.trimRight) <;> rfl
  rw [parse_of_recognise hline, hbuild]
  cases Substitution.ofArgs (d :: body.trimRight) <;> rfl

/-- With one delimiter, lines whose arguments are read alike are read alike. -/
theorem parse_s_congr {t : Table} (ht : t.find? ['s'] = some substituteRow)
    (hd : isDelimiter d = true) (hblank : isBlank d = false) {body body' : Text}
    (h : Substitution.ofArgs (d :: body.trimRight) = Substitution.ofArgs (d :: body'.trimRight)) :
    t.parse ('s' :: d :: body) = t.parse ('s' :: d :: body') := by
  by_cases hbang : d = '!'
  · have hline := recognise_s ht hd hblank body
    have hline' := recognise_s ht hd hblank body'
    rw [if_pos hbang] at hline hline'
    rw [parse, parse, hline, hline']
  · rw [parse_s ht hd hblank hbang, parse_s ht hd hblank hbang, h]

theorem trimRight_body (hd : isBlank d = false) (p r tail : Text) :
    Text.trimRight (p ++ d :: (r ++ d :: tail)) = p ++ d :: (r ++ d :: tail.trimRight) := by
  rw [Text.trimRight_append_cons hd, Text.trimRight_append_cons hd]

/-- A substitution is read alike with every delimiter, for every pattern, replacement and tail that
do not contain it, `/` or backslashes: the outcome is the same, so the same command, if it is one,
does the same to every buffer.  The exclamation mark is taken for a bang, which is refused; a blank
is no delimiter. -/
theorem parse_delimited (homes : List (Text × Text)) (hd : isDelimiter d = true) :
    (isBlank d = true → ∀ t, Substitution.ofArgs (d :: t) = Substitution.ofArgs t) ∧
    (isBlank d = false → ∀ p r tail : Text, (d ∉ p ∧ '/' ∉ p ∧ '\\' ∉ p) →
      (d ∉ r ∧ '/' ∉ r ∧ '\\' ∉ r) → '\\' ∉ tail →
      Substitution.ofArgs (argument d p r tail) = Substitution.ofArgs (argument '/' p r tail) ∧
      (ofExtra homes []).parse ('s' :: argument d p r tail) =
        if d = '!' then .ok (.refused (.plain .noBangAllowed))
        else (ofExtra homes []).parse ('s' :: argument '/' p r tail)) := by
  refine ⟨fun hblank t => Substitution.ofArgs_blank hblank t, fun hblank p r tail hp hr htail => ?_⟩
  have htail' : '\\' ∉ tail.trimRight := fun hmem =>
    htail ((Text.trimRight_isPrefix tail).subset hmem)
  refine ⟨Substitution.ofArgs_argument hd hblank hp hr htail, ?_⟩
  by_cases hbang : d = '!'
  · have hline := recognise_s (find?_s homes) hd hblank (p ++ d :: (r ++ d :: tail))
    rw [if_pos hbang] at hline ⊢
    rw [argument, parse, hline]
    rfl
  · have hargs := Substitution.ofArgs_argument hd hblank hp hr htail'
    unfold argument at hargs ⊢
    rw [if_neg hbang, parse_s (find?_s homes) hd hblank hbang,
      parse_s (find?_s homes) (by decide) (by decide) (by decide), trimRight_body hblank,
      trimRight_body (by decide), hargs]

/-- With a number sign in the place of the slash, and with a tab in front of it. -/
theorem parse_delimited_number :
    isDelimiter '#' = true ∧ isBlank '#' = false ∧ isDelimiter '\t' = true ∧ isBlank '\t' = true ∧
      '#' ∉ ['a', '!'] ∧ '/' ∉ ['a', '!'] ∧ '\\' ∉ ['a', '!'] ∧
      (ofExtra [] []).parse "s#a!#!a#g 2".toList = (ofExtra [] []).parse "s/a!/!a/g 2".toList ∧
      Substitution.ofArgs "\t#a#b#".toList = Substitution.ofArgs "#a#b#".toList := by
  have hp : '#' ∉ ['a', '!'] ∧ '/' ∉ ['a', '!'] ∧ '\\' ∉ ['a', '!'] := by decide
  have hr : '#' ∉ ['!', 'a'] ∧ '/' ∉ ['!', 'a'] ∧ '\\' ∉ ['!', 'a'] := by decide
  obtain ⟨-, hnumber⟩ := parse_delimited [] (d := '#') (by decide)
  obtain ⟨htab, -⟩ := parse_delimited [] (d := '\t') (by decide)
  obtain ⟨-, hparse⟩ := hnumber (by decide) ['a', '!'] ['!', 'a'] "g 2".toList hp hr (by decide)
  exact ⟨by decide, by decide, by decide, by decide, hp.1, hp.2.1, hp.2.2, hparse,
    htab (by decide) _⟩

/-- A substitution takes the exclamation mark for its delimiter, but the command line that it stands
in is refused. -/
theorem parse_delimited_bang :
    isDelimiter '!' = true ∧
      Substitution.ofArgs "!a!b!".toList = Substitution.ofArgs "/a/b/".toList ∧
      (ofExtra [] []).parse "s!a!b!".toList = .ok (.refused (.plain .noBangAllowed)) ∧
      ∃ sub, (ofExtra [] []).parse "s/a/b/".toList = .ok (.command (.substitute sub) none) := by
  have hp : '!' ∉ ['a'] ∧ '/' ∉ ['a'] ∧ '\\' ∉ ['a'] := by decide
  have hr : '!' ∉ ['b'] ∧ '/' ∉ ['b'] ∧ '\\' ∉ ['b'] := by decide
  have hread : (Substitution.ofArgs "/a/b/".toList).toOption.any (fun _ => true) = true := by
    decide +kernel
  obtain ⟨sub, hsub, -⟩ := any_toOption_eq_true.1 hread
  refine ⟨by decide, Substitution.ofArgs_argument (by decide) (by decide) hp hr (by decide), rfl,
    sub, ?_⟩
  have hline := parse_s (find?_s []) (d := '/') (by decide) (by decide) (by decide) "a/b/".toList
  have hargs : '/' :: Text.trimRight "a/b/".toList = "/a/b/".toList := rfl
  rw [hargs, hsub] at hline
  exact hline

/-! ## the last delimiter left out -/

/-- A line that ends with the replacement is read as if there were a delimiter behind it, and one
that ends with the pattern as if there were two.  But the line is taken without the blanks at its
end, so these are no part of the replacement or the pattern; where there are none, the delimiters
behind the last part make no difference, whatever the parts are made of. -/
theorem parse_unclosed {t : Table} (ht : t.find? ['s'] = some substituteRow)
    (hd : isDelimiter d = true) (hblank : isBlank d = false) (hp : d ∉ p ∧ '\\' ∉ p)
    (hr : d ∉ r ∧ '\\' ∉ r) :
    t.parse ('s' :: d :: (p ++ d :: r)) = t.parse ('s' :: argument d p r.trimRight []) ∧
    t.parse ('s' :: d :: p) = t.parse ('s' :: argument d p.trimRight [] []) ∧
    ((∀ c ∈ r.getLast?, isBlank c = false) →
      t.parse ('s' :: d :: (p ++ d :: r)) = t.parse ('s' :: argument d p r [])) ∧
    ((∀ c ∈ p.getLast?, isBlank c = false) →
      t.parse ('s' :: d :: p) = t.parse ('s' :: argument d p [] [])) := by
  have htrim {u : Text} (hu : d ∉ u ∧ '\\' ∉ u) : d ∉ u.trimRight ∧ '\\' ∉ u.trimRight :=
    ⟨fun h => hu.1 ((Text.trimRight_isPrefix u).subset h),
      fun h => hu.2 ((Text.trimRight_isPrefix u).subset h)⟩
  have hreplacement :
      t.parse ('s' :: d :: (p ++ d :: r)) = t.parse ('s' :: argument d p r.trimRight []) := by
    refine parse_s_congr ht hd hblank ?_
    rw [trimRight_body hblank, Text.trimRight_append_cons hblank]
    exact Substitution.ofArgs_unclosed hd hblank hp (htrim hr)
  have hpattern : t.parse ('s' :: d :: p) = t.parse ('s' :: argument d p.trimRight [] []) := by
    refine parse_s_congr ht hd hblank ?_
    rw [trimRight_body hblank]
    exact Substitution.ofArgs_pattern hd hblank (htrim hp)
  refine ⟨hreplacement, hpattern, fun hlast => ?_, fun hlast => ?_⟩
  · rw [hreplacement, Text.trimRight_eq_self hlast]
  · rw [hpattern, Text.trimRight_eq_self hlast]

/-- Blanks inside the parts and in front of them are kept. -/
theorem parse_unclosed_blanks :
    let t := ofExtra [] []
    t.find? ['s'] = some substituteRow ∧
      t.parse "s/ a b/\t c".toList = t.parse "s/ a b/\t c/".toList ∧
      t.parse "s/ a b".toList = t.parse "s/ a b//".toList := by
  intro t
  have ht : t.find? ['s'] = some substituteRow := find?_s []
  have hp : '/' ∉ " a b".toList ∧ '\\' ∉ " a b".toList := by decide
  have hr : '/' ∉ "\t c".toList ∧ '\\' ∉ "\t c".toList := by decide
  obtain ⟨-, -, hreplacement, hpattern⟩ :=
    parse_unclosed ht (d := '/') (by decide) (by decide) hp hr
  refine ⟨ht, hreplacement ?_, hpattern ?_⟩
  · rintro _ ⟨⟩
    rfl
  · rintro _ ⟨⟩
    rfl

/-- A blank at the end of the replacement, or of the pattern, is kept only in front of a
delimiter. -/
theorem parse_unclosed_trimmed :
    let t := ofExtra [] []
    let after (line raw : String) : Option (List Text) := match t.parse raw.toList with
      | .ok (.command c range) => some (runFrom (c.perform [] range)
          ⟨Buffer.ofText line.toList none, Registers.empty, ⟨[], [], [], [], .standard⟩⟩).2.buffer.lines
      | _ => none
    after "a" "s/a/ " = some [[]] ∧ after "a" "s/a/ /" = some [[' ']] ∧
      after "a " "s/a " = some [[' ']] ∧ after "a " "s/a //" = some [[]] := by
  decide +kernel

end Table

end ExMode
