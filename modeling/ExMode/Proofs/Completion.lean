import ExMode.Proofs.Classified
import ExMode.Proofs.Spelling
import ExMode.Session.InputBox
import Mathlib.Data.List.TakeWhile

/-!
# ExMode.Proofs.Completion

What completion offers is what the command line reads.

Completion cuts a line at the range and at a space, the command line cuts it at the
range and behind the letters of the name, and each takes off blanks and colons in its
own order.  Completing a name puts letters behind what was typed.  So what has to be
shown of the readers of addresses and ranges is that letters behind a text are left
over with the rest (`Address.parse_append`, `LineRange.parse_append`), however
incomplete the range is that they come after.

* `Table.parse_eq_build` — reading a line is recognising it and building what was recognised;
* `InputBox.recognise_of_name` — how a line is recognised when its name is completed;
* `InputBox.completed_accepted` — the completed line and the row it calls.
-/

namespace ExMode

/-! ## letters behind a text -/

theorem Text.trimLeft_append (t u : Text) :
    trimLeft (t ++ u) = if trimLeft t = [] then trimLeft u else trimLeft t ++ u := by
  unfold trimLeft
  rw [List.dropWhile_append]
  by_cases h : List.dropWhile isBlank t = []
  · rw [if_pos h, if_pos (List.isEmpty_iff.2 h)]
  · rw [if_neg h, if_neg (mt List.isEmpty_iff.1 h)]

theorem Text.trim_eq_trimLeft {t : Text} (hlast : ∀ c ∈ t.getLast?, isBlank c = false) :
    trim t = trimLeft t := by
  refine trimRight_eq_self fun c hc => hlast c ?_
  rw [← takeWhile_append_trimLeft t, List.getLast?_append, Option.mem_def.1 hc]
  rfl

theorem Text.cut_of_not_mem {sep : Char} {t : Text} (h : sep ∉ t) : cut sep t = (t, none) := by
  induction t with
  | nil => rfl
  | cons c r ih =>
    rw [List.mem_cons, not_or] at h
    rw [cut, if_neg (Ne.symm h.1), ih h.2]

theorem Text.cut_append_cons {sep : Char} {t : Text} (h : sep ∉ t) (u : Text) :
    cut sep (t ++ sep :: u) = (t, some u) := by
  induction t with
  | nil => simp [cut]
  | cons c r ih =>
    rw [List.mem_cons, not_or] at h
    simp [cut, Ne.symm h.1, ih h.2]

/-- Cutting a text loses nothing but the character at which it is cut. -/
theorem Text.cut_append (sep : Char) (t : Text) :
    (cut sep t).1 ++ (cut sep t).2.elim [] (sep :: ·) = t := by
  induction t with
  | nil => rfl
  | cons c r ih =>
    rw [cut]
    split
    · rename_i hc
      rw [hc]
      rfl
    · rw [List.cons_append, ih]

namespace Address

variable {t more rest : Text} {a : Option Address}

/-- What ends an address is left over by the scanner. -/
theorem scan_append_of_ends (t : Text) (h : Ends more) :
    scan (t ++ more) = ((scan t).1, (scan t).2.1, (scan t).2.2 ++ more) := by
  induction t with
  | nil => exact scan_of_ends h
  | cons c r ih =>
    simp only [List.cons_append, scan, ih]
    split
    · rfl
    split
    · rfl
    split
    · rfl
    · rfl

theorem scanTerms_append (t : Text) (h : Ends more) :
    scanTerms (t ++ more) = ((scanTerms t).1, (scanTerms t).2 ++ more) := by
  simp only [scanTerms, scan_append_of_ends t h]
  split
  · rfl
  · rfl

/-- A word behind a text is left over with the rest of it, unless it could be the name of a mark. -/
theorem parse_append (h : parse t = .ok (a, rest)) (hmore : LineRange.StartsWord more)
    (hmark : rest.head? ≠ some '\'') : parse (t ++ more) = .ok (a, rest ++ more) := by
  have hends := hmore.ends
  have hafter (anchor : Anchor) (r : Text)
      (h : (do return (some (Address.mk anchor (← sumTerms (scanTerms r).1)), (scanTerms r).2) :
        Except Fault (Option Address × Text)) = .ok (a, rest)) :
      (do return (some (Address.mk anchor (← sumTerms (scanTerms (r ++ more)).1)),
        (scanTerms (r ++ more)).2) : Except Fault (Option Address × Text)) =
        .ok (a, rest ++ more) := by
    obtain ⟨offset, hoffset, h⟩ := bind_eq_ok.1 h
    cases h
    rw [scanTerms_append r hends, hoffset]
    rfl
  rcases t with _ | ⟨c, r⟩
  · cases h
    exact hmore.parse_address
  by_cases hdigit : isDigit c = true
  · have hscan := scan_append_of_ends (c :: r) hends
    rw [parse_of_isDigit hdigit] at h
    rw [List.cons_append, parse_of_isDigit hdigit, ← List.cons_append, hscan]
    obtain ⟨offset, hoffset, h⟩ := bind_eq_ok.1 h
    obtain ⟨n, hn, h⟩ := bind_eq_ok.1 h
    cases h
    simp only [hoffset, hn]
    rfl
  by_cases hdot : c = '.'
  · subst hdot
    exact hafter .cursor r h
  by_cases hdollar : c = '$'
  · subst hdollar
    exact hafter .last r h
  by_cases hplus : c = '+'
  · subst hplus
    exact hafter .cursor ('+' :: r) h
  by_cases hminus : c = '-'
  · subst hminus
    exact hafter .cursor ('-' :: r) h
  by_cases hquote : c = '\''
  · subst hquote
    rcases r with _ | ⟨m, r⟩
    · cases h
      exact absurd rfl hmark
    by_cases hm : isMarkName m = true
    · rw [parse_mark hm] at h
      rw [List.cons_append, List.cons_append, parse_mark hm]
      exact hafter _ r h
    · have hnone : parse ('\'' :: m :: r) = .ok (none, '\'' :: m :: r) := by
        unfold parse
        exact if_neg hm
      rw [hnone] at h
      cases h
      exact absurd rfl hmark
  · have hnone (r : Text) : parse (c :: r) = .ok (none, c :: r) := by
      simp [parse, hdigit, hdot, hdollar, hplus, hminus, hquote]
    rw [hnone] at h
    cases h
    exact hnone _

end Address

theorem Separator.eq_char_of_ofChar? {c : Char} {sep : Separator} (h : ofChar? c = some sep) :
    c = sep.char := by
  unfold ofChar? at h
  split at h
  · cases h
    assumption
  split at h
  · cases h
    assumption
  · cases h

namespace LineRange

variable {t more rest : Text} {range : Option LineRange}

theorem parse_eq_of_trimLeft {u : Text} (h : t.trimLeft = u.trimLeft) : parse t = parse u := by
  unfold parse
  rw [h]

/-- A separator without an address behind it means the cursor line, in front of a letter, a blank or
nothing. -/
theorem parse_of_separator {c : Char} {r between : Text} {start : Option Address} {sep : Separator}
    (hc : isBlank c = false) (hpercent : c ≠ '%')
    (hstart : Address.parse (c :: r) = .ok (start, sep.char :: between))
    (hstop : Address.parse between = .ok (none, rest))
    (hrest : ∀ d ∈ rest.head?, isLetter d = true ∨ isBlank d = true) :
    parse (c :: r) = .ok (some (.pair (start.getD .current) sep .current), rest) := by
  rw [parse, Text.trimLeft_cons_of_not_blank hc]
  split
  · rename_i h
    exact absurd (List.cons.inj h).1 hpercent
  · rw [hstart]
    simp only [bind, Except.bind, Separator.ofChar?_char, hstop]
    cases rest with
    | nil => rfl
    | cons d rest => obtain hd | hd := hrest d rfl <;> simp [hd] <;> rfl

/-- A word behind a text is left over with the rest of it, if that is blank or starts a word. -/
theorem parse_append (h : parse t = .ok (range, rest)) (hmore : StartsWord more)
    (hrest : rest.trimLeft = [] ∨ StartsWord rest.trimLeft) :
    parse (t ++ more) = .ok (range, rest ++ more) := by
  -- nothing that is left over could be a mark without its name
  have hmark : rest.head? ≠ some '\'' := by
    intro hhead
    obtain ⟨r, rfl⟩ := List.head?_eq_some_iff.1 hhead
    rw [Text.trimLeft_cons_of_not_blank (by decide)] at hrest
    obtain hrest | ⟨c, r', hrest, hc⟩ := hrest
    · cases hrest
    · cases hrest
      exact absurd hc (by decide)
  have happend := Text.trimLeft_append t more
  rcases Text.trimLeft_eq_nil_or t with htrim | ⟨c, r, htrim, hc⟩
  · rw [if_pos htrim] at happend
    rw [parse_eq_of_trimLeft (u := []) htrim] at h
    cases h
    rw [parse_eq_of_trimLeft happend]
    exact hmore.parse_eq_none
  rw [if_neg (by rw [htrim]; exact List.cons_ne_nil c r), htrim] at happend
  have hself : Text.trimLeft (c :: r) = c :: r := Text.trimLeft_cons_of_not_blank hc
  have hself' : Text.trimLeft (c :: r ++ more) = c :: r ++ more :=
    Text.trimLeft_cons_of_not_blank hc
  rw [parse_eq_of_trimLeft (htrim.trans hself.symm)] at h
  rw [parse_eq_of_trimLeft (happend.trans hself'.symm)]
  by_cases hpercent : c = '%'
  · subst hpercent
    cases h
    rfl
  rw [parse, hself] at h
  split at h
  · rename_i hcons
    exact absurd (List.cons.inj hcons).1 hpercent
  obtain ⟨⟨start, after⟩, hstart, h⟩ := bind_eq_ok.1 h
  dsimp only at h
  rcases after with _ | ⟨d, between⟩
  · cases h
    exact parse_of_address hc hpercent (Address.parse_append hstart hmore (by simp))
      hmore.ofChar?_eq_none
  cases hsep : Separator.ofChar? d with
  | none =>
    simp only [hsep] at h
    cases h
    refine parse_of_address hc hpercent (Address.parse_append hstart hmore hmark) fun e he => ?_
    cases he
    exact hsep
  | some sep =>
    obtain rfl := Separator.eq_char_of_ofChar? hsep
    simp only [hsep] at h
    obtain ⟨⟨stop, after⟩, hstop, h⟩ := bind_eq_ok.1 h
    have hstart' := Address.parse_append hstart hmore (by cases sep <;> simp [Separator.char])
    rcases stop with _ | stop
    · rcases after with _ | ⟨e, after⟩
      · cases h
        refine parse_of_separator hc hpercent hstart'
          (Address.parse_append hstop hmore (by simp)) fun e he => ?_
        obtain ⟨f, r', rfl, hf⟩ := hmore
        cases he
        exact Or.inl (isLetter_of_isAsciiLetter hf)
      · dsimp only at h
        split at h
        · cases h
        rename_i he
        cases h
        refine parse_of_separator hc hpercent hstart'
          (Address.parse_append hstop hmore hmark) fun f hf => ?_
        cases hf
        simpa [Classical.or_iff_not_imp_left] using he
    · cases h
      exact parse_of_addresses hc hpercent hstart' (Address.parse_append hstop hmore hmark)

/-! ## a line that ends in the beginning of a name -/

/-- A line is cut behind its range; where that is refused it is left whole, without its colons. -/
theorem splitFront_cases {text front : Text} (h : splitFront text = .ok (range, front, rest)) :
    parse (text.trimLeftOf ':') = .ok (range, rest) ∧ front ++ rest = text ∨
      (∃ f, parse (text.trimLeftOf ':') = .error f) ∧ front = [] ∧
        rest = text.trimLeftOf ':' := by
  unfold splitFront at h
  dsimp only at h
  split at h
  · rename_i range rest' hparse
    cases h
    have hsuffix := yields_parse (text.trimLeftOf ':')
    rw [hparse] at hsuffix
    obtain ⟨pre, hpre⟩ := List.IsSuffix.trans hsuffix (List.dropWhile_suffix _)
    have hlength : text.length - rest.length = pre.length := by
      rw [← hpre, List.length_append, Nat.add_sub_cancel]
    refine Or.inl ⟨hparse, ?_⟩
    rw [hlength, ← hpre, List.take_left]
  · rename_i f hparse
    split at h <;> cases h
    exact Or.inr ⟨⟨f, hparse⟩, rfl, rfl⟩

/-- What starts like a name has a range that can be read, and is cut there. -/
theorem append_of_splitFront {text front : Text} (h : splitFront text = .ok (range, front, rest))
    (hrest : rest.trimLeft = [] ∨ StartsWord rest.trimLeft) :
    parse (text.trimLeftOf ':') = .ok (range, rest) ∧ front ++ rest = text := by
  obtain hread | ⟨⟨f, hparse⟩, -, hbody⟩ := splitFront_cases h
  · exact hread
  rw [← hbody] at hparse
  obtain hrest | hrest := hrest
  · rw [parse_eq_of_trimLeft (u := []) hrest] at hparse
    cases hparse
  · rw [parse_eq_of_trimLeft (Text.trimLeft_trimLeft _).symm, hrest.parse_eq_none] at hparse
    cases hparse

/-- The colons in front of a text do not reach into the word behind it. -/
theorem trimLeftOf_append (t : Text) (h : StartsWord more) :
    Text.trimLeftOf ':' (t ++ more) = Text.trimLeftOf ':' t ++ more := by
  obtain ⟨c, r, rfl, hc⟩ := h
  have hcolon : (c == ':') = false := beq_eq_false_iff_ne.2 (ne_of_isAsciiLetter hc (by decide))
  unfold Text.trimLeftOf
  rw [List.dropWhile_append]
  split
  · rename_i ht
    rw [List.isEmpty_iff.1 ht, List.nil_append, List.dropWhile_cons, hcolon]
    rfl
  · rfl

end LineRange

namespace Table

variable {t : Table} {text rest : Text} {range : Option LineRange} {row : Row}

/-- Blanks are taken off a command line before its colons, and completion does not do that.  For a
line that goes on with a word it comes to the same. -/
theorem parse_commandText (h : LineRange.parse (text.trimLeftOf ':') = .ok (range, rest))
    (hrest : LineRange.StartsWord rest.trimLeft)
    (hlast : ∀ c ∈ text.getLast?, isBlank c = false) :
    LineRange.parse (commandText text) = .ok (range, rest) := by
  have hread : LineRange.parse (commandText text) =
      LineRange.parse (Text.trimLeftOf ':' (Text.trimLeft text)) := by
    rw [commandText, Text.trim_eq_trimLeft hlast]
    exact LineRange.parse_eq_of_trimLeft (Text.trimLeft_trimLeft _)
  rw [hread, ← h]
  rcases text with _ | ⟨d, text⟩
  · rfl
  cases hd : isBlank d with
  | false => rw [Text.trimLeft_cons_of_not_blank hd]
  | true =>
    have hkept : Text.trimLeftOf ':' (d :: text) = d :: text := by
      have hne : (d == ':') = false := by
        rw [beq_eq_false_iff_ne]
        rintro rfl
        exact absurd hd (by decide)
      rw [Text.trimLeftOf, List.dropWhile_cons, hne, if_neg Bool.false_ne_true]
    rw [hkept] at h ⊢
    rcases Text.trimLeft_eq_nil_or (d :: text) with htrim | ⟨c, r, htrim, hc⟩
    · rw [htrim]
      exact (LineRange.parse_eq_of_trimLeft htrim).symm
    by_cases hcolon : c = ':'
    · -- a colon behind blanks is read as part of the name
      subst hcolon
      have hcolon : LineRange.parse (d :: text) = .ok (none, ':' :: r) := by
        unfold LineRange.parse
        rw [htrim]
        rfl
      rw [hcolon] at h
      cases h
      obtain ⟨e, r', hword, he⟩ := hrest
      rw [Text.trimLeft_cons_of_not_blank hc] at hword
      cases hword
      exact absurd he (by decide)
    · have hkept : Text.trimLeftOf ':' (c :: r) = c :: r := by
        rw [Text.trimLeftOf, List.dropWhile_cons, beq_eq_false_iff_ne.2 hcolon,
          if_neg Bool.false_ne_true]
      rw [htrim, hkept, ← htrim]
      exact LineRange.parse_eq_of_trimLeft (Text.trimLeft_trimLeft _)

/-- What is offered is a name, and goes on from what was typed. -/
theorem mem_completions {typed name : Text} (h : name ∈ t.completions typed) :
    name ∈ t.rows.map (·.name) ∧ typed <+: name := by
  rw [completions, List.mem_mergeSort, List.mem_eraseDups, List.mem_filter] at h
  exact ⟨h.1, List.isPrefixOf_iff_prefix.1 h.2⟩

/-- A name finds a row of that name. -/
theorem find?_of_mem {name : Text} (h : name ∈ t.rows.map (·.name)) :
    ∃ row, t.find? name = some row ∧ row.name = name := by
  obtain ⟨row, hrow, rfl⟩ := List.mem_map.1 h
  cases hfind : t.rows.reverse.find? fun r => r.name == row.name with
  | none =>
    rw [List.find?_eq_none] at hfind
    exact absurd (beq_self_eq_true _) (hfind row (List.mem_reverse.2 hrow))
  | some found =>
    refine ⟨found, by rw [find?, hfind]; rfl, ?_⟩
    simpa using List.find?_some hfind

end Table

/-- How a line that calls a row with a range and nothing else is recognised. -/
def Row.recognised (row : Row) (raw : Text) (range : Option LineRange) : Table.Recognised :=
  if range.isSome && ! row.acceptsRange then .refused (.plain .noRangeAllowed)
  else .entry row ⟨row.name, false, [], raw⟩ range

namespace Table

variable {t : Table} {text rest : Text} {range : Option LineRange} {row : Row}

theorem parse_eq_build {line : Recognised} (h : t.recognise text = .ok line) :
    t.parse text = line.build := by
  rw [parse, h]
  rfl

/-- A call with a range and nothing else is refused for the range, or by the row itself. -/
theorem refused_of_build {e : CommandError}
    (h : (row.recognised text range).build = .ok (.refused e)) :
    e = .plain .noRangeAllowed ∨
      ∃ f, row.build ⟨row.name, false, [], text⟩ = .error f ∧ f.asCommandError? = some e := by
  unfold Row.recognised at h
  split at h
  · cases h
    exact Or.inl rfl
  · unfold Recognised.build at h
    dsimp only at h
    split at h
    · cases h
    · rename_i f hf
      split at h
      · cases h
        exact Or.inr ⟨f, hf, ‹_›⟩
      · cases h

theorem recogniseBody_of_name {name : Text} (hne : name ≠ [])
    (hletters : ∀ c ∈ name, isAsciiLetter c = true) (hfind : t.find? name = some row) (raw : Text)
    (range : Option LineRange) : t.recogniseBody raw range name = row.recognised raw range := by
  have htake : name.takeWhile isAsciiLetter = name := List.takeWhile_eq_self_iff.2 hletters
  simp only [recogniseBody, htake, if_neg hne, hfind, List.drop_length, Row.recognised]
  rfl

end Table

/-! ## completing a name -/

namespace InputBox

variable {t : Table} {s s' : Session} {text front rest shown : Text} {range : Option LineRange}
  {reverse : Bool}

/-- Without a space behind the name, names are offered. -/
theorem candidates_of_name (hfront : LineRange.splitFront text = .ok (range, front, rest))
    (hname : ' ' ∉ rest.trimLeft) (d : Disk) :
    candidates t d text = .ok (front.length + (rest.length - rest.trimLeft.length),
      t.completions rest.trimLeft) := by
  simp only [candidates, hfront, bind, Except.bind, Text.cut_of_not_mem hname]
  rfl

/-- The first time the key is pressed, completion starts at the first candidate, or at the last one
when going backwards. -/
theorem runFrom_complete_of_items (reverse : Bool) (hs : s.completion.isActive = false)
    {position : Nat} {items : List Text}
    (hitems : candidates t s.editor.disk text = .ok (position, items)) (hne : items ≠ []) :
    let c : Completion := ⟨if reverse then items.length - 1 else 0, items, position, text⟩
    runFrom (complete t text reverse) s = (.ok (InputBox.shown c),
      { s with
        lastKey := if reverse then "<S-Tab>".toList else "<Tab>".toList
        completion := c }) := by
  simp only [complete, runFrom_bind, runFrom_modify, runFrom_get, hs, Bool.false_eq_true, if_false,
    runFrom_ofExcept, hitems, List.isEmpty_iff, if_neg hne, runFrom_set, runFrom_pure]

/-- The first time the key is pressed, the first candidate is shown, or the last one when going
backwards. -/
theorem runFrom_complete_of_first (hs : s.completion.isActive = false) {position : Nat}
    {items : List Text} {c : Text}
    (hitems : candidates t s.editor.disk text = .ok (position, items))
    (hc : (if reverse then items.getLast? else items.head?) = some c) :
    runFrom (complete t text reverse) s = (.ok (text.take position ++ c),
      { s with
        lastKey := if reverse then "<S-Tab>".toList else "<Tab>".toList
        completion := ⟨if reverse then items.length - 1 else 0, items, position, text⟩ }) := by
  have hne : items ≠ [] := by
    rintro rfl
    cases reverse <;> cases hc
  have hindex : items[if reverse then items.length - 1 else 0]? = some c := by
    rw [← hc]
    cases reverse
    · exact List.head?_eq_getElem?.symm
    · exact List.getLast?_eq_getElem?.symm
  rw [runFrom_complete_of_items reverse hs hitems hne]
  simp only [InputBox.shown, hindex, Option.getD_some]

/-- The first time the key is pressed, a candidate is shown, if there is one. -/
theorem runFrom_complete_of_inactive (reverse : Bool) (hs : s.completion.isActive = false)
    {position : Nat} {items : List Text}
    (hitems : candidates t s.editor.disk text = .ok (position, items)) (hne : items ≠ []) :
    ∃ c ∈ items, ∃ index, runFrom (complete t text reverse) s = (.ok (text.take position ++ c),
      { s with
        lastKey := if reverse then "<S-Tab>".toList else "<Tab>".toList
        completion := ⟨index, items, position, text⟩ }) := by
  obtain ⟨c, hmem, hc⟩ :
      ∃ c ∈ items, (if reverse then items.getLast? else items.head?) = some c := by
    cases reverse
    · exact ⟨_, List.head_mem hne, List.head?_eq_some_head hne⟩
    · exact ⟨_, List.getLast_mem hne, List.getLast?_eq_some_getLast hne⟩
  exact ⟨c, hmem, _, runFrom_complete_of_first hs hitems hc⟩

/-- Without candidates the text stays as it is, and nothing is shown. -/
theorem runFrom_complete_of_nothing (hs : s.completion.isActive = false) {position : Nat}
    (hitems : candidates t s.editor.disk text = .ok (position, [])) :
    runFrom (complete t text reverse) s = (.ok text,
      { s with lastKey := if reverse then "<S-Tab>".toList else "<Tab>".toList }) := by
  simp only [complete, runFrom_bind, runFrom_modify, runFrom_get, hs, Bool.false_eq_true, if_false,
    runFrom_ofExcept, hitems, List.isEmpty_nil, if_true, runFrom_pure]

/-- The name stands behind the range and the blanks after it. -/
theorem take_drop_start (h : front ++ rest = text) :
    let start := front.length + (rest.length - rest.trimLeft.length)
    text.take start = front ++ rest.takeWhile isBlank ∧ text.drop start = rest.trimLeft := by
  intro start
  have hsplit : text = (front ++ rest.takeWhile isBlank) ++ rest.trimLeft := by
    rw [List.append_assoc, Text.takeWhile_append_trimLeft, h]
  have hstart : (front ++ rest.takeWhile isBlank).length = start := by
    have hlength := congrArg List.length (Text.takeWhile_append_trimLeft rest)
    rw [List.length_append] at hlength ⊢
    omega
  rw [hsplit, ← hstart]
  exact ⟨List.take_left, List.drop_left⟩

/-- A line in which a name was completed is read as a call of the row of that name, with the range
that was there before. -/
theorem recognise_of_name (hfront : LineRange.splitFront text = .ok (range, front, rest))
    {name : Text} (hname : rest.trimLeft <+: name) (hne : name ≠ [])
    (hletters : ∀ c ∈ name, isAsciiLetter c = true) {row : Row} (hfind : t.find? name = some row) :
    let position := front.length + (rest.length - rest.trimLeft.length)
    text.drop position = rest.trimLeft ∧
      t.recognise (text.take position ++ name) =
        .ok (row.recognised (text.take position ++ name) range) := by
  intro position
  obtain ⟨more, rfl⟩ := hname
  have hword {u : Text} (hu : u ≠ []) (hmem : ∀ c ∈ u, c ∈ rest.trimLeft ++ more) :
      LineRange.StartsWord u := by
    obtain ⟨c, r, rfl⟩ := List.exists_cons_of_ne_nil hu
    exact ⟨c, r, rfl, hletters c (hmem c List.mem_cons_self)⟩
  have hrest : rest.trimLeft = [] ∨ LineRange.StartsWord rest.trimLeft := by
    by_cases hnil : rest.trimLeft = []
    · exact Or.inl hnil
    · exact Or.inr (hword hnil fun c hc => List.mem_append_left _ hc)
  obtain ⟨hparse, htext⟩ := LineRange.append_of_splitFront hfront hrest
  obtain ⟨-, hdrop⟩ := take_drop_start htext
  refine ⟨hdrop, ?_⟩
  -- so that completing it puts the rest of the name behind the line
  have hshown : text.take position ++ (rest.trimLeft ++ more) = text ++ more := by
    rw [← hdrop, ← List.append_assoc, List.take_append_drop]
  have hread : LineRange.parse ((text ++ more).trimLeftOf ':') = .ok (range, rest ++ more) := by
    by_cases hmore : more = []
    · rw [hmore, List.append_nil, List.append_nil]
      exact hparse
    · have hmore := hword hmore fun c hc => List.mem_append_right _ hc
      rw [LineRange.trimLeftOf_append text hmore]
      exact LineRange.parse_append hparse hmore hrest
  have htrim : Text.trimLeft (rest ++ more) = rest.trimLeft ++ more := by
    rw [Text.trimLeft_append]
    split
    · rename_i hnil
      rw [hnil, List.nil_append] at hne hletters ⊢
      exact (hword hne fun c hc => by rwa [hnil]).trimLeft
    · rfl
  have hlast : ∀ c ∈ (text ++ more).getLast?, isBlank c = false := by
    intro c hc
    rw [← hshown, List.getLast?_append, List.getLast?_eq_some_getLast hne, Option.some_or] at hc
    cases hc
    exact isBlank_of_isAsciiLetter (hletters _ (List.getLast_mem hne))
  have hstarts : LineRange.StartsWord (Text.trimLeft (rest ++ more)) := by
    rw [htrim]
    exact hword hne fun c hc => hc
  rw [hshown]
  unfold Table.recognise
  rw [Table.parse_commandText hread hstarts hlast]
  dsimp only
  rw [htrim, Table.recogniseBody_of_name hne hletters hfind]

/-- What completion offers for a name is accepted: when a name is completed, for whatever range and
however incomplete that is, the text up to the name stays, a name of the table goes on from what was
typed, and the line is read as a call of the row of exactly that name, with the range that
completion found.  The range may be one more than the row accepts, and the row may refuse the call;
that the range is refused, or that there is no such command, only the row itself can say. -/
theorem completed_accepted
    (ht : ∀ row ∈ t.rows, row.name ≠ [] ∧ ∀ c ∈ row.name, isAsciiLetter c = true)
    (hs : s.completion.isActive = false)
    (hfront : LineRange.splitFront text = .ok (range, front, rest)) (hname : ' ' ∉ rest.trimLeft)
    (hrun : runFrom (complete t text reverse) s = (.ok shown, s'))
    (hdone : s'.completion.isActive = true) :
    let position := s'.completion.position
    ∃ name row, shown = text.take position ++ name ∧ text.drop position <+: name ∧
      name ∈ t.rows.map (·.name) ∧ t.find? name = some row ∧ row.name = name ∧
      t.recognise shown = .ok (row.recognised shown range) ∧
      t.parse shown = (row.recognised shown range).build ∧
      ∀ e, t.parse shown = .ok (.refused e) →
        e.code = .invalidAddress ∨ e.code = .notAnEditorCommand →
        ∃ f, row.build ⟨name, false, [], shown⟩ = .error f ∧ f.asCommandError? = some e := by
  have hitems := candidates_of_name (t := t) hfront hname s.editor.disk
  by_cases hne : t.completions rest.trimLeft = []
  · rw [hne] at hitems
    rw [runFrom_complete_of_nothing hs hitems] at hrun
    cases hrun
    rw [show s.completion.isActive = true from hdone] at hs
    cases hs
  obtain ⟨name, hmem, index, hcomplete⟩ :=
    runFrom_complete_of_inactive reverse hs hitems hne
  rw [hcomplete] at hrun
  cases hrun
  obtain ⟨hnames, hprefix⟩ := Table.mem_completions hmem
  obtain ⟨row, hfind, hrow⟩ := Table.find?_of_mem hnames
  obtain ⟨hnil, hletters⟩ := ht row (Table.mem_of_find? hfind)
  rw [hrow] at hnil hletters
  obtain ⟨hdrop, hrecognise⟩ := recognise_of_name hfront hprefix hnil hletters hfind
  have hparse := Table.parse_eq_build hrecognise
  refine ⟨name, row, rfl, ?_, hnames, hfind, hrow, hrecognise, hparse, ?_⟩
  · show text.drop (front.length + (rest.length - rest.trimLeft.length)) <+: name
    rw [hdrop]
    exact hprefix
  intro e he hcode
  rw [hparse] at he
  obtain rfl | hf := Table.refused_of_build he
  · obtain hcode | hcode := hcode <;> cases hcode
  · exact hrow ▸ hf

/-- Behind a range that lacks its second address, the only name is completed backwards. -/
theorem completed_accepted_partial :
    let t := Table.ofExtra [] []
    let s := Session.start
      ⟨Buffer.ofText "a\nb".toList none, Registers.empty, ⟨[], [], [], [], .standard⟩⟩
      (.new (.memory []))
    let text := "::'a-2; su".toList
    let range := some (LineRange.pair ⟨.mark 'a', -2⟩ .semicolon .current)
    ∃ shown s', runFrom (complete t text true) s = (.ok shown, s') ∧
      shown = "::'a-2; substitute".toList ∧
      ∃ row : Row, row.name = "substitute".toList ∧
        t.recognise shown = .ok (row.recognised shown range) := by
  intro t s text range
  have ht : ∀ row ∈ t.rows, row.name ≠ [] ∧ ∀ c ∈ row.name, isAsciiLetter c = true := by
    have h : t.rows.all fun row => row.name ≠ [] && row.name.all isAsciiLetter := by decide +kernel
    intro row hrow
    have hrow := List.all_eq_true.1 h row hrow
    simpa using hrow
  have hfront : LineRange.splitFront text = .ok (range, "::'a-2;".toList, " su".toList) := by
    decide +kernel
  have hshown : (runFrom (complete t text true) s).1 = .ok "::'a-2; substitute".toList := by
    decide +kernel
  have hdone : (runFrom (complete t text true) s).2.completion.isActive = true := by decide +kernel
  have hposition : (runFrom (complete t text true) s).2.completion.position = 8 := by
    decide +kernel
  have hrun : runFrom (complete t text true) s =
      (.ok "::'a-2; substitute".toList, (runFrom (complete t text true) s).2) :=
    Prod.ext hshown rfl
  obtain ⟨name, row, hname, -, -, -, hrow, hrecognise, -⟩ :=
    completed_accepted ht rfl hfront (by decide +kernel) hrun hdone
  rw [hposition] at hname
  obtain rfl : "substitute".toList = name :=
    List.append_cancel_left (show "::'a-2; ".toList ++ _ = "::'a-2; ".toList ++ _ from hname)
  exact ⟨_, _, hrun, rfl, row, hrow, hrecognise⟩

/-- A row can say itself that there is no such command. -/
theorem completed_refused :
    let row : Row := ⟨"frobnicate".toList, "fro".toList, true, false, true, false, .extra,
      fun _ => .error (.command ⟨.notAnEditorCommand, "frobnicate".toList⟩)⟩
    let t := Table.ofExtra [] [row]
    let s := Session.start ⟨Buffer.ofText [] none, Registers.empty, ⟨[], [], [], [], .standard⟩⟩
      (.new (.memory []))
    (∀ row ∈ t.rows, row.name ≠ [] ∧ ∀ c ∈ row.name, isAsciiLetter c = true) ∧
    s.completion.isActive = false ∧
    (runFrom (complete t "fr".toList false) s).1 = .ok "frobnicate".toList ∧
    t.parse "frobnicate".toList =
      .ok (.refused ⟨.notAnEditorCommand, "frobnicate".toList⟩) := by
  intro row t s
  refine ⟨?_, rfl, by decide +kernel, rfl⟩
  have h : t.rows.all fun row => row.name ≠ [] && row.name.all isAsciiLetter := by decide +kernel
  intro row hrow
  simpa using List.all_eq_true.1 h row hrow

end InputBox

end ExMode
