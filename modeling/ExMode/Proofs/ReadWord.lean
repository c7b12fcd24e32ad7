import ExMode.Proofs.Completion

/-!
# ExMode.Proofs.ReadWord

The word that the command line reads is the word that completion completes.

Both cut the range off the front of a line, but the command line first takes off
blanks and then colons, while completion takes off colons only and leaves the
blanks to the reader of ranges.  That comes to the same unless blanks stand in
front of a colon: then completion takes the colon for the beginning of the name.

* `Table.parse_commandText_of_not_hidesColon` — where the two read the same;
* `InputBox.splitFront_of_readsWord` — the range and the word that completion finds;
* `InputBox.candidates_of_hidesColon` — behind blanks and a colon nothing is offered;
* `InputBox.completes_read_word` — both cases, up to what the first press of the key shows.
-/

namespace ExMode

/-- Whether a colon stands in front of a text, but behind blanks. -/
def Text.HidesColon (t : Text) : Prop := t.head? ≠ some ':' ∧ t.trimLeft.head? = some ':'

namespace Text

instance (t : Text) : Decidable t.HidesColon := inferInstanceAs (Decidable (_ ∧ _))

theorem trimLeftOf_of_head?_ne {c : Char} {t : Text} (h : t.head? ≠ some c) :
    t.trimLeftOf c = t := by
  rcases t with _ | ⟨d, r⟩
  · rfl
  · have hd : d ≠ c := fun hd => h (congrArg some hd)
    rw [trimLeftOf, List.dropWhile_cons, beq_eq_false_iff_ne.2 hd, if_neg Bool.false_ne_true]

theorem trimLeft_of_colon {t : Text} (h : t.head? = some ':') : t.trimLeft = t := by
  obtain ⟨r, rfl⟩ := List.head?_eq_some_iff.1 h
  exact trimLeft_cons_of_not_blank (by decide)

/-- Taking off characters at the end leaves a different one in front of them. -/
theorem trimRightOf_cons_of_ne {c d : Char} (h : d ≠ c) (r : Text) :
    trimRightOf c (d :: r) = d :: trimRightOf c r := by
  unfold trimRightOf
  rw [List.reverse_cons, List.dropWhile_append]
  split
  · rename_i hnil
    simp [List.isEmpty_iff.1 hnil, h]
  · simp

end Text

namespace Table

variable {t : Table} {text word : Text} {range : Option LineRange}

/-- The command line reads a range, if there is one, and behind it a word, with which the text
ends. -/
structure ReadsWord (text : Text) (range : Option LineRange) (word : Text) : Prop where
  parse : ∃ rest, LineRange.parse (commandText text) = .ok (range, rest) ∧ rest.trimLeft = word
  ne_nil : word ≠ []
  letters : ∀ c ∈ word, isAsciiLetter c = true
  suffix : word <:+ text

namespace ReadsWord

theorem startsWord (h : ReadsWord text range word) : LineRange.StartsWord word := by
  obtain ⟨c, r, rfl⟩ := List.exists_cons_of_ne_nil h.ne_nil
  exact ⟨c, r, rfl, h.letters c List.mem_cons_self⟩

theorem not_isBlank_of_getLast? (h : ReadsWord text range word) :
    ∀ c ∈ text.getLast?, isBlank c = false := by
  obtain ⟨front, rfl⟩ := h.suffix
  intro c hc
  rw [List.getLast?_append, List.getLast?_eq_some_getLast h.ne_nil, Option.some_or] at hc
  cases hc
  exact isBlank_of_isAsciiLetter (h.letters _ (List.getLast_mem h.ne_nil))

/-- The word is what the command line looks up. -/
theorem recognise (h : ReadsWord text range word) (t : Table) :
    t.recognise text = .ok (t.recogniseBody text range word) := by
  obtain ⟨rest, hparse, rfl⟩ := h.parse
  rw [Table.recognise, hparse]

end ReadsWord

/-- Without a colon behind blanks it does not matter whether the blanks are taken off first. -/
theorem parse_commandText_of_not_hidesColon (h : ¬ text.HidesColon)
    (hlast : ∀ c ∈ text.getLast?, isBlank c = false) :
    LineRange.parse (commandText text) = LineRange.parse (text.trimLeftOf ':') := by
  refine LineRange.parse_eq_of_trimLeft ?_
  rw [commandText, Text.trim_eq_trimLeft hlast, Text.trimLeft_trimLeft]
  by_cases hcolon : text.head? = some ':'
  · rw [Text.trimLeft_of_colon hcolon]
  · have htrim : text.trimLeft.head? ≠ some ':' := fun htrim => h ⟨hcolon, htrim⟩
    rw [Text.trimLeftOf_of_head?_ne hcolon, Text.trimLeftOf_of_head?_ne htrim,
      Text.trimLeft_trimLeft]

/-- A word finds only rows of its own first letter. -/
theorem head?_name_of_find? {c : Char} {typed : Text} {row : Row}
    (h : t.find? (c :: typed) = some row) : row.name.head? = some c := by
  rw [find?, Option.or_eq_some_iff] at h
  obtain h | ⟨-, h⟩ := h
  · rw [show row.name = c :: typed by simpa using List.find?_some h]
    rfl
  · have hprefix : c :: typed <+: row.name := by
      have := List.find?_some h
      exact List.isPrefixOf_iff_prefix.1 (Bool.and_eq_true_iff.1 this).2
    obtain ⟨r, hr⟩ := hprefix
    rw [← hr]
    rfl

/-- Only names of its own first letter are offered for a text. -/
theorem completions_eq_nil {c : Char} (h : ∀ row ∈ t.rows, row.name.head? ≠ some c)
    (typed : Text) : t.completions (c :: typed) = [] := by
  refine List.eq_nil_iff_forall_not_mem.2 fun name hname => ?_
  obtain ⟨hmem, r, hr⟩ := mem_completions hname
  obtain ⟨row, hrow, rfl⟩ := List.mem_map.1 hmem
  refine h row hrow ?_
  rw [← hr]
  rfl

end Table

namespace InputBox

open Table (ReadsWord)

variable {t : Table} {s : Session} {text word : Text} {range : Option LineRange} {reverse : Bool}

/-- Completion finds the range and the word that the command line reads. -/
theorem splitFront_of_readsWord (h : ReadsWord text range word) (hcolon : ¬ text.HidesColon) :
    ∃ front rest, LineRange.splitFront text = .ok (range, front, rest) ∧ rest.trimLeft = word ∧
      front.length + (rest.length - word.length) = text.length - word.length := by
  obtain ⟨rest, hparse, hword⟩ := h.parse
  rw [Table.parse_commandText_of_not_hidesColon hcolon h.not_isBlank_of_getLast?] at hparse
  have hfront : LineRange.splitFront text =
      .ok (range, text.take (text.length - rest.length), rest) := by
    simp only [LineRange.splitFront, hparse]
  obtain ⟨-, htext⟩ := LineRange.append_of_splitFront hfront (.inr (hword ▸ h.startsWord))
  refine ⟨_, rest, hfront, hword, ?_⟩
  have hlength := congrArg List.length htext
  rw [List.length_append] at hlength
  have hle : word.length ≤ rest.length := hword ▸ Text.length_trimLeft_le rest
  omega

theorem not_mem_of_letters (h : ReadsWord text range word) : ' ' ∉ word := fun hmem =>
  absurd (h.letters _ hmem) (by decide)

/-- What completion offers for the word that the command line reads. -/
theorem candidates_of_readsWord (h : ReadsWord text range word) (hcolon : ¬ text.HidesColon)
    (d : Disk) : candidates t d text = .ok (text.length - word.length, t.completions word) := by
  obtain ⟨front, rest, hfront, hword, hposition⟩ := splitFront_of_readsWord h hcolon
  have hspace : ' ' ∉ rest.trimLeft := hword ▸ not_mem_of_letters h
  rw [candidates_of_name hfront hspace, hword, hposition]

/-- A colon behind blanks is left over by the reader of ranges. -/
theorem splitFront_of_hidesColon (h : text.HidesColon) :
    ∃ front, LineRange.splitFront text = .ok (none, front, text.trimLeft) ∧
      front.length = text.length - text.trimLeft.length := by
  obtain ⟨r, hr⟩ := List.head?_eq_some_iff.1 h.2
  have hparse : LineRange.parse text = .ok (none, text.trimLeft) := by
    unfold LineRange.parse
    rw [hr]
    rfl
  refine ⟨text.take (text.length - text.trimLeft.length), ?_, by simp⟩
  simp only [LineRange.splitFront, Text.trimLeftOf_of_head?_ne h.1, hparse]

/-- Nothing is offered for a word that no name starts like. -/
theorem candidates_of_no_name {front rest r : Text} {c : Char}
    (hfront : LineRange.splitFront text = .ok (range, front, rest)) (hword : rest.trimLeft = c :: r)
    (hspace : c ≠ ' ') (hbang : c ≠ '!') (ht : ∀ row ∈ t.rows, row.name.head? ≠ some c)
    (d : Disk) :
    candidates t d text = .ok (front.length + (rest.length - rest.trimLeft.length), []) := by
  have hcut : Text.cut ' ' (c :: r) = (c :: (Text.cut ' ' r).1, (Text.cut ' ' r).2) :=
    if_neg hspace
  rw [hword]
  simp only [candidates, hfront, bind, Except.bind, hword, hcut]
  cases (Text.cut ' ' r).2 with
  | none => exact congrArg (fun items => Except.ok (_, items)) (Table.completions_eq_nil ht _)
  | some argument =>
    dsimp only
    rw [Text.trimRightOf_cons_of_ne hbang]
    cases hfind : t.find? (c :: Text.trimRightOf '!' (Text.cut ' ' r).1) with
    | none => rfl
    | some row =>
      exact absurd (Table.head?_name_of_find? hfind) (ht row (Table.mem_of_find? hfind))

/-- Behind blanks and a colon nothing is offered, unless names start with a colon. -/
theorem candidates_of_hidesColon (h : text.HidesColon)
    (ht : ∀ row ∈ t.rows, row.name.head? ≠ some ':') (d : Disk) :
    candidates t d text = .ok (text.length - text.trimLeft.length, []) := by
  obtain ⟨front, hfront, hlength⟩ := splitFront_of_hidesColon h
  obtain ⟨r, hr⟩ := List.head?_eq_some_iff.1 h.2
  have hword : text.trimLeft.trimLeft = ':' :: r := by rw [Text.trimLeft_trimLeft, hr]
  rw [candidates_of_no_name hfront hword (by decide) (by decide) ht, hlength,
    Text.trimLeft_trimLeft, Nat.sub_self, Nat.add_zero]

/-- Completion completes the word that the command line reads.  When the command line reads a range
and then a word with which the text ends, completion finds the same range, starts at the word and
offers just the names that go on from it, and pressing the key for the first time shows one of
them; only where a colon stands behind blanks at the front of the text it finds neither the range
nor the word, and offers nothing. -/
theorem completes_read_word (h : ReadsWord text range word) (t : Table) :
    t.recognise text = .ok (t.recogniseBody text range word) ∧
    (¬ text.HidesColon →
      let position := text.length - word.length
      let items := t.completions word
      text.drop position = word ∧
      (∃ front rest, LineRange.splitFront text = .ok (range, front, rest) ∧
        rest.trimLeft = word) ∧
      ∀ (s : Session) (reverse : Bool), s.completion.isActive = false →
        let key := if reverse then "<S-Tab>".toList else "<Tab>".toList
        candidates t s.editor.disk text = .ok (position, items) ∧
        (items = [] → runFrom (complete t text reverse) s = (.ok text, { s with lastKey := key })) ∧
        (items ≠ [] → ∃ c ∈ items, ∃ index, runFrom (complete t text reverse) s =
          (.ok (text.take position ++ c),
            { s with lastKey := key, completion := ⟨index, items, position, text⟩ }))) ∧
    (text.HidesColon → (∀ row ∈ t.rows, row.name.head? ≠ some ':') →
      (∃ front, LineRange.splitFront text = .ok (none, front, text.trimLeft)) ∧
      ∀ (s : Session) (reverse : Bool), s.completion.isActive = false →
        let key := if reverse then "<S-Tab>".toList else "<Tab>".toList
        candidates t s.editor.disk text = .ok (text.length - text.trimLeft.length, []) ∧
        runFrom (complete t text reverse) s = (.ok text, { s with lastKey := key })) := by
  refine ⟨h.recognise t, fun hcolon => ?_, fun hcolon ht => ?_⟩
  · obtain ⟨front, rest, hfront, hword, -⟩ := splitFront_of_readsWord h hcolon
    refine ⟨List.suffix_iff_eq_drop.1 h.suffix |>.symm, ⟨front, rest, hfront, hword⟩,
      fun s reverse hs => ?_⟩
    have hitems := candidates_of_readsWord (t := t) h hcolon s.editor.disk
    refine ⟨hitems, fun hnil => ?_, fun hne => runFrom_complete_of_inactive reverse hs hitems hne⟩
    rw [hnil] at hitems
    exact runFrom_complete_of_nothing hs hitems
  · obtain ⟨front, hfront, -⟩ := splitFront_of_hidesColon hcolon
    refine ⟨⟨front, hfront⟩, fun s reverse hs => ?_⟩
    have hitems := candidates_of_hidesColon hcolon ht s.editor.disk
    exact ⟨hitems, runFrom_complete_of_nothing hs hitems⟩

/-- Blanks around a range and colons in front of it. -/
theorem completes_read_word_ranged :
    let t := Table.ofExtra [] []
    let s := Session.start ⟨Buffer.ofText [] none, Registers.empty, ⟨[], [], [], [], .standard⟩⟩
      (.new (.memory []))
    let text := ":: 'a-2,$ p".toList
    let range := some (LineRange.pair ⟨.mark 'a', -2⟩ .comma ⟨.last, 0⟩)
    ReadsWord text range ['p'] ∧
      candidates t s.editor.disk text = .ok (10, ["print".toList]) := by
  intro t s text range
  have h : ReadsWord text range ['p'] :=
    ⟨⟨" p".toList, by decide +kernel, rfl⟩, by decide, List.all_eq_true.1 rfl, by decide +kernel⟩
  obtain ⟨-, hseen, -⟩ := completes_read_word h t
  obtain ⟨-, -, hpress⟩ := hseen (by decide +kernel)
  obtain ⟨hitems, -⟩ := hpress s false rfl
  exact ⟨h, hitems.trans (by decide +kernel)⟩

/-- A blank in front of the colon hides the command from completion, but not from the command
line. -/
theorem completes_read_word_hidden :
    let t := Table.ofExtra [] []
    let s := Session.start ⟨Buffer.ofText [] none, Registers.empty, ⟨[], [], [], [], .standard⟩⟩
      (.new (.memory []))
    let text := " :p".toList
    ReadsWord text none ['p'] ∧
      candidates t s.editor.disk text = .ok (1, []) ∧
      (runFrom (complete t text false) s).1 = .ok text ∧
      t.completions ['p'] = ["print".toList] := by
  intro t s text
  exact ⟨⟨⟨['p'], by decide +kernel, rfl⟩, by decide, List.all_eq_true.1 rfl, by decide +kernel⟩,
    by decide +kernel, by decide +kernel, by decide +kernel⟩

end InputBox

end ExMode
