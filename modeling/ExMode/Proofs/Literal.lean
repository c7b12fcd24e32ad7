import ExMode.Proofs.Rewriting

/-!
# ExMode.Proofs.Literal

Substituting one text for another, as it stands.  From the command line to the lines a pattern is
cut out as a field, spelt anew and read, and a replacement is cut out, spelt as a template and read.
Each of these readers has special characters of its own, which lose their meaning behind a
backslash; a text with the right backslashes in it passes them all unchanged.

Where a text occurs in another is found from the left, and what is found does not overlap.

* `Text.parts` — the parts of a text around the occurrences of another;
* `Pattern.matchesFrom_literal` — a literal pattern matches where its text occurs;
* `Magic.fieldsFrom_escaped`, `Magic.searchText_escaped`, `Magic.pieces_escaped`,
  `Pattern.ofTextIn_escaped` — what the readers make of a text with backslashes;
* `Command.literal_replaced` — so every occurrence is replaced.
-/

namespace ExMode

/-! ## occurrences of a text -/

namespace Text

/-- The parts of a text around the occurrences of `p`, which are looked for from the left; as many
characters as are to be skipped belong to the one that was found last. -/
def partsFrom (p : Text) : Nat → Text → List Text
  | _, [] => [[]]
  | skip + 1, _ :: t => partsFrom p skip t
  | 0, c :: t =>
    if p <+: c :: t then [] :: partsFrom p (p.length - 1) t
    else Magic.consField [c] (partsFrom p 0 t)

/-- The parts of a text around the occurrences of another. -/
def parts (p t : Text) : List Text := partsFrom p 0 t

/-- How often a text occurs in another, not counting what overlaps with an occurrence further
left. -/
def occurrences (p t : Text) : Nat := (parts p t).length - 1

/-- A text with `r` in the place of every occurrence of `p`. -/
def replaceAll (p r t : Text) : Text := joinWith r (parts p t)

variable {p : Text}

theorem partsFrom_eq (p : Text) (skip : Nat) (t : Text) :
    partsFrom p skip t = parts p (t.drop skip) := by
  induction skip generalizing t with
  | zero => rfl
  | succ skip ih =>
    cases t with
    | nil => rfl
    | cons c t => exact ih t

theorem parts_found (hp : p ≠ []) (t : Text) : parts p (p ++ t) = [] :: parts p t := by
  obtain ⟨c, q, rfl⟩ := List.exists_cons_of_ne_nil hp
  have hhit : parts (c :: q) (c :: q ++ t) = [] :: partsFrom (c :: q) q.length (q ++ t) :=
    if_pos (List.prefix_append _ _)
  rw [hhit, partsFrom_eq, List.drop_left]

theorem parts_missed {c : Char} {t : Text} (h : ¬ p <+: c :: t) :
    parts p (c :: t) = Magic.consField [c] (parts p t) :=
  if_neg h

/-- A text is taken apart from the left: it starts with an occurrence, or its first character
belongs to none. -/
theorem induction_on_occurrences (hp : p ≠ []) {motive : Text → Prop} (nil : motive [])
    (found : ∀ t, motive t → motive (p ++ t))
    (missed : ∀ c t, ¬ p <+: c :: t → motive t → motive (c :: t)) (t : Text) : motive t := by
  induction hn : t.length using Nat.strongRecOn generalizing t with
  | ind n ih =>
    subst hn
    cases t with
    | nil => exact nil
    | cons c t =>
      by_cases h : p <+: c :: t
      · obtain ⟨rest, hrest⟩ := h
        rw [← hrest]
        refine found rest (ih _ ?_ rest rfl)
        have hlength := congrArg List.length hrest
        have hpos := List.length_pos_iff.2 hp
        rw [List.length_append] at hlength
        omega
      · exact missed c t h (ih _ (Nat.lt_succ_self _) t rfl)

theorem joinWith_consField (sep t : Text) {fs : List Text} (h : fs ≠ []) :
    joinWith sep (Magic.consField t fs) = t ++ joinWith sep fs := by
  obtain ⟨f, fs, rfl⟩ := List.exists_cons_of_ne_nil h
  cases fs with
  | nil => rfl
  | cons g fs => simp [Magic.consField, joinWith]

theorem parts_ne_nil (hp : p ≠ []) (t : Text) : parts p t ≠ [] := by
  induction t using induction_on_occurrences hp with
  | nil => exact List.cons_ne_nil _ _
  | found t _ => exact parts_found hp t ▸ List.cons_ne_nil _ _
  | missed c t h ih =>
    obtain ⟨f, fs, hfs⟩ := List.exists_cons_of_ne_nil ih
    rw [parts_missed h, hfs]
    exact List.cons_ne_nil _ _

theorem occurrences_found (hp : p ≠ []) (t : Text) :
    occurrences p (p ++ t) = occurrences p t + 1 := by
  have hpos := List.length_pos_iff.2 (parts_ne_nil hp t)
  rw [occurrences, occurrences, parts_found hp, List.length_cons]
  omega

theorem occurrences_missed (hp : p ≠ []) {c : Char} {t : Text} (h : ¬ p <+: c :: t) :
    occurrences p (c :: t) = occurrences p t := by
  obtain ⟨f, fs, hfs⟩ := List.exists_cons_of_ne_nil (parts_ne_nil hp t)
  rw [occurrences, occurrences, parts_missed h, hfs]
  rfl

theorem replaceAll_found (hp : p ≠ []) (r t : Text) :
    replaceAll p r (p ++ t) = r ++ replaceAll p r t := by
  obtain ⟨f, fs, hfs⟩ := List.exists_cons_of_ne_nil (parts_ne_nil hp t)
  rw [replaceAll, replaceAll, parts_found hp, hfs]
  rfl

theorem replaceAll_missed (hp : p ≠ []) {c : Char} {t : Text} (h : ¬ p <+: c :: t) (r : Text) :
    replaceAll p r (c :: t) = c :: replaceAll p r t := by
  rw [replaceAll, parts_missed h, joinWith_consField _ _ (parts_ne_nil hp t)]
  rfl

example : replaceAll "aa".toList "b".toList "aaaca".toList = "baca".toList := by decide

/-- A character of the new text is in the replacement or was there before. -/
theorem mem_replaceAll (hp : p ≠ []) {r t : Text} {c : Char} (h : c ∈ replaceAll p r t) :
    c ∈ r ∨ c ∈ t := by
  induction t using induction_on_occurrences hp with
  | nil => exact Or.inr h
  | found t ih =>
    rw [replaceAll_found hp] at h
    obtain h | h := List.mem_append.1 h
    · exact Or.inl h
    · exact (ih h).imp_right (List.mem_append_right p)
  | missed d t hd ih =>
    rw [replaceAll_missed hp hd] at h
    obtain rfl | h := List.mem_cons.1 h
    · exact Or.inr List.mem_cons_self
    · exact (ih h).imp_right (List.mem_cons_of_mem d)

end Text

/-! ## matching a text literally -/

namespace Pattern

/-- The pattern that tests for a character. -/
def ofChar (c : Char) : Pattern := .test .plain (.code c.toNat false)

/-- The pattern that tests for the characters of a text, one after the other. -/
def literal (p : Text) : Pattern := sequence (p.map ofChar)

theorem run_ofChar (c : Char) (s : Place) (k : Rest) :
    (ofChar c).run s k =
      match s.after with
      | [] => none
      | d :: r => if c = d then k { s with before := d :: s.before, after := r } else none := by
  obtain ⟨before, after, groups⟩ := s
  cases after with
  | nil => rfl
  | cons d r =>
    by_cases h : c = d
    · subst h
      simp [ofChar, run, CharTest.accepts, PatternOptions.sameCode, PatternOptions.plain]
    · have hcode : c.toNat ≠ d.toNat := fun hcd => h (Char.ext (UInt32.toNat_inj.1 hcd))
      simp [ofChar, run, CharTest.accepts, PatternOptions.sameCode, PatternOptions.plain, h, hcode]

theorem run_sequence_cons (x : Pattern) (ps : List Pattern) (s : Place) (k : Rest) :
    (sequence (x :: ps)).run s k = x.run s fun e => (sequence ps).run e k := by
  cases ps <;> rfl

/-- A literal pattern matches just if the text is there. -/
theorem run_literal (p : Text) (s : Place) (k : Rest) :
    (literal p).run s k = if p <+: s.after then
      k ⟨p.reverse ++ s.before, s.after.drop p.length, s.groups⟩ else none := by
  induction p generalizing s with
  | nil => rfl
  | cons c p ih =>
    rw [literal, List.map_cons, run_sequence_cons, run_ofChar]
    obtain ⟨before, after, groups⟩ := s
    cases after with
    | nil => simp
    | cons d r =>
      by_cases h : c = d
      · subst h
        simp only [if_pos, List.prefix_cons_inj, List.length_cons, List.drop_succ_cons,
          List.reverse_cons, List.append_assoc, List.singleton_append]
        exact ih _
      · simp [h]

variable {p : Text}

theorem matchAt?_literal (hp : p ≠ []) (nonempty : Bool) (before after : Text) :
    (literal p).matchAt? nonempty ⟨before, after, []⟩ = if p <+: after then
      some ⟨⟨before, after, []⟩, ⟨p.reverse ++ before, after.drop p.length, []⟩⟩ else none := by
  rw [matchAt?, run_literal]
  split
  · rename_i h
    have hpos := List.length_pos_iff.2 hp
    have hle : p.length ≤ after.length := h.length_le
    have hlength : after.length - p.length ≠ after.length := by omega
    simp [hlength]
  · rfl

theorem findFrom_nil (hp : p ≠ []) (nonempty : Bool) (before : Text) :
    (literal p).findFrom nonempty before [] = none := by
  rw [findFrom, matchAt?_literal hp, if_neg (mt List.prefix_nil.1 hp)]

theorem findFrom_found (hp : p ≠ []) (nonempty : Bool) (before t : Text) :
    (literal p).findFrom nonempty before (p ++ t) =
      some ⟨⟨before, p ++ t, []⟩, ⟨p.reverse ++ before, t, []⟩⟩ := by
  have hat := matchAt?_literal hp nonempty before (p ++ t)
  rw [if_pos (List.prefix_append p t), List.drop_left] at hat
  obtain ⟨c, q, rfl⟩ := List.exists_cons_of_ne_nil hp
  rw [List.cons_append] at hat ⊢
  rw [findFrom, hat]

theorem findFrom_missed (hp : p ≠ []) {c : Char} {t : Text} (h : ¬ p <+: c :: t)
    (nonempty : Bool) (before : Text) :
    (literal p).findFrom nonempty before (c :: t) =
      (literal p).findFrom false (c :: before) t := by
  rw [findFrom, matchAt?_literal hp, if_neg h]

/-- As the matches of a literal pattern are found, so are the occurrences of its text. -/
theorem matchesFrom_found (hp : p ≠ []) (fuel : Nat) (nonempty : Bool) (before t : Text) :
    (literal p).matchesFrom (fuel + 1) nonempty before (p ++ t) =
      ⟨⟨before, p ++ t, []⟩, ⟨p.reverse ++ before, t, []⟩⟩ ::
        (literal p).matchesFrom fuel false (p.reverse ++ before) t := by
  have hsome : Match.isEmpty ⟨⟨before, p ++ t, []⟩, ⟨p.reverse ++ before, t, []⟩⟩ = false := by
    have hpos := List.length_pos_iff.2 hp
    simp [Match.isEmpty, hp]
  rw [matchesFrom, findFrom_found hp]
  simp only [hsome]

theorem matchesFrom_missed (hp : p ≠ []) {c : Char} {t : Text} (h : ¬ p <+: c :: t)
    (fuel : Nat) (nonempty : Bool) (before : Text) :
    (literal p).matchesFrom (fuel + 1) nonempty before (c :: t) =
      (literal p).matchesFrom (fuel + 1) false (c :: before) t := by
  rw [matchesFrom, matchesFrom, findFrom_missed hp h]

theorem matchesFrom_nil (hp : p ≠ []) (fuel : Nat) (nonempty : Bool) (before : Text) :
    (literal p).matchesFrom fuel nonempty before [] = [] := by
  cases fuel with
  | zero => rfl
  | succ fuel => rw [matchesFrom, findFrom_nil hp]

/-- A character in front of the first match is kept. -/
theorem spliceFrom_cons (c : Char) {t : Text} {ms : List (Match × Text)}
    (h : ∀ x ∈ ms, x.1.start.after.length ≤ t.length) :
    spliceFrom (c :: t) ms = c :: spliceFrom t ms := by
  cases ms with
  | nil => rfl
  | cons x ms =>
    have hle := h x List.mem_cons_self
    have hkept : (c :: t).length - x.1.start.after.length =
        t.length - x.1.start.after.length + 1 := by
      rw [List.length_cons]
      omega
    rw [spliceFrom, spliceFrom, hkept]
    rfl

theorem start_le_of_mem_matchesFrom (hp : p ≠ []) {t : Text} {fuel : Nat} {nonempty : Bool}
    {before : Text} {m : Match} (h : m ∈ (literal p).matchesFrom fuel nonempty before t) :
    m.start.after.length ≤ t.length := by
  induction t using Text.induction_on_occurrences hp generalizing fuel nonempty before with
  | nil =>
    rw [matchesFrom_nil hp] at h
    cases h
  | found t ih =>
    cases fuel with
    | zero => cases h
    | succ fuel =>
      rw [matchesFrom_found hp] at h
      obtain rfl | h := List.mem_cons.1 h
      · exact Nat.le_refl _
      · exact Nat.le_trans (ih h) (by simp)
  | missed c t hc ih =>
    cases fuel with
    | zero => cases h
    | succ fuel =>
      rw [matchesFrom_missed hp hc] at h
      exact Nat.le_trans (ih h) (Nat.le_succ _)

/-- A literal pattern matches wherever its text occurs, and replacing the matches replaces the
occurrences. -/
theorem matchesFrom_literal (hp : p ≠ []) (r t : Text) {fuel : Nat} (hfuel : t.length < fuel)
    (nonempty : Bool) (before : Text) :
    let ms := (literal p).matchesFrom fuel nonempty before t
    ms.length = Text.occurrences p t ∧
      spliceFrom t (ms.map fun m => (m, r)) = Text.replaceAll p r t := by
  induction t using Text.induction_on_occurrences hp generalizing fuel nonempty before with
  | nil =>
    rw [matchesFrom_nil hp]
    exact ⟨rfl, rfl⟩
  | found t ih =>
    obtain ⟨fuel, rfl⟩ := Nat.exists_eq_add_of_lt hfuel
    have hpos := List.length_pos_iff.2 hp
    have hlt : t.length < (p ++ t).length + fuel := by
      rw [List.length_append]
      omega
    obtain ⟨hcount, hsplice⟩ := ih hlt false (p.reverse ++ before)
    rw [matchesFrom_found hp, Text.occurrences_found hp, Text.replaceAll_found hp]
    refine ⟨congrArg (· + 1) hcount, ?_⟩
    rw [List.map_cons, spliceFrom, hsplice]
    simp
  | missed c t h ih =>
    obtain ⟨fuel, rfl⟩ := Nat.exists_eq_add_of_lt hfuel
    have hlt : t.length < (c :: t).length + fuel + 1 := by
      rw [List.length_cons]
      omega
    obtain ⟨hcount, hsplice⟩ := ih hlt false (c :: before)
    rw [matchesFrom_missed hp h, Text.occurrences_missed hp h, Text.replaceAll_missed hp h]
    refine ⟨hcount, ?_⟩
    rw [spliceFrom_cons, hsplice]
    intro x hx
    obtain ⟨m, hm, rfl⟩ := List.mem_map.1 hx
    exact start_le_of_mem_matchesFrom hp hm

end Pattern

/-! ## writing a text so that it is taken literally -/

namespace Magic

/-- The characters that are special in a pattern as they stand, and the backslash. -/
def isMagic (c : Char) : Bool :=
  c == '\\' || c == '.' || c == '*' || c == '[' || c == ']' || c == '^' || c == '$' || c == '~'

/-- The characters that are special in a replacement. -/
def isReplacementMagic (c : Char) : Bool := c == '\\' || c == '&'

/-- A text with a backslash in front of every special character. -/
def escaped (special : Char → Bool) (t : Text) : Text :=
  t.flatMap fun c => if special c then ['\\', c] else [c]

variable {special : Char → Bool} {c : Char}

theorem escaped_cons_of (h : special c = true) (t : Text) :
    escaped special (c :: t) = '\\' :: c :: escaped special t := by
  rw [escaped, List.flatMap_cons, if_pos h]
  rfl

theorem escaped_cons_of_not (h : special c = false) (t : Text) :
    escaped special (c :: t) = c :: escaped special t := by
  rw [escaped, List.flatMap_cons, h, if_neg Bool.false_ne_true]
  rfl

/-- What is not special is written as it stands. -/
theorem escaped_append_of_none {t : Text} (h : ∀ c ∈ t, special c = false) (u : Text) :
    escaped special (t ++ u) = t ++ escaped special u := by
  induction t with
  | nil => rfl
  | cons c t ih =>
    obtain ⟨hc, ht⟩ := List.forall_mem_cons.1 h
    rw [List.cons_append, escaped_cons_of_not hc, ih ht, List.cons_append]

theorem length_le_escaped (special : Char → Bool) (t : Text) :
    t.length ≤ (escaped special t).length := by
  induction t with
  | nil => exact Nat.le_refl _
  | cons c t ih =>
    rw [escaped, List.flatMap_cons, List.length_append, List.length_cons, Nat.add_comm]
    refine Nat.add_le_add ?_ ih
    split <;> simp

/-! ### fields -/

variable {delimiter : Char}

theorem fieldsFrom_escape (splits : Nat) (c : Char) (t : Text) :
    fieldsFrom delimiter splits ('\\' :: c :: t) =
      consField (if c = delimiter then [c] else ['\\', c]) (fieldsFrom delimiter splits t) := by
  rw [fieldsFrom, if_pos rfl]

theorem fieldsFrom_cons (hc : c ≠ '\\') (hd : c ≠ delimiter) (splits : Nat) {t : Text}
    (ht : t ≠ []) :
    fieldsFrom delimiter splits (c :: t) = consField [c] (fieldsFrom delimiter splits t) := by
  obtain ⟨d, t, rfl⟩ := List.exists_cons_of_ne_nil ht
  rw [fieldsFrom, if_neg hc, if_neg (by simp [hd])]

theorem fieldsFrom_delimiter (hd : delimiter ≠ '\\') (splits : Nat) (t : Text) :
    fieldsFrom delimiter (splits + 1) (delimiter :: t) = [] :: fieldsFrom delimiter splits t := by
  cases t with
  | nil => simp [fieldsFrom]
  | cons c t => simp [fieldsFrom, hd]

/-- A field that was written with backslashes in front of its special characters, the delimiter
among them, keeps those in front of the others. -/
theorem fieldsFrom_escaped (hs : special '\\' = true) (hd : special delimiter = false)
    (splits : Nat) (t rest : Text) :
    fieldsFrom delimiter (splits + 1)
        (escaped (fun c => special c || c == delimiter) t ++ delimiter :: rest) =
      escaped special t :: fieldsFrom delimiter splits rest := by
  have hdelimiter : delimiter ≠ '\\' := by
    rintro rfl
    exact Bool.false_ne_true (hd.symm.trans hs)
  induction t with
  | nil => exact fieldsFrom_delimiter hdelimiter splits rest
  | cons c t ih =>
    -- a special character keeps its backslash, the delimiter loses it, any other has none
    by_cases hc : special c = true
    · have hne : c ≠ delimiter := by
        rintro rfl
        exact Bool.false_ne_true (hd.symm.trans hc)
      rw [escaped_cons_of (by simp [hc]), escaped_cons_of hc, List.cons_append, List.cons_append,
        fieldsFrom_escape, if_neg hne, ih]
      rfl
    · have hc := eq_false_of_ne_true hc
      rw [escaped_cons_of_not hc]
      by_cases heq : c = delimiter
      · rw [escaped_cons_of (by simp [heq]), List.cons_append, List.cons_append,
          fieldsFrom_escape, if_pos heq, ih]
        rfl
      · have hne : c ≠ '\\' := by
          rintro rfl
          exact Bool.false_ne_true (hc.symm.trans hs)
        rw [escaped_cons_of_not (by simp [hc, heq]), List.cons_append,
          fieldsFrom_cons hne heq _ (by simp), ih]
        rfl

/-- The argument of a substitution of all occurrences of `p` by `r`, behind the delimiter it starts
with. -/
def literalBody (delimiter : Char) (p r : Text) : Text :=
  escaped (fun c => isMagic c || c == delimiter) p ++ delimiter ::
    (escaped (fun c => isReplacementMagic c || c == delimiter) r ++ [delimiter, 'g'])

theorem splitFields_literalBody (hd : isMagic delimiter = false)
    (hr : isReplacementMagic delimiter = false) (p r : Text) :
    splitFields (literalBody delimiter p r) delimiter =
      [escaped isMagic p, escaped isReplacementMagic r, ['g']] := by
  have hflags : fieldsFrom delimiter 0 ['g'] = [['g']] := by simp [fieldsFrom]
  rw [splitFields, literalBody, fieldsFrom_escaped rfl hd, fieldsFrom_escaped rfl hr, hflags]

/-! ### patterns and replacements -/

theorem searchText_escape (hc : c ≠ 'c') (t : Text) :
    searchText ('\\' :: c :: t) = (escapeText c ++ (searchText t).1, (searchText t).2) := by
  rw [searchText, if_pos rfl, if_neg hc]

theorem searchText_cons (hc : c ≠ '\\') (t : Text) :
    searchText (c :: t) = (plainText c ++ (searchText t).1, (searchText t).2) := by
  cases t with
  | nil => simp [searchText]
  | cons d t => rw [searchText, if_neg hc]

/-- The characters that are special in a pattern, as it stands or for its reader. -/
def isSpecial (c : Char) : Bool := isMagic c || isSwapped c

theorem escapeText_of_isMagic (h : isMagic c = true) : escapeText c = ['\\', c] ∧ c ≠ 'c' := by
  simp only [isMagic, Bool.or_eq_true, beq_iff_eq] at h
  obtain ((((((rfl | rfl) | rfl) | rfl) | rfl) | rfl) | rfl) | rfl := h <;> decide

/-- The reader of patterns gets a character with a backslash if it is special for it. -/
theorem searchText_char (c : Char) (t : Text) :
    searchText ((if isMagic c then ['\\', c] else [c]) ++ t) =
      ((if isSpecial c then ['\\', c] else [c]) ++ (searchText t).1, (searchText t).2) := by
  by_cases hc : isMagic c = true
  · obtain ⟨htext, hne⟩ := escapeText_of_isMagic hc
    have hspecial : isSpecial c = true := by simp [isSpecial, hc]
    rw [if_pos hc, if_pos hspecial, List.cons_append, List.cons_append, List.nil_append,
      searchText_escape hne, htext]
  · have hne : c ≠ '\\' := by
      rintro rfl
      exact hc rfl
    have hspecial : isSpecial c = isSwapped c := by simp [isSpecial, hc]
    rw [if_neg hc, List.cons_append, List.nil_append, searchText_cons hne, plainText, hspecial]

/-- The reader of patterns gets a literal text with a backslash in front of every character that is
special for it. -/
theorem searchText_escaped (p : Text) :
    searchText (escaped isMagic p) = (escaped isSpecial p, false) := by
  induction p with
  | nil => rfl
  | cons c p ih =>
    have hcons (special : Char → Bool) : escaped special (c :: p) =
        (if special c then ['\\', c] else [c]) ++ escaped special p := List.flatMap_cons
    rw [hcons, hcons, searchText_char, ih]

/-- A literal replacement is read as its characters. -/
theorem pieces_escaped (r : Text) : pieces (escaped isReplacementMagic r) = r.map .char := by
  induction r with
  | nil => rfl
  | cons c r ih =>
    by_cases hc : isReplacementMagic c = true
    · have hpiece : escapedPiece c = .char c := by
        simp only [isReplacementMagic, Bool.or_eq_true, beq_iff_eq] at hc
        obtain rfl | rfl := hc <;> rfl
      rw [escaped_cons_of hc, pieces, if_pos rfl, ih, hpiece]
      rfl
    · have hc := eq_false_of_ne_true hc
      obtain ⟨hne, hamp⟩ : c ≠ '\\' ∧ c ≠ '&' := by simpa [isReplacementMagic] using hc
      rw [escaped_cons_of_not hc, pieces_cons (Or.inl hne), ih, plainPiece, if_neg hamp]
      rfl

end Magic

theorem Pattern.Template.expand_map_char (r : Text) (m : Match) :
    expand (r.map .char) m = r := by
  induction r with
  | nil => rfl
  | cons c r ih => exact congrArg (c :: ·) ih

/-! ## reading a literal pattern -/

namespace Pattern

open Magic (isSpecial)

/-- The token that stands for a character in a literal pattern. -/
def literalToken (c : Char) : Token := if isSpecial c then .escaped c else .plain c

theorem escaped_cons (c : Char) (p : Text) :
    Magic.escaped isSpecial (c :: p) = (literalToken c).text ++ Magic.escaped isSpecial p := by
  rw [literalToken, Magic.escaped, List.flatMap_cons]
  split <;> rfl

theorem escaped_ne_backslash (p : Text) : Magic.escaped isSpecial p ≠ ['\\'] := by
  cases p with
  | nil => exact nofun
  | cons c p =>
    by_cases hc : isSpecial c = true
    · rw [Magic.escaped_cons_of hc]
      simp
    · have hc := eq_false_of_ne_true hc
      rw [Magic.escaped_cons_of_not hc]
      intro h
      rw [(List.cons.inj h).1] at hc
      cases hc

variable {s : Reading} {tok : Token} {rest : Text}

theorem run_get (s : Reading) : (get : Read Reading).run s = .ok (s, s) := rfl

theorem run_peek_of_nil (h : s.rest = []) : Read.peek.run s = .ok (none, s) := by
  unfold Read.peek
  rw [StateT.run_bind, StateT.run_get, pure_bind]
  dsimp only
  rw [h]
  rfl

theorem run_accept_of_nil (h : s.rest = []) (c : Char) :
    (Read.accept c).run s = .ok (false, s) := by
  unfold Read.accept
  rw [run_bind_ok (run_peek_of_nil h)]
  rfl

theorem run_peek_of_rest (h : s.rest = tok.text ++ rest) (htok : tok ≠ .plain '\\') :
    Read.peek.run s = .ok (some tok, s) := by
  unfold Read.peek
  rw [StateT.run_bind, StateT.run_get, pure_bind]
  dsimp only
  rw [h]
  cases tok with
  | escaped c => rfl
  | plain c =>
    have hc : c ≠ '\\' := fun hc => htok (congrArg _ hc)
    dsimp only [Token.text, List.cons_append, List.nil_append]
    split
    · rename_i hnil
      cases hnil
    · rename_i heq
      exact absurd (List.cons.inj heq).1 hc
    · rename_i heq
      rw [(List.cons.inj heq).1]
      rfl

theorem run_next_of_rest (h : s.rest = tok.text ++ rest) (htok : tok ≠ .plain '\\')
    (hrest : rest ≠ ['\\']) : Read.next.run s =
      .ok (some tok, { s with rest := rest, position := s.position + tok.text.length }) := by
  unfold Read.next
  rw [run_bind_ok (run_peek_of_rest h htok)]
  have hdrop : s.rest.drop tok.text.length = rest := by rw [h, List.drop_left]
  let taken : Reading := { s with rest := rest, position := s.position + tok.text.length }
  have hend : Read.checkEnd.run taken = .ok ((), taken) :=
    congrArg (fun x : Read Unit => x.run taken) (if_neg hrest)
  have hmodify : (modify fun s : Reading => { s with
      rest := s.rest.drop tok.text.length
      position := s.position + tok.text.length } : Read PUnit).run s = .ok ((), taken) := by
    dsimp only [taken]
    rw [← hdrop]
    rfl
  dsimp only
  rw [run_bind_ok hmodify, run_bind_ok hend]
  rfl

theorem literalToken_ne (c : Char) : literalToken c ≠ .plain '\\' := by
  unfold literalToken
  split
  · nofun
  · rename_i hc
    rintro ⟨⟩
    exact hc rfl

/-- Behind a backslash, a special character stands for itself. -/
theorem escape_of_isSpecial {c : Char} (h : isSpecial c = true) :
    escape .plain c = pure (ofChar c) := by
  simp only [isSpecial, Magic.isMagic, Magic.isSwapped, Bool.or_eq_true, beq_iff_eq] at h
  obtain (((((((rfl | rfl) | rfl) | rfl) | rfl) | rfl) | rfl) | rfl) |
    ((((((rfl | rfl) | rfl) | rfl) | rfl) | rfl) | rfl) := h <;> rfl

variable {c : Char} {room : Option Nat} {fuel : Nat} {first : Bool} {ps : List Pattern}

/-- A character of a literal pattern is read as the test for it. -/
theorem run_readSequence_cons (h : s.rest = (literalToken c).text ++ rest)
    (hrest : rest ≠ ['\\']) :
    (readSequence room (fuel + 1) .plain first ps).run s =
      (readSequence room fuel .plain first (ofChar c :: ps)).run
        { s with rest := rest, position := s.position + (literalToken c).text.length } := by
  have hpeek := run_peek_of_rest h (literalToken_ne c)
  have hnext := run_next_of_rest h (literalToken_ne c) hrest
  rw [readSequence, run_bind_ok hpeek]
  by_cases hc : isSpecial c = true
  · have htok : literalToken c = .escaped c := if_pos hc
    rw [htok] at hnext ⊢
    dsimp only
    rw [run_bind_ok (run_get s), run_bind_ok hnext]
    rw [escape_of_isSpecial hc, pure_bind]
  · have htok : literalToken c = .plain c := if_neg hc
    rw [htok] at hnext ⊢
    -- none of the characters that start something is left as it stands
    have hne : ∀ d, isSpecial d = true → c ≠ d := by
      rintro d hd rfl
      exact hc hd
    split
    · rename_i heq
      cases heq
    · rename_i heq
      cases heq
      exact absurd rfl (hne '|' rfl)
    · rename_i heq
      cases heq
      exact absurd rfl (hne ')' rfl)
    · rename_i heq
      cases heq
      rw [run_bind_ok (run_get s), run_bind_ok hnext]
      have hlayout : ¬ (PatternOptions.plain.verbose && isLayout c) = true := Bool.false_ne_true
      have hcomment : ¬ (PatternOptions.plain.verbose && decide (c = '#')) = true :=
        Bool.false_ne_true
      dsimp only
      rw [if_neg hlayout, if_neg hcomment, if_neg (hne '[' rfl), if_neg (hne '*' rfl),
        if_neg (hne '+' rfl), if_neg (hne '?' rfl), if_neg (hne '{' rfl), if_neg (hne '.' rfl),
        if_neg (hne '^' rfl), if_neg (hne '$' rfl), if_neg (hne '(' rfl)]
      rfl

/-- The characters of a literal pattern are read one after the other, up to the end of the text. -/
theorem run_readSequence_escaped (room : Option Nat) (first : Bool) (ps : List Pattern) (p : Text)
    (h : s.rest = Magic.escaped isSpecial p) (hfuel : p.length < fuel) :
    ∃ s', (readSequence room fuel .plain first ps).run s =
        .ok (sequence (ps.reverse ++ p.map ofChar), s') ∧ s'.rest = [] ∧
      s'.nextGroup = s.nextGroup ∧ s'.asked = s.asked ∧ s'.letters = s.letters := by
  induction p generalizing s ps fuel with
  | nil =>
    obtain ⟨fuel, rfl⟩ := Nat.exists_eq_add_of_lt hfuel
    refine ⟨s, ?_, h, rfl, rfl, rfl⟩
    rw [readSequence, run_bind_ok (run_peek_of_nil h), List.map_nil, List.append_nil]
    rfl
  | cons c p ih =>
    obtain ⟨fuel, rfl⟩ := Nat.exists_eq_add_of_lt hfuel
    rw [escaped_cons] at h
    let taken : Reading := { s with
      rest := Magic.escaped isSpecial p
      position := s.position + (literalToken c).text.length }
    have htaken : taken.rest = Magic.escaped isSpecial p := rfl
    have hlt : p.length < (c :: p).length + fuel := by
      rw [List.length_cons]
      omega
    obtain ⟨s', hrun, hkept⟩ := ih (ofChar c :: ps) htaken hlt
    refine ⟨s', ?_, hkept⟩
    rw [run_readSequence_cons h (escaped_ne_backslash p), hrun]
    simp

/-- Nothing keeps a literal pattern from being carried out. -/
theorem refusal?_literal (template : Bool) (p : Text) : (literal p).refusal? template = none := by
  unfold literal
  induction p with
  | nil => rfl
  | cons c p ih =>
    cases p with
    | nil => rfl
    | cons d p => exact ih

/-- A text whose alternatives are read to its end, without letters and without asking for groups, is
read as what they make. -/
theorem ofTextIn_of_readChoice {t : Text} (ht : t ≠ ['\\']) {p : Pattern} {s' : Reading}
    (hchoice : (readChoice room (4 * t.length + 8) .plain true []).run (.start .plain t) =
      .ok (p, s'))
    (hrest : s'.rest = []) (hasked : s'.asked = []) (hletters : s'.letters = [])
    (hrefusal : p.refusal? false = none) :
    ofTextIn room .plain t = .ok ⟨p, s'.nextGroup - 1⟩ := by
  let s : Reading := .start .plain t
  have hend : Read.checkEnd.run s = .ok ((), s) :=
    congrArg (fun x : Read Unit => x.run s) (if_neg ht)
  have htemplate : p.refusal? (s'.letters.contains 't') = none := by
    rw [hletters]
    exact hrefusal
  have hfinish : (finish p).run s' = .ok (p, s') := by
    unfold finish
    rw [run_bind_ok (run_peek_of_nil hrest)]
    dsimp only
    rw [run_bind_ok (run_get s'), hasked, htemplate]
    rfl
  have hread : (readChoice room (4 * s.rest.length + 8) s.options true []).run s = .ok (p, s') :=
    hchoice
  have hall : (readAll room).run s = .ok (p, s') := by
    unfold readAll
    rw [run_bind_ok hend, run_bind_ok (run_get s), run_bind_ok hread, run_bind_ok (run_get s'),
      hletters, if_neg (show ¬ mixesKinds [] = true from Bool.false_ne_true)]
    exact hfinish
  rw [ofTextIn, hall]

/-- A text with a backslash in front of every special character is read as a literal pattern,
however little room there is for groups. -/
theorem ofTextIn_escaped (room : Option Nat) (p : Text) :
    ofTextIn room .plain (Magic.escaped isSpecial p) = .ok ⟨literal p, 0⟩ := by
  let s : Reading := .start .plain (Magic.escaped isSpecial p)
  have hlength : p.length ≤ s.rest.length := Magic.length_le_escaped isSpecial p
  have hfuel : p.length < 4 * s.rest.length + 7 := by omega
  have hs : s.rest = Magic.escaped isSpecial p := rfl
  obtain ⟨s', hrun, hrest, hgroup, hasked, hletters⟩ :=
    run_readSequence_escaped room true [] p hs hfuel
  have hchoice : (readChoice room (4 * s.rest.length + 8) .plain true []).run s =
      .ok (literal p, s') := by
    rw [readChoice]
    exact (run_bind_ok hrun).trans (run_bind_ok (run_accept_of_nil hrest '|'))
  rw [ofTextIn_of_readChoice (escaped_ne_backslash p) hchoice hrest hasked hletters
    (refusal?_literal false p), hgroup]
  rfl

end Pattern

/-! ## substituting a text for another -/

namespace Substitution

open Pattern (Template)

/-- The substitution of `r` for every occurrence of `p`. -/
def literal (p r : Text) : Substitution where
  typed := Magic.escaped Magic.isMagic p
  compiled := ⟨.literal p, 0⟩
  template := Magic.templateText (Magic.escaped Magic.isReplacementMagic r)
  everywhere := true
  countOnly := false
  count := none

variable {p r line : Text}

/-- The argument that replaces one text by another is read as just that. -/
theorem ofArgs_literalBody {delimiter : Char} (hd : isDelimiter delimiter = true)
    (hblank : isBlank delimiter = false) (hmagic : Magic.isMagic delimiter = false)
    (hreplacement : Magic.isReplacementMagic delimiter = false) (hp : p ≠ []) (r : Text) :
    ofArgs (delimiter :: Magic.literalBody delimiter p r) = .ok (literal p r) := by
  have htrim : Text.trimLeft (delimiter :: Magic.literalBody delimiter p r) =
      delimiter :: Magic.literalBody delimiter p r :=
    List.dropWhile_cons_of_neg (by simp [hblank])
  have htyped : Magic.escaped Magic.isMagic p ≠ [] := by
    intro hnil
    have hle := Magic.length_le_escaped Magic.isMagic p
    rw [hnil] at hle
    exact hp (List.length_eq_zero_iff.1 (Nat.le_zero.1 hle))
  have hflags : Text.cut ' ' ['g'] = (['g'], none) := rfl
  have hcase : (! (['g'] : Text).contains 'I' && (false || (['g'] : Text).contains 'i')) = false :=
    rfl
  have hplain : { PatternOptions.plain with ignoreCase := false } = PatternOptions.plain := rfl
  rw [ofArgs, htrim]
  simp only [hd, Magic.splitFields_literalBody hmagic hreplacement, List.head?_cons,
    Option.getD_some, List.getElem?_cons_succ, List.getElem?_cons_zero, if_neg htyped,
    Magic.searchText_escaped, hflags, hcase, hplain, Pattern.ofTextIn_escaped]
  rfl

theorem ofText_literal (p r : Text) : Template.ofText (literal p r).compiled.groups
    (literal p r).template = .ok (r.map .char) := by
  obtain ⟨-, hread⟩ | ⟨i, position, hi, -⟩ :=
    Magic.ofText_templateText 0 (Magic.escaped Magic.isReplacementMagic r)
  · rwa [Magic.pieces_escaped] at hread
  · rw [Magic.pieces_escaped] at hi
    simp at hi

theorem hitsOn_literal (hp : p ≠ []) (r line : Text) :
    (literal p r).hitsOn line = Text.occurrences p line := by
  have hfuel : line.length < 2 * line.length + 3 := by omega
  obtain ⟨hcount, -⟩ := Pattern.matchesFrom_literal hp r line hfuel false []
  exact hcount

/-- A line becomes what replacing the occurrences makes of it. -/
theorem linesFor_literal (hp : p ≠ []) (hr : '\n' ∉ r) (hline : '\n' ∉ line) :
    (literal p r).linesFor (r.map .char) line = [Text.replaceAll p r line] := by
  have hfuel : line.length < 2 * line.length + 3 := by omega
  obtain ⟨-, hsplice⟩ := Pattern.matchesFrom_literal hp r line hfuel false []
  have hnew : '\n' ∉ Text.replaceAll p r line := fun h =>
    (Text.mem_replaceAll hp h).elim hr hline
  have hmatches : (literal p r).matchesOn line =
      (Pattern.literal p).matchesFrom (2 * line.length + 3) false [] line := if_pos rfl
  rw [linesFor, hmatches]
  split
  · rename_i hnone
    rw [hnone] at hsplice
    rw [← hsplice]
    rfl
  · simp only [Template.expand_map_char, hsplice, Text.splitOn_of_not_mem hnew]

end Substitution

namespace Command

/-- A text whose special characters have backslashes in front of them is replaced as it stands by
another: in every line of the span each of its occurrences, or nothing if there is none. -/
theorem literal_replaced {delimiter : Char} (hd : Substitution.isDelimiter delimiter = true)
    (hblank : isBlank delimiter = false)
    (hspecial : delimiter ∉ ['.', '*', '[', ']', '^', '$', '~', '&'])
    {p r : Text} (hp : p ≠ []) (hr : '\n' ∉ r) :
    ∃ sub, Substitution.ofArgs (delimiter :: Magic.literalBody delimiter p r) = .ok sub ∧
      ∀ e : Editor, e.buffer.WellFormed → ∀ past range,
        let run := runFrom ((Command.substitute sub).perform past range) e
        (∃ f, e.buffer.span range none = .error f ∧ run = (.error f, e)) ∨
        ∃ s front inside rest, e.buffer.span range none = .ok s ∧
          s.Cuts e.buffer.lines front inside rest ∧
          let hits := (inside.map (Text.occurrences p)).sum
          let changed := inside.countP (0 < Text.occurrences p ·)
          (hits = 0 → run = (.ok (.failed ⟨.patternNotFound, sub.typed⟩), e)) ∧
          (hits ≠ 0 → ∃ cursor, run = (.ok (.substituted hits changed), { e with
            buffer := { e.buffer with
              lines := front ++ inside.map (Text.replaceAll p r) ++ rest
              cursor := cursor
              modified := true } })) := by
  obtain ⟨hmagic, hreplacement⟩ :
      Magic.isMagic delimiter = false ∧ Magic.isReplacementMagic delimiter = false := by
    have hslash : delimiter ≠ '\\' := by
      rintro rfl
      cases hd
    simpa [Magic.isMagic, Magic.isReplacementMagic, hslash, and_assoc] using hspecial
  refine ⟨.literal p r, Substitution.ofArgs_literalBody hd hblank hmagic hreplacement hp r, ?_⟩
  intro e hb past range run
  cases hs : e.buffer.span range none with
  | error f =>
    have hcount : (Substitution.literal p r).count = none := rfl
    refine Or.inl ⟨f, rfl, ?_⟩
    dsimp only [run]
    rw [perform, runFrom_substitute, hcount, hs]
  | ok s =>
    obtain ⟨front, inside, rest, hcut⟩ := Buffer.exists_cuts_of_span hb hs
    have hhits : inside.map (Substitution.literal p r).hitsOn =
        inside.map (Text.occurrences p) :=
      List.map_congr_left fun l _ => Substitution.hitsOn_literal hp r l
    have hlines : inside.flatMap ((Substitution.literal p r).linesFor (r.map .char)) =
        inside.map (Text.replaceAll p r) :=
      (List.flatMap_congr fun l hl =>
        Substitution.linesFor_literal hp hr (hb.no_newline l (hcut.mem hl))).trans
      List.map_eq_flatMap.symm
    have hchanged : inside.countP ((Substitution.literal p r).matchesOn · ≠ []) =
        inside.countP (0 < Text.occurrences p ·) := by
      refine List.countP_congr fun l _ => ?_
      rw [← Substitution.hitsOn_literal hp r, decide_eq_true_eq, decide_eq_true_eq,
        Nat.pos_iff_ne_zero, Ne, Ne, Substitution.hitsOn_eq_zero]
    refine Or.inr ⟨s, front, inside, rest, rfl, hcut, ?_⟩
    have hrun := runFrom_substitute_of_cuts hb hs hcut (Substitution.ofText_literal p r)
    dsimp only at hrun
    rw [← Substitution.sum_hitsOn_eq_zero, hhits, hlines, hchanged] at hrun
    intro hits changed
    obtain ⟨hnone, hrun⟩ | ⟨upper, line, lower, hhit, hrun⟩ := hrun
    · exact ⟨fun _ => hrun, absurd hnone⟩
    · have hsome : hits ≠ 0 := by
        intro hzero
        dsimp only [hits] at hzero
        rw [← hhits] at hzero
        exact hhit.hit (Substitution.sum_hitsOn_eq_zero.1 hzero line hhit.mem)
      exact ⟨fun h => absurd h hsome, fun _ => ⟨_, hrun.trans (if_neg Bool.false_ne_true)⟩⟩

/-- A text with a special character and the delimiter in it, replaced by another. -/
theorem literal_replaced_special :
    let b : Buffer := { Buffer.empty with lines := ["a.+a.+".toList, "a..".toList] }
    let e : Editor := ⟨b, Registers.empty, ⟨[], [], [], [], .standard⟩⟩
    Substitution.isDelimiter '+' = true ∧ isBlank '+' = false ∧
      '+' ∉ ['.', '*', '[', ']', '^', '$', '~', '&'] ∧ "a.+".toList ≠ [] ∧
      '\n' ∉ "&+".toList ∧ b.WellFormed ∧
      ∃ sub, Substitution.ofArgs "+a\\.\\++\\&\\++g".toList = .ok sub ∧
        ∃ cursor, runFrom ((Command.substitute sub).perform [] (some .wholeFile)) e =
          (.ok (.substituted 2 1), { e with buffer := { b with
            lines := ["&+&+".toList, "a..".toList], cursor := cursor, modified := true } }) := by
  intro b e
  have hb : b.WellFormed := ⟨by decide, by decide, by decide, by decide⟩
  have hd : Substitution.isDelimiter '+' = true := by decide
  have hblank : isBlank '+' = false := by decide
  have hspecial : '+' ∉ ['.', '*', '[', ']', '^', '$', '~', '&'] := by decide
  have hp : "a.+".toList ≠ [] := by decide
  have hr : '\n' ∉ "&+".toList := by decide
  refine ⟨hd, hblank, hspecial, hp, hr, hb, ?_⟩
  obtain ⟨sub, hsub, hruns⟩ := literal_replaced hd hblank hspecial hp hr
  have hargs : '+' :: Magic.literalBody '+' "a.+".toList "&+".toList =
      "+a\\.\\++\\&\\++g".toList := by decide
  rw [hargs] at hsub
  refine ⟨sub, hsub, ?_⟩
  obtain ⟨f, hf, -⟩ | ⟨s, front, inside, rest, hs, hcut, -, hrun⟩ :=
    hruns e hb [] (some .wholeFile)
  · cases hf
  · cases hs
    obtain ⟨rfl, rfl, rfl⟩ := hcut.eq_of_whole rfl rfl
    exact hrun (by decide)

end Command

end ExMode
