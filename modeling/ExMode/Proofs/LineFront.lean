import ExMode.Proofs.ReadWord

/-!
# ExMode.Proofs.LineFront

What stands in front of a command.  Colons and blanks there are to be without meaning, and they are
as long as they come in one turn: a line loses the blanks in front of it, then colons, then blanks.
Where blanks stand between two colons the second colon is left over, and no command starts with a
colon.

One character in front of a line either changes nothing of what is left of the line, or leaves a
colon in front of it (`Table.commandText_cons`); so do any number of them, by induction.

* `Table.commandText_append` — colons and blanks in front of a line;
* `Table.head?_commandText_iff` — where a colon is left over;
* `Table.alike_parse` — lines of which the same is left are read alike;
* `Table.parse_front` — all of it together.
-/

namespace ExMode

/-! ## taking off blanks -/

namespace Text

theorem trimRight_cons_of_not_blank {c : Char} (h : isBlank c = false) (r : Text) :
    trimRight (c :: r) = c :: trimRight r := by
  unfold trimRight
  rw [List.reverse_cons, List.dropWhile_append]
  split
  · rename_i hnil
    simp [List.isEmpty_iff.1 hnil, h]
  · simp

theorem trimRight_cons_of_blank {c : Char} (h : isBlank c = true) (r : Text) :
    trimRight (c :: r) = if trimRight r = [] then [] else c :: trimRight r := by
  unfold trimRight
  rw [List.reverse_cons, List.dropWhile_append]
  by_cases hnil : r.reverse.dropWhile isBlank = []
  · simp [hnil, h]
  · simp [hnil]

/-- Blanks are taken off the two ends in any order. -/
theorem trimLeft_trimRight (t : Text) : trimLeft (trimRight t) = trim t := by
  unfold trim
  induction t with
  | nil => rfl
  | cons c r ih =>
    cases h : isBlank c with
    | false =>
      rw [trimRight_cons_of_not_blank h, trimLeft_cons_of_not_blank h,
        trimLeft_cons_of_not_blank h, trimRight_cons_of_not_blank h]
    | true =>
      rw [trimRight_cons_of_blank h, trimLeft_cons_of_blank h, ← ih]
      split
      · rename_i hnil
        rw [hnil]
      · exact trimLeft_cons_of_blank h

/-- What stands in front of a character that is no blank is kept. -/
theorem trimRight_append_cons {c : Char} (h : isBlank c = false) (t r : Text) :
    trimRight (t ++ c :: r) = t ++ c :: trimRight r := by
  induction t with
  | nil => exact trimRight_cons_of_not_blank h r
  | cons d t ih =>
    rw [List.cons_append]
    cases hd : isBlank d with
    | false => rw [trimRight_cons_of_not_blank hd, ih, List.cons_append]
    | true =>
      have hne : trimRight (t ++ c :: r) ≠ [] := by
        rw [ih]
        simp
      rw [trimRight_cons_of_blank hd, if_neg hne, ih, List.cons_append]

theorem trimRight_isPrefix (t : Text) : trimRight t <+: t := by
  have h := List.reverse_prefix.2 (List.dropWhile_suffix isBlank (l := t.reverse))
  rwa [List.reverse_reverse] at h

theorem not_isBlank_of_head?_trimLeft {c : Char} {t : Text} (h : (trimLeft t).head? = some c) :
    isBlank c = false := by
  have hhead := List.head?_dropWhile_not isBlank t
  unfold trimLeft at h
  rwa [h] at hhead

theorem ne_of_head?_trimLeftOf {c d : Char} {t : Text} (h : (trimLeftOf d t).head? = some c) :
    c ≠ d := by
  have hhead := List.head?_dropWhile_not (· == d) t
  unfold trimLeftOf at h
  rw [h] at hhead
  exact beq_eq_false_iff_ne.1 hhead

/-- Whether blanks stand between two colons in front of a text. -/
def RepeatsColon (t : Text) : Prop :=
  ∃ front colons gap rest : Text, t = front ++ ':' :: (colons ++ (gap ++ ':' :: rest)) ∧
    (∀ c ∈ front, isBlank c = true) ∧ (∀ c ∈ colons, c = ':') ∧
    gap ≠ [] ∧ ∀ c ∈ gap, isBlank c = true

end Text

/-- Whether a row builds its command from the name, the bang and the arguments alone. -/
def Row.IgnoresLine (row : Row) : Prop :=
  ∀ call raw, row.build { call with raw := raw } = row.build call

namespace Table

variable {c : Char} {p b raw raw' u : Text}

/-! ## what is left of a line -/

/-- One colon or blank more in front of a line makes no difference to what is left of it, unless a
colon is left in front. -/
theorem commandText_cons (h : c = ':' ∨ isBlank c = true) (u : Text) :
    (commandText (c :: u)).head? = some ':' ∨ commandText (c :: u) = commandText u := by
  obtain rfl | hblank := h
  · have hcolon : commandText (':' :: u) = ((u.trimRight).trimLeftOf ':').trimLeft := by
      unfold commandText Text.trim
      rw [Text.trimLeft_cons_of_not_blank (by decide), Text.trimRight_cons_of_not_blank (by decide)]
      rfl
    rcases u with _ | ⟨d, r⟩
    · exact Or.inr rfl
    cases hd : isBlank d with
    | false =>
      refine Or.inr (hcolon.trans ?_)
      rw [commandText, Text.trim, Text.trimLeft_cons_of_not_blank hd]
    | true =>
      -- behind the colon stand blanks, and what stands behind them may be a colon
      have hhead : (Text.trimRight (d :: r)).head? ≠ some ':' := by
        rw [Text.trimRight_cons_of_blank hd]
        split
        · intro h
          cases h
        · rw [List.head?_cons, Ne, Option.some.injEq]
          rintro rfl
          cases hd
      rw [Text.trimLeftOf_of_head?_ne hhead, Text.trimLeft_trimRight] at hcolon
      by_cases htrim : (Text.trim (d :: r)).head? = some ':'
      · exact Or.inl (hcolon ▸ htrim)
      · refine Or.inr (hcolon.trans ?_)
        rw [commandText, Text.trimLeftOf_of_head?_ne htrim, ← Text.trimLeft_trimRight,
          Text.trimLeft_trimLeft]
  · refine Or.inr ?_
    rw [commandText, Text.trim, Text.trimLeft_cons_of_blank hblank]
    rfl

/-- Any colons and blanks in front of a line make no difference to what is left of it, unless a
colon is left in front. -/
theorem commandText_append (hp : ∀ c ∈ p, c = ':' ∨ isBlank c = true) (b : Text) :
    (commandText (p ++ b)).head? = some ':' ∨ commandText (p ++ b) = commandText b := by
  induction p with
  | nil => exact Or.inr rfl
  | cons c p ih =>
    obtain ⟨hc, hp⟩ := List.forall_mem_cons.1 hp
    obtain h | h := commandText_cons hc (p ++ b)
    · exact Or.inl h
    · rw [List.cons_append, h]
      exact ih hp

/-- A colon is left in front of a line just if blanks stand between two colons there. -/
theorem head?_commandText_iff (raw : Text) :
    (commandText raw).head? = some ':' ↔ raw.RepeatsColon := by
  constructor
  · intro h
    obtain ⟨rest, hrest⟩ := List.head?_eq_some_iff.1 h
    obtain ⟨trailing, htrailing⟩ := Text.trimRight_isPrefix raw.trimLeft
    -- the line is blanks, colons, blanks and the colon that is left, and then whatever follows
    have hcolons : ∃ colons, (∀ c ∈ colons, c = ':') ∧
        raw.trim = colons ++ (raw.trim).trimLeftOf ':' :=
      ⟨_, fun c hc => beq_iff_eq.1 (List.all_eq_true.1 List.all_takeWhile c hc),
        List.takeWhile_append_dropWhile.symm⟩
    have hgap : ∃ gap, (∀ c ∈ gap, isBlank c = true) ∧
        (raw.trim).trimLeftOf ':' = gap ++ ':' :: rest :=
      ⟨_, fun c hc => List.all_eq_true.1 List.all_takeWhile c hc,
        by rw [← hrest]; exact (Text.takeWhile_append_trimLeft _).symm⟩
    obtain ⟨colons, hcolons, htrim⟩ := hcolons
    obtain ⟨gap, hgap, hbehind⟩ := hgap
    obtain ⟨d, gap, rfl⟩ : ∃ d gap', gap = d :: gap' := List.exists_cons_of_ne_nil (by
      rintro rfl
      exact Text.ne_of_head?_trimLeftOf (t := raw.trim) (by rw [hbehind]; rfl) rfl)
    obtain ⟨e, colons, rfl⟩ : ∃ e colons', colons = e :: colons' :=
      List.exists_cons_of_ne_nil (by
        rintro rfl
        rw [hbehind, ← Text.trimLeft_trimRight] at htrim
        have hd := Text.not_isBlank_of_head?_trimLeft (t := raw.trimRight) (by rw [htrim]; rfl)
        rw [hgap d List.mem_cons_self] at hd
        cases hd)
    obtain ⟨rfl, hcolons'⟩ := List.forall_mem_cons.1 hcolons
    refine ⟨raw.takeWhile isBlank, colons, d :: gap, rest ++ trailing, ?_,
      fun c hc => List.all_eq_true.1 List.all_takeWhile c hc, hcolons',
      List.cons_ne_nil d gap, hgap⟩
    calc raw
        = raw.takeWhile isBlank ++ (raw.trim ++ trailing) :=
          htrailing ▸ (Text.takeWhile_append_trimLeft raw).symm
      _ = _ := by
          rw [htrim, hbehind]
          simp only [List.cons_append, List.append_assoc]
  · rintro ⟨front, colons, gap, rest, rfl, hfront, hcolons, hne, hgap⟩
    have hcolons : ∀ c ∈ ':' :: colons, (c == ':') = true := fun c hc => by
      obtain rfl | hc := List.mem_cons.1 hc
      · rfl
      · exact beq_iff_eq.2 (hcolons c hc)
    obtain ⟨d, gap', rfl⟩ := List.exists_cons_of_ne_nil hne
    have hd : isBlank d = true := hgap d List.mem_cons_self
    have hd_ne : d ≠ ':' := by
      rintro rfl
      cases hd
    have htrim : (front ++ ':' :: (colons ++ (d :: gap' ++ ':' :: rest))).trim =
        ':' :: colons ++ (d :: gap' ++ ':' :: rest.trimRight) := by
      rw [Text.trim, Text.trimLeft, List.dropWhile_append_of_pos hfront,
        List.dropWhile_cons_of_neg (by decide), ← List.append_assoc, ← List.cons_append,
        Text.trimRight_append_cons (by decide)]
      simp only [List.cons_append, List.append_assoc]
    rw [commandText, htrim, Text.trimLeftOf, List.dropWhile_append_of_pos hcolons,
      List.cons_append, List.dropWhile_cons_of_neg (by simpa using hd_ne), Text.trimLeft,
      ← List.cons_append, List.dropWhile_append_of_pos hgap]
    rfl

/-! ## lines that are read alike -/

/-- Whether two results are the same fault, or two things that `R` relates. -/
def AlikeBy {α : Type} (R : α → α → Prop) : Except Fault α → Except Fault α → Prop
  | .ok x, .ok y => R x y
  | .error f, .error g => f = g
  | _, _ => False

/-- Whether two lines were recognised as the same but for the lines themselves: as the same range,
as a call of the same row with the same name, bang, arguments and range, or as the same error. -/
def Recognised.Alike : Recognised → Recognised → Prop
  | .bare range, .bare range' => range = range'
  | .entry row call range, .entry row' call' range' =>
    row = row' ∧ call.name = call'.name ∧ call.bang = call'.bang ∧ call.args = call'.args ∧
      range = range'
  | .refused e, .refused e' => e.code = e'.code
  | _, _ => False

/-- Whether two lines were read as the same command with the same range, or refused with the same
error. -/
def Parsed.Alike : Parsed → Parsed → Prop
  | .command c range, .command c' range' => c = c' ∧ range = range'
  | .refused e, .refused e' => e.code = e'.code
  | _, _ => False

/-- A line is held against the table in the same way whatever the whole line is. -/
theorem alike_recogniseBody (t : Table) (raw raw' : Text) (range : Option LineRange)
    (body : Text) :
    (t.recogniseBody raw range body).Alike (t.recogniseBody raw' range body) := by
  unfold recogniseBody
  extract_lets name rest bang args
  split
  · split
    · exact rfl
    · exact rfl
  split
  · exact rfl
  split
  · exact rfl
  split
  · exact rfl
  split
  · exact rfl
  · exact ⟨rfl, rfl, rfl, rfl, rfl⟩

theorem alike_recognise (t : Table) (h : commandText raw = commandText raw') :
    AlikeBy Recognised.Alike (t.recognise raw) (t.recognise raw') := by
  unfold recognise
  rw [h]
  split
  · exact alike_recogniseBody t raw raw' _ _
  · split
    · exact rfl
    · exact rfl

theorem alike_build {line line' : Recognised} (h : line.Alike line')
    (hrow : ∀ row call range, line = .entry row call range → row.IgnoresLine) :
    AlikeBy Parsed.Alike line.build line'.build := by
  cases line with
  | bare range => cases line' with
    | bare range' => exact ⟨rfl, h⟩
    | entry | refused => exact h.elim
  | refused e => cases line' with
    | refused e' => exact h
    | entry | bare => exact h.elim
  | entry row call range => cases line' with
    | bare | refused => exact h.elim
    | entry row' call' range' =>
      obtain ⟨rfl, hname, hbang, hargs, rfl⟩ := h
      have hcall : { call with raw := call'.raw } = call' := by
        cases call
        cases call'
        simp_all
      have hbuild : row.build call' = row.build call :=
        hcall ▸ hrow row call range rfl call call'.raw
      unfold Recognised.build
      dsimp only
      rw [hbuild]
      split
      · exact ⟨rfl, rfl⟩
      · split
        · exact rfl
        · exact rfl

/-- Lines of which the same is left are read as the same command, or refused with the same error. -/
theorem alike_parse {t : Table} (ht : ∀ row ∈ t.rows, row.IgnoresLine)
    (h : commandText raw = commandText raw') :
    AlikeBy Parsed.Alike (t.parse raw) (t.parse raw') := by
  have halike := alike_recognise t h
  unfold parse
  cases hline : t.recognise raw with
  | error f => cases hline' : t.recognise raw' with
    | error f' =>
      rw [hline, hline'] at halike
      exact halike
    | ok line' =>
      rw [hline, hline'] at halike
      exact halike.elim
  | ok line => cases hline' : t.recognise raw' with
    | error f' =>
      rw [hline, hline'] at halike
      exact halike.elim
    | ok line' =>
      rw [hline, hline'] at halike
      refine alike_build halike fun row call range hrow => ?_
      exact ht row (mem_of_recognise (hrow ▸ hline))

/-! ## a colon that is left over -/

/-- No command starts with a colon. -/
theorem recognise_of_colon (t : Table) (h : (commandText raw).head? = some ':') :
    t.recognise raw = .ok (.refused ⟨.notAnEditorCommand, raw.trim⟩) := by
  obtain ⟨rest, hrest⟩ := List.head?_eq_some_iff.1 h
  have hparse : LineRange.parse (':' :: rest) = .ok (none, ':' :: rest) := rfl
  have hself : Text.trimLeft (':' :: rest) = ':' :: rest :=
    Text.trimLeft_cons_of_not_blank (by decide)
  simp only [recognise, hrest, hparse, hself]
  rfl

/-- The built-in rows do not look at the line they stand in. -/
theorem ignoresLine_of_mem {homes : List (Text × Text)} {row : Row}
    (h : row ∈ builtInRows homes) : row.IgnoresLine := by
  simp only [builtInRows, List.mem_cons, List.not_mem_nil, or_false] at h
  obtain rfl | rfl | rfl | rfl | rfl | rfl | rfl | rfl | rfl | rfl | rfl := h
  all_goals exact fun _ _ => rfl

/-- With a colon left over a line is read like one without, just if that is no command either. -/
theorem alike_parse_of_repeatsColon {t : Table} (h : raw.RepeatsColon) (raw' : Text) :
    AlikeBy Parsed.Alike (t.parse raw) (t.parse raw') ↔
      ∃ e, t.parse raw' = .ok (.refused e) ∧ e.code = .notAnEditorCommand := by
  have hraw : t.parse raw = .ok (.refused ⟨.notAnEditorCommand, raw.trim⟩) := by
    rw [parse, recognise_of_colon t ((head?_commandText_iff raw).2 h)]
    rfl
  rw [hraw]
  constructor
  · intro halike
    cases h' : t.parse raw' with
    | error f =>
      rw [h'] at halike
      exact halike.elim
    | ok line => cases line with
      | command c range =>
        rw [h'] at halike
        exact halike.elim
      | refused e =>
        rw [h'] at halike
        exact ⟨e, rfl, halike.symm⟩
  · rintro ⟨e, h', he⟩
    rw [h']
    exact he.symm

theorem colon_or_blank_of_all {p : Text} (h : p.all (fun c => c == ':' || isBlank c) = true) :
    ∀ c ∈ p, c = ':' ∨ isBlank c = true := by
  simpa using h

/-- Colons and blanks in front of a line.  Unless blanks stand between two colons there, the line
calls the same row with the same name, bang, arguments and range as without them, or has the same
range or error; where blanks do, it is no command at all.  So with rows that do not look at the
whole line, as the built-in ones do not, the line is read as the same command or refused with the
same error just if no blanks stand between two colons, or there was no command to be read. -/
theorem parse_front (t : Table) {p : Text} (hp : ∀ c ∈ p, c = ':' ∨ isBlank c = true)
    (b : Text) :
    (¬ (p ++ b).RepeatsColon → AlikeBy Recognised.Alike (t.recognise (p ++ b)) (t.recognise b)) ∧
    ((p ++ b).RepeatsColon →
      t.recognise (p ++ b) = .ok (.refused ⟨.notAnEditorCommand, (p ++ b).trim⟩)) ∧
    ((∀ row ∈ t.rows, row.IgnoresLine) →
      (AlikeBy Parsed.Alike (t.parse (p ++ b)) (t.parse b) ↔
        ¬ (p ++ b).RepeatsColon ∨
          ∃ e, t.parse b = .ok (.refused e) ∧ e.code = .notAnEditorCommand)) ∧
    ∀ homes, ∀ row ∈ builtInRows homes, row.IgnoresLine := by
  have hleft (h : ¬ (p ++ b).RepeatsColon) : commandText (p ++ b) = commandText b :=
    (commandText_append hp b).resolve_left (mt (head?_commandText_iff _).1 h)
  refine ⟨fun h => alike_recognise t (hleft h),
    fun h => recognise_of_colon t ((head?_commandText_iff _).2 h), fun ht => ?_,
    fun homes row hrow => ignoresLine_of_mem hrow⟩
  by_cases h : (p ++ b).RepeatsColon
  · rw [alike_parse_of_repeatsColon h]
    exact ⟨Or.inr, fun h' => h'.resolve_left (not_not_intro h)⟩
  · exact iff_of_true (alike_parse ht (hleft h)) (Or.inl h)

/-- Blanks, two colons and blanks again are taken off. -/
theorem parse_front_colons :
    let t := ofExtra [] []
    let p : Text := "\t:: ".toList
    let b : Text := " 2,$y x ".toList
    (∀ c ∈ p, c = ':' ∨ isBlank c = true) ∧ (∀ row ∈ t.rows, row.IgnoresLine) ∧
      ¬ (p ++ b).RepeatsColon ∧ AlikeBy Parsed.Alike (t.parse (p ++ b)) (t.parse b) := by
  intro t p b
  have hp : ∀ c ∈ p, c = ':' ∨ isBlank c = true := colon_or_blank_of_all rfl
  have hfront : ¬ (p ++ b).RepeatsColon := mt (head?_commandText_iff _).2 (by decide)
  obtain ⟨-, -, halike, hrows⟩ := parse_front t hp b
  have ht : ∀ row ∈ t.rows, row.IgnoresLine := hrows []
  exact ⟨hp, ht, hfront, (halike ht).2 (Or.inl hfront)⟩

/-- Behind one colon, a blank and another colon the command is not read. -/
theorem parse_front_repeated :
    let t := ofExtra [] []
    let p : Text := ": :".toList
    let b : Text := ['d']
    (∀ c ∈ p, c = ':' ∨ isBlank c = true) ∧
      t.parse b = .ok (.command (.delete ⟨none, none⟩) none) ∧
      t.parse (p ++ b) = .ok (.refused ⟨.notAnEditorCommand, ": :d".toList⟩) ∧
      ¬ AlikeBy Parsed.Alike (t.parse (p ++ b)) (t.parse b) :=
  ⟨colon_or_blank_of_all rfl, rfl, rfl, fun h => h⟩

end Table

end ExMode
