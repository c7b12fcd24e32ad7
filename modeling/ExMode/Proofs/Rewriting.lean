import ExMode.Proofs.Provenance
import ExMode.Proofs.Replacement
import Mathlib.Algebra.Ring.Nat

/-!
# ExMode.Proofs.Rewriting

Substituting rewrites the lines of a span one by one.  What a line becomes depends on the line
alone, so the new buffer is put together from what each line becomes, and all that is reported is a
sum over the lines.

A line without a match is kept.  In any other the matches are replaced, and the line is cut at the
line breaks that came in with the replacement; the line itself and what groups hold of it have none.

* `Substitution.onLine_eq`, `onLinesFrom_eq` — one line and a run over several, told from the lines;
* `Substitution.length_flatMap_linesFor` — there are as many lines more as line breaks came in;
* `Command.runFrom_substitute_of_ofArgs` — the ways in which a substitution can end;
* `Command.span_rewritten` — the buffer and the report;
* `Command.cursor_of_substituted` — the cursor.
-/

namespace ExMode

/-- The first entry of a part is behind the entries in front of it. -/
theorem Span.at?_length_front {α : Type} {xs front inside rest : List α} {x : α}
    (h : xs = front ++ (x :: inside) ++ rest) : at? xs front.length = some x := by
  rw [at?_natCast, h, List.append_assoc, List.getElem?_append_right (Nat.le_refl _)]
  simp

/-- A text has one part more than separators. -/
theorem Text.length_splitOn (sep : Char) (t : Text) :
    (splitOn sep t).length = t.count sep + 1 := by
  induction t with
  | nil => rfl
  | cons c rest ih =>
    by_cases hc : c = sep
    · subst hc
      simp [splitOn, ih]
    · rw [splitOn, if_neg hc, List.count_cons_of_ne hc]
      split
      · rename_i hnil
        exact absurd hnil (splitOn_ne_nil sep rest)
      · rename_i part parts hparts
        rw [hparts] at ih
        simpa using ih

/-- A text without separators is its only part. -/
theorem Text.splitOn_of_not_mem {sep : Char} {t : Text} (h : sep ∉ t) : splitOn sep t = [t] := by
  have hlength := length_splitOn sep t
  rw [List.count_eq_zero_of_not_mem h] at hlength
  obtain ⟨part, hpart⟩ := List.length_eq_one_iff.1 hlength
  have hjoin := joinWith_splitOn sep t
  rw [hpart] at hjoin
  rw [hpart, ← hjoin]
  rfl

/-! ## line breaks in a line that is rewritten -/

namespace Pattern

/-- Line breaks come in with what is put in the place of the matches, if they come in at all. -/
theorem count_newline_spliceFrom {after : Text} {ms : List (Match × Text)}
    (hafter : Text.Over (· ≠ '\n') after) (hms : ∀ x ∈ ms, x.1.Over (· ≠ '\n')) :
    (spliceFrom after ms).count '\n' = (ms.map fun x => x.2.count '\n').sum := by
  have hnone {t : Text} (ht : Text.Over (· ≠ '\n') t) : t.count '\n' = 0 :=
    List.count_eq_zero_of_not_mem fun hmem => ht _ hmem rfl
  induction ms generalizing after with
  | nil => exact hnone hafter
  | cons x ms ih =>
    obtain ⟨hm, hms⟩ := List.forall_mem_cons.1 hms
    have hkept := hafter.of_sublist (List.take_sublist (after.length - x.1.start.after.length) _)
    rw [spliceFrom, List.count_append, List.count_append, hnone hkept, ih hm.stop.after hms,
      List.map_cons, List.sum_cons, Nat.zero_add]

/-- A template puts in the line breaks that are written in it. -/
theorem Template.count_newline_expand {m : Match} (hm : m.Over (· ≠ '\n')) (t : Template) :
    (expand t m).count '\n' = t.count (.char '\n') := by
  induction t with
  | nil => rfl
  | cons x t ih =>
    have hexpand : expand (x :: t) m = pieceText m x ++ expand t m := List.flatMap_cons
    rw [hexpand, List.count_append, ih, List.count_cons, Nat.add_comm]
    congr 1
    cases x with
    | char c => by_cases hc : c = '\n' <;> simp [pieceText, hc]
    | group i =>
      have hgroup : (m.groupText i).count '\n' = 0 :=
        List.count_eq_zero_of_not_mem fun hmem => hm.groupText i _ hmem rfl
      simp [pieceText, hgroup]

end Pattern

namespace Substitution

open Pattern (Match Template)

variable {s : Substitution} {template : Template} {line : Text}

/-! ## one line -/

/-- The matches of a line that are replaced. -/
def matchesOn (s : Substitution) (line : Text) : List Match :=
  if s.everywhere then s.compiled.pattern.matchesIn line
  else (s.compiled.pattern.firstIn? line).toList

/-- The number of replacements in a line. -/
def hitsOn (s : Substitution) (line : Text) : Nat := (s.matchesOn line).length

/-- The lines that a line becomes. -/
def linesFor (s : Substitution) (template : Template) (line : Text) : List Text :=
  if s.matchesOn line = [] then [line]
  else Text.splitOn '\n'
    (Pattern.spliceFrom line ((s.matchesOn line).map fun m => (m, template.expand m)))

theorem hitsOn_eq_zero : s.hitsOn line = 0 ↔ s.matchesOn line = [] := List.length_eq_zero_iff

theorem linesFor_of_missed (h : s.matchesOn line = []) : s.linesFor template line = [line] :=
  if_pos h

/-- Substituting in a line, once the template is read. -/
theorem onLine_eq (h : Template.ofText s.compiled.groups s.template = .ok template)
    (line : Text) : s.onLine line = .ok (s.linesFor template line, s.hitsOn line) := by
  have hread : (Template.ofText s.compiled.groups s.template).mapError (faultOf s.template) =
      .ok template := by
    rw [h]
    rfl
  rw [onLine, hread]
  simp only [linesFor, ← hitsOn_eq_zero]
  rfl

theorem over_of_mem_matchesOn (hline : '\n' ∉ line) :
    ∀ m ∈ s.matchesOn line, m.Over (· ≠ '\n') := by
  have hover : Text.Over (· ≠ '\n') line := fun c hc => by
    rintro rfl
    exact hline hc
  unfold matchesOn
  split
  · exact Pattern.over_matchesFrom Text.over_nil hover
  · intro m hm
    exact Pattern.over_findFrom Text.over_nil hover (Option.mem_toList.1 hm)

/-- A line becomes one line more than line breaks are inserted in it. -/
theorem length_linesFor (hline : '\n' ∉ line) (s : Substitution) (template : Template) :
    (s.linesFor template line).length =
      1 + ((s.matchesOn line).map fun m => (template.expand m).count '\n').sum := by
  have hover : Text.Over (· ≠ '\n') line := fun c hc => by
    rintro rfl
    exact hline hc
  unfold linesFor
  split
  · rename_i hnone
    simp [hnone]
  · rw [Text.length_splitOn, Pattern.count_newline_spliceFrom hover, List.map_map, Nat.add_comm]
    · rfl
    · intro x hx
      obtain ⟨m, hm, rfl⟩ := List.mem_map.1 hx
      exact over_of_mem_matchesOn hline m hm

/-- Every match brings in the line breaks of the replacement. -/
theorem sum_newlines (hline : '\n' ∉ line) (s : Substitution) (template : Template) :
    ((s.matchesOn line).map fun m => (template.expand m).count '\n').sum =
      s.hitsOn line * template.count (.char '\n') := by
  have hconst : ((s.matchesOn line).map fun m => (template.expand m).count '\n') =
      (s.matchesOn line).map fun _ => template.count (.char '\n') :=
    List.map_congr_left fun m hm =>
      Template.count_newline_expand (over_of_mem_matchesOn hline m hm) template
  rw [hconst, List.map_const', List.sum_replicate_nat, hitsOn]

/-- Without the flag for all matches, a line has at most one replacement. -/
theorem hitsOn_of_not_everywhere (h : s.everywhere = false) (line : Text) :
    s.hitsOn line = if s.matchesOn line ≠ [] then 1 else 0 := by
  rw [hitsOn, matchesOn, h, if_neg Bool.false_ne_true]
  cases s.compiled.pattern.firstIn? line <;> simp

theorem sum_hitsOn_eq_zero {lines : List Text} :
    (lines.map s.hitsOn).sum = 0 ↔ ∀ l ∈ lines, s.matchesOn l = [] := by
  simp only [List.sum_eq_zero_iff_forall_eq_nat, List.forall_mem_map, hitsOn_eq_zero]

/-- Without the flag for all matches, there are as many replacements as lines with a match. -/
theorem sum_hitsOn_of_not_everywhere (h : s.everywhere = false) (lines : List Text) :
    (lines.map s.hitsOn).sum = lines.countP (s.matchesOn · ≠ []) := by
  induction lines with
  | nil => rfl
  | cons l lines ih =>
    rw [List.map_cons, List.sum_cons, ih, hitsOn_of_not_everywhere h, List.countP_cons,
      Nat.add_comm]
    simp only [decide_eq_true_eq]

/-! ## a span of lines -/

/-- A span of lines around the last of them that has a match. -/
structure LastHit (s : Substitution) (inside upper : List Text) (line : Text)
    (lower : List Text) : Prop where
  lines_eq : inside = upper ++ line :: lower
  hit : s.matchesOn line ≠ []
  missed : ∀ l ∈ lower, s.matchesOn l = []

theorem LastHit.mem {inside upper lower : List Text} (h : s.LastHit inside upper line lower) :
    line ∈ inside := by
  rw [h.lines_eq]
  simp

/-- What follows the last line with a match is kept. -/
theorem LastHit.flatMap_linesFor {inside upper lower : List Text}
    (h : s.LastHit inside upper line lower) (template : Template) :
    inside.flatMap (s.linesFor template) =
      upper.flatMap (s.linesFor template) ++ (s.linesFor template line ++ lower) := by
  have hlower : lower.flatMap (s.linesFor template) = lower.flatMap fun l => [l] :=
    List.flatMap_congr fun l hl => linesFor_of_missed (h.missed l hl)
  rw [h.lines_eq, List.flatMap_append, List.flatMap_cons, hlower, List.flatMap_singleton']

/-- A line in front of a span whose last line with a match is known. -/
theorem LastHit.cons {inside upper lower : List Text} (h : s.LastHit inside upper line lower)
    (l : Text) : s.LastHit (l :: inside) (l :: upper) line lower :=
  ⟨by rw [h.lines_eq, List.cons_append], h.hit, h.missed⟩

/-- Substituting in some lines, one after the other: what they become, the sum of the matches, the
number of lines with a match, and the last of those. -/
theorem onLinesFrom_eq (h : Template.ofText s.compiled.groups s.template = .ok template)
    {lines front inside rest : List Text} (hlines : lines = front ++ inside ++ rest)
    (w : Substituted) :
    ∃ last : Int, s.onLinesFrom lines inside.length front.length w = .ok
      ⟨w.lines ++ inside.flatMap (s.linesFor template), w.hits + (inside.map s.hitsOn).sum,
        w.changed + inside.countP (s.matchesOn · ≠ []), last⟩ ∧
      ((∀ l ∈ inside, s.matchesOn l = []) ∧ last = w.lastChanged ∨
        ∃ upper line lower, s.LastHit inside upper line lower ∧
          last = front.length + upper.length) := by
  induction inside generalizing front w with
  | nil => exact ⟨w.lastChanged, by simp [onLinesFrom], Or.inl ⟨nofun, rfl⟩⟩
  | cons l inside ih =>
    have hat := Span.at?_length_front hlines
    have hfront : ((front ++ [l]).length : Int) = front.length + 1 := by simp
    have hlines' : lines = (front ++ [l]) ++ inside ++ rest := by simp [hlines]
    rw [List.length_cons, onLinesFrom_succ s lines inside.length _ w hat, onLine_eq h]
    obtain ⟨last, hrun, hlast⟩ := ih hlines' ⟨w.lines ++ s.linesFor template l,
      w.hits + s.hitsOn l, if s.hitsOn l = 0 then w.changed else w.changed + 1,
      if s.hitsOn l = 0 then w.lastChanged else front.length⟩
    rw [hfront] at hrun
    refine ⟨last, hrun.trans ?_, ?_⟩
    · have hchanged : (if s.hitsOn l = 0 then w.changed else w.changed + 1) =
          w.changed + if s.matchesOn l ≠ [] then 1 else 0 := by
        simp only [hitsOn_eq_zero, ne_eq, ite_not]
        split <;> rfl
      simp only [hchanged, List.flatMap_cons, List.map_cons, List.sum_cons, List.countP_cons,
        List.append_assoc, Nat.add_assoc, decide_eq_true_eq]
      rw [Nat.add_comm (List.countP _ _)]
    · obtain ⟨hmissed, rfl⟩ | ⟨upper, line, lower, hhit, rfl⟩ := hlast
      · by_cases hl : s.hitsOn l = 0
        · exact Or.inl ⟨List.forall_mem_cons.2 ⟨hitsOn_eq_zero.1 hl, hmissed⟩, if_pos hl⟩
        · refine Or.inr ⟨[], l, inside, ⟨rfl, mt hitsOn_eq_zero.2 hl, hmissed⟩, ?_⟩
          exact (if_neg hl).trans (Int.add_zero _).symm
      · refine Or.inr ⟨l :: upper, line, lower, hhit.cons l, ?_⟩
        rw [hfront, List.length_cons]
        omega

/-- A template that is refused is refused on the first line. -/
theorem onLinesFrom_refused {r : Pattern.Refusal}
    (h : Template.ofText s.compiled.groups s.template = .error r)
    {lines front inside rest : List Text} (hlines : lines = front ++ inside ++ rest)
    (hne : inside ≠ []) (w : Substituted) :
    s.onLinesFrom lines inside.length front.length w = .error (faultOf s.template r) := by
  obtain ⟨l, inside, rfl⟩ := List.exists_cons_of_ne_nil hne
  have hat := Span.at?_length_front hlines
  have hline : s.onLine l = .error (faultOf s.template r) := by
    rw [onLine, h]
    rfl
  rw [List.length_cons, onLinesFrom_succ s lines inside.length _ w hat, hline]
  rfl

/-- The lines of a span become as many lines more as line breaks are inserted in them. -/
theorem length_flatMap_linesFor {lines : List Text} (hlines : ∀ l ∈ lines, '\n' ∉ l)
    (s : Substitution) (template : Template) :
    (lines.flatMap (s.linesFor template)).length = lines.length +
      ((lines.flatMap s.matchesOn).map fun m => (template.expand m).count '\n').sum := by
  induction lines with
  | nil => rfl
  | cons l lines ih =>
    obtain ⟨hl, hlines⟩ := List.forall_mem_cons.1 hlines
    rw [List.flatMap_cons, List.flatMap_cons, List.length_append, ih hlines, length_linesFor hl,
      List.map_append, List.sum_append, List.length_cons]
    omega

/-- The line breaks that are inserted in some lines are those of the replacement, once for every
match. -/
theorem sum_newlines_flatMap {lines : List Text} (hlines : ∀ l ∈ lines, '\n' ∉ l)
    (s : Substitution) (template : Template) :
    ((lines.flatMap s.matchesOn).map fun m => (template.expand m).count '\n').sum =
      (lines.map s.hitsOn).sum * template.count (.char '\n') := by
  induction lines with
  | nil => simp
  | cons l lines ih =>
    obtain ⟨hl, hlines⟩ := List.forall_mem_cons.1 hlines
    rw [List.flatMap_cons, List.map_append, List.sum_append, sum_newlines hl, ih hlines,
      List.map_cons, List.sum_cons, Nat.add_mul]

/-! ## the replacement as it was typed -/

/-- A substitution that was read either names groups that are there, and is carried out with the
pieces of its replacement, or it names one that is not. -/
theorem ofText_of_ofArgs {args : Text} (h : ofArgs args = .ok s) :
    let template := Magic.pieces (replacementOf args)
    template.Fits s.compiled.groups ∧
        Template.ofText s.compiled.groups s.template = .ok template ∨
      ¬ template.Fits s.compiled.groups ∧
        ∃ i position, Template.ofText s.compiled.groups s.template =
          .error (Template.missingGroup i position) := by
  intro template
  rw [template_of_ofArgs h]
  obtain hfits | ⟨i, position, hi, hlt, hread⟩ :=
    Magic.ofText_templateText s.compiled.groups (replacementOf args)
  · exact Or.inl hfits
  · exact Or.inr ⟨fun hfits => Nat.not_lt.2 (hfits i hi) hlt, i, position, hread⟩

end Substitution

/-! ## the command -/

namespace Command

open Pattern (Template)

variable {sub : Substitution} {e : Editor} {range : Option LineRange} {s : LineSpan}
  {front inside rest : List Text} {template : Template}

theorem onLines_of_cuts (hcut : s.Cuts e.buffer.lines front inside rest) :
    sub.onLines e.buffer.lines s.first s.last =
      sub.onLinesFrom e.buffer.lines inside.length front.length ⟨[], 0, 0, front.length⟩ := by
  have hlength : (s.last + 1 - s.first).toNat = inside.length := by
    rw [← hcut.length_inside, Int.toNat_natCast]
  rw [Substitution.onLines, hlength, ← hcut.length_front]

/-- A substitution whose template is read finds nothing, or reports what it found and rewrites the
lines unless it was only to count.  The cursor goes to the place that the last line with a match had
before. -/
theorem runFrom_substitute_of_cuts (hb : e.buffer.WellFormed)
    (hs : e.buffer.span range sub.count = .ok s)
    (hcut : s.Cuts e.buffer.lines front inside rest)
    (ht : Template.ofText sub.compiled.groups sub.template = .ok template) :
    let hits := (inside.map sub.hitsOn).sum
    let changed := inside.countP (sub.matchesOn · ≠ [])
    (∀ l ∈ inside, sub.matchesOn l = []) ∧ runFrom (runSubstitute sub range) e =
        (.ok (.failed ⟨.patternNotFound, sub.typed⟩), e) ∨
      ∃ upper line lower, sub.LastHit inside upper line lower ∧
        runFrom (runSubstitute sub range) e =
          if sub.countOnly then (.ok (.counted hits changed), e)
          else (.ok (.substituted hits changed), { e with buffer := { e.buffer with
            lines := front ++ inside.flatMap (sub.linesFor template) ++ rest
            cursor := front.length + upper.length
            modified := true } }) := by
  intro hits changed
  obtain ⟨last, hrun, hlast⟩ := Substitution.onLinesFrom_eq ht hcut.lines_eq
    ⟨[], 0, 0, front.length⟩
  simp only [List.nil_append, Nat.zero_add] at hrun
  rw [runFrom_substitute, hs]
  simp only [onLines_of_cuts hcut, hrun]
  obtain ⟨hmissed, -⟩ | ⟨upper, line, lower, hhit, rfl⟩ := hlast
  · exact Or.inl ⟨hmissed, if_pos (Substitution.sum_hitsOn_eq_zero.2 hmissed)⟩
  · refine Or.inr ⟨upper, line, lower, hhit, ?_⟩
    have hsome : (inside.map sub.hitsOn).sum ≠ 0 := fun hzero =>
      hhit.hit (Substitution.sum_hitsOn_eq_zero.1 hzero line hhit.mem)
    rw [if_neg hsome]
    split
    · rfl
    · have hinside : ∀ l ∈ inside, '\n' ∉ l := fun l hl => hb.no_newline l (hcut.mem hl)
      have hlength := Substitution.length_flatMap_linesFor hinside sub template
      have hupper : upper.length < inside.length := by
        rw [hhit.lines_eq]
        simp
      have hne : front ++ inside.flatMap (sub.linesFor template) ++ rest ≠ [] := by
        intro hnil
        have := congrArg List.length hnil
        simp only [List.length_append, List.length_nil] at this
        omega
      have hcursor : min ((front.length : Int) + upper.length)
          ((front ++ inside.flatMap (sub.linesFor template) ++ rest).length - 1) =
          front.length + upper.length := by
        simp only [List.length_append]
        omega
      have hpos : (0 : Int) ≤ front.length + upper.length := by omega
      rw [Buffer.replaceLines_of_cuts hcut _ hpos, if_neg hne, hcursor]

/-- A substitution whose template is refused does nothing. -/
theorem runFrom_substitute_refused (hs : e.buffer.span range sub.count = .ok s)
    (hcut : s.Cuts e.buffer.lines front inside rest) (hne : inside ≠ []) {i position : Nat}
    (ht : Template.ofText sub.compiled.groups sub.template =
      .error (Template.missingGroup i position)) :
    ∃ detail, runFrom (runSubstitute sub range) e =
      (.error (.command ⟨.invalidArgument, detail⟩), e) := by
  rw [runFrom_substitute, hs]
  simp only [onLines_of_cuts hcut,
    Substitution.onLinesFrom_refused ht hcut.lines_eq hne ⟨[], 0, 0, front.length⟩]
  exact ⟨_, rfl⟩

/-- Where there is no line to look at, none has a match. -/
theorem runFrom_substitute_nowhere (hs : e.buffer.span range sub.count = .ok s)
    (hcut : s.Cuts e.buffer.lines front [] rest) :
    runFrom (runSubstitute sub range) e = (.ok (.failed ⟨.patternNotFound, sub.typed⟩), e) := by
  rw [runFrom_substitute, hs]
  simp only [onLines_of_cuts hcut]
  rfl

/-- How a substitution that was read can end, once it has found its lines: it finds nothing, which
it can tell without its template if there are no lines; or its template is refused; or it reports
what it found and rewrites the lines, unless it was only to count. -/
theorem runFrom_substitute_of_ofArgs {args : Text} (hsub : Substitution.ofArgs args = .ok sub)
    (hb : e.buffer.WellFormed) (hs : e.buffer.span range sub.count = .ok s)
    (hcut : s.Cuts e.buffer.lines front inside rest) :
    let template := Magic.pieces (Substitution.replacementOf args)
    let hits := (inside.map sub.hitsOn).sum
    let changed := inside.countP (sub.matchesOn · ≠ [])
    (inside = [] ∨ template.Fits sub.compiled.groups) ∧ (∀ l ∈ inside, sub.matchesOn l = []) ∧
        runFrom (runSubstitute sub range) e =
          (.ok (.failed ⟨.patternNotFound, sub.typed⟩), e) ∨
      inside ≠ [] ∧ ¬ template.Fits sub.compiled.groups ∧
        (∃ detail, runFrom (runSubstitute sub range) e =
          (.error (.command ⟨.invalidArgument, detail⟩), e)) ∨
      template.Fits sub.compiled.groups ∧ ∃ upper line lower, sub.LastHit inside upper line lower ∧
        runFrom (runSubstitute sub range) e =
          if sub.countOnly then (.ok (.counted hits changed), e)
          else (.ok (.substituted hits changed), { e with buffer := { e.buffer with
            lines := front ++ inside.flatMap (sub.linesFor template) ++ rest
            cursor := front.length + upper.length
            modified := true } }) := by
  intro template hits changed
  by_cases hnil : inside = []
  · subst hnil
    exact Or.inl ⟨Or.inl rfl, nofun, runFrom_substitute_nowhere hs hcut⟩
  obtain ⟨hfits, hread⟩ | ⟨hfits, i, position, hread⟩ := Substitution.ofText_of_ofArgs hsub
  · obtain ⟨hnone, hrun⟩ | hsome := runFrom_substitute_of_cuts hb hs hcut hread
    · exact Or.inl ⟨Or.inr hfits, hnone, hrun⟩
    · exact Or.inr (Or.inr ⟨hfits, hsome⟩)
  · exact Or.inr (Or.inl ⟨hnil, hfits, runFrom_substitute_refused hs hcut hnil hread⟩)

/-- Where a substitution finds its lines, it takes them one by one.  A replacement that names a
group that is not there is refused.  Without a match there is nothing to report but that.  Else what
is reported are the matches and the lines that have one, and unless they were only to be counted,
what each line becomes stands in its place: the line itself, if it has no match.  There are as many
lines more as line breaks came in with the replacement. -/
theorem span_rewritten {args : Text} (hsub : Substitution.ofArgs args = .ok sub)
    (hb : e.buffer.WellFormed) (past : List Text) (range : Option LineRange) :
    let template := Magic.pieces (Substitution.replacementOf args)
    let run := runFrom ((Command.substitute sub).perform past range) e
    (∃ f, e.buffer.span range sub.count = .error f ∧ run = (.error f, e)) ∨
    ∃ s front inside rest, e.buffer.span range sub.count = .ok s ∧
      s.Cuts e.buffer.lines front inside rest ∧
      let hits := (inside.map sub.hitsOn).sum
      let changed := inside.countP (sub.matchesOn · ≠ [])
      let made := inside.flatMap (sub.linesFor template)
      (inside ≠ [] → ¬ template.Fits sub.compiled.groups →
        ∃ detail, run = (.error (.command ⟨.invalidArgument, detail⟩), e)) ∧
      (inside = [] ∨ template.Fits sub.compiled.groups → (∀ l ∈ inside, sub.matchesOn l = []) →
        run = (.ok (.failed ⟨.patternNotFound, sub.typed⟩), e)) ∧
      (template.Fits sub.compiled.groups → (∃ l ∈ inside, sub.matchesOn l ≠ []) →
        if sub.countOnly then run = (.ok (.counted hits changed), e)
        else ∃ cursor, run = (.ok (.substituted hits changed), { e with
          buffer := { e.buffer with
            lines := front ++ made ++ rest, cursor := cursor, modified := true } })) ∧
      made.length = inside.length +
        ((inside.flatMap sub.matchesOn).map fun m => (template.expand m).count '\n').sum ∧
      (sub.everywhere = false → hits = changed) := by
  intro template run
  cases hs : e.buffer.span range sub.count with
  | error f =>
    refine Or.inl ⟨f, rfl, ?_⟩
    dsimp only [run]
    rw [perform, runFrom_substitute, hs]
  | ok s =>
    obtain ⟨front, inside, rest, hcut⟩ := Buffer.exists_cuts_of_span hb hs
    have hinside : ∀ l ∈ inside, '\n' ∉ l := fun l hl => hb.no_newline l (hcut.mem hl)
    have hcases := runFrom_substitute_of_ofArgs hsub hb hs hcut
    refine Or.inr ⟨s, front, inside, rest, rfl, hcut, ?_, ?_, ?_,
      Substitution.length_flatMap_linesFor hinside sub template,
      fun h => Substitution.sum_hitsOn_of_not_everywhere h inside⟩
    · intro hne hfits
      obtain ⟨hread, -⟩ | ⟨-, -, hrun⟩ | ⟨hread, -⟩ := hcases
      · exact absurd (hread.resolve_left hne) hfits
      · exact hrun
      · exact absurd hread hfits
    · intro hread hnone
      obtain ⟨-, -, hrun⟩ | ⟨hne, hfits, -⟩ | ⟨-, upper, line, lower, hhit, -⟩ := hcases
      · exact hrun
      · exact absurd (hread.resolve_left hne) hfits
      · exact absurd (hnone line hhit.mem) hhit.hit
    · intro hfits hsome
      obtain ⟨-, hnone, -⟩ | ⟨-, hread, -⟩ | ⟨-, upper, line, lower, -, hrun⟩ := hcases
      · obtain ⟨l, hl, hhit⟩ := hsome
        exact absurd (hnone l hl) hhit
      · exact absurd hfits hread
      · split
        · rename_i hcount
          exact hrun.trans (if_pos hcount)
        · rename_i hcount
          exact ⟨_, hrun.trans (if_neg hcount)⟩

/-- Two lines of three are cut before each of their matches. -/
theorem span_rewritten_cut :
    let b : Buffer := { Buffer.empty with lines := [['a', 'a'], ['b'], ['a']] }
    let e : Editor := ⟨b, Registers.empty, ⟨[], [], [], [], .standard⟩⟩
    b.WellFormed ∧ ∃ sub, Substitution.ofArgs "/a/x\\r&/g".toList = .ok sub ∧
      ∃ cursor, runFrom ((Command.substitute sub).perform [] (some .wholeFile)) e =
        (.ok (.substituted 3 2), { e with buffer := { b with
          lines := [['x'], ['a', 'x'], ['a'], ['b'], ['x'], ['a']]
          cursor := cursor
          modified := true } }) := by
  intro b e
  have hb : b.WellFormed := ⟨by decide, by decide, by decide, by decide⟩
  have hread : (Substitution.ofArgs "/a/x\\r&/g".toList).toOption.any (fun sub =>
      sub.count == none && ! sub.countOnly && sub.matchesOn ['a'] != [] &&
      (b.lines.map sub.hitsOn).sum == 3 && b.lines.countP (sub.matchesOn · ≠ []) == 2 &&
      b.lines.flatMap (sub.linesFor [.char 'x', .char '\n', .group 0]) ==
        [['x'], ['a', 'x'], ['a'], ['b'], ['x'], ['a']]) = true := by decide +kernel
  obtain ⟨sub, hsub, hread⟩ := any_toOption_eq_true.1 hread
  simp only [Bool.and_eq_true, beq_iff_eq, bne_iff_ne, Bool.not_eq_true'] at hread
  obtain ⟨⟨⟨⟨⟨hcount, hcountOnly⟩, hhit⟩, hhits⟩, hchanged⟩, hmade⟩ := hread
  refine ⟨hb, sub, hsub, ?_⟩
  have htemplate : Magic.pieces (Substitution.replacementOf "/a/x\\r&/g".toList) =
      [.char 'x', .char '\n', .group 0] := by decide
  have hspan : e.buffer.span (some .wholeFile) sub.count = .ok ⟨0, 2⟩ := by
    rw [hcount]
    rfl
  obtain ⟨f, hf, -⟩ | ⟨s, front, inside, rest, hs, hcut, -, -, hrun, -⟩ :=
    span_rewritten (e := e) hsub hb [] (some .wholeFile)
  · rw [hspan] at hf
    cases hf
  rw [hspan] at hs
  cases hs
  obtain ⟨rfl, rfl, rfl⟩ := hcut.eq_of_whole rfl rfl
  rw [htemplate, hhits, hchanged, hmade, hcountOnly] at hrun
  refine hrun ?_ ⟨['a'], by decide, hhit⟩
  intro i hi
  have hi : i = 0 := by simpa using hi
  exact hi ▸ Nat.zero_le _

/-- What a substitution leaves in front of the last line with a match, what it made of that line,
and what follows; and the cursor, which is sent to the place that the line had before.  The line
breaks that came in above have moved it on from there: the cursor is on a line that was made of it
exactly if none of the lines above has a match, or no line break came in. -/
theorem cursor_of_substituted {args : Text} (hsub : Substitution.ofArgs args = .ok sub)
    (hb : e.buffer.WellFormed) {past : List Text} {hits changed : Nat} {e' : Editor}
    (h : runFrom ((Command.substitute sub).perform past range) e =
      (.ok (.substituted hits changed), e')) :
    let template := Magic.pieces (Substitution.replacementOf args)
    ∃ s front inside upper line lower rest, e.buffer.span range sub.count = .ok s ∧
      s.Cuts e.buffer.lines front inside rest ∧ sub.LastHit inside upper line lower ∧
      let above := front ++ upper.flatMap (sub.linesFor template)
      let made := sub.linesFor template line
      e'.buffer.lines = above ++ made ++ (lower ++ rest) ∧
      e'.buffer.cursor = front.length + upper.length ∧
      above.length = e'.buffer.cursor +
        (upper.map sub.hitsOn).sum * template.count (.char '\n') ∧
      (above.length ≤ e'.buffer.cursor ∧ e'.buffer.cursor < (above ++ made).length ↔
        (∀ l ∈ upper, sub.matchesOn l = []) ∨ .char '\n' ∉ template) := by
  intro template
  rw [perform] at h
  cases hs : e.buffer.span range sub.count with
  | error f =>
    rw [runFrom_substitute, hs] at h
    cases h
  | ok s =>
    obtain ⟨front, inside, rest, hcut⟩ := Buffer.exists_cuts_of_span hb hs
    obtain ⟨-, -, hrun⟩ | ⟨-, -, detail, hrun⟩ | ⟨-, upper, line, lower, hhit, hrun⟩ :=
        runFrom_substitute_of_ofArgs hsub hb hs hcut <;> rw [hrun] at h
    · cases h
    · cases h
    split at h
    · cases h
    cases h
    have hinside : ∀ l ∈ inside, '\n' ∉ l := fun l hl => hb.no_newline l (hcut.mem hl)
    have hupper : ∀ l ∈ upper, '\n' ∉ l := fun l hl =>
      hinside l (hhit.lines_eq ▸ List.mem_append_left _ hl)
    have hmade := Substitution.length_linesFor (hinside line hhit.mem) sub template
    have habove := Substitution.length_flatMap_linesFor hupper sub template
    rw [Substitution.sum_newlines_flatMap hupper] at habove
    refine ⟨s, front, inside, upper, line, lower, rest, rfl, hcut, hhit, ?_, rfl, ?_, ?_⟩
    · dsimp only
      rw [hhit.flatMap_linesFor]
      simp only [List.append_assoc]
      rfl
    · rw [List.length_append, habove]
      dsimp only
      omega
    · -- the cursor is never below the lines made, and above them by what came in higher up
      rw [← Substitution.sum_hitsOn_eq_zero, ← List.count_eq_zero, ← Nat.mul_eq_zero]
      simp only [List.length_append]
      omega

/-- The second of two lines is cut, and the cursor is on the upper part of it. -/
theorem cursor_of_substituted_below :
    let b : Buffer := { Buffer.empty with lines := [['b'], ['a']] }
    let e : Editor := ⟨b, Registers.empty, ⟨[], [], [], [], .standard⟩⟩
    b.WellFormed ∧ ∃ sub e', Substitution.ofArgs "/a/x\\ry/".toList = .ok sub ∧
      runFrom ((Command.substitute sub).perform [] (some .wholeFile)) e =
        (.ok (.substituted 1 1), e') ∧
      ∃ above below : List Text, e'.buffer.lines = above ++ [['x'], ['y']] ++ below ∧
        above.length ≤ e'.buffer.cursor ∧ e'.buffer.cursor < above.length + 2 := by
  intro b e
  have hb : b.WellFormed := ⟨by decide, by decide, by decide, by decide⟩
  refine ⟨hb, ?_⟩
  have hread : (Substitution.ofArgs "/a/x\\ry/".toList).toOption.any (fun sub =>
      sub.count == none && sub.matchesOn ['b'] == [] &&
      sub.linesFor [.char 'x', .char '\n', .char 'y'] ['a'] == [['x'], ['y']] &&
      (runFrom (runSubstitute sub (some .wholeFile)) e).1.toOption.any
        (· == .substituted 1 1)) = true := by decide +kernel
  obtain ⟨sub, hsub, hread⟩ := any_toOption_eq_true.1 hread
  simp only [Bool.and_eq_true, beq_iff_eq] at hread
  obtain ⟨⟨⟨hcount, hmissed⟩, hmade⟩, hanswer⟩ := hread
  obtain ⟨outcome, hanswer, houtcome⟩ := any_toOption_eq_true.1 hanswer
  rw [beq_iff_eq.1 houtcome] at hanswer
  have hrun : runFrom ((Command.substitute sub).perform [] (some .wholeFile)) e =
    (.ok (.substituted 1 1), (runFrom (runSubstitute sub (some .wholeFile)) e).2) :=
    Prod.ext hanswer rfl
  refine ⟨sub, _, hsub, hrun, ?_⟩
  have hspan : b.span (some .wholeFile) sub.count = .ok ⟨0, 1⟩ := by
    rw [hcount]
    rfl
  obtain ⟨s, front, inside, upper, line, lower, rest, hs, hcut, hhit, hlines, -, -, hplace⟩ :=
    cursor_of_substituted (e := e) hsub hb hrun
  have htemplate : Magic.pieces (Substitution.replacementOf "/a/x\\ry/".toList) =
      [.char 'x', .char '\n', .char 'y'] := by decide
  rw [hspan] at hs
  cases hs
  have hinside : upper ++ line :: lower = [['b'], ['a']] :=
    hhit.lines_eq.symm.trans hcut.slice_eq.symm
  -- the first of the two lines has no match, so the second is the last that has one
  obtain ⟨rfl, rfl⟩ : upper = [['b']] ∧ line = ['a'] := by
    match upper with
    | [] =>
      obtain ⟨rfl, -⟩ := List.cons.inj hinside
      exact absurd hmissed hhit.hit
    | [l] =>
      simp only [List.cons_append, List.nil_append, List.cons.injEq] at hinside
      exact ⟨by rw [hinside.1], hinside.2.1⟩
    | l :: m :: upper => simp at hinside
  rw [htemplate, hmade] at hlines hplace
  obtain ⟨hle, hlt⟩ := hplace.2 (Or.inl fun l hl => by rwa [List.mem_singleton.1 hl])
  rw [List.length_append, Int.natCast_add] at hlt
  exact ⟨_, _, hlines, hle, hlt⟩

/-- Both of two lines are cut.  The cursor stays on the second line, which was made of the first;
those that were made of the second follow. -/
theorem cursor_of_substituted_above :
    let b : Buffer := { Buffer.empty with lines := [['a'], ['a']] }
    let e : Editor := ⟨b, Registers.empty, ⟨[], [], [], [], .standard⟩⟩
    b.WellFormed ∧ ∃ sub e', Substitution.ofArgs "/a/x\\ry/".toList = .ok sub ∧
      runFrom ((Command.substitute sub).perform [] (some .wholeFile)) e =
        (.ok (.substituted 2 2), e') ∧
      sub.LastHit b.lines [['a']] ['a'] [] ∧
      sub.linesFor (Magic.pieces (Substitution.replacementOf "/a/x\\ry/".toList)) ['a'] =
        [['x'], ['y']] ∧
      e'.buffer.lines = [['x'], ['y']] ++ [['x'], ['y']] ∧ e'.buffer.cursor = 1 := by
  intro b e
  have hread : (Substitution.ofArgs "/a/x\\ry/".toList).toOption.any (fun sub =>
      let run := runFrom (runSubstitute sub (some .wholeFile)) e
      sub.matchesOn ['a'] != [] &&
      sub.linesFor (Magic.pieces (Substitution.replacementOf "/a/x\\ry/".toList)) ['a'] ==
        [['x'], ['y']] &&
      run.2.buffer.lines == [['x'], ['y'], ['x'], ['y']] && run.2.buffer.cursor == 1 &&
      run.1.toOption.any (· == .substituted 2 2)) = true := by decide +kernel
  refine ⟨⟨by decide, by decide, by decide, by decide⟩, ?_⟩
  obtain ⟨sub, hsub, hread⟩ := any_toOption_eq_true.1 hread
  simp only [Bool.and_eq_true, beq_iff_eq, bne_iff_ne] at hread
  obtain ⟨⟨⟨⟨hhit, hmade⟩, hlines⟩, hcursor⟩, hanswer⟩ := hread
  obtain ⟨outcome, hanswer, houtcome⟩ := any_toOption_eq_true.1 hanswer
  rw [beq_iff_eq.1 houtcome] at hanswer
  exact ⟨sub, _, hsub, Prod.ext hanswer rfl, ⟨rfl, hhit, nofun⟩, hmade, hlines, hcursor⟩

end Command

end ExMode
