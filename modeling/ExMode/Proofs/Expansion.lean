import ExMode.Proofs.Rewriting
import ExMode.Proofs.Taking

/-!
# ExMode.Proofs.Expansion

What is put in the place of a match.  A replacement is read from left to right as it was typed, and
the template that it is written in stands for just that, whatever the match and its groups; it is
refused only for a digit that names a group that is not there.

The replacement `&` puts every match back where it was.  A line is cut into what is between the
matches and what they took, so putting the matches back gives the line again.

* `Magic.expand_pieces` — a template expands to what the replacement reads as;
* `Pattern.spliceFrom_text` — putting the matches back;
* `Command.replacement_read` — both, for every replacement and for every line and buffer.
-/

namespace ExMode

namespace Magic

open Pattern (Match Piece Template)

/-! ## reading a replacement -/

/-- What a character behind a backslash reads as. -/
def escapeReading (m : Match) (c : Char) : Text :=
  if isAsciiDigit c then m.groupText (Text.digitsValue [c])
  else if c = 'r' ∨ c = 'n' then ['\n']
  else [c]

/-- What a replacement reads as for a match, from left to right. -/
def reading (m : Match) : Text → Text
  | [] => []
  | '&' :: t => m.text ++ reading m t
  | '\\' :: c :: t => escapeReading m c ++ reading m t
  | c :: t => c :: reading m t

/-- The groups that a replacement names: the digits behind a backslash. -/
def namedGroups : Text → List Nat
  | '\\' :: c :: t =>
    if isAsciiDigit c then Text.digitsValue [c] :: namedGroups t else namedGroups t
  | _ :: t => namedGroups t
  | [] => []

theorem pieceText_escapedPiece (m : Match) (c : Char) :
    Template.pieceText m (escapedPiece c) = escapeReading m c := by
  unfold escapedPiece escapeReading
  split
  · rfl
  split <;> rfl

theorem expand_cons (x : Piece) (t : Template) (m : Match) :
    Template.expand (x :: t) m = Template.pieceText m x ++ Template.expand t m :=
  List.flatMap_cons

/-- A backslash is read by itself only at the end. -/
theorem plain_of_not_escape {c : Char} {t : Text}
    (h : ∀ d r, c = '\\' → t = d :: r → False) : c ≠ '\\' ∨ t = [] := by
  cases t with
  | nil => exact Or.inr rfl
  | cons d r => exact Or.inl fun hc => h d r hc rfl

/-- The pieces of a replacement expand to what it reads as. -/
theorem expand_pieces (m : Match) (t : Text) : (pieces t).expand m = reading m t := by
  fun_induction reading m t with
  | case1 => rfl
  | case2 t ih =>
    rw [pieces_cons (Or.inl (by decide)), expand_cons, ih]
    rfl
  | case3 c t ih => rw [pieces, if_pos rfl, expand_cons, pieceText_escapedPiece, ih]
  | case4 c t hc hescape ih =>
    rw [pieces_cons (plain_of_not_escape hescape), expand_cons, ih, plainPiece, if_neg hc]
    rfl

/-- A group that is not there is named by a digit. -/
theorem group_mem_pieces {i : Nat} (hi : i ≠ 0) (t : Text) :
    .group i ∈ pieces t ↔ i ∈ namedGroups t := by
  fun_induction namedGroups t with
  | case1 c t hc ih => simp [pieces, escapedPiece, hc, ih]
  | case2 c t hc ih =>
    have hpiece : escapedPiece c ≠ .group i := by
      unfold escapedPiece
      rw [if_neg hc]
      split <;> rintro ⟨⟩
    simp [pieces, hpiece.symm, ih]
  | case3 c t hescape ih =>
    have hpiece : plainPiece c ≠ .group i := by
      unfold plainPiece
      split
      · exact fun h => hi (Piece.group.inj h).symm
      · rintro ⟨⟩
    rw [pieces_cons (plain_of_not_escape hescape), List.mem_cons, ih]
    simp [hpiece.symm]
  | case4 => simp [pieces]

/-- A replacement is written in a template that expands to what it reads as, unless a digit names a
group that is not there. -/
theorem expand_ofText (groups : Nat) (t : Text) :
    (∀ i ∈ namedGroups t, i ≤ groups) ∧ (∃ template,
        Template.ofText groups (templateText t) = .ok template ∧
          ∀ m, template.expand m = reading m t) ∨
      ∃ i ∈ namedGroups t, groups < i ∧ ∃ position,
        Template.ofText groups (templateText t) = .error (Template.missingGroup i position) := by
  obtain ⟨hfits, hread⟩ | ⟨i, position, hi, hlt, hread⟩ := ofText_templateText groups t
  · refine Or.inl ⟨fun i hi => ?_, pieces t, hread, fun m => expand_pieces m t⟩
    by_cases hzero : i = 0
    · exact hzero ▸ Nat.zero_le groups
    · exact hfits i ((group_mem_pieces hzero t).2 hi)
  · exact Or.inr ⟨i, (group_mem_pieces (Nat.ne_zero_of_lt hlt) t).1 hi, hlt, position, hread⟩

end Magic

/-! ## putting the matches back -/

namespace Pattern

variable {p : Pattern} {nonempty : Bool} {before after : Text} {m : Match}

theorem ahead_of_matchAt? {s : Place} (h : p.matchAt? nonempty s = some m) :
    m.start = s ∧ s.Ahead m.stop := by
  obtain ⟨e, hrun, rfl⟩ := Option.map_eq_some_iff.1 h
  obtain ⟨e', he', hk⟩ := exists_of_run hrun
  refine ⟨rfl, ?_⟩
  split at hk
  · cases hk
  · cases hk
    exact he'.ahead

/-- A match is found further along the line, and ends further along than it starts. -/
theorem ahead_of_findFrom (h : p.findFrom nonempty before after = some m) :
    Place.Ahead ⟨before, after, []⟩ m.start ∧ m.start.Ahead m.stop := by
  induction after generalizing nonempty before with
  | nil =>
    obtain ⟨hstart, hstop⟩ := ahead_of_matchAt? h
    rw [hstart]
    exact ⟨.refl _, hstop⟩
  | cons c after ih =>
    rw [findFrom] at h
    split at h
    · rename_i m' hm
      cases h
      obtain ⟨hstart, hstop⟩ := ahead_of_matchAt? hm
      rw [hstart]
      exact ⟨.refl _, hstop⟩
    · obtain ⟨hstart, hstop⟩ := ih h
      exact ⟨(Place.ahead_step rfl).trans hstart, hstop⟩

/-- Putting a match back and going on from where it ends. -/
theorem spliceFrom_cons_text (h : p.findFrom nonempty before after = some m)
    {ms : List (Match × Text)} (hms : spliceFrom m.stop.after ms = m.stop.after) :
    spliceFrom after ((m, m.text) :: ms) = after := by
  obtain ⟨hstart, hstop⟩ := ahead_of_findFrom h
  have hafter : after = after.take (after.length - m.start.after.length) ++ m.start.after :=
    hstart.after_eq
  rw [spliceFrom, hms, List.append_assoc, Match.text, ← hstop.after_eq, ← hafter]

theorem spliceFrom_matchesFrom_text (fuel : Nat) (nonempty : Bool) (before after : Text) :
    spliceFrom after ((p.matchesFrom fuel nonempty before after).map fun m => (m, m.text)) =
      after := by
  induction fuel generalizing nonempty before after with
  | zero => rfl
  | succ fuel ih =>
    rw [matchesFrom]
    split
    · rfl
    · rename_i m hm
      exact spliceFrom_cons_text hm (ih _ _ _)

end Pattern

namespace Substitution

open Pattern (Template)

variable {s : Substitution} {line : Text}

/-- Putting back what was matched gives the line again. -/
theorem spliceFrom_text (s : Substitution) (line : Text) :
    Pattern.spliceFrom line ((s.matchesOn line).map fun m => (m, m.text)) = line := by
  unfold matchesOn
  split
  · exact Pattern.spliceFrom_matchesFrom_text _ _ _ _
  · rw [Pattern.firstIn?]
    cases hfound : s.compiled.pattern.findFrom false [] line with
    | none => rfl
    | some m => exact Pattern.spliceFrom_cons_text hfound rfl

/-- Replacing every match by itself keeps the line. -/
theorem linesFor_whole (s : Substitution) (hline : '\n' ∉ line) :
    s.linesFor [.group 0] line = [line] := by
  have hexpand (m : Pattern.Match) : Template.expand [.group 0] m = m.text :=
    List.flatMap_singleton _ _
  unfold linesFor
  split
  · rfl
  · simp only [hexpand, spliceFrom_text]
    exact Text.splitOn_of_not_mem hline

/-- The replacement `&` is read, whatever the pattern. -/
theorem ofText_of_whole {args : Text} (h : ofArgs args = .ok s)
    (hwhole : replacementOf args = ['&']) :
    Template.ofText s.compiled.groups s.template = .ok [.group 0] := by
  have hfits : Template.Fits s.compiled.groups [.group 0] := by
    intro i hi
    cases List.mem_singleton.1 hi
    exact Nat.zero_le _
  obtain ⟨-, hread⟩ | ⟨hmissing, -⟩ := ofText_of_ofArgs h <;> rw [hwhole] at *
  · exact hread
  · exact absurd hfits hmissing

end Substitution

namespace Command

open Pattern (Match Template)

/-- A substitution that puts every match back leaves the lines of a buffer as they are, if it finds
them at all. -/
theorem lines_of_whole {args : Text} {sub : Substitution}
    (hsub : Substitution.ofArgs args = .ok sub)
    (hwhole : Substitution.replacementOf args = ['&']) {e : Editor} (hb : e.buffer.WellFormed)
    (range : Option LineRange) :
    (runFrom (runSubstitute sub range) e).2.buffer.lines = e.buffer.lines := by
  cases hs : e.buffer.span range sub.count with
  | error f => rw [runFrom_substitute, hs]
  | ok s =>
    obtain ⟨front, inside, rest, hcut⟩ := Buffer.exists_cuts_of_span hb hs
    obtain ⟨-, hrun⟩ | ⟨upper, line, lower, -, hrun⟩ :=
      runFrom_substitute_of_cuts hb hs hcut (Substitution.ofText_of_whole hsub hwhole)
    · rw [hrun]
    rw [hrun]
    split
    · rfl
    · have hkept : inside.flatMap (sub.linesFor [.group 0]) = inside.flatMap fun l => [l] :=
        List.flatMap_congr fun l hl => sub.linesFor_whole (hb.no_newline l (hcut.mem hl))
      dsimp only
      rw [hkept, List.flatMap_singleton', hcut.lines_eq]

/-- A replacement is written in a template that expands to what the replacement reads as, whatever
the match and its groups; the template is refused exactly if a digit names a group that is not
there.  The replacement `&` changes no line, whatever the pattern, and no buffer. -/
theorem replacement_read :
    (∀ (groups : Nat) (t : Text),
      (∀ i ∈ Magic.namedGroups t, i ≤ groups) ∧ (∃ template,
          Template.ofText groups (Magic.templateText t) = .ok template ∧
            ∀ m : Match, template.expand m = Magic.reading m t) ∨
        ∃ i ∈ Magic.namedGroups t, groups < i ∧ ∃ position,
          Template.ofText groups (Magic.templateText t) =
            .error (Template.missingGroup i position)) ∧
    ∀ (args : Text) (sub : Substitution), Substitution.ofArgs args = .ok sub →
      Substitution.replacementOf args = ['&'] →
      (∀ line : Text, '\n' ∉ line → sub.onLine line = .ok ([line], sub.hitsOn line)) ∧
      ∀ e : Editor, e.buffer.WellFormed → ∀ (past : List Text) (range : Option LineRange),
        (runFrom ((Command.substitute sub).perform past range) e).2.buffer.lines =
          e.buffer.lines := by
  refine ⟨Magic.expand_ofText, fun args sub hsub hwhole => ⟨fun line hline => ?_, ?_⟩⟩
  · rw [Substitution.onLine_eq (Substitution.ofText_of_whole hsub hwhole),
      sub.linesFor_whole hline]
  · intro e hb past range
    exact lines_of_whole hsub hwhole hb range

/-- Runs of a letter are put back, the empty ones too. -/
theorem replacement_read_whole :
    let b : Buffer := { Buffer.empty with lines := [['b', 'a', 'a'], []] }
    let e : Editor := ⟨b, Registers.empty, ⟨[], [], [], [], .standard⟩⟩
    b.WellFormed ∧ Magic.namedGroups "&\\1\\&".toList = [1] ∧
      ∃ sub, Substitution.ofArgs "/a*/&/g".toList = .ok sub ∧
        sub.hitsOn ['b', 'a', 'a'] = 3 ∧
        sub.onLine ['b', 'a', 'a'] = .ok ([['b', 'a', 'a']], 3) ∧
        (runFrom ((Command.substitute sub).perform [] (some .wholeFile)) e).2.buffer.lines =
          b.lines := by
  intro b e
  have hb : b.WellFormed := ⟨by decide, by decide, by decide, by decide⟩
  have hread : (Substitution.ofArgs "/a*/&/g".toList).toOption.any
      (fun sub => sub.hitsOn ['b', 'a', 'a'] == 3) = true := by decide +kernel
  obtain ⟨sub, hsub, hhits⟩ := any_toOption_eq_true.1 hread
  have hhits : sub.hitsOn ['b', 'a', 'a'] = 3 := beq_iff_eq.1 hhits
  obtain ⟨hline, hlines⟩ := replacement_read.2 _ sub hsub (by decide)
  refine ⟨hb, by decide, sub, hsub, hhits, ?_, hlines e hb [] (some .wholeFile)⟩
  rw [hline _ (by decide), hhits]

end Command

end ExMode
