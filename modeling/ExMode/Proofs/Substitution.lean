import ExMode.Command.Substitution
import ExMode.Proofs.Buffer
import ExMode.Proofs.Effect

/-!
# ExMode.Proofs.Substitution

Substituting in a span, line by line: what can go wrong, and what the new lines
are made of.  Once a substitution was read, the only thing that can still be
refused is its template, and a span inside the buffer never leads to a line that
is not there.  The template is that of the replacement as it was typed
(`template_of_ofArgs`).
-/

namespace ExMode

/-- A template is refused for its wording only. -/
theorem malformed_of_readFrom {groups fuel place : Nat} {t : Text} {e : Pattern.Refusal}
    (h : Pattern.Template.readFrom groups fuel place t = .error e) :
    ∃ what position, e = .malformed what position := by
  fun_induction Pattern.Template.readFrom groups fuel place t generalizing e with
  | case1 | case2 => cases h
  | case4 | case5 | case7 | case9 | case10 =>
    cases h
    exact ⟨_, _, rfl⟩
  | case3 | case6 | case8 =>
    rename_i ih
    exact ih (map_eq_error.1 h)

namespace Substitution

variable {s : Substitution} {line : Text} {lines : List Text} {w w' : Substituted}

/-! ## one line -/

/-- A line on which a substitution stops short has a template that no line can be expanded with. -/
theorem command_of_onLine {f : Fault} (h : s.onLine line = .error f) :
    ∃ e, f = .command e := by
  simp only [onLine] at h
  cases ht : Pattern.Template.ofText s.compiled.groups s.template with
  | error e =>
    obtain ⟨what, position, rfl⟩ := malformed_of_readFrom ht
    rw [ht] at h
    cases h
    exact ⟨_, rfl⟩
  | ok template =>
    rw [ht] at h
    cases h

/-- A line becomes whole lines: it is cut wherever a line break was put in. -/
theorem newline_not_mem_onLine (hline : '\n' ∉ line) {new : List Text} {hits : Nat}
    (h : s.onLine line = .ok (new, hits)) : ∀ l ∈ new, '\n' ∉ l := by
  obtain ⟨template, -, h⟩ := bind_eq_ok.1 h
  simp only [pure, Except.pure, Except.ok.injEq, Prod.mk.injEq] at h
  obtain ⟨rfl, rfl⟩ := h
  intro l hl
  split at hl
  · rw [List.mem_singleton] at hl
    rwa [hl]
  · exact Text.not_mem_of_mem_splitOn hl

/-! ## a span of lines -/

/-- Lines that are substituted in one after the other: those before, then the next one. -/
theorem onLinesFrom_succ (s : Substitution) (lines : List Text) (n : Nat) (i : Int)
    (w : Substituted) {line : Text} (hi : Span.at? lines i = some line) :
    s.onLinesFrom lines (n + 1) i w = (s.onLine line >>= fun x =>
      s.onLinesFrom lines n (i + 1) ⟨w.lines ++ x.1, w.hits + x.2,
        if x.2 = 0 then w.changed else w.changed + 1,
        if x.2 = 0 then w.lastChanged else i⟩) := by
  simp only [onLinesFrom, hi]

theorem newline_not_mem_onLinesFrom (hlines : ∀ l ∈ lines, '\n' ∉ l) {n : Nat} {i : Int}
    (hw : ∀ l ∈ w.lines, '\n' ∉ l) (h : s.onLinesFrom lines n i w = .ok w') :
    ∀ l ∈ w'.lines, '\n' ∉ l := by
  induction n generalizing i w with
  | zero =>
    cases h
    exact hw
  | succ n ih =>
    cases hi : Span.at? lines i with
    | none =>
      simp only [onLinesFrom, hi] at h
      cases h
    | some line =>
      rw [onLinesFrom_succ s lines n i w hi] at h
      obtain ⟨⟨new, hits⟩, hnew, h⟩ := bind_eq_ok.1 h
      refine ih ?_ h
      intro l hl
      obtain hl | hl := List.mem_append.1 hl
      · exact hw l hl
      · exact newline_not_mem_onLine (hlines line (Span.mem_of_at? hi)) hnew l hl

/-- Every line that a substitution leaves behind is a whole line. -/
theorem newline_not_mem_onLines (hlines : ∀ l ∈ lines, '\n' ∉ l) {first last : Int}
    (h : s.onLines lines first last = .ok w) : ∀ l ∈ w.lines, '\n' ∉ l :=
  newline_not_mem_onLinesFrom hlines (by simp) h

/-- Inside the buffer every line is there, so only the template can be refused. -/
theorem command_of_onLinesFrom {n : Nat} {i : Int} (h0 : 0 ≤ i) (hn : i + n ≤ lines.length)
    {f : Fault} (h : s.onLinesFrom lines n i w = .error f) : ∃ e, f = .command e := by
  induction n generalizing i w with
  | zero => cases h
  | succ n ih =>
    obtain ⟨line, hi⟩ := Span.exists_at?_eq_some h0 (by omega : i < lines.length)
    rw [onLinesFrom_succ s lines n i w hi] at h
    obtain h | ⟨x, -, h⟩ := bind_eq_error.1 h
    · exact command_of_onLine h
    · exact ih (by omega) (by omega) h

/-! ## the replacement as it was typed -/

/-- The replacement in the argument of a substitution. -/
def replacementOf (args : Text) : Text :=
  match args.trimLeft with
  | [] => []
  | delimiter :: body => (Magic.splitFields body delimiter)[1]?.getD []

theorem template_of_ofArgs {args : Text} (h : ofArgs args = .ok s) :
    s.template = Magic.templateText (replacementOf args) := by
  cases hargs : args.trimLeft with
  | nil =>
    rw [ofArgs, hargs] at h
    cases h
  | cons delimiter body =>
    have hreplacement : replacementOf args =
        (Magic.splitFields body delimiter)[1]?.getD [] := by
      rw [replacementOf, hargs]
    rw [hreplacement]
    rw [ofArgs, hargs] at h
    dsimp only at h
    split at h
    · cases h
    split at h
    · cases h
    split at h
    · cases h
    split at h
    · cases h
    · split at h
      all_goals
        obtain ⟨count, -, h⟩ := bind_eq_ok.1 h
        cases h
        rfl

end Substitution

end ExMode
