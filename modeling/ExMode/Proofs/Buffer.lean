import ExMode.Command.Count
import ExMode.Proofs.Effect

/-!
# ExMode.Proofs.Buffer

Well-formed buffers: there is a line, the cursor is on one, and no line holds a
line feed.

* `wellFormed_ofText` — every buffer made from a text is well-formed;
* `wellFormed_replaceLines` — replacing lines by whole lines keeps it so,
  whatever is replaced;
* `span_mem` — on a well-formed buffer the lines that a command acts on are lines
  of the buffer;
* `exists_cuts_of_span`, `replaceLines_of_cuts` — the buffer in front of them, they
  themselves and what follows, and the buffer with other lines in their place.

Finding the lines needs no more of the buffer than a line and a cursor on it, and nothing
of its marks: a range that a mark leads out of the buffer is refused.
-/

namespace ExMode

namespace Span

variable {α : Type} {xs new : List α} {x : α}

/-- What a spliced list holds was there before or was put in. -/
theorem mem_splice {start stop : Int} (h : x ∈ splice xs start stop new) : x ∈ xs ∨ x ∈ new := by
  simp only [splice, List.mem_append] at h
  obtain (h | h) | h := h
  · exact Or.inl (List.mem_of_mem_take h)
  · exact Or.inr h
  · exact Or.inl (List.mem_of_mem_drop h)

theorem at?_of_nonneg {i : Int} (h : 0 ≤ i) : at? xs i = xs[i.toNat]? := by
  simp [at?, Int.not_lt.2 h]

theorem mem_of_at? {i : Int} (h : at? xs i = some x) : x ∈ xs := by
  unfold at? at h
  split at h
  · split at h
    · exact List.mem_of_getElem? h
    · cases h
  · exact List.mem_of_getElem? h

/-- Up to the end of a list every position has an element. -/
theorem exists_at?_eq_some {i : Int} (h0 : 0 ≤ i) (h : i < xs.length) :
    ∃ x, at? xs i = some x := by
  rw [at?_of_nonneg h0, List.getElem?_eq_getElem (by omega)]
  exact ⟨_, rfl⟩

end Span

namespace Buffer

variable {b : Buffer}

/-! ## operations and the parts of a buffer -/

@[simp] theorem lines_clampCursor (b : Buffer) : b.clampCursor.lines = b.lines := rfl

theorem lines_replaceLines_ne_nil (b : Buffer) (first last : Int) (new : List Text) :
    (b.replaceLines first last new).lines ≠ [] := by
  simp only [replaceLines, lines_clampCursor]
  split
  · simp
  · rename_i h
    exact h

/-- The lines after a replacement are old lines, new lines, or the empty line that is put where
nothing is left. -/
theorem mem_lines_replaceLines {first last : Int} {new : List Text} {l : Text}
    (h : l ∈ (b.replaceLines first last new).lines) : l ∈ b.lines ∨ l ∈ new ∨ l = [] := by
  simp only [replaceLines, lines_clampCursor] at h
  split at h
  · exact Or.inr (Or.inr (by simpa using h))
  · obtain h | h := Span.mem_splice h
    · exact Or.inl h
    · exact Or.inr (Or.inl h)

/-! ## well-formed buffers -/

/-- A buffer of whole lines is well-formed once its cursor is brought onto one of them. -/
theorem wellFormed_clampCursor (hne : b.lines ≠ []) (hnl : ∀ l ∈ b.lines, '\n' ∉ l) :
    b.clampCursor.WellFormed := by
  have hpos : 0 < b.lines.length := List.length_pos_iff.2 hne
  refine ⟨hne, ?_, ?_, hnl⟩
  · simp only [clampCursor]
    omega
  · simp only [clampCursor]
    omega

/-- Replacing lines by whole lines, and moving the cursor anywhere, leaves a well-formed buffer
once the cursor is brought back. -/
theorem wellFormed_replaceLines_at (h : b.WellFormed) {new : List Text}
    (hnew : ∀ l ∈ new, '\n' ∉ l) (first last cursor : Int) :
    { b.replaceLines first last new with cursor := cursor }.clampCursor.WellFormed := by
  apply wellFormed_clampCursor
  · exact lines_replaceLines_ne_nil b first last new
  · intro l hl
    obtain hl | hl | rfl := mem_lines_replaceLines hl
    · exact h.no_newline l hl
    · exact hnew l hl
    · simp

theorem wellFormed_replaceLines (h : b.WellFormed) {new : List Text}
    (hnew : ∀ l ∈ new, '\n' ∉ l) (first last : Int) :
    (b.replaceLines first last new).WellFormed := by
  have hself := wellFormed_replaceLines_at h hnew first last (b.replaceLines first last new).cursor
  have hpos := List.length_pos_iff.2 (lines_replaceLines_ne_nil b first last new)
  refine ⟨hself.ne_nil, ?_, ?_, hself.no_newline⟩
  · simp only [replaceLines, clampCursor]
    omega
  · simp only [replaceLines, clampCursor] at hpos ⊢
    omega

/-- A cursor on another line of the buffer keeps it well-formed. -/
theorem WellFormed.withCursor (h : b.WellFormed) {i : Int} (h0 : 0 ≤ i) (hi : i < b.lines.length) :
    { b with cursor := i }.WellFormed :=
  ⟨h.ne_nil, h0, hi, h.no_newline⟩

/-- No line of a text holds a line feed. -/
theorem newline_not_mem_linesOf {t l : Text} (h : l ∈ linesOf t) : '\n' ∉ l := by
  unfold linesOf at h
  split at h
  · rw [List.mem_singleton] at h
    subst h
    simp
  · intro hn
    have := Text.not_break_of_mem_splitLines h '\n' hn
    simp [isLineBreak] at this

/-- Whether the cursor is on one of the lines, so that there is a line. -/
structure CursorInside (b : Buffer) : Prop where
  cursor_nonneg : 0 ≤ b.cursor
  cursor_lt : b.cursor < b.lineCount

theorem CursorInside.lineCount_pos (h : b.CursorInside) : 0 < b.lineCount := by
  have := h.cursor_nonneg
  have := h.cursor_lt
  omega

theorem CursorInside.ne_nil (h : b.CursorInside) : b.lines ≠ [] :=
  List.length_pos_iff.1 h.lineCount_pos

theorem WellFormed.cursorInside (h : b.WellFormed) : b.CursorInside :=
  ⟨h.cursor_nonneg, h.cursor_lt⟩

theorem wellFormed_ofText (t : Text) (path : Option Path) : (ofText t path).WellFormed where
  ne_nil := linesOf_ne_nil t
  cursor_nonneg := Int.le_refl 0
  cursor_lt := by
    have := List.length_pos_iff.2 (linesOf_ne_nil t)
    simp only [ofText, empty]
    omega
  no_newline := fun _ hl => newline_not_mem_linesOf hl

end Buffer

/-! ## the lines that a range means -/

/-- A span of lines that are there: the first is not behind the last, and both are in the buffer. -/
structure LineSpan.Within (s : LineSpan) (b : Buffer) : Prop where
  first_nonneg : 0 ≤ s.first
  first_le_last : s.first ≤ s.last
  last_lt : s.last < b.lines.length

namespace LineRange

variable {b : Buffer} {r : LineRange} {s : LineSpan}

/-- A range that resolves, resolves to lines of the buffer. -/
theorem within_of_resolve (hb : b.lines ≠ []) (h : r.resolve b = .ok s) : s.Within b := by
  have hpos := List.length_pos_iff.2 hb
  unfold resolve at h
  split at h
  · cases h
    constructor <;> simp only [Buffer.lineCount] <;> omega
  · cases he : r.endpoints b with
    | error f =>
      rw [he] at h
      cases h
    | ok p =>
      obtain ⟨m, n⟩ := p
      rw [he] at h
      simp only [bind, Except.bind] at h
      split at h
      · cases h
      · rename_i hin
        cases h
        constructor <;> simp only [Buffer.lineCount] at hin ⊢ <;> omega

/-- With clamping, whatever resolves at all lies in the buffer. -/
theorem within_of_resolveClamped (hb : b.lines ≠ []) (h : r.resolveClamped b = .ok s) :
    s.Within b := by
  have hpos := List.length_pos_iff.2 hb
  unfold resolveClamped at h
  split at h
  · cases h
    constructor <;> simp only [Buffer.lineCount] <;> omega
  · cases he : r.endpoints b with
    | error f =>
      rw [he] at h
      cases h
    | ok p =>
      obtain ⟨m, n⟩ := p
      rw [he] at h
      cases h
      constructor <;> simp only [Buffer.lineCount] <;> omega

end LineRange

namespace Buffer

variable {b : Buffer} {range : Option LineRange} {count : Option Nat} {s : LineSpan}

/-- The lines that a command acts on without a count are lines of the buffer. -/
theorem CursorInside.within_of_span (h : b.CursorInside) (hs : b.span range none = .ok s) :
    s.Within b := by
  cases range with
  | none =>
    cases hs
    exact ⟨h.cursor_nonneg, Int.le_refl _, h.cursor_lt⟩
  | some r =>
    simp only [span] at hs
    cases hr : r.resolve b with
    | error f =>
      rw [hr] at hs
      cases hs
    | ok s' =>
      rw [hr] at hs
      cases hs
      exact LineRange.within_of_resolve h.ne_nil hr

theorem within_of_span (h : b.WellFormed) (hs : b.span range none = .ok s) : s.Within b :=
  h.cursorInside.within_of_span hs

/-- With a count the span starts at the last line it would have without one. -/
theorem span_some (b : Buffer) (range : Option LineRange) (n : Nat) :
    b.span range (some n) = (b.span range none).map fun s =>
      ⟨s.last, min (s.last + n - 1) (b.lineCount - 1)⟩ := by
  cases range with
  | none => rfl
  | some r =>
    simp only [span]
    cases r.resolve b <;> rfl

/-- Wherever a command starts and ends, it is in the buffer.  Only a count of zero, which
substitutions accept, leaves it nothing to act on. -/
theorem span_mem (h : b.WellFormed) (hs : b.span range count = .ok s) :
    0 ≤ s.first ∧ s.first < b.lines.length ∧ s.first ≤ s.last + 1 ∧ s.last < b.lines.length ∧
      (count ≠ some 0 → s.first ≤ s.last) := by
  cases count with
  | none =>
    obtain ⟨h0, h1, h2⟩ := within_of_span h hs
    refine ⟨?_, ?_, ?_, ?_, fun _ => ?_⟩ <;> omega
  | some n =>
    rw [span_some] at hs
    cases hr : b.span range none with
    | error f =>
      rw [hr] at hs
      cases hs
    | ok s' =>
      rw [hr] at hs
      cases hs
      obtain ⟨h0, h1, h2⟩ := within_of_span h hr
      simp only [lineCount, ne_eq, Option.some.injEq]
      refine ⟨?_, ?_, ?_, ?_, fun _ => ?_⟩ <;> omega

end Buffer

/-! ## a span in its buffer -/

namespace LineSpan

variable {s : LineSpan} {lines front inside rest : List Text}

/-- A list of lines in three parts: what stands in front of a span, the span, and what follows. -/
structure Cuts (s : LineSpan) (lines front inside rest : List Text) : Prop where
  lines_eq : lines = front ++ inside ++ rest
  length_front : (front.length : Int) = s.first
  length_inside : (inside.length : Int) = s.last + 1 - s.first

namespace Cuts

variable (h : s.Cuts lines front inside rest)

include h

theorem mem {l : Text} (hl : l ∈ inside) : l ∈ lines := by
  rw [h.lines_eq]
  simp [hl]

theorem clamp_first : Span.clamp lines.length s.first = front.length := by
  rw [h.lines_eq, ← h.length_front, Span.clamp_natCast]
  simp

theorem clamp_last : Span.clamp lines.length (s.last + 1) = front.length + inside.length := by
  have hlast : s.last + 1 = ((front.length + inside.length : Nat) : Int) := by
    have := h.length_front
    have := h.length_inside
    omega
  rw [h.lines_eq, hlast, Span.clamp_natCast]
  simp

/-- The lines of the span are what is between its ends. -/
theorem slice_eq : Span.slice lines s.first (s.last + 1) = inside := by
  rw [Span.slice, h.clamp_first, h.clamp_last, h.lines_eq, ← List.length_append,
    List.take_left, List.drop_left]

/-- Lines that take the place of the span stand between what was in front of it and what
followed. -/
theorem splice_eq (new : List Text) :
    Span.splice lines s.first (s.last + 1) new = front ++ new ++ rest := by
  have hle : front.length ≤ front.length + inside.length := Nat.le_add_right _ _
  rw [Span.splice, h.clamp_first, h.clamp_last, Nat.max_eq_right hle, h.lines_eq]
  have hdrop : (front ++ inside ++ rest).drop (front.length + inside.length) = rest := by
    rw [← List.length_append, List.drop_left]
  rw [hdrop, List.append_assoc front, List.take_left]

/-- Nothing stands around a span of all lines. -/
theorem eq_of_whole (hfirst : s.first = 0) (hlast : s.last + 1 = lines.length) :
    front = [] ∧ inside = lines ∧ rest = [] := by
  have hfront := h.length_front
  have hinside := h.length_inside
  have hlength := congrArg List.length h.lines_eq
  simp only [List.length_append] at hlength
  obtain rfl : front = [] := List.length_eq_zero_iff.1 (by omega)
  obtain rfl : rest = [] := List.length_eq_zero_iff.1 (by omega)
  have hlines := h.lines_eq
  rw [List.append_nil, List.nil_append] at hlines
  exact ⟨rfl, hlines.symm, rfl⟩

end Cuts

end LineSpan

namespace Buffer

variable {b : Buffer} {range : Option LineRange} {count : Option Nat} {s : LineSpan}

/-- The span that a command acts on is a part of the buffer. -/
theorem exists_cuts_of_span (h : b.WellFormed) (hs : b.span range count = .ok s) :
    ∃ front inside rest, s.Cuts b.lines front inside rest := by
  obtain ⟨h0, -, h1, h2, -⟩ := span_mem h hs
  refine ⟨b.lines.take s.first.toNat,
    (b.lines.drop s.first.toNat).take (s.last + 1 - s.first).toNat,
    (b.lines.drop s.first.toNat).drop (s.last + 1 - s.first).toNat, ?_, ?_, ?_⟩
  · rw [List.append_assoc, List.take_append_drop, List.take_append_drop]
  · rw [List.length_take]
    omega
  · rw [List.length_take, List.length_drop]
    omega

/-- A buffer with other lines in the place of a span, and the cursor sent to a line that need not be
there. -/
theorem replaceLines_of_cuts {front inside rest : List Text}
    (h : s.Cuts b.lines front inside rest) (new : List Text) {i : Int} (hi : 0 ≤ i) :
    let lines := if front ++ new ++ rest = [] then [[]] else front ++ new ++ rest
    { b.replaceLines s.first s.last new with cursor := i }.clampCursor =
      { b with lines := lines, cursor := min i (lines.length - 1), modified := true } := by
  intro lines
  have hlines : (b.replaceLines s.first s.last new).lines = lines := by
    simp only [replaceLines, lines_clampCursor, h.splice_eq]
    split
    · rename_i hnil
      exact (if_pos hnil).symm
    · rename_i hne
      exact (if_neg hne).symm
  have hpos : 0 < lines.length :=
    hlines ▸ List.length_pos_iff.2 (lines_replaceLines_ne_nil b s.first s.last new)
  have hcursor : max 0 (min i (lines.length - 1)) = min i (lines.length - 1) := by omega
  rw [← hcursor, ← hlines]
  rfl

end Buffer

/-! ## ranges that are refused -/

/-- An address can only be refused for a mark that is not set. -/
theorem Address.command_of_resolve {b : Buffer} {a : Address} {f : Fault}
    (h : a.resolve b = .error f) : ∃ e, f = .command e := by
  unfold resolve at h
  split at h
  · cases h
  · cases h
  · cases h
  · split at h
    · cases h
    · cases h
      exact ⟨_, rfl⟩

theorem LineRange.command_of_endpoints {b : Buffer} {r : LineRange} {f : Fault}
    (h : r.endpoints b = .error f) : ∃ e, f = .command e := by
  cases r with
  | wholeFile => cases h
  | single a =>
    obtain h | ⟨m, -, h⟩ := bind_eq_error.1 h
    · exact Address.command_of_resolve h
    · cases h
  | pair a sep c =>
    cases sep <;>
    · obtain h | ⟨m, -, h⟩ := bind_eq_error.1 h
      · exact Address.command_of_resolve h
      obtain h | ⟨n, -, h⟩ := bind_eq_error.1 h
      · exact Address.command_of_resolve h
      · cases h

theorem LineRange.command_of_resolve {b : Buffer} {r : LineRange} {f : Fault}
    (h : r.resolve b = .error f) : ∃ e, f = .command e := by
  unfold resolve at h
  split at h
  · cases h
  · obtain h | ⟨⟨m, n⟩, -, h⟩ := bind_eq_error.1 h
    · exact command_of_endpoints h
    · dsimp only at h
      split at h
      · cases h
        exact ⟨_, rfl⟩
      · cases h

theorem LineRange.command_of_resolveClamped {b : Buffer} {r : LineRange} {f : Fault}
    (h : r.resolveClamped b = .error f) : ∃ e, f = .command e := by
  unfold resolveClamped at h
  split at h
  · cases h
  · obtain h | ⟨m, -, h⟩ := bind_eq_error.1 h
    · exact command_of_endpoints h
    · cases h

theorem Buffer.command_of_span {b : Buffer} {range : Option LineRange} {count : Option Nat}
    {f : Fault} (h : b.span range count = .error f) : ∃ e, f = .command e := by
  cases range with
  | none => cases count <;> cases h
  | some r =>
    obtain h | ⟨s, -, h⟩ := bind_eq_error.1 h
    · exact LineRange.command_of_resolve h
    · cases count <;> cases h

end ExMode
