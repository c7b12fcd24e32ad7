import ExMode.Proofs.Command
import ExMode.Proofs.Spelling

/-!
# ExMode.Proofs.LineCount

How many lines a command acts on.  With a count it is that many, from the last line of the range
on, as far as the buffer goes, so it is at least one line unless the count is zero.  The reader of
`[x] [count]` refuses a count of zero; the reader of substitutions does not.

* `LineTarget.count_ne_zero_of_parse` — deleting and yanking have no count of zero;
* `Buffer.span_of_count` — the lines of a range and a count;
* `Command.span_of_accepted` — the lines of every command that a line can call.
-/

namespace ExMode

/-- The count that is read is none or positive. -/
theorem LineTarget.count_ne_zero_of_parse {args : Text} {target : LineTarget}
    (h : LineTarget.parse args = .ok target) : target.count ≠ some 0 := by
  unfold LineTarget.parse at h
  dsimp only at h
  split at h
  · cases h
  split at h
  · cases h
    nofun
  · obtain ⟨n, -, h⟩ := bind_eq_ok.1 h
    split at h
    · cases h
    · rename_i hn
      cases h
      rw [Ne, Option.some.injEq]
      omega

namespace Buffer

variable {b : Buffer} {range : Option LineRange} {s : LineSpan}

/-- With a count the lines start at the last line of the range, and there are that many of them as
far as the buffer goes. -/
theorem span_of_count (hb : b.CursorInside) (hs : b.span range none = .ok s) (n : Nat) :
    ∃ last : Int, b.span range (some n) = .ok ⟨s.last, last⟩ ∧ last < b.lineCount ∧
      last + 1 - s.last = min (n : Int) (b.lineCount - s.last) := by
  obtain ⟨h0, h1, h2⟩ := hb.within_of_span hs
  refine ⟨min (s.last + n - 1) (b.lineCount - 1), ?_, by omega, ?_⟩
  · rw [span_some, hs]
    rfl
  · unfold lineCount
    omega

/-- A range that is refused is refused with any count. -/
theorem span_eq_error {f : Fault} (h : b.span range none = .error f) (count : Option Nat) :
    b.span range count = .error f := by
  cases count with
  | none => exact h
  | some n =>
    rw [span_some, h]
    rfl

end Buffer

namespace Command

variable {homes : List (Text × Text)} {c : Command} {count : Option Nat}

/-- The count of a command that acts on the lines of a range, if it was given one; nothing for
commands that take none. -/
def count? : Command → Option (Option Nat)
  | .delete target => some target.count
  | .yank target => some target.count
  | .substitute sub => some sub.count
  | _ => none

theorem count_of_build {row : Row} {call : Call} (hrow : row ∈ Table.builtInRows homes)
    (h : row.build call = .ok c) (hc : c.count? = some count) :
    count ≠ some 0 ∨ ∃ sub, c = .substitute sub := by
  simp only [Table.builtInRows, List.mem_cons, List.not_mem_nil, or_false] at hrow
  obtain rfl | rfl | rfl | rfl | rfl | rfl | rfl | rfl | rfl | rfl | rfl := hrow
  case inr.inr.inr.inr.inr.inr.inl =>
    obtain ⟨sub, -, h⟩ := bind_eq_ok.1 h
    cases h
    exact Or.inr ⟨sub, rfl⟩
  -- what is left reads `[x] [count]`, or is built to a command that takes no count
  all_goals first
    | cases h
      cases hc
    | obtain ⟨target, hread, h⟩ := bind_eq_ok.1 h
      cases h
      cases hc <;> exact Or.inl (LineTarget.count_ne_zero_of_parse hread)

/-- Only substitutions are read with a count of zero. -/
theorem count_of_parse {raw : Text} {parsed : Option LineRange}
    (h : (Table.ofExtra homes []).parse raw = .ok (.command c parsed))
    (hc : c.count? = some count) : count ≠ some 0 ∨ ∃ sub, c = .substitute sub := by
  obtain rfl | ⟨row, hrow, call, hbuild⟩ := Table.builds_of_parse h
  · cases hc
  · exact count_of_build (by simpa [Table.ofExtra] using hrow) hbuild hc

/-- Whatever lines a command that was read from a line acts on, they are lines of the buffer: those
of its range, or with a count that many from the last of them on, as far as the buffer goes.  There
is at least one unless the count is zero, which only a substitution can have. -/
theorem span_of_accepted {raw : Text} {parsed : Option LineRange}
    (h : (Table.ofExtra homes []).parse raw = .ok (.command c parsed))
    (hc : c.count? = some count) {b : Buffer} (hb : b.CursorInside) (range : Option LineRange) :
    (count ≠ some 0 ∨ ∃ sub, c = .substitute sub) ∧
    ((∃ e, b.span range count = .error (.command e)) ∨
      ∃ lines s, b.span range none = .ok lines ∧ b.span range count = .ok s ∧
        0 ≤ s.first ∧ s.first < b.lineCount ∧ s.last < b.lineCount ∧
        (s.first ≤ s.last ↔ count ≠ some 0) ∧ (count = none → s = lines) ∧
        ∀ n : Nat, count = some n → s.first = lines.last ∧
          s.last + 1 - s.first = min (n : Int) (b.lineCount - s.first)) := by
  refine ⟨count_of_parse h hc, ?_⟩
  cases hlines : b.span range none with
  | error f =>
    obtain ⟨e, rfl⟩ := Buffer.command_of_span hlines
    exact Or.inl ⟨e, Buffer.span_eq_error hlines count⟩
  | ok lines =>
    obtain ⟨h0, h1, h2⟩ := hb.within_of_span hlines
    refine Or.inr ⟨lines, ?_⟩
    cases count with
    | none =>
      refine ⟨lines, rfl, hlines, h0, Int.lt_of_le_of_lt h1 h2, h2, ?_, fun _ => rfl, nofun⟩
      exact iff_of_true h1 nofun
    | some n =>
      obtain ⟨last, hspan, hlast, hcount⟩ := Buffer.span_of_count hb hlines n
      have hleft : lines.last < b.lineCount := h2
      refine ⟨⟨lines.last, last⟩, rfl, hspan, Int.le_trans h0 h1, hleft, hlast, ?_, nofun, ?_⟩
      · rw [Ne, Option.some.injEq]
        dsimp only
        omega
      · rintro _ ⟨⟩
        exact ⟨rfl, hcount⟩

/-- Deleting two lines from the last line on is deleting the last line. -/
theorem span_of_accepted_last :
    let c : Command := .delete ⟨some 'x', some 2⟩
    let b : Buffer := { Buffer.empty with lines := [['a'], ['b'], ['c']], cursor := 1 }
    (Table.ofExtra [] []).parse ":d x 2".toList = .ok (.command c none) ∧
      c.count? = some (some 2) ∧ b.CursorInside ∧
      ∃ s, b.span (some (.pair ⟨.cursor, 0⟩ .comma ⟨.last, 0⟩)) (some 2) = .ok s ∧
        s.first = 2 ∧ s.last = 2 := by
  intro c b
  have hparse : (Table.ofExtra [] []).parse ":d x 2".toList = .ok (.command c none) := rfl
  have hb : b.CursorInside := ⟨by decide, by decide⟩
  refine ⟨hparse, rfl, hb, ?_⟩
  obtain ⟨-, ⟨e, he⟩ | ⟨lines, s, hlines, hs, -, -, -, -, -, hcount⟩⟩ :=
    span_of_accepted hparse rfl hb (some (.pair ⟨.cursor, 0⟩ .comma ⟨.last, 0⟩))
  · cases he
  · obtain ⟨hfirst, hlast⟩ := hcount 2 rfl
    cases hlines
    rw [hfirst] at hlast
    have hlast : s.last + 1 - 2 = min 2 (3 - 2) := hlast
    exact ⟨s, hs, hfirst, by omega⟩

/-- A substitution with a count of zero looks at no line, and finds nothing. -/
theorem runFrom_substitute_of_zero {sub : Substitution} (hzero : sub.count = some 0) {e : Editor}
    {range : Option LineRange} {lines : LineSpan} (h : e.buffer.span range none = .ok lines) :
    runFrom (runSubstitute sub range) e =
      (.ok (.failed ⟨.patternNotFound, sub.typed⟩), e) := by
  have hspan : e.buffer.span range (some 0) =
      .ok ⟨lines.last, min (lines.last + (0 : Nat) - 1) (e.buffer.lineCount - 1)⟩ := by
    rw [Buffer.span_some, h]
    rfl
  have hnone : (min (lines.last + (0 : Nat) - 1) (e.buffer.lineCount - 1) + 1 -
      lines.last).toNat = 0 := by
    omega
  rw [runFrom_substitute, hzero, hspan]
  simp only [Substitution.onLines, hnone]
  rfl

/-- A substitution with a count of zero is read, where deleting with one is refused.  It acts on no
line, so that it finds no match even on a line that has one. -/
theorem span_of_accepted_zero :
    let b : Buffer := { Buffer.empty with lines := [['a']] }
    b.CursorInside ∧
      (Table.ofExtra [] []).parse "d 0".toList = .ok (.refused ⟨.invalidArgument, ['0']⟩) ∧
      ∃ sub, (Table.ofExtra [] []).parse "s/a/b/ 0".toList =
          .ok (.command (.substitute sub) none) ∧
        sub.count = some 0 ∧ b.span none sub.count = .ok ⟨0, -1⟩ ∧
        (sub.onLine ['a']).toOption = some ([['b']], 1) ∧
        ∀ registers disk, runFrom (runSubstitute sub none) ⟨b, registers, disk⟩ =
          (.ok (.failed ⟨.patternNotFound, sub.typed⟩), ⟨b, registers, disk⟩) := by
  intro b
  refine ⟨⟨by decide, by decide⟩, rfl, ?_⟩
  let args : Text := "/a/b/ 0".toList
  have hread : (match Substitution.ofArgs args with
      | .error _ => false
      | .ok sub => sub.count == some 0 && (sub.onLine ['a']).toOption == some ([['b']], 1)) =
      true := by decide +kernel
  have hline : (Table.ofExtra [] []).recognise ("s".toList ++ args) = .ok (.entry
      (Table.lineRow "substitute" "s" fun call => do
        return .substitute (← Substitution.ofArgs call.args))
      ⟨"substitute".toList, false, args, "s".toList ++ args⟩ none) := rfl
  split at hread
  · cases hread
  · rename_i sub hsub
    simp only [Bool.and_eq_true, beq_iff_eq] at hread
    obtain ⟨hcount, hmatch⟩ := hread
    have hbuild : (do return Command.substitute (← Substitution.ofArgs args) :
        Except Fault Command) = .ok (.substitute sub) := by
      rw [hsub]
      rfl
    have hlines : b.span none none = .ok ⟨0, 0⟩ := rfl
    refine ⟨sub, ?_, hcount, by rw [hcount]; rfl, hmatch, fun registers disk =>
      runFrom_substitute_of_zero hcount hlines⟩
    have hparse := Table.parse_of_recognise hline
    simp only [Table.lineRow, hbuild] at hparse
    exact hparse

end Command

end ExMode
