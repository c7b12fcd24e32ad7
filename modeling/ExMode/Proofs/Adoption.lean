import ExMode.Proofs.Delegate

/-!
# ExMode.Proofs.Adoption

What an outside program makes of the buffer, for every program.

A program has no hold on the buffer but through the temporary file, and that file is read only when
the program said that it succeeded.  Then its lines take the place of all lines of the buffer, the
cursor is brought onto one of them, and the buffer counts as modified if they are other lines than
before (`adoptLines_eq`); marks, path, mode and everything else stay.  Whatever comes of an exchange
that is not a success, the buffer is the one from before.

Text files are read with all their line endings as line feeds, which makes no difference to the
lines of a file (`Text.splitLines_unifyNewlines`).

* `Completes` — a program succeeds, and what it said and left;
* `Exchange.completes`, `Completes.runFrom_run` — the exchanges that are a success;
* `run_effect` — the whole account.
-/

namespace ExMode

/-! ## the lines of a file -/

namespace Text

/-- A text has the same lines when its line endings are all alike. -/
theorem splitLines_unifyNewlines (t : Text) : splitLines (unifyNewlines t) = splitLines t := by
  induction t using unifyNewlines.induct with
  | case1 => rfl
  | case2 rest ih => rw [unifyNewlines, splitLines_cons_newline, ih, splitLines]
  | case3 rest hrest ih =>
    rw [unifyNewlines, splitLines_cons_newline, ih, splitLines]
    · simp [isLineBreak]
    · simpa using hrest
    · simpa using hrest
  | case4 c rest hpair hc ih =>
    have hcons (t : Text) : splitLines (c :: t) =
        if isLineBreak c then [] :: splitLines t else consLine c (splitLines t) := by
      rw [splitLines]
      intro rest hreturn
      exact absurd hreturn hc
    rw [unifyNewlines, hcons, hcons, ih]
    · exact hpair
    · exact hc

theorem splitLines_eq_nil {t : Text} : splitLines t = [] ↔ t = [] := by
  have hcons (c : Char) (ls : List Text) : consLine c ls ≠ [] := by cases ls <;> simp [consLine]
  fun_induction splitLines t <;> simp_all

end Text

/-- The lines of a text are the parts between its line breaks, and an empty text is one line. -/
theorem Buffer.linesOf_eq (t : Text) : linesOf t = if t = [] then [[]] else t.splitLines := by
  unfold linesOf
  split
  · rename_i h
    rw [if_pos (Text.splitLines_eq_nil.1 h)]
  · rename_i h
    rw [if_neg (mt Text.splitLines_eq_nil.2 h)]

theorem Buffer.linesOf_unifyNewlines (t : Text) : linesOf t.unifyNewlines = linesOf t := by
  unfold linesOf
  rw [Text.splitLines_unifyNewlines]

/-- A text file is read as the text that its bytes are, with its line endings all alike. -/
theorem Disk.readText_eq_ok {d : Disk} {p : Path} {u : Text} : d.readText p = .ok u ↔
    ∃ bytes t, d.readBytes p = .ok bytes ∧ Utf8.decode bytes = .ok t ∧ u = t.unifyNewlines := by
  unfold readText
  constructor
  · intro h
    obtain ⟨bytes, hbytes, h⟩ := bind_eq_ok.1 h
    split at h
    · rename_i t ht
      exact ⟨bytes, t, hbytes, ht, (Except.ok.inj h).symm⟩
    · cases h
  · rintro ⟨bytes, t, hbytes, ht, rfl⟩
    simp [hbytes, ht, bind, Except.bind]

/-! ## the buffer -/

namespace Delegate

/-- Replacing all lines leaves none of the old ones. -/
theorem splice_all (b : Buffer) (lines : List Text) :
    Span.splice b.lines 0 ((b.lineCount : Int) - 1 + 1) lines = lines := by
  have hfirst : Span.clamp b.lines.length 0 = 0 := by simp [Span.clamp]
  have hlast : Span.clamp b.lines.length ((b.lineCount : Int) - 1 + 1) = b.lines.length := by
    rw [Int.sub_add_cancel, Buffer.lineCount, Span.clamp_natCast, Nat.min_self]
  rw [Span.splice, hfirst, hlast]
  simp

/-- The lines that are adopted are the lines of the buffer, and the cursor is brought onto one of
them; the buffer is modified if they are others than before. -/
theorem adoptLines_eq {b : Buffer} (hb : b.CursorInside) {lines : List Text} (h : lines ≠ []) :
    adoptLines b lines = { b with
      lines := lines
      modified := b.modified || decide (lines ≠ b.lines)
      cursor := max 0 (min b.cursor (lines.length - 1)) } := by
  unfold adoptLines
  split
  · rename_i hsame
    subst hsame
    have hcursor : max 0 (min b.cursor ((b.lines.length : Int) - 1)) = b.cursor := by
      have := hb.cursor_nonneg
      have := hb.cursor_lt
      unfold Buffer.lineCount at this
      omega
    rw [hcursor]
    simp
  · rename_i hother
    unfold Buffer.replaceLines Buffer.clampCursor
    rw [splice_all]
    split
    · contradiction
    · simp [hother]

/-! ## exchanges that are a success -/

variable {interpreter : Interpreter} {settings : DelegationSettings} {raw : Text} {s : Session}

/-- The program of a session succeeds with a line: what it writes, without the blanks around it, is
`said`, and it leaves the text `left` in the temporary file. -/
structure Completes (interpreter : Interpreter) (settings : DelegationSettings) (raw : Text)
    (s : Session) (said left : Text) : Prop where
  exits : ∃ output errors d bytes, Asks interpreter settings raw s (.exited 0 output errors) d ∧
    said = Text.trim (Utf8.decodeLossy (output ++ errors)) ∧
    d.readBytes (fileFor s.editor) = .ok bytes ∧ Utf8.decode bytes = .ok left

/-- Only a program that succeeds brings about an answer that is no error. -/
theorem Exchange.completes {status : Text} {b : Buffer}
    (h : Exchange interpreter settings raw s (.ok ⟨status, false⟩) b) :
    ∃ said left, Completes interpreter settings raw s said left ∧ status = statusOf said := by
  cases h with
  | done hasks hread =>
    obtain ⟨bytes, left, hbytes, hleft, rfl⟩ := Disk.readText_eq_ok.1 hread
    exact ⟨_, left, ⟨_, _, _, bytes, hasks, rfl, hbytes, hleft⟩, rfl⟩

/-- Whatever is not a success leaves the buffer alone. -/
theorem Exchange.buffer_eq {r : Except Fault Reply} {b : Buffer}
    (h : Exchange interpreter settings raw s r b) (hr : ∀ status, r ≠ .ok ⟨status, false⟩) :
    b = s.editor.buffer := by
  cases h with
  | done => exact absurd rfl (hr _)
  | inactive | refused | unsayable | notStarted | timedOut | failed | unreadable => rfl

/-- What a program that succeeds comes to. -/
theorem Completes.runFrom_run {said left : Text}
    (h : Completes interpreter settings raw s said left) :
    ∃ d, runFrom (run interpreter settings raw) s = (.ok ⟨statusOf said, false⟩,
      leaving s (adoptLines s.editor.buffer (Buffer.linesOf left)) d) := by
  obtain ⟨output, errors, d, bytes, hasks, rfl, hbytes, hleft⟩ := h
  have hread := Disk.readText_eq_ok.2 ⟨bytes, left, hbytes, hleft, rfl⟩
  have hanswer : answer settings (commandOf raw) s.editor.buffer (fileFor s.editor) d
      (.exited 0 output errors) =
      .ok (⟨statusOf (outputText output errors), false⟩,
        adoptLines s.editor.buffer (Buffer.linesOf left)) := by
    simp only [answer, ne_eq, not_true_eq_false, if_false, hread,
      ← Buffer.linesOf_unifyNewlines left]
    rfl
  refine ⟨cleaned s.editor d, ?_⟩
  rw [hasks.runFrom_run, hanswer]
  rfl

/-- What handing a line to a program does to a buffer with the cursor on one of its lines, for every
program.  An answer that is no error is given just when the program succeeds and leaves a text.
Then the lines of that text are the lines of the buffer, the cursor is where it was as far as there
are lines, the buffer is modified if it was so before or has other lines now, and nothing else of it
has changed; the answer is the last line of what the program wrote.  In every other case the buffer
is as it was.  Nothing else in the session but the disk has to do with it. -/
theorem run_effect (interpreter : Interpreter) (settings : DelegationSettings) (raw : Text)
    (hs : s.editor.buffer.CursorInside) :
    let x := runFrom (run interpreter settings raw) s
    let b := s.editor.buffer
    x.2 = leaving s x.2.editor.buffer x.2.editor.disk ∧
    (∀ status, x.1 = .ok ⟨status, false⟩ ↔
      ∃ said left, Completes interpreter settings raw s said left ∧
        status = said.splitLines.getLast?.getD []) ∧
    ((∀ status, x.1 ≠ .ok ⟨status, false⟩) → x.2.editor.buffer = b) ∧
    ∀ said left, Completes interpreter settings raw s said left →
      let lines := if left = [] then [[]] else left.splitLines
      x.2.editor.buffer = { b with
        lines := lines
        modified := b.modified || decide (lines ≠ b.lines)
        cursor := max 0 (min b.cursor (lines.length - 1)) } := by
  intro x b
  obtain ⟨r, b', d, hrun, hexchange⟩ := exchange_run interpreter settings raw s
  have hx : x = (r, leaving s b' d) := hrun
  refine ⟨by rw [hx]; rfl, fun status => ⟨fun hstatus => ?_, ?_⟩, fun hr => ?_, ?_⟩
  · rw [hx] at hstatus
    subst hstatus
    exact hexchange.completes
  · rintro ⟨said, left, hdone, rfl⟩
    obtain ⟨d, hdone⟩ := hdone.runFrom_run
    exact congrArg Prod.fst hdone
  · rw [hx] at hr ⊢
    exact hexchange.buffer_eq hr
  · intro said left hdone lines
    obtain ⟨d, hdone⟩ := hdone.runFrom_run
    have hbuffer : x.2.editor.buffer = adoptLines b (Buffer.linesOf left) :=
      congrArg (fun y => y.2.editor.buffer) hdone
    rw [hbuffer, adoptLines_eq hs (Buffer.linesOf_ne_nil left), Buffer.linesOf_eq]

/-- A program that leaves one line of three, with the line ending of another system, and says what
it did and what is wrong. -/
theorem run_effect_shortened :
    let b : Buffer := { Buffer.ofText "a\nb\nc".toList none with
      cursor := 2, marks := [('m', 1)], mode := .insert }
    let d : Disk := ⟨[(["tmp".toList], .directory)], [], [], [], .standard⟩
    let s : Session := { Session.start ⟨b, Registers.empty, d⟩ (.new (.memory [])) with
      interpreter := some "/bin/ex".toList }
    let deleting : Interpreter := fun _ _ d =>
      (.exited 0 (Utf8.encode " 2 fewer lines\n".toList) (Utf8.encode "no mark\n ".toList),
        (runFrom (Disk.writeBytes (fileFor s.editor) (Utf8.encode "x\r\n".toList)) d).2)
    let x := runFrom (run deleting Settings.standard.delegation ":d2".toList) s
    b.CursorInside ∧ x.1 = .ok ⟨"no mark".toList, false⟩ ∧
      x.2.editor.buffer = { b with lines := ["x".toList], modified := true, cursor := 0 } := by
  intro b d s deleting x
  have hb : b.CursorInside := ⟨by decide, by decide⟩
  let argv := argumentsFor Settings.standard.delegation "/bin/ex".toList ":d2".toList s.editor
  let ready := (runFrom (handOver s.editor) d).2
  let left := (deleting argv Settings.standard.delegation.timeout ready).2
  have hdone : Completes deleting Settings.standard.delegation ":d2".toList s
      "2 fewer lines\nno mark".toList "x\r\n".toList := by
    refine ⟨_, _, left, Utf8.encode "x\r\n".toList,
      ⟨"/bin/ex".toList, ready, rfl, ?_, ?_, rfl⟩, ?_, ?_, ?_⟩ <;> decide +kernel
  obtain ⟨-, hanswer, -, hbuffer⟩ := run_effect deleting Settings.standard.delegation
    ":d2".toList (s := s) hb
  refine ⟨hb, (hanswer _).2 ⟨_, _, hdone, by decide +kernel⟩, ?_⟩
  have hx := hbuffer _ _ hdone
  exact hx.trans (by decide +kernel)

end Delegate

end ExMode
