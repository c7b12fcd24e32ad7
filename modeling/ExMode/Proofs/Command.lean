import ExMode.Proofs.Disk
import ExMode.Proofs.Substitution
import ExMode.Proofs.Table

/-!
# ExMode.Proofs.Command

What each command does.  For every command there is one equation that runs it on
an editor: which results it can have, and the whole editor it leaves for each.
From the equations every command of the library takes a `Turn`, and what holds of
every turn holds of every command without opening one.

* `runFrom_delete`, …, `runFrom_write` — the equations;
* `turn_perform` — every command takes a turn;
* `Turn.wellFormed`, `Turn.unmodified`, `Turn.quitRequested` — what turns do to
  the buffer, and `Turn.eq_of_isFailure` — that they leave it and every register
  alone when they fail.
-/

namespace ExMode

namespace Command

variable {e e' : Editor}

/-! ## running the parts of commands -/

@[simp] theorem runFrom_buffer (e : Editor) : runFrom buffer e = (.ok e.buffer, e) := rfl

@[simp] theorem runFrom_setBuffer (b : Buffer) (e : Editor) :
    runFrom (setBuffer b) e = (.ok (), { e with buffer := b }) := rfl

@[simp] theorem runFrom_span (range : Option LineRange) (count : Option Nat) (e : Editor) :
    runFrom (span range count) e = (e.buffer.span range count, e) := by
  simp only [span, runFrom_bind, runFrom_buffer, runFrom_ofExcept]

theorem runFrom_putRegister (name : Text) (lines : List Text) (e : Editor) :
    runFrom (putRegister name lines) e = match e.registers.put (some name) lines true with
      | .error f => (.error f, e)
      | .ok r => (.ok (), { e with registers := r }) := by
  simp only [putRegister, runFrom_bind, runFrom_get, runFrom_ofExcept]
  cases e.registers.put (some name) lines true <;> rfl

theorem runFrom_onDisk {α : Type} (act : OnDisk α) (e : Editor) :
    runFrom (onDisk act) e =
      (.ok (runFrom act e.disk).1, { e with disk := (runFrom act e.disk).2 }) := rfl

/-! ## running the commands -/

theorem runFrom_delete (target : LineTarget) (range : Option LineRange) (e : Editor) :
    runFrom (runDelete target range) e =
      match e.buffer.span range target.count with
      | .error f => (.error f, e)
      | .ok s =>
        let removed := e.buffer.linesBetween s.first s.last
        match e.registers.put (some (target.register.elim Registers.deleteName fun c => [c]))
          removed true with
        | .error f => (.error f, e)
        | .ok r => (.ok (.deleted removed.length), { e with
            registers := r
            buffer := { e.buffer.replaceLines s.first s.last [] with
              cursor := s.first }.clampCursor }) := by
  simp only [runDelete, runFrom_bind, runFrom_span, runFrom_buffer, runFrom_putRegister,
    runFrom_setBuffer, runFrom_pure]
  cases e.buffer.span range target.count with
  | error f => rfl
  | ok s =>
    dsimp only
    cases e.registers.put _ _ true <;> rfl

theorem runFrom_yank (target : LineTarget) (range : Option LineRange) (e : Editor) :
    runFrom (runYank target range) e =
      match e.buffer.span range target.count with
      | .error f => (.error f, e)
      | .ok s =>
        let yanked := e.buffer.linesBetween s.first s.last
        match e.registers.put (some (target.register.elim Registers.yankName fun c => [c]))
          yanked true with
        | .error f => (.error f, e)
        | .ok r => (.ok (.yanked yanked.length), { e with registers := r }) := by
  simp only [runYank, runFrom_bind, runFrom_span, runFrom_buffer, runFrom_putRegister,
    runFrom_pure]
  cases e.buffer.span range target.count with
  | error f => rfl
  | ok s =>
    dsimp only
    cases e.registers.put _ _ true <;> rfl

theorem runFrom_print (range : Option LineRange) (e : Editor) :
    runFrom (runPrint range) e =
      match e.buffer.span range none with
      | .error f => (.error f, e)
      | .ok s => (.ok (.printed (s.first + 1) (s.last + 1) (e.buffer.linesBetween s.first s.last)),
          { e with buffer := { e.buffer with cursor := s.last } }) := by
  simp only [runPrint, runFrom_bind, runFrom_span, runFrom_buffer, runFrom_setBuffer,
    runFrom_pure]
  cases e.buffer.span range none <;> rfl

theorem runFrom_goto (range : Option LineRange) (e : Editor) :
    runFrom (runGoto range) e =
      match range with
      | none => (.ok .nothing, e)
      | some r =>
        match r.resolveClamped e.buffer with
        | .error f => (.error f, e)
        | .ok s => (.ok (.moved (s.last + 1)),
            { e with buffer := { e.buffer with cursor := s.last } }) := by
  cases range with
  | none => rfl
  | some r =>
    simp only [runGoto, runFrom_bind, runFrom_buffer, runFrom_ofExcept, runFrom_setBuffer,
      runFrom_pure]
    cases r.resolveClamped e.buffer <;> rfl

theorem runFrom_substitute (sub : Substitution) (range : Option LineRange) (e : Editor) :
    runFrom (runSubstitute sub range) e =
      match e.buffer.span range sub.count with
      | .error f => (.error f, e)
      | .ok s =>
        match sub.onLines e.buffer.lines s.first s.last with
        | .error f => (.error f, e)
        | .ok w =>
          if w.hits = 0 then (.ok (.failed ⟨.patternNotFound, sub.typed⟩), e)
          else if sub.countOnly then (.ok (.counted w.hits w.changed), e)
          else (.ok (.substituted w.hits w.changed), { e with
            buffer := { e.buffer.replaceLines s.first s.last w.lines with
              cursor := w.lastChanged }.clampCursor }) := by
  simp only [runSubstitute, runFrom_bind, runFrom_span, runFrom_buffer, runFrom_ofExcept]
  cases e.buffer.span range sub.count with
  | error f => rfl
  | ok s =>
    dsimp only
    cases sub.onLines e.buffer.lines s.first s.last with
    | error f => rfl
    | ok w =>
      dsimp only
      split
      · rfl
      split <;> rfl

/-- The buffer after it was written to a file. -/
def writtenBuffer (b : Buffer) (path : Path) (quitAfter : Bool) : Buffer :=
  { b with
    path := some (b.path.getD path)
    modified := b.modified && path != b.path.getD path
    quitRequested := b.quitRequested || quitAfter }

theorem runFrom_write (target : Option Path) (quitAfter onlyIfModified : Bool) (e : Editor) :
    runFrom (runWrite target quitAfter onlyIfModified) e =
      match target.or e.buffer.path with
      | none => (.ok (.failed (.plain .noFileName)), e)
      | some path =>
        if onlyIfModified ∧ ¬ e.buffer.modified ∧ some path = e.buffer.path then
          (.ok .writeSkipped, { e with buffer := { e.buffer with quitRequested := quitAfter } })
        else
          match runFrom (Disk.writeText path e.buffer.text) e.disk with
          | (.error (.os err), d) =>
            (.ok (.failed ⟨.cannotOpenFile, path.text ++ ": ".toList ++ err.message⟩),
              { e with disk := d })
          | (.error fault, d) => (.error fault, { e with disk := d })
          | (.ok (), d) =>
            (.ok (.written path.text e.buffer.lineCount (Utf8.encode e.buffer.text).length),
              { e with disk := d, buffer := writtenBuffer e.buffer path quitAfter }) := by
  simp only [runWrite, runFrom_bind, runFrom_buffer]
  cases target.or e.buffer.path with
  | none => rfl
  | some path =>
    dsimp only
    split
    · rfl
    simp only [runFrom_bind, runFrom_onDisk]
    obtain ⟨fault | _, d⟩ := runFrom (Disk.writeText path e.buffer.text) e.disk
    · cases fault <;> rfl
    · rfl

theorem runFrom_quit (force : Bool) (e : Editor) :
    runFrom (runQuit force) e =
      if e.buffer.modified ∧ ¬ force then (.ok (.failed (.plain .noWriteSinceLastChange)), e)
      else (.ok .quitting, { e with buffer := { e.buffer with quitRequested := true } }) := by
  simp only [runQuit, runFrom_bind, runFrom_buffer]
  split <;> rfl

/-! ## what commands can do -/

/-- Whether a command failed: it stopped short, or what it has to tell is an error. -/
def isFailure : Except Fault Outcome → Bool
  | .error _ => true
  | .ok o => o.isError

/-- What a command of the library can do to an editor: what comes of it, and the editor it
leaves. -/
inductive Turn (e : Editor) : Command → Except Fault Outcome → Editor → Prop
  /-- It stops short and leaves everything alone. -/
  | stopped {c : Command} {f : Fault} (hf : e.buffer.WellFormed → f ≠ .noSuchItem) :
      Turn e c (.error f) e
  /-- It has something to tell and leaves everything alone. -/
  | told {c : Command} {o : Outcome} : Turn e c (.ok o) e
  /-- It moves the cursor, in a well-formed buffer to one of its lines. -/
  | moved {c : Command} {o : Outcome} {i : Int} (ho : o.isError = false)
      (hi : e.buffer.WellFormed → 0 ≤ i ∧ i < e.buffer.lines.length) :
      Turn e c (.ok o) { e with buffer := { e.buffer with cursor := i } }
  /-- It writes to a register. -/
  | kept {c : Command} {o : Outcome} {name : Option Text} {lines : List Text} {r : Registers}
      (ho : o.isError = false) (hr : e.registers.put name lines true = .ok r) :
      Turn e c (.ok o) { e with registers := r }
  /-- It replaces lines, in a buffer of whole lines by whole lines, and may write to a register. -/
  | edited {c : Command} {o : Outcome} {first last i : Int} {new : List Text} {r : Registers}
      (ho : o.isError = false) (hnew : e.buffer.WellFormed → ∀ l ∈ new, '\n' ∉ l)
      (hr : r = e.registers ∨ ∃ name lines, e.registers.put name lines true = .ok r) :
      Turn e c (.ok o) { e with
        registers := r
        buffer := { e.buffer.replaceLines first last new with cursor := i }.clampCursor }
  /-- It asks to quit. -/
  | quitting {force : Bool} (h : e.buffer.modified = true → force = true) :
      Turn e (.quit force) (.ok .quitting)
        { e with buffer := { e.buffer with quitRequested := true } }
  /-- It finds nothing to write. -/
  | skipped {target : Option Path} {quitAfter : Bool} (h : e.buffer.modified = false) :
      Turn e (.write target quitAfter true) (.ok .writeSkipped)
        { e with buffer := { e.buffer with quitRequested := quitAfter } }
  /-- It tries to write and fails, and only the disk may have noticed. -/
  | unwritten {target : Option Path} {quitAfter onlyIfModified : Bool} {d : Disk}
      {r : Except Fault Outcome} (hr : isFailure r = true) (hf : r ≠ .error .noSuchItem) :
      Turn e (.write target quitAfter onlyIfModified) r { e with disk := d }
  /-- It writes the whole buffer to a file. -/
  | written {target : Option Path} {quitAfter onlyIfModified : Bool} {path : Path} {d : Disk}
      (hp : target.or e.buffer.path = some path)
      (hw : runFrom (Disk.writeText path e.buffer.text) e.disk = (.ok (), d)) :
      Turn e (.write target quitAfter onlyIfModified)
        (.ok (.written path.text e.buffer.lineCount (Utf8.encode e.buffer.text).length))
        { e with disk := d, buffer := writtenBuffer e.buffer path quitAfter }

theorem Turn.stopped_of_command {c : Command} {f : Fault} (h : ∃ err, f = .command err) :
    Turn e c (.error f) e := by
  obtain ⟨err, rfl⟩ := h
  exact .stopped fun _ => by simp

/-- A register can only be refused for its name. -/
theorem put_ne_noSuchItem {r : Registers} {name : Option Text} {lines : List Text} {f : Fault}
    {linewise : Bool} (h : r.put name lines linewise = .error f) : f ≠ .noSuchItem := by
  rcases name with _ | _ | ⟨c, n⟩ <;>
  · simp only [Registers.put] at h
    split at h
    · cases h
      simp
    split at h
    · cases h
      simp
    split at h <;> cases h

theorem turn_delete (target : LineTarget) (range : Option LineRange) (e : Editor) :
    Turn e (.delete target) (runFrom (runDelete target range) e).1
      (runFrom (runDelete target range) e).2 := by
  rw [runFrom_delete]
  cases hs : e.buffer.span range target.count with
  | error f => exact .stopped_of_command (Buffer.command_of_span hs)
  | ok s =>
    dsimp only
    cases hr : e.registers.put _ _ true with
    | error f => exact .stopped fun _ => put_ne_noSuchItem hr
    | ok r => exact .edited rfl (by simp) (Or.inr ⟨_, _, hr⟩)

theorem turn_yank (target : LineTarget) (range : Option LineRange) (e : Editor) :
    Turn e (.yank target) (runFrom (runYank target range) e).1
      (runFrom (runYank target range) e).2 := by
  rw [runFrom_yank]
  cases hs : e.buffer.span range target.count with
  | error f => exact .stopped_of_command (Buffer.command_of_span hs)
  | ok s =>
    dsimp only
    cases hr : e.registers.put _ _ true with
    | error f => exact .stopped fun _ => put_ne_noSuchItem hr
    | ok r => exact .kept rfl hr

theorem turn_print (range : Option LineRange) (e : Editor) :
    Turn e .print (runFrom (runPrint range) e).1 (runFrom (runPrint range) e).2 := by
  rw [runFrom_print]
  cases hs : e.buffer.span range none with
  | error f => exact .stopped_of_command (Buffer.command_of_span hs)
  | ok s =>
    refine .moved rfl fun hb => ?_
    obtain ⟨h0, -, h1, h2, hle⟩ := Buffer.span_mem hb hs
    have := hle (by simp)
    omega

theorem turn_goto (range : Option LineRange) (e : Editor) :
    Turn e .goto (runFrom (runGoto range) e).1 (runFrom (runGoto range) e).2 := by
  rw [runFrom_goto]
  cases range with
  | none => exact .told
  | some r =>
    dsimp only
    cases hs : r.resolveClamped e.buffer with
    | error f => exact .stopped_of_command (LineRange.command_of_resolveClamped hs)
    | ok s =>
      refine .moved rfl fun hb => ?_
      obtain ⟨h0, h1, h2⟩ := LineRange.within_of_resolveClamped hb.ne_nil hs
      omega

theorem turn_substitute (sub : Substitution) (range : Option LineRange) (e : Editor) :
    Turn e (.substitute sub) (runFrom (runSubstitute sub range) e).1
      (runFrom (runSubstitute sub range) e).2 := by
  rw [runFrom_substitute]
  cases hs : e.buffer.span range sub.count with
  | error f => exact .stopped_of_command (Buffer.command_of_span hs)
  | ok s =>
    dsimp only
    cases hw : sub.onLines e.buffer.lines s.first s.last with
    | error f =>
      refine .stopped fun hb => ?_
      obtain ⟨h0, -, h1, h2, -⟩ := Buffer.span_mem hb hs
      obtain ⟨err, rfl⟩ := Substitution.command_of_onLinesFrom h0 (by omega) hw
      simp
    | ok w =>
      dsimp only
      split
      · exact .told
      split
      · exact .told
      · exact .edited rfl
          (fun hb => Substitution.newline_not_mem_onLines hb.no_newline hw) (Or.inl rfl)

theorem turn_write (target : Option Path) (quitAfter onlyIfModified : Bool) (e : Editor) :
    Turn e (.write target quitAfter onlyIfModified)
      (runFrom (runWrite target quitAfter onlyIfModified) e).1
      (runFrom (runWrite target quitAfter onlyIfModified) e).2 := by
  rw [runFrom_write]
  cases hp : target.or e.buffer.path with
  | none => exact .told
  | some path =>
    dsimp only
    split
    · rename_i hskip
      obtain ⟨rfl, hm, -⟩ := hskip
      exact .skipped (by simpa using hm)
    · rcases Disk.writeBytes_cases path (Utf8.encode e.buffer.text) e.disk with
        ⟨-, h⟩ | ⟨err, h⟩ | ⟨loc, x, -, -, -, h⟩ <;> rw [Disk.writeText, h]
      · exact .unwritten rfl (by simp)
      · exact .unwritten rfl (by simp)
      · exact .written hp h

theorem turn_quit (force : Bool) (e : Editor) :
    Turn e (.quit force) (runFrom (runQuit force) e).1 (runFrom (runQuit force) e).2 := by
  rw [runFrom_quit]
  split
  · exact .told
  · rename_i h
    exact .quitting (by simpa using h)

/-- Whatever a command of the library does is a turn. -/
theorem turn_perform {c : Command} (hc : c.IsBuiltIn) (past : List Text)
    (range : Option LineRange) (e : Editor) :
    Turn e c (runFrom (c.perform past range) e).1 (runFrom (c.perform past range) e).2 := by
  cases c with
  | foreign f => exact absurd rfl (hc f)
  | goto => exact turn_goto range e
  | delete target => exact turn_delete target range e
  | yank target => exact turn_yank target range e
  | print => exact turn_print range e
  | substitute sub => exact turn_substitute sub range e
  | write target quitAfter onlyIfModified => exact turn_write target quitAfter onlyIfModified e
  | quit force => exact turn_quit force e
  | history => exact .told
  | registers names => exact .told

/-! ## what follows for every turn -/

/-- The file that a command wrote the buffer `b` to, if it did. -/
def writtenTo? (b : Buffer) : Command → Except Fault Outcome → Option Path
  | .write target _ _, .ok (.written _ _ _) => target.or b.path
  | _, _ => none

variable {c : Command} {r : Except Fault Outcome}

theorem Turn.eq_of_isFailure (h : Turn e c r e') (hr : isFailure r = true) :
    e'.buffer = e.buffer ∧ e'.registers = e.registers := by
  cases h with
  | stopped | told | unwritten => exact ⟨rfl, rfl⟩
  | moved ho | kept ho | edited ho =>
    rw [isFailure, ho] at hr
    cases hr
  | quitting | skipped | written => cases hr

theorem Turn.wellFormed (h : Turn e c r e') (hb : e.buffer.WellFormed) :
    e'.buffer.WellFormed := by
  cases h with
  | stopped | told | kept | unwritten => exact hb
  | moved _ hi => exact hb.withCursor (hi hb).1 (hi hb).2
  | edited _ hnew => exact Buffer.wellFormed_replaceLines_at hb (hnew hb) _ _ _
  | quitting | skipped | written => exact ⟨hb.ne_nil, hb.cursor_nonneg, hb.cursor_lt, hb.no_newline⟩

theorem Turn.ne_noSuchItem (h : Turn e c r e') (hb : e.buffer.WellFormed) :
    r ≠ .error .noSuchItem := by
  cases h with
  | stopped hf =>
    have := hf hb
    simpa using this
  | unwritten _ hf => exact hf
  | told | moved | kept | edited | quitting | skipped | written => simp

/-- An unmodified buffer was unmodified before and holds the same lines, or this turn wrote it to
its own file. -/
theorem Turn.unmodified (h : Turn e c r e') (hm : e'.buffer.modified = false) :
    (e.buffer.modified = false ∧ e'.buffer.lines = e.buffer.lines) ∨
      ∃ p, writtenTo? e.buffer c r = some p ∧ e'.buffer.path = some p := by
  cases h with
  | stopped | told | moved | kept | quitting | skipped | unwritten => exact Or.inl ⟨hm, rfl⟩
  | edited => cases hm
  | @written _ _ _ path _ hp hw =>
    simp only [writtenBuffer, Bool.and_eq_false_iff, bne_eq_false_iff_eq] at hm
    obtain hm | hm := hm
    · exact Or.inl ⟨hm, rfl⟩
    · refine Or.inr ⟨path, hp, ?_⟩
      simp only [writtenBuffer, ← hm]

/-- Quitting is asked for by force, with an unmodified buffer, or after the whole buffer was
written. -/
theorem Turn.quitRequested (h : Turn e c r e') (h0 : e.buffer.quitRequested = false)
    (h1 : e'.buffer.quitRequested = true) :
    c = .quit true ∨ e.buffer.modified = false ∨
      ∃ p, writtenTo? e.buffer c r = some p ∧
        e'.disk.readBytes p = .ok (Utf8.encode e.buffer.text) := by
  cases h with
  | stopped | told | moved | kept | edited | unwritten =>
    exact absurd (h0.symm.trans h1) (by decide)
  | @quitting force hforce =>
    cases hm : e.buffer.modified with
    | false => exact Or.inr (Or.inl rfl)
    | true =>
      rw [hforce hm]
      exact Or.inl rfl
  | skipped hm => exact Or.inr (Or.inl hm)
  | written hp hw => exact Or.inr (Or.inr ⟨_, hp, Disk.readBytes_of_writeBytes hw⟩)

/-! ## failing commands -/

/-- A command of the built-in table that fails, because it stops short or because what it has to
tell is an error, leaves the buffer and every register as they were. -/
theorem perform_atomic {homes : List (Text × Text)} {raw : Text} {parsed : Option LineRange}
    (h : (Table.ofExtra homes []).parse raw = .ok (.command c parsed)) (past : List Text)
    (range : Option LineRange) (e : Editor)
    (hfail : isFailure (runFrom (c.perform past range) e).1 = true) :
    (runFrom (c.perform past range) e).2.buffer = e.buffer ∧
      (runFrom (c.perform past range) e).2.registers = e.registers :=
  (turn_perform (Table.isBuiltIn_of_parse h) past range e).eq_of_isFailure hfail

/-- Deleting into a read-only register fails after the range has moved to its second line. -/
theorem perform_atomic_readonly :
    let e : Editor := ⟨⟨["a".toList, "b".toList], 0, [], none, false, .normal, false⟩,
      Registers.empty, ⟨[], [], [], [], .standard⟩⟩
    let c : Command := .delete ⟨some ':', none⟩
    let range : LineRange := .pair (.ofLine 1) .semicolon (.ofLine 2)
    (Table.ofExtra [] []).parse "1;2d :".toList = .ok (.command c (some range)) ∧
      (runFrom (c.perform [] (some range)) e).1 = .error (.readonlyRegister [':']) ∧
      (runFrom (c.perform [] (some range)) e).2.buffer = e.buffer ∧
      (runFrom (c.perform [] (some range)) e).2.registers = e.registers := by
  intro e c range
  have hparse : (Table.ofExtra [] []).parse "1;2d :".toList = .ok (.command c (some range)) := rfl
  exact ⟨hparse, rfl, perform_atomic hparse [] (some range) e rfl⟩

end Command

end ExMode
