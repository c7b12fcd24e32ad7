import ExMode.Cli
import ExMode.Proofs.HistoryFormat
import ExMode.Proofs.Provenance
import ExMode.Proofs.Route
import ExMode.Proofs.Unsaved

/-!
# ExMode.Proofs.Reload

Buffers that are written and read again.  A text is cut into lines at every line break of Unicode,
and lines are put together again with line feeds alone.  So the two directions agree as long as no
line holds a break, and a text comes back as long as it has no breaks but line feeds and ends with
one.

* `Buffer.linesOf_text_eq_iff`, `Buffer.text_ofText_eq_iff` — when lines come back from their text,
  and a text from its lines;
* `Engine.saved_as_opened` — which files are saved as they were opened;
* `Session.typed_of_isLineBreak` — how a break gets into a line: somebody types it;
* `Session.reload_afterAll` — which runs of command lines lead to a buffer that is read again with
  the same lines, from a saved file and from the file of a program that does nothing.
-/

namespace ExMode

/-! ## texts of lines -/

namespace Text

/-- A text whose lines are ended by line feeds, the last one too, and by nothing else. -/
structure LineFed (t : Text) : Prop where
  getLast?_eq : t.getLast? = some '\n'
  eq_newline : ∀ c ∈ t, isLineBreak c = true → c = '\n'

theorem newline_of_all {t : Text} (h : (t.all fun c => ! isLineBreak c || c == '\n') = true) :
    ∀ c ∈ t, isLineBreak c = true → c = '\n' := by
  intro c hc hbreak
  have hall := List.all_eq_true.1 h c hc
  simpa [hbreak] using hall

theorem mem_unlines {lines : List Text} {c : Char} (h : c ∈ unlines lines) :
    (∃ l ∈ lines, c ∈ l) ∨ c = '\n' := by
  simp only [unlines, List.mem_flatMap, List.mem_append, List.mem_singleton] at h
  obtain ⟨l, hl, h | h⟩ := h
  · exact Or.inl ⟨l, hl, h⟩
  · exact Or.inr h

theorem unlines_consLine (c : Char) {lines : List Text} (h : lines ≠ []) :
    unlines (consLine c lines) = c :: unlines lines := by
  cases lines with
  | nil => exact absurd rfl h
  | cons l ls => simp [unlines, consLine]

/-- A text is its lines again, each with a line feed behind it, if line feeds end them. -/
theorem unlines_splitLines {t : Text} (hlast : t ≠ [] → t.getLast? = some '\n')
    (hbreak : ∀ c ∈ t, isLineBreak c = true → c = '\n') : unlines (splitLines t) = t := by
  induction t with
  | nil => rfl
  | cons c t ih =>
    obtain ⟨hc, ht⟩ := List.forall_mem_cons.1 hbreak
    have hrest : unlines (splitLines t) = t := by
      refine ih (fun hne => ?_) ht
      rw [← hlast (List.cons_ne_nil c t), List.getLast?_cons_of_ne_nil hne]
    by_cases hnewline : c = '\n'
    · rw [hnewline, splitLines_cons_newline]
      have : unlines ([] :: splitLines t) = '\n' :: unlines (splitLines t) := rfl
      rw [this, hrest]
    · have hplain : isLineBreak c = false := by
        rw [← Bool.not_eq_true]
        exact fun h => hnewline (hc h)
      -- the line that begins with this character goes on, since it is not the last character
      have hlines : splitLines t ≠ [] := by
        intro hnil
        rw [hnil] at hrest
        have hlast := hlast (List.cons_ne_nil c t)
        rw [← hrest] at hlast
        exact hnewline (Option.some.inj hlast)
      rw [splitLines_cons_of_not_break hplain, unlines_consLine c hlines, hrest]

end Text

/-! ## buffers of lines -/

namespace Buffer

variable {b : Buffer}

theorem linesOf_of_ne_nil {t : Text} (h : t.splitLines ≠ []) : linesOf t = t.splitLines := by
  unfold linesOf
  split
  · rename_i hnil
    exact absurd hnil h
  · rfl

/-- The lines of a text hold no break. -/
theorem not_break_of_mem_linesOf {t l : Text} (h : l ∈ linesOf t) :
    ∀ c ∈ l, isLineBreak c = false := by
  unfold linesOf at h
  split at h
  · simp_all
  · exact Text.not_break_of_mem_splitLines h

theorem lineFed_text (hne : b.lines ≠ []) (h : ∀ l ∈ b.lines, ∀ c ∈ l, isLineBreak c = false) :
    b.text.LineFed where
  getLast?_eq := by simp [text]
  eq_newline := by
    intro c hc hbreak
    rw [text_eq_unlines hne] at hc
    obtain ⟨l, hl, hc⟩ | hc := Text.mem_unlines hc
    · rw [h l hl c hc] at hbreak
      cases hbreak
    · exact hc

/-- The lines of a buffer are the lines of its text just if none of them holds a break. -/
theorem linesOf_text_eq_iff (hne : b.lines ≠ []) :
    linesOf b.text = b.lines ↔ ∀ l ∈ b.lines, ∀ c ∈ l, isLineBreak c = false := by
  constructor
  · intro h l hl
    rw [← h] at hl
    exact not_break_of_mem_linesOf hl
  · intro h
    have hsplit : b.text.splitLines = b.lines := by
      rw [text_eq_unlines hne, Text.splitLines_unlines h]
    rw [linesOf_of_ne_nil (hsplit ▸ hne), hsplit]

theorem lineFed_text_ofText (t : Text) (path : Option Path) : (ofText t path).text.LineFed :=
  lineFed_text (linesOf_ne_nil t) fun _ hl => not_break_of_mem_linesOf hl

/-- A buffer gives back the text that it was made from just if line feeds, and no other breaks, end
the lines of the text. -/
theorem text_ofText_eq_iff {t : Text} {path : Option Path} :
    (ofText t path).text = t ↔ t.LineFed := by
  constructor
  · intro h
    rw [← h]
    exact lineFed_text_ofText t path
  · intro h
    have hunlines := Text.unlines_splitLines (fun _ => h.getLast?_eq) h.eq_newline
    have hne : t.splitLines ≠ [] := by
      intro hnil
      have hlast := h.getLast?_eq
      rw [← hunlines, hnil] at hlast
      cases hlast
    rw [text_eq_unlines (linesOf_ne_nil t)]
    change Text.unlines (linesOf t) = t
    rw [linesOf_of_ne_nil hne, hunlines]

end Buffer

/-! ## files -/

/-- A text without other breaks than line feeds is read as it is. -/
theorem Text.LineFed.unifyNewlines {t : Text} (h : t.LineFed) : t.unifyNewlines = t := by
  apply History.unifyNewlines_of_not_mem
  intro hreturn
  have := h.eq_newline '\r' hreturn (by decide)
  cases this

theorem Utf8.encode_injective {t u : Text} (h : Utf8.encode t = Utf8.encode u) : t = u := by
  have hdecode := Utf8.decode_encode t
  rw [h, Utf8.decode_encode] at hdecode
  exact (Except.ok.inj hdecode).symm

namespace Disk

variable {d : Disk} {p : Path} {t : Text}

theorem readText_of_readBytes (h : d.readBytes p = .ok (Utf8.encode t)) :
    d.readText p = .ok t.unifyNewlines := by
  simp only [readText, h, bind, Except.bind, Utf8.decode_encode]

/-- A file that holds a text is opened as a buffer of it. -/
theorem bufferOf_of_readBytes (h : d.readBytes p = .ok (Utf8.encode t)) :
    Cli.bufferOf d p = .ok (Buffer.ofText t.unifyNewlines (some p)) := by
  simp only [Cli.bufferOf, pathExists_of_readBytes h, readText_of_readBytes h, bind, Except.bind]
  rfl

end Disk

namespace Command

/-- A file that a command wrote the buffer to holds the text of the buffer. -/
theorem readBytes_of_writtenTo? {c : Command} {p : Path} {past : List Text}
    {range : Option LineRange} {e e' : Editor} {r : Except Fault Outcome}
    (hrun : runFrom (c.perform past range) e = (r, e'))
    (h : writtenTo? e.buffer c r = some p) :
    e'.disk.readBytes p = .ok (Utf8.encode e.buffer.text) := by
  cases c with
  | write target quitAfter onlyIfModified =>
    simp only [perform, runFrom_write] at hrun
    split at hrun
    · cases hrun
      cases h
    rename_i path hpath
    split at hrun
    · cases hrun
      cases h
    split at hrun
    · cases hrun
      cases h
    · cases hrun
      cases h
    · rename_i d hwrite
      cases hrun
      have : path = p := Option.some.inj (hpath.symm.trans h)
      rw [← this]
      exact Disk.readBytes_of_writeBytes hwrite
  | _ => cases h

end Command

namespace Engine

variable {settings : Settings} {homes : List (Text × Text)} {program : Option Interpreter}
  {raw : Text} {s : Session} {p : Path}

/-- A file that a line wrote the buffer to holds the text of the buffer. -/
theorem readBytes_after_of_wrote? (e : Engine) (h : e.wrote? raw s = some p) :
    (e.after raw s).editor.disk.readBytes p = .ok (Utf8.encode s.editor.buffer.text) := by
  unfold wrote? at h
  split at h
  · rename_i c r ed hp
    obtain ⟨heditor, past, range, start, hstart, -, hrun⟩ := run_of_performed hp
    rw [heditor]
    rw [← hstart] at h ⊢
    exact Command.readBytes_of_writtenTo? hrun h
  · cases h

/-! ## opening and saving -/

/-- A buffer gives back the text that it was made from just if line feeds, and no other breaks, end
the lines of that text, the last one too.  A file that is opened and then written holds what it held
in just the same case. -/
theorem saved_as_opened (t : Text) :
    (∀ path, (Buffer.ofText t path).text = t ↔ t.LineFed) ∧
    ∀ (settings : Settings) (homes : List (Text × Text)) (program : Option Interpreter)
      (raw : Text) (s : Session) (d : Disk) (file target : Path),
      let e := builtIn settings homes program
      d.readBytes file = .ok (Utf8.encode t) →
      Cli.bufferOf d file = .ok s.editor.buffer →
      e.wrote? raw s = some target →
      ((e.after raw s).editor.disk.readBytes target = .ok (Utf8.encode t) ↔ t.LineFed) := by
  refine ⟨fun path => Buffer.text_ofText_eq_iff, ?_⟩
  intro settings homes program raw s d file target e hfile hopen hwrote
  rw [Disk.bufferOf_of_readBytes hfile] at hopen
  have hread := readBytes_after_of_wrote? e hwrote
  rw [← Except.ok.inj hopen] at hread
  rw [hread]
  constructor
  · intro h
    have htext := Utf8.encode_injective (Except.ok.inj h)
    rw [← htext]
    exact Buffer.lineFed_text_ofText _ _
  · intro h
    rw [h.unifyNewlines, Buffer.text_ofText_eq_iff.2 h]

/-- A file of two lines is opened and saved. -/
theorem saved_as_opened_lines :
    let file := Path.ofText "/f".toList
    let t := "a\nb\n".toList
    let d : Disk := ⟨[(["f".toList], .file (Utf8.encode t) false)], [], [], [], .standard⟩
    let s := Session.start ⟨Buffer.ofText t (some file), Registers.empty, d⟩
      (History.new (.memory []))
    let e := builtIn .standard [] none
    d.readBytes file = .ok (Utf8.encode t) ∧
      e.wrote? "w".toList s = some file ∧
      (e.after "w".toList s).editor.disk.readBytes file = .ok (Utf8.encode t) := by
  intro file t d s e
  have hfile : d.readBytes file = .ok (Utf8.encode t) := by decide +kernel
  have hopen : Cli.bufferOf d file = .ok s.editor.buffer := by decide +kernel
  have hwrote : e.wrote? "w".toList s = some file := by decide +kernel
  have hfed : Text.LineFed t := ⟨by decide, Text.newline_of_all (by decide)⟩
  have hsaved := (saved_as_opened t).2 .standard [] none "w".toList s d file file hfile hopen hwrote
  exact ⟨hfile, hwrote, hsaved.2 hfed⟩

/-- A form feed in a line is lost: the line is two lines when the file was opened. -/
theorem saved_as_opened_formFeed :
    let t := "a\x0cb\n".toList
    '\r' ∉ t ∧ t.getLast? = some '\n' ∧
      (Buffer.ofText t none).text = "a\nb\n".toList ∧ (Buffer.ofText t none).text ≠ t := by
  decide

end Engine

/-! ## what lines put into a buffer -/

/-- Whatever counts every character that is no break, and line feeds, counts the marks of templates.
-/
theorem Magic.over_marks {P : Char → Prop} (hplain : ∀ c, isLineBreak c = false → P c)
    (hnewline : P '\n') : Text.Over P marks := by
  intro c hc
  by_cases h : c = '\n'
  · rw [h]
    exact hnewline
  · refine hplain c ?_
    simp only [marks, List.mem_cons, List.not_mem_nil, or_false] at hc
    obtain rfl | rfl | rfl | rfl | rfl | rfl := hc <;> first | rfl | exact absurd rfl h

section

variable {P : Char → Prop} {settings : Settings} {homes : List (Text × Text)} {s : Session}

theorem Delegate.Adopts.over {b b' : Buffer} (h : Adopts b b')
    (hplain : ∀ c, isLineBreak c = false → P c) (hb : b.Over P) : b'.Over P := by
  obtain rfl | ⟨t, rfl⟩ := h
  · exact hb
  · unfold adoptLines
    split
    · exact hb
    · refine hb.replaceLines (fun l hl c hc => ?_) _ _
      exact hplain c (Buffer.not_break_of_mem_linesOf hl c hc)

/-- A line leaves a buffer of what was in it, what was typed, line feeds, and characters that are no
breaks. -/
theorem Engine.over_buffer_after {raw : Text} {program : Option Interpreter}
    (hplain : ∀ c, isLineBreak c = false → P c) (hnewline : P '\n') (hraw : Text.Over P raw)
    (hs : s.editor.buffer.Over P) :
    ((builtIn settings homes program).after raw s).editor.buffer.Over P := by
  cases hp : (builtIn settings homes program).performed? raw s with
  | none => exact (adopts_of_not_performed hp).over hplain hs
  | some x =>
    obtain ⟨c, r, ed⟩ := x
    obtain ⟨heditor, past, range, start, hstart, hparse, hrun⟩ := run_of_performed hp
    have hmarks := Magic.over_marks hplain hnewline
    have hturn := Command.over_buffer_perform (Table.isBuiltIn_of_parse hparse)
      (Command.over_of_parse hmarks hraw hparse) (hstart ▸ hs) past range
    rw [hrun] at hturn
    rw [heditor]
    exact hturn

theorem Session.over_buffer_afterAll (hplain : ∀ c, isLineBreak c = false → P c)
    (hnewline : P '\n') {lines : List (Text × Option Interpreter)}
    (hlines : ∀ line ∈ lines, Text.Over P line.1) (hs : s.editor.buffer.Over P) :
    (s.afterAll settings homes lines).editor.buffer.Over P := by
  induction lines generalizing s with
  | nil => exact hs
  | cons line lines ih =>
    obtain ⟨hline, hlines⟩ := List.forall_mem_cons.1 hlines
    exact ih hlines (Engine.over_buffer_after hplain hnewline hline hs)

end

/-! ## programs that change nothing -/

namespace Delegate

/-- A program that leaves the file it is given, which is the last of its arguments, as it is. -/
def LeavesFile (interpreter : Interpreter) : Prop :=
  ∀ argv (file : Path) timeout d, argv.getLast? = some file.text →
    (interpreter argv timeout d).2.readBytes file = d.readBytes file

variable {interpreter : Interpreter} {settings : DelegationSettings} {raw : Text}

theorem getLast?_arguments (program : Text) (args : List Text) (cursor : Int) (command : Text)
    (file : Path) : (arguments program args cursor command file).getLast? = some file.text := by
  rw [arguments, List.getLast?_append]
  rfl

/-- A file with the text of the buffer makes no difference to the buffer. -/
theorem buffer_of_answer {command : Text} {b b' : Buffer} {file : Path} {d : Disk}
    {report : RunReport} {reply : Reply} (hne : b.lines ≠ [])
    (hlines : Buffer.linesOf b.text = b.lines)
    (hfile : d.readBytes file = .ok (Utf8.encode b.text))
    (h : answer settings command b file d report = .ok (reply, b')) : b' = b := by
  have hfed := Buffer.lineFed_text hne ((Buffer.linesOf_text_eq_iff hne).1 hlines)
  have hread : d.readText file = .ok b.text := by
    rw [Disk.readText_of_readBytes hfile, hfed.unifyNewlines]
  cases report with
  | notStarted e =>
    cases h
    rfl
  | timedOut =>
    cases h
    rfl
  | exited code output errors =>
    simp only [answer] at h
    split at h
    · cases h
      rfl
    · rw [hread] at h
      cases h
      exact if_pos hlines

/-- A program that leaves the file as it is leaves the buffer as it is, if the text of the buffer
reads as its lines. -/
theorem buffer_runProgram (hleaves : LeavesFile interpreter) {e : Editor}
    (hne : e.buffer.lines ≠ []) (hlines : Buffer.linesOf e.buffer.text = e.buffer.lines)
    (program : Text) :
    (runFrom (runProgram interpreter settings program raw) e).2.buffer = e.buffer := by
  simp only [runProgram, runFrom_bind, runFrom_get]
  split
  rename_i ready d hprepare
  cases ready with
  | error fault => rfl
  | ok _ =>
    dsimp only
    split
    · rfl
    · generalize scratch e.disk = place at hprepare ⊢
      have hfile : d.readBytes (bufferPath place) = .ok (Utf8.encode e.buffer.text) := by
        obtain ⟨_, _, -, hwrite⟩ := runFrom_bind_eq_ok.1 hprepare
        exact Disk.readBytes_of_writeBytes hwrite
      have hlast := getLast?_arguments program settings.args e.buffer.cursor (commandOf raw)
        (bufferPath place)
      generalize arguments program settings.args e.buffer.cursor (commandOf raw)
        (bufferPath place) = argv at hlast
      have hleft := (hleaves argv _ settings.timeout d hlast).trans hfile
      generalize interpreter argv settings.timeout d = x at hleft
      obtain ⟨report, left⟩ := x
      dsimp only at hleft ⊢
      cases h : answer settings (commandOf raw) e.buffer (bufferPath place) left report with
      | error fault => rfl
      | ok y => exact buffer_of_answer hne hlines hleft h

theorem buffer_run (hleaves : LeavesFile interpreter) {s : Session}
    (hne : s.editor.buffer.lines ≠ [])
    (hlines : Buffer.linesOf s.editor.buffer.text = s.editor.buffer.lines) :
    (runFrom (run interpreter settings raw) s).2.editor.buffer = s.editor.buffer := by
  simp only [run, runFrom_bind, runFrom_get]
  cases s.interpreter with
  | none => rfl
  | some program =>
    simp only [runFrom_bind, Action.runFrom_editing, runFrom_ofExcept]
    exact buffer_runProgram hleaves hne hlines program

end Delegate

namespace Engine

variable {settings : Settings} {homes : List (Text × Text)} {program : Option Interpreter}
  {raw : Text} {s : Session}

/-- A line that is run here has that errand. -/
theorem performed?_of_errand? {e : Engine} {s' : Session} {c : Command} {range : Option LineRange}
    (hraw : raw ≠ []) (hrecord : runFrom (e.record raw) s = (.ok (), s'))
    (h : e.errand? raw s' = some (.here c range)) : e.performed? raw s ≠ none := by
  obtain ⟨hparse, hstays⟩ := errand?_eq_here.1 h
  have hway : e.wayOut? c s' = none := by
    have hexit := exit?_eq_none.2 hstays
    simpa only [exit?, mayLeave, wayOut?, hparse] using hexit
  unfold performed?
  rw [if_neg hraw, hrecord]
  simp only [hparse, hway]
  exact Option.some_ne_none _

/-- A line that is not run here leaves the buffer as it is, if the program that it may be handed to
leaves the temporary file as it is. -/
theorem buffer_after_of_leavesFile (hleaves : ∀ p, program = some p → Delegate.LeavesFile p)
    (hne : s.editor.buffer.lines ≠ [])
    (hlines : Buffer.linesOf s.editor.buffer.text = s.editor.buffer.lines)
    (h : (builtIn settings homes program).performed? raw s = none) :
    ((builtIn settings homes program).after raw s).editor.buffer = s.editor.buffer := by
  by_cases hraw : raw = []
  · rw [hraw]
    rfl
  have hbuffer := buffer_record (builtIn settings homes program) raw s
  rw [after_of_ne_nil hraw]
  rcases hrecord : runFrom ((builtIn settings homes program).record raw) s with ⟨fault | _, s'⟩
  · rw [hrecord] at hbuffer
    exact hbuffer
  rw [hrecord] at hbuffer
  obtain ⟨wrong, count, -, ⟨notes, hrun, -⟩, -⟩ :=
    settles_dispatch (builtIn settings homes program) raw s'
  dsimp only
  rw [hrun]
  change (Errand.carryOut? raw s' _).2.editor.buffer = _
  cases herrand : (builtIn settings homes program).errand? raw s' with
  | none => exact hbuffer
  | some errand =>
    cases errand with
    | here c range => exact absurd h (performed?_of_errand? hraw hrecord herrand)
    | away g =>
      obtain ⟨p, hp, rfl⟩ := Option.map_eq_some_iff.1 (errand?_eq_away.1 herrand).1
      rw [← hbuffer]
      rw [← hbuffer] at hne hlines
      exact Delegate.buffer_run (hleaves p hp) hne hlines

end Engine

/-- A file that a line wrote a buffer to is opened with the lines of the buffer, if they are the
lines of its text. -/
theorem Engine.bufferOf_after_of_wrote? (e : Engine) {raw : Text} {s : Session} {file : Path}
    (hne : s.editor.buffer.lines ≠ [])
    (hlines : Buffer.linesOf s.editor.buffer.text = s.editor.buffer.lines)
    (h : e.wrote? raw s = some file) :
    Cli.bufferOf (e.after raw s).editor.disk file =
      .ok { Buffer.empty with lines := s.editor.buffer.lines, path := some file } := by
  have hfed := Buffer.lineFed_text hne ((Buffer.linesOf_text_eq_iff hne).1 hlines)
  rw [Disk.bufferOf_of_readBytes (readBytes_after_of_wrote? e h), hfed.unifyNewlines]
  unfold Buffer.ofText
  rw [hlines]

/-! ## runs -/

namespace Session

variable {t : Text} {path : Option Path} {s : Session}

theorem wellFormed_buffer_afterAll (hs : s.editor.buffer = Buffer.ofText t path)
    (settings : Settings) (homes : List (Text × Text)) (lines : List (Text × Option Interpreter)) :
    (s.afterAll settings homes lines).editor.buffer.WellFormed :=
  afterAll_induction (P := fun s => s.editor.buffer.WellFormed)
    (fun _ _ _ h => Engine.wellFormed_after h) (hs ▸ Buffer.wellFormed_ofText t path) lines

/-- A break in a line is no line feed, and was typed in a command line. -/
theorem typed_of_isLineBreak (hs : s.editor.buffer = Buffer.ofText t path)
    (settings : Settings) (homes : List (Text × Text)) (lines : List (Text × Option Interpreter)) :
    ∀ l ∈ (s.afterAll settings homes lines).editor.buffer.lines, ∀ c ∈ l, isLineBreak c = true →
      c ≠ '\n' ∧ ∃ line ∈ lines, c ∈ line.1 := by
  let P (c : Char) : Prop := isLineBreak c = true → c = '\n' ∨ ∃ line ∈ lines, c ∈ line.1
  have hplain (c : Char) (h : isLineBreak c = false) : P c := by
    intro hbreak
    rw [h] at hbreak
    cases hbreak
  have hstart : s.editor.buffer.Over P := by
    intro l hl c hc
    rw [hs] at hl
    exact hplain c (Buffer.not_break_of_mem_linesOf hl c hc)
  have hover : (s.afterAll settings homes lines).editor.buffer.Over P :=
    over_buffer_afterAll hplain (fun _ => Or.inl rfl)
      (fun line hline c hc _ => Or.inr ⟨line, hline, hc⟩) hstart
  intro l hl c hc hbreak
  have hnewline : c ≠ '\n' := by
    rintro rfl
    exact (wellFormed_buffer_afterAll hs settings homes lines).no_newline l hl hc
  exact ⟨hnewline, (hover l hl c hc hbreak).resolve_left hnewline⟩

/-- From the buffer of a text, every run of command lines leads to a buffer whose lines hold no
breaks but those that were typed in a command line, and never a line feed.  The buffer has the lines
of its text just if no line holds a break at all; so it has them when no command line held any other
break than a line feed.  If it has them, then a file that a line writes it to is opened with the
same lines, and a line that is not run here changes nothing about the buffer, whether it counts as
modified included, when the program that it may be handed to leaves the temporary file as it is. -/
theorem reload_afterAll (t : Text) (path : Option Path) (s : Session)
    (hs : s.editor.buffer = Buffer.ofText t path) (settings : Settings) (homes : List (Text × Text))
    (lines : List (Text × Option Interpreter)) :
    let s' := s.afterAll settings homes lines
    let b := s'.editor.buffer
    (∀ l ∈ b.lines, ∀ c ∈ l, isLineBreak c = true → c ≠ '\n' ∧ ∃ line ∈ lines, c ∈ line.1) ∧
    (Buffer.linesOf b.text = b.lines ↔ ∀ l ∈ b.lines, ∀ c ∈ l, isLineBreak c = false) ∧
    ((∀ line ∈ lines, ∀ c ∈ line.1, isLineBreak c = true → c = '\n') →
      Buffer.linesOf b.text = b.lines) ∧
    (Buffer.linesOf b.text = b.lines → ∀ program raw,
      let e := Engine.builtIn settings homes program
      (∀ file, e.wrote? raw s' = some file →
        Cli.bufferOf (e.after raw s').editor.disk file =
          .ok { Buffer.empty with lines := b.lines, path := some file }) ∧
      ((∀ p, program = some p → Delegate.LeavesFile p) → e.performed? raw s' = none →
        (e.after raw s').editor.buffer = b)) := by
  intro s' b
  have hne : b.lines ≠ [] := (wellFormed_buffer_afterAll hs settings homes lines).ne_nil
  have htyped := typed_of_isLineBreak hs settings homes lines
  refine ⟨htyped, Buffer.linesOf_text_eq_iff hne, fun hlines => ?_, fun hlines program raw => ?_⟩
  · rw [Buffer.linesOf_text_eq_iff hne]
    intro l hl c hc
    rw [← Bool.not_eq_true]
    intro hbreak
    obtain ⟨hnewline, line, hline, hmem⟩ := htyped l hl c hc hbreak
    exact hnewline (hlines line hline c hmem hbreak)
  · constructor
    · exact fun file => Engine.bufferOf_after_of_wrote? _ hne hlines
    · exact fun hleaves => Engine.buffer_after_of_leavesFile hleaves hne hlines

/-- A line is split and the buffer is saved; the file is opened with both lines, and a program that
does nothing leaves the buffer unmodified. -/
theorem reload_afterAll_split :
    let file := Path.ofText "/f".toList
    let s := { start
        ⟨Buffer.ofText "a".toList (some file), Registers.empty, ⟨[], [], [], [], .standard⟩⟩
      (History.new (.memory [])) with interpreter := some "vi".toList }
    let delegating := { Settings.standard with
      delegation := { Settings.standard.delegation with enabled := true } }
    let idle : Interpreter := fun _ _ d => (.exited 0 [] [], d)
    let lines := [("s/a/x\\ry/".toList, none), ("w".toList, none)]
    let s' := s.afterAll delegating [] lines
    let e := Engine.builtIn delegating [] (some idle)
    s'.editor.buffer.lines = ["x".toList, "y".toList] ∧
      Buffer.linesOf s'.editor.buffer.text = s'.editor.buffer.lines ∧
      e.performed? "d".toList s' = none ∧
      (e.after "d".toList s').editor.buffer = s'.editor.buffer ∧
      s'.editor.buffer.modified = false := by
  intro file s delegating idle lines s' e
  have hlines : ∀ line ∈ lines, ∀ c ∈ line.1, isLineBreak c = true → c = '\n' := by
    intro line hline
    simp only [lines, List.mem_cons, List.not_mem_nil, or_false] at hline
    obtain rfl | rfl := hline
    · exact Text.newline_of_all (by decide)
    · exact Text.newline_of_all (by decide)
  have hidle : ∀ p, some idle = some p → Delegate.LeavesFile p := by
    rintro p hp
    cases hp
    exact fun _ _ _ _ _ => rfl
  have hhanded : e.performed? "d".toList s' = none :=
    Option.isNone_iff_eq_none.1 (by decide +kernel)
  have hsplit : s'.editor.buffer.lines = ["x".toList, "y".toList] := by decide +kernel
  have hunmodified : s'.editor.buffer.modified = false := by decide +kernel
  obtain ⟨-, -, hreload, hidles⟩ :=
    reload_afterAll "a".toList (some file) s rfl delegating [] lines
  have hsame := (hidles (hreload hlines) (some idle) "d".toList).2 hidle hhanded
  exact ⟨hsplit, hreload hlines, hhanded, hsame, hunmodified⟩

/-- A form feed that a substitution puts in makes two lines of one when the text is read again. -/
theorem reload_afterAll_formFeed :
    let s := start ⟨Buffer.ofText "a\n".toList none, Registers.empty, ⟨[], [], [], [], .standard⟩⟩
      (History.new (.memory []))
    let b := (s.afterAll .standard [] [("s/a/x\x0cy/".toList, none)]).editor.buffer
    b.lines = ["x\x0cy".toList] ∧ Buffer.linesOf b.text = ["x".toList, "y".toList] ∧
      Buffer.linesOf b.text ≠ b.lines := by
  intro s b
  have hlines : b.lines = ["x\x0cy".toList] := by decide +kernel
  have htext : Buffer.linesOf b.text = ["x".toList, "y".toList] := by decide +kernel
  refine ⟨hlines, htext, ?_⟩
  rw [hlines, htext]
  decide

end Session

end ExMode
