import ExMode.Proofs.Spelling
import ExMode.Proofs.Unfailing

/-!
# ExMode.Proofs.Delegate

What comes of handing a line to an outside program, for every program.

The exchange has three parts that can go wrong: the buffer is written to a temporary
file, the program is started with its arguments, and what it left in that file is
read.  The middle part is the program's, and all that can happen there is answered
(`Asks.runFrom_run`).  The other two belong to the library, and a fault in them is
passed on: the temporary file may be refused, an argument may hold a character that
no argument can hold, and a program that says it succeeded may have removed the file,
put a directory in its place, or left bytes that are no text.

* `Exchange` — every way an exchange can end, with the buffer it leaves;
* `exchange_run` — it ends in one of these ways;
* `run_answers` — what that means for whoever asked.
-/

namespace ExMode

/-- Whether a program ran to its end and said that it succeeded. -/
def RunReport.succeeded : RunReport → Bool
  | .exited code _ _ => code == 0
  | _ => false

namespace Delegate

/-! ## where the temporary file is -/

/-- One of the places is found that is free, since there are more to choose from than entries. -/
theorem scratch_spec (d : Disk) :
    ∃ n, scratch d = scratchPlace n ∧ d.at? (scratchPlace n).parts = none := by
  unfold scratch
  dsimp only
  cases hfind : (List.range (d.entries.length + 1)).find? fun n =>
      (d.at? (scratchPlace n).parts).isNone with
  | some n =>
    have hfree := List.find?_some hfind
    exact ⟨n, rfl, Option.isNone_iff_eq_none.1 hfree⟩
  | none =>
    -- if none were free, they would all be keys of entries
    let places := (List.range (d.entries.length + 1)).map fun n => (scratchPlace n).parts
    have hnodup : places.Nodup := by
      refine List.pairwise_map.2 (List.nodup_range.imp fun {m n} hne h => hne ?_)
      have hdigits : Text.ofNat m = Text.ofNat n := by simpa [scratchPlace] using h
      rw [← Text.digitsValue_ofNat m, hdigits, Text.digitsValue_ofNat n]
    have hsubset : places ⊆ d.entries.map Prod.fst := by
      intro loc hloc
      obtain ⟨n, hn, rfl⟩ := List.mem_map.1 hloc
      have htaken := List.find?_eq_none.1 hfind n hn
      rw [Disk.at?_of_ne_nil (by simp [scratchPlace])] at htaken
      exact Keyed.isSome_get?.1 (by simpa [Option.isSome_iff_ne_none] using htaken)
    have hle := hnodup.length_le_of_subset hsubset
    simp only [places, List.length_map, List.length_range] at hle
    omega

theorem hasNul_scratch (d : Disk) : (scratch d).hasNul = false := by
  obtain ⟨n, hplace, -⟩ := scratch_spec d
  have hdigits : '\x00' ∉ Text.ofNat n := fun h =>
    absurd (Text.isAsciiDigit_of_mem_ofNat h) (by decide)
  rw [hplace]
  simp [scratchPlace, Path.hasNul, hdigits]

theorem hasNul_bufferPath {place : Path} (h : place.hasNul = false) :
    (bufferPath place).hasNul = false := by
  simp only [Path.hasNul, bufferPath, Path.join] at h ⊢
  rw [if_neg (by decide), List.any_append, h]
  rfl

/-! ## the three parts of an exchange -/

/-- The temporary file for an editor. -/
def fileFor (e : Editor) : Path := bufferPath (scratch e.disk)

/-- Write the buffer of an editor to the temporary file. -/
def handOver (e : Editor) : OnDisk Unit := do
  Disk.makeDirectory (scratch e.disk)
  Disk.writeText (fileFor e) e.buffer.text

/-- A disk without the temporary directory of an editor. -/
def cleaned (e : Editor) (d : Disk) : Disk :=
  match d.locate (scratch e.disk) with
  | .ok loc => d.erase loc
  | .error _ => d

/-- What a program is started with for a line. -/
def argumentsFor (settings : DelegationSettings) (program raw : Text) (e : Editor) : List Text :=
  arguments program settings.args e.buffer.cursor (commandOf raw) (fileFor e)

/-- The session with the buffer and the disk that an exchange left. -/
def leaving (s : Session) (b : Buffer) (d : Disk) : Session :=
  { s with editor := { s.editor with buffer := b, disk := d } }

/-- The program of a session is started on a line, with the buffer in the temporary file; it reports
`report`, and leaves the disk `left`. -/
structure Asks (interpreter : Interpreter) (settings : DelegationSettings) (raw : Text)
    (s : Session) (report : RunReport) (left : Disk) : Prop where
  started : ∃ program d, s.interpreter = some program ∧
    runFrom (handOver s.editor) s.editor.disk = (.ok (), d) ∧
    (∀ a ∈ argumentsFor settings program raw s.editor, '\x00' ∉ a) ∧
    interpreter (argumentsFor settings program raw s.editor) settings.timeout d =
      (report, left)

section

variable {interpreter : Interpreter} {settings : DelegationSettings} {raw : Text} {s : Session}

/-- The temporary file is refused by the operating system, if at all. -/
theorem stopsFor_handOver (e : Editor) : StopsFor (fun f => ∃ e, f = .os e) (handOver e) := by
  have hnul {p : Path} (hp : p.hasNul = false) (f : Fault) (hf : p.Refuses f) :
      ∃ e, f = .os e := by
    rcases hf with hf | ⟨-, hf⟩
    · exact hf
    · rw [hp] at hf
      cases hf
  refine stopsFor_bind ?_ fun _ => ?_
  · exact (Disk.stopsFor_makeDirectory _).mono (hnul (hasNul_scratch e.disk))
  · exact (Disk.stopsFor_writeBytes _ _).mono (hnul (hasNul_bufferPath (hasNul_scratch e.disk)))

/-- What the temporary file is unreadable for: it is not there or not a file, or its bytes are no
text. -/
theorem unreadable_cases {e : Editor} {d : Disk} {f : Fault}
    (h : d.readText (fileFor e) = .error f) : (∃ e, f = .os e) ∨ ∃ e, f = .undecodable e := by
  have hnul : (fileFor e).hasNul = false := hasNul_bufferPath (hasNul_scratch e.disk)
  obtain h | ⟨bytes, -, h⟩ := bind_eq_error.1 h
  · rw [Disk.readBytes, hnul, if_neg Bool.false_ne_true] at h
    split at h
    · cases h
    · exact Or.inl ⟨_, (Except.error.inj h).symm⟩
    · exact Or.inl ⟨_, (Except.error.inj h).symm⟩
  · split at h
    · cases h
    · exact Or.inr ⟨_, (Except.error.inj h).symm⟩

/-! ## how an exchange ends -/

/-- How handing a line to the program of a session ends, and the buffer it leaves: the answers, and
the faults that are passed on. -/
inductive Exchange (interpreter : Interpreter) (settings : DelegationSettings) (raw : Text)
    (s : Session) : Except Fault Reply → Buffer → Prop
  | inactive : s.interpreter = none →
      Exchange interpreter settings raw s
        (.ok ⟨"Delegation session is not active.".toList, true⟩) s.editor.buffer
  | refused {program : Text} {e : OsError} {d : Disk} : s.interpreter = some program →
      runFrom (handOver s.editor) s.editor.disk = (.error (.os e), d) →
      Exchange interpreter settings raw s (.error (.os e)) s.editor.buffer
  | unsayable {program a : Text} {d : Disk} : s.interpreter = some program →
      runFrom (handOver s.editor) s.editor.disk = (.ok (), d) →
      a ∈ argumentsFor settings program raw s.editor → '\x00' ∈ a →
      Exchange interpreter settings raw s (.error .embeddedNul) s.editor.buffer
  | notStarted {e : OsError} {left : Disk} : Asks interpreter settings raw s (.notStarted e) left →
      Exchange interpreter settings raw s
        (.ok ⟨"Delegation failed to start: ".toList ++ e.message, true⟩) s.editor.buffer
  | timedOut {left : Disk} : Asks interpreter settings raw s .timedOut left →
      Exchange interpreter settings raw s
        (.ok ⟨"Delegation timed out after ".toList ++ Decimal.brief settings.timeout ++
          "s: ".toList ++ commandOf raw, true⟩) s.editor.buffer
  | failed {code : Int} {output errors : Utf8.Bytes} {left : Disk} : code ≠ 0 →
      Asks interpreter settings raw s (.exited code output errors) left →
      Exchange interpreter settings raw s
        (.ok ⟨if outputText output errors = [] then
          "Delegated command failed: ".toList ++ commandOf raw else outputText output errors,
          true⟩) s.editor.buffer
  | unreadable {output errors : Utf8.Bytes} {left : Disk} {f : Fault} :
      Asks interpreter settings raw s (.exited 0 output errors) left →
      left.readText (fileFor s.editor) = .error f →
      Exchange interpreter settings raw s (.error f) s.editor.buffer
  | done {output errors : Utf8.Bytes} {left : Disk} {t : Text} :
      Asks interpreter settings raw s (.exited 0 output errors) left →
      left.readText (fileFor s.editor) = .ok t →
      Exchange interpreter settings raw s (.ok ⟨statusOf (outputText output errors), false⟩)
        (adoptLines s.editor.buffer (Buffer.linesOf t))

/-- A report ends an exchange in the one way that it says. -/
theorem Asks.exchange {report : RunReport} {left : Disk}
    (h : Asks interpreter settings raw s report left) :
    match answer settings (commandOf raw) s.editor.buffer (fileFor s.editor) left report with
    | .ok (reply, b) => Exchange interpreter settings raw s (.ok reply) b
    | .error f => Exchange interpreter settings raw s (.error f) s.editor.buffer := by
  cases report with
  | notStarted e => exact .notStarted h
  | timedOut => exact .timedOut h
  | exited code output errors =>
    by_cases hcode : code = 0
    · subst hcode
      simp only [answer, ne_eq, not_true_eq_false, if_false]
      cases hread : left.readText (fileFor s.editor) with
      | error f => exact .unreadable h hread
      | ok t => exact .done h hread
    · simp only [answer, if_pos hcode]
      exact .failed hcode h

/-! ## running one -/

theorem runFrom_run_of_none (h : s.interpreter = none) :
    runFrom (run interpreter settings raw) s =
      (.ok ⟨"Delegation session is not active.".toList, true⟩, s) := by
  simp only [run, runFrom_bind, runFrom_get, h, runFrom_pure]

theorem runFrom_run_of_some {program : Text} (h : s.interpreter = some program) :
    runFrom (run interpreter settings raw) s =
      let x := runFrom (runProgram interpreter settings program raw) s.editor
      (x.1, { s with editor := x.2 }) := by
  simp only [run, runFrom_bind, runFrom_get, h, Action.runFrom_editing, runFrom_ofExcept]

theorem runFrom_runProgram (interpreter : Interpreter) (settings : DelegationSettings)
    (program raw : Text) (e : Editor) :
    runFrom (runProgram interpreter settings program raw) e =
      match runFrom (handOver e) e.disk with
      | (.error f, d) => (.error f, { e with disk := cleaned e d })
      | (.ok _, d) =>
        if (argumentsFor settings program raw e).any fun a => a.contains '\x00' then
          (.error .embeddedNul, { e with disk := cleaned e d })
        else
          let x := interpreter (argumentsFor settings program raw e) settings.timeout d
          match answer settings (commandOf raw) e.buffer (fileFor e) x.2 x.1 with
          | .error f => (.error f, { e with disk := cleaned e x.2 })
          | .ok (reply, b) => (.ok reply, { e with disk := cleaned e x.2, buffer := b }) := by
  have hready : (do
      Disk.makeDirectory (scratch e.disk)
      Disk.writeText (bufferPath (scratch e.disk)) e.buffer.text : OnDisk Unit).run.run e.disk =
    runFrom (handOver e) e.disk := rfl
  have hargv : arguments program settings.args e.buffer.cursor (commandOf raw)
    (bufferPath (scratch e.disk)) = argumentsFor settings program raw e := rfl
  have hfile : bufferPath (scratch e.disk) = fileFor e := rfl
  simp only [runProgram, runFrom_bind, runFrom_get]
  rw [hready]
  rcases runFrom (handOver e) e.disk with ⟨_ | _, d⟩
  · rfl
  dsimp only
  rw [hargv, hfile]
  by_cases hnul : (argumentsFor settings program raw e).any fun a => a.contains '\x00'
  · rw [if_pos hnul, if_pos hnul]
    rfl
  rw [if_neg hnul, if_neg hnul]
  generalize interpreter _ settings.timeout d = x
  obtain ⟨report, left⟩ := x
  dsimp only
  cases answer settings (commandOf raw) e.buffer (fileFor e) left report <;> rfl

/-- A program that was started decides how the exchange ends. -/
theorem Asks.runFrom_run {report : RunReport} {left : Disk}
    (h : Asks interpreter settings raw s report left) :
    runFrom (run interpreter settings raw) s =
      match answer settings (commandOf raw) s.editor.buffer (fileFor s.editor) left report with
      | .error f => (.error f, leaving s s.editor.buffer (cleaned s.editor left))
      | .ok (reply, b) => (.ok reply, leaving s b (cleaned s.editor left)) := by
  obtain ⟨program, d, hprogram, hready, hnul, hreport⟩ := h.started
  have hsayable : ¬ (argumentsFor settings program raw s.editor).any
      (fun a => a.contains '\x00') = true := by simpa using hnul
  rw [runFrom_run_of_some hprogram, runFrom_runProgram, hready]
  dsimp only
  rw [if_neg hsayable, hreport]
  dsimp only
  cases answer settings (commandOf raw) s.editor.buffer (fileFor s.editor) left report <;> rfl

/-- Every exchange ends in one of the ways, and changes nothing in the session but the buffer and
the disk. -/
theorem exchange_run (interpreter : Interpreter) (settings : DelegationSettings) (raw : Text)
    (s : Session) :
    ∃ result b d, runFrom (run interpreter settings raw) s = (result, leaving s b d) ∧
      Exchange interpreter settings raw s result b := by
  rcases hprogram : s.interpreter with _ | program
  · exact ⟨_, _, s.editor.disk, runFrom_run_of_none hprogram, .inactive hprogram⟩
  rcases hready : runFrom (handOver s.editor) s.editor.disk with ⟨f | _, d⟩
  · obtain ⟨e, rfl⟩ := stopsFor_handOver s.editor s.editor.disk f (by rw [hready])
    refine ⟨.error (.os e), s.editor.buffer, cleaned s.editor d, ?_, .refused hprogram hready⟩
    rw [runFrom_run_of_some hprogram, runFrom_runProgram, hready]
    rfl
  by_cases hnul : ∃ a ∈ argumentsFor settings program raw s.editor, '\x00' ∈ a
  · obtain ⟨a, ha, hnul⟩ := hnul
    refine ⟨.error .embeddedNul, s.editor.buffer, cleaned s.editor d, ?_,
      .unsayable hprogram hready ha hnul⟩
    have hunsayable : (argumentsFor settings program raw s.editor).any
        (fun a => a.contains '\x00') = true := by simpa using ⟨a, ha, hnul⟩
    rw [runFrom_run_of_some hprogram, runFrom_runProgram, hready]
    dsimp only
    rw [if_pos hunsayable]
    rfl
  · rcases hx : interpreter (argumentsFor settings program raw s.editor) settings.timeout d
      with ⟨report, left⟩
    have hasks : Asks interpreter settings raw s report left :=
      ⟨program, d, hprogram, hready, fun a ha hmem => hnul ⟨a, ha, hmem⟩, hx⟩
    have hexchange := hasks.exchange
    rw [hasks.runFrom_run]
    cases hanswer :
        answer settings (commandOf raw) s.editor.buffer (fileFor s.editor) left report with
    | error f =>
      rw [hanswer] at hexchange
      exact ⟨.error f, s.editor.buffer, cleaned s.editor left, rfl, hexchange⟩
    | ok y =>
      rw [hanswer] at hexchange
      exact ⟨.ok y.1, y.2, cleaned s.editor left, rfl, hexchange⟩

/-- An exchange breaks off for one of three kinds of reason, and then leaves the buffer alone. -/
theorem Exchange.of_error {f : Fault} {b : Buffer}
    (h : Exchange interpreter settings raw s (.error f) b) : b = s.editor.buffer ∧
      ((∃ e, f = .os e) ∨ (∃ e, f = .undecodable e) ∨ f = .embeddedNul) := by
  cases h with
  | refused => exact ⟨rfl, Or.inl ⟨_, rfl⟩⟩
  | unsayable => exact ⟨rfl, Or.inr (Or.inr rfl)⟩
  | unreadable _ hread => exact ⟨rfl, (unreadable_cases hread).imp_right Or.inl⟩

/-- An error leaves the buffer alone. -/
theorem Exchange.of_isError {status : Text} {b : Buffer}
    (h : Exchange interpreter settings raw s (.ok ⟨status, true⟩) b) : b = s.editor.buffer := by
  cases h <;> rfl

/-- Whoever asks a program gets an answer, and an error it is exactly when the program was not
started, took too long or failed, unless the exchange breaks off on the side of the library: it does
so when the temporary file is refused, when an argument holds NUL, and when a program that succeeded
left no readable file.  The faults are then the operating system's or those of the characters, and
whatever is not a success leaves the buffer as it was. -/
theorem run_answers (interpreter : Interpreter) (settings : DelegationSettings) (raw : Text)
    (s : Session) :
    let x := runFrom (run interpreter settings raw) s
    let b := s.editor.buffer
    Exchange interpreter settings raw s x.1 x.2.editor.buffer ∧
    x.2 = leaving s x.2.editor.buffer x.2.editor.disk ∧
    (∀ f, x.1 = .error f → x.2.editor.buffer = b ∧
      ((∃ e, f = .os e) ∨ (∃ e, f = .undecodable e) ∨ f = .embeddedNul)) ∧
    (∀ status, x.1 = .ok ⟨status, true⟩ → x.2.editor.buffer = b) ∧
    (s.interpreter = none → ∃ status, x.1 = .ok ⟨status, true⟩) ∧
    ∀ report left, Asks interpreter settings raw s report left →
      (report.succeeded = false → ∃ status, x.1 = .ok ⟨status, true⟩) ∧
      (report.succeeded = true → match left.readText (fileFor s.editor) with
        | .ok t => (∃ status, x.1 = .ok ⟨status, false⟩) ∧
          x.2.editor.buffer = adoptLines b (Buffer.linesOf t)
        | .error f => x.1 = .error f) := by
  intro x b
  obtain ⟨result, b', d, hrun, hexchange⟩ := exchange_run interpreter settings raw s
  have hx : x = (result, leaving s b' d) := hrun
  refine ⟨?_, ?_, ?_, ?_, ?_, ?_⟩
  · rw [hx]
    exact hexchange
  · rw [hx]
    rfl
  · rintro f hf
    rw [hx] at hf ⊢
    cases hf
    exact hexchange.of_error
  · rintro status hstatus
    rw [hx] at hstatus ⊢
    cases hstatus
    exact hexchange.of_isError
  · intro hnone
    exact ⟨_, congrArg Prod.fst (runFrom_run_of_none hnone)⟩
  · intro report left hasks
    have hx : x = _ := hasks.runFrom_run
    rw [hx]
    cases report with
    | notStarted e => exact ⟨fun _ => ⟨_, rfl⟩, fun h => by cases h⟩
    | timedOut => exact ⟨fun _ => ⟨_, rfl⟩, fun h => by cases h⟩
    | exited code output errors =>
      simp only [RunReport.succeeded, beq_iff_eq, beq_eq_false_iff_ne, answer]
      refine ⟨fun hcode => ?_, fun hcode => ?_⟩
      · rw [if_pos hcode]
        exact ⟨_, rfl⟩
      · rw [if_neg (not_not.2 hcode)]
        cases left.readText (fileFor s.editor) with
        | error f => rfl
        | ok t => exact ⟨⟨_, rfl⟩, rfl⟩

/-- A program that succeeds and puts two lines in the place of the buffer. -/
theorem run_answers_done :
    let d : Disk := ⟨[(["tmp".toList], .directory)], [], [], [], .standard⟩
    let s : Session := { Session.start ⟨Buffer.ofText "a".toList none, Registers.empty, d⟩
      (.new (.memory [])) with interpreter := some "/bin/ex".toList }
    let doubling : Interpreter := fun _ _ d =>
      (.exited 0 (Utf8.encode "2 lines\n".toList) [],
        (runFrom (Disk.writeText (fileFor s.editor) "a\na\n".toList) d).2)
    let x := runFrom (run doubling Settings.standard.delegation ":t.".toList) s
    (∃ report left, Asks doubling Settings.standard.delegation ":t.".toList s report left ∧
      report.succeeded = true) ∧
    (∃ status, x.1 = .ok ⟨status, false⟩) ∧
    x.2.editor.buffer.lines = ["a".toList, "a".toList] := by
  intro d s doubling x
  let argv := argumentsFor Settings.standard.delegation "/bin/ex".toList ":t.".toList s.editor
  let ready := (runFrom (handOver s.editor) s.editor.disk).2
  have hasks : Asks doubling Settings.standard.delegation ":t.".toList s
      (doubling argv Settings.standard.delegation.timeout ready).1
      (doubling argv Settings.standard.delegation.timeout ready).2 :=
    ⟨"/bin/ex".toList, ready, rfl, by decide +kernel, by decide +kernel, rfl⟩
  obtain ⟨-, -, -, -, -, hanswers⟩ :=
    run_answers doubling Settings.standard.delegation ":t.".toList s
  obtain ⟨-, hdone⟩ := hanswers _ _ hasks
  have hread :
      (doubling argv Settings.standard.delegation.timeout ready).2.readText (fileFor s.editor) =
      .ok "a\na\n".toList := by decide +kernel
  have hx := hdone rfl
  rw [hread] at hx
  exact ⟨⟨_, _, hasks, rfl⟩, hx.1, by rw [hx.2]; decide +kernel⟩

/-- A program that succeeds and leaves bytes that are no text, or removes the temporary file, gets a
fault through to whoever asked, and so does a line with a character that no argument can hold. -/
theorem run_unanswered :
    let d : Disk := ⟨[(["tmp".toList], .directory)], [], [], [], .standard⟩
    let s : Session := { Session.start ⟨Buffer.ofText "a".toList none, Registers.empty, d⟩
      (.new (.memory [])) with interpreter := some "/bin/ex".toList }
    let spoiling : Interpreter := fun _ _ d =>
      (.exited 0 [] [], (runFrom (Disk.writeBytes (fileFor s.editor) [0xff]) d).2)
    let removing : Interpreter := fun _ _ d => (.exited 0 [] [], cleaned s.editor d)
    let asked (interpreter : Interpreter) (raw : String) : Except Fault Reply :=
      (runFrom (run interpreter Settings.standard.delegation raw.toList) s).1
    asked spoiling ":x" = .error (.undecodable ⟨0, 1, 0xff, .badStart⟩) ∧
    asked removing ":x" = .error (.os ⟨.noEntry, (fileFor s.editor).text, none⟩) ∧
    asked removing ":x\x00" = .error .embeddedNul := by
  refine ⟨?_, ?_, ?_⟩ <;> decide +kernel

end

end Delegate

end ExMode
