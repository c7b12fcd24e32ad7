import ExMode.Proofs.Session

/-!
# ExMode.Proofs.Route

The route of a line.  A recorded line sets at most one thing going, an `Errand`: its command is run
here, or the line is handed to an interpreter.  What is written to the journal after that is a
verdict: log lines, and at most one status line that says whether the line went wrong.

Nothing is asked of the engine: its reading of lines, its settings, its interpreter and the commands
from outside are arbitrary.  An interpreter may do anything to the session while it runs, so the
session after a line is described as the one that the errand left, with the verdict behind its
journal.

* `Concludes` — an action that writes down a verdict and does nothing else to a session;
* `concludes_execute`, `concludes_refuse_some` — what is left of a line to do when its errand is
  done;
* `Engine.errand?` — the errand of a line, which `settles_dispatch` shows to be run;
* `Engine.one_route` — when which errand is run, and what the verdict is.
-/

namespace ExMode

/-! ## errands -/

/-- What a recorded line sets going. -/
inductive Errand where
  /-- A command is run here. -/
  | here (c : Command) (range : Option LineRange)
  /-- The line is handed to an interpreter. -/
  | away (g : Gateway)

/-- Whether an interpreter failed, or says that it did. -/
def Reply.isFailure : Except Fault Reply → Bool
  | .error _ => true
  | .ok reply => reply.isError

namespace Errand

/-- Run an errand for a line: whether it went wrong, and the session that it leaves. -/
def carryOut (raw : Text) (s : Session) : Errand → Bool × Session
  | .here c range =>
    let x := runFrom (Engine.perform raw c range) s
    (Command.isFailure x.1, x.2)
  | .away g =>
    let x := runFrom (Engine.delegate g raw) s
    (Reply.isFailure x.1, x.2)

/-- Run the errand of a line, if it has one. -/
def carryOut? (raw : Text) (s : Session) : Option Errand → Bool × Session
  | none => (false, s)
  | some errand => errand.carryOut raw s

end Errand

namespace Engine

/-- Whether a line names no command. -/
def Unknown (e : Engine) (raw : Text) : Prop :=
  ∃ error, e.parse raw = .ok (.refused error) ∧ error.code = .notAnEditorCommand

/-- Whether a line is one for an interpreter that can be asked now. -/
def Delegates (e : Engine) (raw : Text) (s : Session) : Prop :=
  e.settings.delegation.enabled = true ∧ (∃ g, e.gateway = some g ∧ g.isActive s = true) ∧
    ((∃ c range, e.parse raw = .ok (.command c range) ∧ c.isDelegable = true) ∨ e.Unknown raw)

end Engine

/-! ## verdicts -/

/-- Whether an event is a text on the status line. -/
def Event.isStatus : Event → Bool
  | .status _ _ => true
  | _ => false

/-- What an engine writes down about a line: log lines, and `count` texts on the status line, each
of them an error or not as the line went wrong or not. -/
structure Verdict (wrong : Bool) (count : Nat) (notes : List Event) : Prop where
  log_or_status : ∀ x ∈ notes, (∃ line, x = .log line) ∨ ∃ text, x = .status text wrong
  countP_isStatus : notes.countP Event.isStatus = count

theorem Verdict.append {wrong : Bool} {m n : Nat} {notes more : List Event}
    (h : Verdict wrong m notes) (h' : Verdict wrong n more) :
    Verdict wrong (m + n) (notes ++ more) where
  log_or_status := by
    intro x hx
    obtain hx | hx := List.mem_append.1 hx
    · exact h.log_or_status x hx
    · exact h'.log_or_status x hx
  countP_isStatus := by rw [List.countP_append, h.countP_isStatus, h'.countP_isStatus]

/-- The session with more in its journal. -/
def Session.noted (s : Session) (notes : List Event) : Session :=
  { s with journal := s.journal ++ notes }

/-- An action that leaves the session `t` with a verdict behind its journal. -/
def Concludes (act : Action Unit) (s t : Session) (wrong : Bool) (count : Nat) : Prop :=
  ∃ notes, runFrom act s = (.ok (), t.noted notes) ∧ Verdict wrong count notes

section

variable {wrong : Bool} {s t : Session}

theorem concludes_pure (s : Session) : Concludes (pure ()) s s wrong 0 := by
  refine ⟨[], ?_, by simp, rfl⟩
  rw [runFrom_pure, Session.noted, List.append_nil]

theorem concludes_setStatus (text : Text) (s : Session) :
    Concludes (Action.setStatus text wrong) s s wrong 1 :=
  ⟨[.status text wrong], rfl, by simp, rfl⟩

theorem concludes_log (level : LogLevel) (text : Text) (s : Session) :
    Concludes (Action.log level text) s s wrong 0 :=
  ⟨[.log ⟨level, text⟩], rfl, by simp, rfl⟩

/-- Verdicts are written down one behind the other. -/
theorem Concludes.bind {x y : Action Unit} {m n : Nat} (h : Concludes x s t wrong m)
    (h' : ∀ t, Concludes y t t wrong n) : Concludes (x >>= fun _ => y) s t wrong (m + n) := by
  obtain ⟨notes, hx, hnotes⟩ := h
  obtain ⟨more, hy, hmore⟩ := h' (t.noted notes)
  refine ⟨notes ++ more, ?_, hnotes.append hmore⟩
  rw [runFrom_bind, hx]
  dsimp only
  rw [hy]
  simp only [Session.noted, List.append_assoc]

end

namespace Engine

variable {e : Engine} {raw : Text} {s : Session}

/-- A command that ran to its end has its say once, or has nothing to say. -/
theorem concludes_publish (o : Outcome) (s : Session) :
    ∃ count ≤ 1, Concludes (publish o) s s o.isError count := by
  unfold publish
  split
  · exact ⟨1, Nat.le_refl 1, concludes_setStatus _ s⟩
  · exact ⟨0, Nat.zero_le 1, concludes_pure s⟩

/-- A fault is shown once, as an error. -/
theorem concludes_reportFault (raw : Text) (fault : Fault) (s : Session) :
    Concludes (reportFault raw fault) s s true 1 := by
  unfold reportFault
  split
  · exact concludes_setStatus _ s
  · exact (concludes_log _ _ s).bind fun t => concludes_setStatus _ t

/-! ## routes -/

/-- When the errand of a line that was read is done, only its verdict is left to be written down. -/
theorem concludes_execute {c : Command} {range : Option LineRange} {errand : Errand}
    (h : (∃ g, e.wayOut? c s = some g ∧ errand = .away g) ∨
      e.wayOut? c s = none ∧ errand = .here c range) :
    ∃ count ≤ 1, Concludes (e.execute raw c range) s (errand.carryOut raw s).2
      (errand.carryOut raw s).1 count := by
  unfold execute Concludes
  rw [runFrom_tryCatch, runFrom_bind, runFrom_gatewayIf]
  obtain ⟨g, hway, rfl⟩ | ⟨hway, rfl⟩ := h
  · rw [show (if c.isDelegable then _ else _) = some g from hway]
    unfold Errand.carryOut
    dsimp only
    rw [runFrom_bind]
    obtain ⟨fault | reply, t⟩ := runFrom (delegate g raw) s
    · exact ⟨1, Nat.le_refl 1, concludes_reportFault raw fault t⟩
    · exact ⟨1, Nat.le_refl 1, concludes_setStatus _ t⟩
  · rw [show (if c.isDelegable then _ else _) = none from hway]
    unfold Errand.carryOut
    dsimp only
    rw [runFrom_bind]
    obtain ⟨fault | o, t⟩ := runFrom (perform raw c range) s
    · exact ⟨1, Nat.le_refl 1, concludes_reportFault raw fault t⟩
    · obtain ⟨count, hcount, notes, hrun, hverdict⟩ := concludes_publish o t
      refine ⟨count, hcount, notes, ?_, hverdict⟩
      dsimp only
      rw [hrun]

/-- A refused line that goes to no interpreter is logged. -/
theorem concludes_refuse_none {error : CommandError} {wrong : Bool}
    (h : (if decide (error.code = .notAnEditorCommand) then e.activeGateway? s else none) = none) :
    Concludes (e.refuse raw error) s s wrong 0 := by
  unfold refuse Concludes
  rw [runFrom_bind, runFrom_gatewayIf, h]
  exact concludes_log _ _ s

/-- A refused line that goes to an interpreter is an error, whatever the answer. -/
theorem concludes_refuse_some {error : CommandError} {g : Gateway}
    (h : (if decide (error.code = .notAnEditorCommand) then e.activeGateway? s else none) =
      some g) :
    Concludes (e.refuse raw error) s ((Errand.away g).carryOut raw s).2 true 1 := by
  unfold refuse Concludes Errand.carryOut
  rw [runFrom_bind, runFrom_gatewayIf, h]
  dsimp only
  rw [runFrom_tryCatch, runFrom_bind]
  obtain ⟨fault | reply, t⟩ := runFrom (delegate g raw) s
  · exact (concludes_log _ _ t).bind fun t => concludes_setStatus _ t
  · exact concludes_setStatus _ t

/-! ## the errand of a line -/

/-- Whether a line is one that an interpreter may be asked to run. -/
def mayLeave (e : Engine) (raw : Text) : Bool :=
  match e.parse raw with
  | .error _ => false
  | .ok (.refused error) => error.code = .notAnEditorCommand
  | .ok (.command c _) => c.isDelegable

/-- The way to an interpreter that a line takes now, if it takes one. -/
def exit? (e : Engine) (raw : Text) (s : Session) : Option Gateway :=
  if e.mayLeave raw then e.activeGateway? s else none

/-- The errand of a recorded line. -/
def errand? (e : Engine) (raw : Text) (s : Session) : Option Errand :=
  match e.exit? raw s with
  | some g => some (.away g)
  | none =>
    match e.parse raw with
    | .ok (.command c range) => some (.here c range)
    | _ => none

theorem mayLeave_iff : e.mayLeave raw = true ↔
    (∃ c range, e.parse raw = .ok (.command c range) ∧ c.isDelegable = true) ∨ e.Unknown raw := by
  unfold mayLeave Unknown
  rcases e.parse raw with fault | (⟨c, range⟩ | error) <;> simp

theorem activeGateway?_eq_some {g : Gateway} :
    e.activeGateway? s = some g ↔
      e.settings.delegation.enabled = true ∧ e.gateway = some g ∧ g.isActive s = true := by
  unfold activeGateway?
  split
  · rename_i h
    rw [Option.filter_eq_some_iff, h]
    simp only [true_and]
  · rename_i h
    constructor
    · intro hg
      cases hg
    · rintro ⟨hg, -⟩
      exact absurd hg h

theorem exit?_eq_some {g : Gateway} :
    e.exit? raw s = some g ↔ e.gateway = some g ∧ e.Delegates raw s := by
  unfold exit? Delegates
  rw [← mayLeave_iff]
  constructor
  · intro h
    split at h
    · rename_i hleave
      obtain ⟨henabled, hg, hactive⟩ := activeGateway?_eq_some.1 h
      exact ⟨hg, henabled, ⟨g, hg, hactive⟩, hleave⟩
    · cases h
  · rintro ⟨hg, henabled, ⟨g', hg', hactive⟩, hleave⟩
    rw [hg] at hg'
    cases hg'
    rw [if_pos hleave]
    exact activeGateway?_eq_some.2 ⟨henabled, hg, hactive⟩

theorem exit?_eq_none : e.exit? raw s = none ↔ ¬ e.Delegates raw s := by
  constructor
  · intro hnone hdelegates
    obtain ⟨g, hg, -⟩ := hdelegates.2.1
    rw [exit?_eq_some.2 ⟨hg, hdelegates⟩] at hnone
    cases hnone
  · intro hstays
    rw [Option.eq_none_iff_forall_ne_some]
    intro g hsome
    exact hstays (exit?_eq_some.1 hsome).2

theorem errand?_eq_away {g : Gateway} :
    e.errand? raw s = some (.away g) ↔ e.gateway = some g ∧ e.Delegates raw s := by
  rw [← exit?_eq_some]
  unfold errand?
  rcases e.exit? raw s with _ | g'
  · rcases e.parse raw with fault | (⟨c, range⟩ | error) <;> simp
  · simp

theorem errand?_eq_here {c : Command} {range : Option LineRange} :
    e.errand? raw s = some (.here c range) ↔
      e.parse raw = .ok (.command c range) ∧ ¬ e.Delegates raw s := by
  rw [← exit?_eq_none]
  unfold errand?
  rcases e.exit? raw s with _ | g
  · rcases e.parse raw with fault | (⟨c', range'⟩ | error) <;> simp
  · simp

/-- An action that runs an errand, if there is one, and writes down its verdict: nothing is shown
for a line that set nothing going, and what is shown is an error just if the errand went wrong or
the line names no command. -/
def Settles (e : Engine) (raw : Text) (act : Action Unit) (s : Session)
    (errand : Option Errand) : Prop :=
  let x := Errand.carryOut? raw s errand
  ∃ wrong, ∃ count ≤ 1, Concludes act s x.2 wrong count ∧ (errand = none → count = 0) ∧
    (wrong = true ↔ x.1 = true ∨ e.Unknown raw)

theorem settles_refuse {error : CommandError} (h : e.parse raw = .ok (.refused error)) :
    e.Settles raw (e.refuse raw error) s (e.errand? raw s) := by
  have hexit : e.exit? raw s =
      if decide (error.code = .notAnEditorCommand) then e.activeGateway? s else none := by
    simp only [exit?, mayLeave, h]
  have hunknown : e.Unknown raw ↔ error.code = .notAnEditorCommand := by simp [Unknown, h]
  unfold Settles
  cases hroute : e.exit? raw s with
  | none =>
    rw [show e.errand? raw s = none by simp only [errand?, hroute, h]]
    refine ⟨decide (error.code = .notAnEditorCommand), 0, Nat.zero_le 1, ?_, fun _ => rfl, ?_⟩
    · exact concludes_refuse_none (hexit ▸ hroute)
    · simp [Errand.carryOut?, hunknown]
  | some g =>
    have hleaves := mayLeave_iff.1 (by
      unfold exit? at hroute
      split at hroute
      · assumption
      · cases hroute)
    rw [show e.errand? raw s = some (.away g) by simp only [errand?, hroute]]
    refine ⟨true, 1, Nat.le_refl 1, concludes_refuse_some (hexit ▸ hroute), nofun, ?_⟩
    obtain ⟨c, range, hc, -⟩ | hunknown := hleaves
    · rw [h] at hc
      cases hc
    · exact iff_of_true rfl (Or.inr hunknown)

theorem settles_execute {c : Command} {range : Option LineRange}
    (h : e.parse raw = .ok (.command c range)) :
    e.Settles raw (e.execute raw c range) s (e.errand? raw s) := by
  have hexit : e.exit? raw s = e.wayOut? c s := by simp only [exit?, mayLeave, wayOut?, h]
  have hknown : ¬ e.Unknown raw := by simp [Unknown, h]
  obtain ⟨errand, herrand, hroute⟩ : ∃ errand, e.errand? raw s = some errand ∧
      ((∃ g, e.wayOut? c s = some g ∧ errand = .away g) ∨
        e.wayOut? c s = none ∧ errand = .here c range) := by
    simp only [errand?, hexit, h]
    cases e.wayOut? c s with
    | none => exact ⟨_, rfl, Or.inr ⟨rfl, rfl⟩⟩
    | some g => exact ⟨_, rfl, Or.inl ⟨g, rfl, rfl⟩⟩
  obtain ⟨count, hcount, hconcludes⟩ := concludes_execute hroute
  rw [herrand]
  exact ⟨_, count, hcount, hconcludes, nofun, by simp [Errand.carryOut?, hknown]⟩

/-- What is done about a recorded line is its errand, and then its verdict. -/
theorem settles_dispatch (e : Engine) (raw : Text) (s : Session) :
    e.Settles raw (e.dispatch raw) s (e.errand? raw s) := by
  unfold dispatch
  cases h : e.parse raw with
  | error fault =>
    have herrand : e.errand? raw s = none := by simp [errand?, exit?, mayLeave, h]
    have hknown : ¬ e.Unknown raw := by simp [Unknown, h]
    rw [herrand]
    refine ⟨false, 0, Nat.zero_le 1, ?_, fun _ => rfl, by simp [Errand.carryOut?, hknown]⟩
    exact (concludes_log _ _ s).bind fun t => concludes_refuse_none rfl
  | ok parsed =>
    cases parsed with
    | refused error => exact settles_refuse h
    | command c range => exact settles_execute h

/-! ## the route of a line -/

/-- Recording a line writes it to the journal, and nothing else but what there is to log about it.
-/
theorem journal_record (e : Engine) (raw : Text) (s : Session) :
    ∃ logs : List LogLine, (runFrom (e.record raw) s).2.journal =
      s.journal ++ .recorded raw :: logs.map Event.log := by
  let added := runFrom (History.Recording.add raw) ⟨s.history, s.editor.disk, []⟩
  refine ⟨added.2.log, ?_⟩
  let P (t : Session) : Prop := t.journal = s.journal ++ .recorded raw :: added.2.log.map Event.log
  unfold record Action.emit
  rw [runFrom_bind, runFrom_modify]
  refine runFrom_bind_of_keeps (P := P) ?_ fun _ => ?_
  · rw [Action.runFrom_recording]
    exact (List.append_assoc _ _ _).trans rfl
  refine keeps_bind (fun _ h => h) fun _ => ?_
  split
  · exact fun _ h => h
  · exact keeps_pure _

/-- Every line that is not empty takes one route.  It is recorded first, and if that fails nothing
else happens to it.  Otherwise it has at most one errand, which is run once: its command is run
here, with the range that was read, unless the line delegates; a line that delegates goes to the
interpreter as it was typed, and no other line does.  A refused line that does not delegate has no
errand.  After the errand there is only the verdict: log lines, and at most one text on the status
line, none if there was no errand, which is an error just if the errand failed, or said that it did,
or the line names no command. -/
theorem one_route (e : Engine) {raw : Text} (hraw : raw ≠ []) (s : Session) :
    (∃ logs : List LogLine, (runFrom (e.record raw) s).2.journal =
      s.journal ++ .recorded raw :: logs.map Event.log) ∧
    match runFrom (e.record raw) s with
    | (.error _, s') => e.after raw s = s'
    | (.ok _, s') => ∃ (errand : Option Errand) (notes : List Event),
      let (wrong, t) := Errand.carryOut? raw s' errand
      e.after raw s = { t with journal := t.journal ++ notes } ∧
      (∀ c range, errand = some (.here c range) ↔
        e.parse raw = .ok (.command c range) ∧ ¬ e.Delegates raw s') ∧
      (∀ g, errand = some (.away g) ↔ e.gateway = some g ∧ e.Delegates raw s') ∧
      (∀ c range, errand = some (.here c range) →
        t.journal = s'.journal ++ [.performed raw range]) ∧
      (∀ x ∈ notes, x.isStatus = true ∨ ∃ line, x = .log line) ∧
      notes.countP Event.isStatus ≤ 1 ∧
      (errand = none → notes.countP Event.isStatus = 0) ∧
      ∀ text isError, .status text isError ∈ notes →
        (isError = true ↔ wrong = true ∨ e.Unknown raw) := by
  refine ⟨journal_record e raw s, ?_⟩
  rw [after_of_ne_nil hraw]
  rcases runFrom (e.record raw) s with ⟨fault | _, s'⟩
  · rfl
  obtain ⟨wrong, count, hcount, ⟨notes, hrun, hverdict⟩, hnone, hwrong⟩ :=
    settles_dispatch e raw s'
  refine ⟨e.errand? raw s', notes, ?_, fun _ _ => errand?_eq_here, fun _ => errand?_eq_away, ?_,
    ?_, hverdict.countP_isStatus ▸ hcount, fun h => hverdict.countP_isStatus.trans (hnone h), ?_⟩
  · dsimp only
    rw [hrun]
    rfl
  · intro c range herrand
    rw [herrand]
    dsimp only [Errand.carryOut]
    rw [runFrom_perform]
  · intro x hx
    obtain hlog | ⟨text, rfl⟩ := hverdict.log_or_status x hx
    · exact Or.inr hlog
    · exact Or.inl rfl
  · intro text isError hx
    obtain ⟨line, hlog⟩ | ⟨text', hstatus⟩ := hverdict.log_or_status _ hx
    · cases hlog
    · cases hstatus
      exact hwrong

/-- An interpreter is asked about a word that is no command, and answers it; the answer is shown as
an error. -/
theorem one_route_unknown :
    let g : Gateway := ⟨fun _ => true, fun _ => pure ⟨"done".toList, false⟩⟩
    let e : Engine :=
      { settings :=
          { Settings.standard with
            delegation := { Settings.standard.delegation with enabled := true } }
        parse := (Table.ofExtra [] []).parse
        gateway := some g }
    let s := Session.start ⟨Buffer.ofText [] none, Registers.empty, ⟨[], [], [], [], .standard⟩⟩
      (History.new (.memory []))
    let raw := "frobnicate".toList
    raw ≠ [] ∧ e.Delegates raw s ∧
      (e.after raw s).journal = [.recorded raw, .delegated raw, .status "done".toList true] ∧
      ∃ (t : Session) (notes : List Event),
        e.after raw s = { t with journal := t.journal ++ notes } ∧
        notes.countP Event.isStatus ≤ 1 ∧
        ∀ text isError, .status text isError ∈ notes → isError = true := by
  intro g e s raw
  have hraw : raw ≠ [] := by decide
  have hunknown : e.Unknown raw := ⟨⟨.notAnEditorCommand, raw⟩, rfl, rfl⟩
  have hdelegates : e.Delegates raw s := ⟨rfl, ⟨g, rfl, rfl⟩, Or.inr hunknown⟩
  have hjournal : (e.after raw s).journal =
      [.recorded raw, .delegated raw, .status "done".toList true] := by
    decide +kernel
  have hrecord : runFrom (e.record raw) s = (.ok (), (runFrom (e.record raw) s).2) := rfl
  have hroute := (one_route e hraw s).2
  rw [hrecord] at hroute
  obtain ⟨errand, notes, hafter, -, -, -, -, hcount, -, hflag⟩ := hroute
  exact ⟨hraw, hdelegates, hjournal, _, notes, hafter, hcount,
    fun text isError h => (hflag text isError h).2 (Or.inr hunknown)⟩

end Engine

end ExMode
