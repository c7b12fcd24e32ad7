import ExMode.Proofs.Pausing
import ExMode.Session.InputBox

/-!
# ExMode.Proofs.Submission

Submitted lines that overlap.  A line runs up to its first pause when it is submitted
(`Pauses.submit`), and later it goes on to its end, or is interrupted.  In between, other
lines may be submitted.  `Traffic` is a session with all lines submitted so far, and a
`Move` is whatever may happen next.

At most one line is running, and the session says whether one is; a line that finds
another one running is refused, which leaves nothing but words in the journal.  And the
history is made up of the lines that were not refused (`Exclusive`).

* `Exclusive.turn` — what one move keeps, `Exclusive.after` — what any run of moves keeps;
* `submitThrough_eq` — a line that goes on at once is submitted as the box does it;
* `submissions_exclusive` — the whole account.
-/

namespace ExMode

/-! ## recording -/

namespace History.Recording

/-- Handing an entry to the keeper changes nothing of the history but the keeper. -/
theorem keeps_keep (entry : Text) (x : List Text × Bool) :
    Keeps (fun r : Records => (r.history.entries, r.history.loaded) = x) (keep entry) := by
  intro r hr
  simp only [keep, keeping, runFrom_bind, runFrom_get]
  split
  · exact hr
  · split
    rename_i result state _
    simp only [runFrom_bind, runFrom_set, runFrom_ofExcept]
    exact hr

/-- An entry that is added is there, even if it could not be kept. -/
theorem entries_add (entry : Text) (r : Records) :
    (runFrom (add entry) r).2.history.entries = r.history.entries ++ [entry] := by
  simp only [add, push, runFrom_bind, runFrom_modify, runFrom_get]
  split
  · exact congrArg Prod.fst (keeps_keep entry _ _ rfl)
  · rfl

end History.Recording

/-- A line that is recorded is in the history, even if recording it fails. -/
theorem Engine.tally_record (e : Engine) (raw : Text) (s : Session) :
    (runFrom (e.record raw) s).2.tally = (s.history.entries ++ [raw], s.inFlight) := by
  unfold record
  rw [runFrom_bind]
  refine runFrom_bind_of_keeps (P := fun t : Session => t.tally = _) ?_ fun _ => ?_
  · rw [Action.runFrom_recording]
    exact Prod.ext (History.Recording.entries_add raw _) rfl
  · refine keeps_bind (fun _ hs => hs) fun _ => ?_
    split
    · exact fun _ hs => hs
    · exact keeps_pure _

/-! ## one line -/

/-- Making room for another line counts no line. -/
theorem Session.tally_release {s : Session} {x : List Text × Bool} (h : s.tally = x)
    (journal : List Event) :
    ({ s with inFlight := false, journal := journal } : Session).tally = (x.1, false) := by
  subst h
  rfl

/-- What has become of a submitted line. -/
inductive Progress where
  /-- Another line was running. -/
  | refused
  /-- It pauses, and `rest` is left to do. -/
  | running (rest : Action Unit)
  | returned
  | raised (fault : Fault)

namespace Progress

def isRunning : Progress → Bool
  | .running _ => true
  | _ => false

def isAccepted : Progress → Bool
  | .refused => false
  | _ => true

/-- The answer to whoever submitted the line, if there is one by now. -/
def answer? : Progress → Option (Except Fault Bool)
  | .refused => some (.ok false)
  | .returned => some (.ok true)
  | .raised fault => some (.error fault)
  | .running _ => none

/-- Go on after the pause. -/
def resume (rest : Action Unit) (s : Session) : Progress × Session :=
  match runFrom rest s with
  | (.ok _, s') =>
    (.returned, { s' with inFlight := false, journal := s'.journal ++ [.submitted true] })
  | (.error fault, s') => (.raised fault, { s' with inFlight := false })

/-- Going on leaves room for another line, also when it fails. -/
theorem resume_of_keepsTally {rest : Action Unit} (h : Action.KeepsTally rest) (s : Session) :
    (resume rest s).1.isRunning = false ∧ (resume rest s).1.isAccepted = true ∧
      (resume rest s).2.tally = (s.history.entries, false) := by
  have htally := h _ s rfl
  unfold resume
  rcases hrun : runFrom rest s with ⟨fault | _, s'⟩ <;> rw [hrun] at htally
  · exact ⟨rfl, rfl, Session.tally_release htally _⟩
  · exact ⟨rfl, rfl, Session.tally_release htally _⟩

/-- What is left to do when a line is interrupted in its pause, by being cancelled for one: it may
tidy up in the editor, and nothing on its way handles the fault. -/
def interrupted (tidy : Edit Unit) (fault : Fault) : Action Unit := do
  discard (Action.editing tidy)
  throw fault

theorem keepsTally_interrupted (tidy : Edit Unit) (fault : Fault) :
    Action.KeepsTally (interrupted tidy fault) := by
  intro x
  refine keeps_bind (fun s hs => ?_) fun _ => keeps_throw fault
  rw [runFrom_discard]
  exact Action.keepsTally_editing tidy x s hs

end Progress

namespace Engine.Pauses

variable {e : Engine} (p : e.Pauses)

/-- Run a line that was admitted and recorded, up to its first pause. -/
def beginFinish (raw : Text) : Action (Stage Action Unit) :=
  if raw = [] then return .ended () else p.begin raw

/-- Submit a line, up to its first pause and except for faults. -/
def beginSubmit (raw : Text) : Action Progress := do
  if ← InputBox.enter e raw then
    match ← p.beginFinish raw with
    | .ended () =>
      InputBox.release
      Action.emit (.submitted true)
      return .returned
    | .paused rest => return .running rest
  else
    Action.emit (.submitted false)
    return .refused

/-- Submit a line, up to its first pause. -/
def submit (raw : Text) (s : Session) : Progress × Session :=
  match runFrom (p.beginSubmit raw) s with
  | (.ok progress, s') => (progress, s')
  | (.error fault, s') => (.raised fault, if s.inFlight then s' else { s' with inFlight := false })

/-! ### what comes of it -/

/-- The line, unless it is empty. -/
def lineOf (raw : Text) : List Text := if raw = [] then [] else [raw]

/-- While a line is running, another one is refused, and nothing happens but that this is told. -/
theorem submit_of_inFlight {s : Session} (h : s.inFlight = true) (raw : Text) :
    p.submit raw s = (.refused, { s with journal := s.journal ++
      [.log ⟨.warning, "Ignoring cmd=".toList ++ raw ++
        " while another command is running.".toList⟩, .submitted false] }) := by
  have hrun : runFrom (p.beginSubmit raw) s = (.ok .refused, { s with journal := s.journal ++
      [.log ⟨.warning, "Ignoring cmd=".toList ++ raw ++
        " while another command is running.".toList⟩, .submitted false] }) := by
    simp only [beginSubmit, InputBox.enter, runFrom_bind, runFrom_get, h, if_true, Action.log,
      Action.emit, runFrom_modify, runFrom_pure, Bool.false_eq_true, if_false, List.append_assoc,
      List.cons_append, List.nil_append]
  rw [submit, hrun]

/-- A line that finds no other one running is admitted and recorded, unless that fails. -/
theorem enter_of_idle {s : Session} (h : s.inFlight = false) (raw : Text) :
    ∃ result s', runFrom (InputBox.enter e raw) s = (result, s') ∧
      s'.tally = (s.history.entries ++ lineOf raw, true) ∧
      (result = .ok true ∨ ∃ fault, result = .error fault) := by
  let s₁ : Session := { s with inFlight := true, lastKey := "<CR>".toList }.withoutCompletion
  unfold lineOf
  by_cases hraw : raw = []
  · refine ⟨.ok true, s₁, ?_, ?_, Or.inl rfl⟩
    · simp only [InputBox.enter, runFrom_bind, runFrom_get, h, Bool.false_eq_true, if_false,
        runFrom_modify, hraw, ne_eq, not_true_eq_false, runFrom_pure]
      rfl
    · rw [if_pos hraw, List.append_nil]
      rfl
  · have htally := e.tally_record raw s₁
    have hrun : runFrom (InputBox.enter e raw) s =
        runFrom (do e.record raw; return true) s₁ := by
      simp only [InputBox.enter, runFrom_bind, runFrom_get, h, Bool.false_eq_true, if_false,
        runFrom_modify, hraw, ne_eq, not_false_eq_true, if_true]
      rfl
    rw [hrun, runFrom_bind, if_neg hraw]
    rcases hrecord : runFrom (e.record raw) s₁ with ⟨fault | _, s'⟩ <;> rw [hrecord] at htally
    · exact ⟨_, _, rfl, htally, Or.inr ⟨fault, rfl⟩⟩
    · exact ⟨_, _, rfl, htally, Or.inl rfl⟩

theorem aside_beginFinish (raw : Text) : Action.Aside (p.beginFinish raw) := by
  unfold beginFinish
  split
  · exact ⟨fun _ => keeps_pure _, fun hrun => by cases hrun⟩
  · exact p.aside_begin raw

/-- A line that finds no other one running is accepted, and it is in the history from then on; it is
running just if the session says so, and then it leaves the history alone. -/
theorem submit_of_idle {s : Session} (h : s.inFlight = false) (raw : Text) :
    let x := p.submit raw s
    x.1.isAccepted = true ∧ x.2.tally = (s.history.entries ++ lineOf raw, x.1.isRunning) ∧
      ∀ rest, x.1 = .running rest → Action.KeepsTally rest := by
  obtain ⟨result, s₁, henter, htally, rfl | ⟨fault, rfl⟩⟩ := enter_of_idle (e := e) h raw
  · have haside := p.aside_beginFinish raw
    have hkept := haside.first _ s₁ htally
    intro x
    have hx : x = match runFrom (p.beginFinish raw) s₁ with
        | (.ok (.ended _), s') => (.returned,
          { s' with inFlight := false, journal := s'.journal ++ [.submitted true] })
        | (.ok (.paused rest), s') => (.running rest, s')
        | (.error fault, s') => (.raised fault, { s' with inFlight := false }) := by
      simp only [x, submit, beginSubmit, runFrom_bind, henter, if_true, h, Bool.false_eq_true,
        if_false]
      rcases runFrom (p.beginFinish raw) s₁ with ⟨fault | _ | rest, s'⟩ <;> rfl
    rw [hx]
    rcases hbegin : runFrom (p.beginFinish raw) s₁ with ⟨fault | _ | rest, s'⟩ <;>
      rw [hbegin] at hkept
    · exact ⟨rfl, Session.tally_release hkept _, nofun⟩
    · exact ⟨rfl, Session.tally_release hkept _, nofun⟩
    · refine ⟨rfl, hkept, fun rest' hrest => ?_⟩
      cases hrest
      exact haside.rest hbegin
  · intro x
    have hx : x = (.raised fault, { s₁ with inFlight := false }) := by
      simp only [x, submit, beginSubmit, runFrom_bind, henter, h, Bool.false_eq_true, if_false]
    rw [hx]
    exact ⟨rfl, Session.tally_release htally _, nofun⟩

/-! ### going on at once -/

theorem beginFinish_finish (raw : Text) :
    p.beginFinish raw >>= Stage.finish = InputBox.finish e raw := by
  unfold beginFinish InputBox.finish
  by_cases hraw : raw = []
  · rw [if_pos hraw, if_neg (not_not_intro hraw)]
    rfl
  · rw [if_neg hraw, if_pos hraw]
    exact p.begin_finish raw

/-- Submit a line that goes on at once when it pauses. -/
def submitThrough (raw : Text) (s : Session) : Progress × Session :=
  match p.submit raw s with
  | (.running rest, s') => Progress.resume rest s'
  | x => x

/-- A line that goes on at once is submitted as the box does it. -/
theorem submitThrough_eq (raw : Text) (s : Session) :
    (p.submitThrough raw s).1.answer? = some (runFrom (InputBox.submit e raw) s).1 ∧
      (p.submitThrough raw s).2 = (runFrom (InputBox.submit e raw) s).2 := by
  unfold submitThrough
  cases hflight : s.inFlight with
  | true =>
    rw [p.submit_of_inFlight hflight]
    simp only [InputBox.submit, InputBox.enter, runFrom_bind, runFrom_tryCatch, runFrom_get,
      hflight, if_true, Action.log, Action.emit, runFrom_modify, runFrom_pure, Bool.false_eq_true,
      if_false, List.append_assoc, List.cons_append, List.nil_append]
    exact ⟨rfl, rfl⟩
  | false =>
    obtain ⟨result, s₁, henter, -, rfl | ⟨fault, rfl⟩⟩ := enter_of_idle (e := e) hflight raw
    · simp only [submit, beginSubmit, InputBox.submit, ← p.beginFinish_finish, runFrom_bind,
        runFrom_tryCatch, runFrom_get, henter, hflight, if_true]
      rcases runFrom (p.beginFinish raw) s₁ with ⟨fault | _ | rest, s'⟩
      · exact ⟨rfl, rfl⟩
      · exact ⟨rfl, rfl⟩
      · dsimp only [runFrom_pure, Stage.finish, Progress.resume]
        rcases runFrom rest s' with ⟨fault | _, s''⟩ <;> exact ⟨rfl, rfl⟩
    · simp only [submit, beginSubmit, InputBox.submit, runFrom_bind, runFrom_tryCatch, runFrom_get,
        henter, hflight]
      exact ⟨rfl, rfl⟩

end Engine.Pauses

/-! ## lines that overlap -/

/-- What an entry of a list is mapped to may stay the same when it is replaced. -/
theorem filterMap_set {α β : Type} {f : α → Option β} {l : List α} {i : Nat} {a b : α}
    (hi : l[i]? = some b) (h : f a = f b) : (l.set i a).filterMap f = l.filterMap f := by
  obtain ⟨hlength, rfl⟩ := List.getElem?_eq_some_iff.1 hi
  have hmap : (l.set i a).map f = l.map f := by
    rw [List.map_set, h, ← List.getElem_map f (h := by rwa [List.length_map]),
      List.set_getElem_self]
  calc (l.set i a).filterMap f = ((l.set i a).map f).filterMap id := by rw [List.filterMap_map]; rfl
    _ = (l.map f).filterMap id := by rw [hmap]
    _ = l.filterMap f := by rw [List.filterMap_map]; rfl

/-- A line that was submitted, and what has become of it. -/
structure Submission where
  raw : Text
  progress : Progress

namespace Submission

def isRunning (c : Submission) : Bool := c.progress.isRunning

/-- The line that a submission adds to the history, if it adds one. -/
def line? (c : Submission) : Option Text :=
  if c.progress.isAccepted ∧ c.raw ≠ [] then some c.raw else none

end Submission

/-- A session, and all lines that were submitted in it, in this order. -/
structure Traffic where
  session : Session
  submissions : List Submission

/-- What may happen next. -/
inductive Move where
  /-- A line is submitted, and runs up to its first pause. -/
  | submit (raw : Text)
  /-- A line goes on after its pause. -/
  | resume (i : Nat)
  /-- A line is interrupted in its pause. -/
  | interrupt (i : Nat) (tidy : Edit Unit) (fault : Fault)

namespace Traffic

variable {e : Engine} (p : e.Pauses)

/-- A submission that is running goes on, in some way; nothing happens to any other one. -/
def advance (t : Traffic) (i : Nat) (next : Action Unit → Action Unit) : Traffic :=
  match t.submissions[i]? with
  | some ⟨raw, .running rest⟩ =>
    let x := Progress.resume (next rest) t.session
    ⟨x.2, t.submissions.set i ⟨raw, x.1⟩⟩
  | _ => t

/-- One move. -/
def turn (t : Traffic) : Move → Traffic
  | .submit raw =>
    let x := p.submit raw t.session
    ⟨x.2, t.submissions ++ [⟨raw, x.1⟩]⟩
  | .resume i => t.advance i fun rest => rest
  | .interrupt i tidy fault => t.advance i fun _ => Progress.interrupted tidy fault

/-- One move after the other. -/
def after (t : Traffic) (moves : List Move) : Traffic := moves.foldl (turn p) t

/-- The session says whether a line is running, and no more than one is; one that is running leaves
the history alone; and this is made up of what was there before and the lines that were accepted. -/
structure Exclusive (past : List Text) (t : Traffic) : Prop where
  running : t.submissions.countP Submission.isRunning = t.session.inFlight.toNat
  aside : ∀ c ∈ t.submissions, ∀ rest, c.progress = .running rest → Action.KeepsTally rest
  entries : t.session.history.entries = past ++ t.submissions.filterMap Submission.line?

namespace Exclusive

variable {past : List Text} {t : Traffic}

theorem start {s : Session} (h : s.inFlight = false) :
    Exclusive s.history.entries ⟨s, []⟩ where
  running := by
    rw [h]
    rfl
  aside := nofun
  entries := (List.append_nil _).symm

/-- One more submission. -/
theorem snoc (h : Exclusive past t) {raw : Text} {x : Progress × Session}
    (hrunning : x.2.inFlight.toNat = t.session.inFlight.toNat + x.1.isRunning.toNat)
    (haside : ∀ rest, x.1 = .running rest → Action.KeepsTally rest)
    (hentries : x.2.history.entries =
      t.session.history.entries ++ (Submission.line? ⟨raw, x.1⟩).toList) :
    Exclusive past ⟨x.2, t.submissions ++ [⟨raw, x.1⟩]⟩ where
  running := by
    rw [List.countP_append, h.running, hrunning, List.countP_singleton]
    cases hx : x.1.isRunning <;> simp [Submission.isRunning, hx]
  aside := by
    intro c hc
    rcases List.mem_append.1 hc with hc | hc
    · exact h.aside c hc
    · rw [List.mem_singleton.1 hc]
      exact haside
  entries := by
    rw [hentries, h.entries, List.filterMap_append, List.append_assoc]
    cases hline : Submission.line? ⟨raw, x.1⟩ <;> simp [hline]

/-- A submission that was running and is so no more leaves room for another one. -/
theorem set (h : Exclusive past t) {i : Nat} {raw : Text} {rest : Action Unit}
    (hi : t.submissions[i]? = some ⟨raw, .running rest⟩) {x : Progress × Session}
    (hrunning : x.1.isRunning = false) (haccepted : x.1.isAccepted = true)
    (htally : x.2.tally = (t.session.history.entries, false)) :
    Exclusive past ⟨x.2, t.submissions.set i ⟨raw, x.1⟩⟩ where
  running := by
    -- it was the only one that was running
    have hone : t.submissions.countP Submission.isRunning ≤ 1 := by
      rw [h.running]
      exact Bool.toNat_le _
    have hbefore : Submission.isRunning ⟨raw, .running rest⟩ = true := rfl
    have hafter : Submission.isRunning ⟨raw, x.1⟩ = false := hrunning
    obtain ⟨hlength, hget⟩ := List.getElem?_eq_some_iff.1 hi
    rw [List.countP_set hlength, hget, if_pos hbefore, hafter, (Prod.mk.inj htally).2]
    exact Nat.sub_eq_zero_of_le hone
  aside := by
    intro c hc rest' hrest'
    obtain hc | rfl := List.mem_or_eq_of_mem_set hc
    · exact h.aside c hc rest' hrest'
    · rw [show x.1 = .running rest' from hrest'] at hrunning
      cases hrunning
  entries := by
    have hbefore : (Progress.running rest).isAccepted = true := rfl
    have hline : Submission.line? ⟨raw, x.1⟩ = Submission.line? ⟨raw, .running rest⟩ := by
      rw [Submission.line?, Submission.line?, haccepted, hbefore]
    rw [(Prod.mk.inj htally).1, h.entries, filterMap_set hi hline]

theorem submit (h : Exclusive past t) (raw : Text) : Exclusive past (t.turn p (.submit raw)) := by
  cases hflight : t.session.inFlight with
  | true =>
    have hsubmit := p.submit_of_inFlight hflight raw
    refine h.snoc ?_ ?_ ?_
    · rw [hsubmit]
      rfl
    · rw [hsubmit]
      nofun
    · rw [hsubmit]
      exact (List.append_nil _).symm
  | false =>
    obtain ⟨haccepted, htally, hrest⟩ := p.submit_of_idle hflight raw
    obtain ⟨hentries, hinFlight⟩ := Prod.mk.inj htally
    refine h.snoc ?_ hrest ?_
    · rw [hinFlight, hflight]
      exact (Nat.zero_add _).symm
    · rw [hentries, Submission.line?, haccepted, Engine.Pauses.lineOf]
      by_cases hraw : raw = [] <;> simp [hraw]

/-- A line that goes on, in whatever way, is not running any more. -/
theorem advance (h : Exclusive past t) (i : Nat) {next : Action Unit → Action Unit}
    (hnext : ∀ rest, Action.KeepsTally rest → Action.KeepsTally (next rest)) :
    Exclusive past (t.advance i next) := by
  unfold Traffic.advance
  split
  · rename_i raw rest hi
    have hrest : Action.KeepsTally (next rest) :=
      hnext rest (h.aside _ (List.mem_of_getElem? hi) rest rfl)
    obtain ⟨hrunning, haccepted, htally⟩ := Progress.resume_of_keepsTally hrest t.session
    exact h.set hi hrunning haccepted htally
  · exact h

theorem turn (h : Exclusive past t) (m : Move) : Exclusive past (t.turn p m) := by
  cases m with
  | submit raw => exact h.submit p raw
  | resume i => exact h.advance i fun _ hrest => hrest
  | interrupt i tidy fault =>
    exact h.advance i fun _ _ => Progress.keepsTally_interrupted tidy fault

theorem after (h : Exclusive past t) (moves : List Move) : Exclusive past (t.after p moves) := by
  induction moves generalizing t with
  | nil => exact h
  | cons m moves ih => exact ih (h.turn p m)

end Exclusive

/-- Submitting a line, and letting it go on at once if it pauses. -/
theorem after_submit_resume (t : Traffic) (raw : Text) :
    t.after p [.submit raw, .resume t.submissions.length] =
      ⟨(p.submitThrough raw t.session).2,
        t.submissions ++ [⟨raw, (p.submitThrough raw t.session).1⟩]⟩ := by
  unfold Engine.Pauses.submitThrough
  simp only [after, List.foldl_cons, List.foldl_nil, turn, advance, List.getElem?_concat_length]
  rcases p.submit raw t.session with ⟨_ | rest | _ | fault, s'⟩ <;>
    simp only [List.set_append_right _ _ (Nat.le_refl _), Nat.sub_self, List.set_cons_zero]

/-- However submitted lines overlap, and however they end, at most one is running, and the session
says whether one is.  The history is made up of the lines that were accepted, from the moment in
which they were submitted.  A line is refused just if another one is running, and then nothing but
the journal tells of it; and a line that nothing comes between is submitted as the box does it. -/
theorem submissions_exclusive {s : Session} (hs : s.inFlight = false) (moves : List Move) :
    let t := (Traffic.mk s []).after p moves
    t.submissions.countP Submission.isRunning ≤ 1 ∧
    (t.session.inFlight = true ↔ ∃ c ∈ t.submissions, c.isRunning = true) ∧
    t.session.history.entries =
      s.history.entries ++ t.submissions.filterMap Submission.line? ∧
    ∀ raw,
      (t.session.inFlight = true → t.turn p (.submit raw) =
        ⟨{ t.session with journal := t.session.journal ++
          [.log ⟨.warning, "Ignoring cmd=".toList ++ raw ++
            " while another command is running.".toList⟩, .submitted false] },
          t.submissions ++ [⟨raw, .refused⟩]⟩) ∧
      (t.session.inFlight = false → ∃ progress, progress.isAccepted = true ∧
        (t.turn p (.submit raw)).submissions = t.submissions ++ [⟨raw, progress⟩] ∧
        (t.turn p (.submit raw)).session.history.entries =
          t.session.history.entries ++ if raw = [] then [] else [raw]) ∧
      ∃ progress, progress.answer? = some (runFrom (InputBox.submit e raw) t.session).1 ∧
        t.after p [.submit raw, .resume t.submissions.length] =
          ⟨(runFrom (InputBox.submit e raw) t.session).2, t.submissions ++ [⟨raw, progress⟩]⟩ := by
  intro t
  have h : Exclusive s.history.entries t := (Exclusive.start hs).after p moves
  refine ⟨?_, ?_, h.entries, fun raw => ⟨fun hflight => ?_, fun hflight => ?_, ?_⟩⟩
  · rw [h.running]
    exact Bool.toNat_le _
  · rw [← List.countP_pos_iff, h.running]
    cases t.session.inFlight <;> simp
  · rw [turn, p.submit_of_inFlight hflight]
  · obtain ⟨haccepted, htally, -⟩ := p.submit_of_idle hflight raw
    exact ⟨_, haccepted, rfl, congrArg Prod.fst htally⟩
  · obtain ⟨hanswer, hsession⟩ := p.submitThrough_eq raw t.session
    exact ⟨_, hanswer, by rw [after_submit_resume, hsession]⟩

/-- A line runs while another one is refused, and goes on; the next one is interrupted; an empty
line does not pause. -/
theorem submissions_exclusive_overlap :
    let editor : Editor :=
      ⟨Buffer.ofText "a\nb".toList none, Registers.empty, ⟨[], [], [], [], .standard⟩⟩
    let s := Session.start editor (.new (.memory []))
    let e := Engine.builtIn .standard [] none
    let p : e.Pauses := .beforehand fun _ hg raw => Engine.keepsTally_builtIn hg raw
    let moves : List Move := [.submit "d".toList, .submit "y".toList, .resume 0,
      .submit "p".toList, .interrupt 2 (pure ()) .noSuchItem, .submit []]
    let t := (Traffic.mk s []).after p moves
    s.inFlight = false ∧ t.session.history.entries = ["d".toList, "p".toList] ∧
      t.submissions.map (fun c => c.progress.isAccepted) = [true, false, true, true] := by
  intro editor s e p moves t
  have hs : s.inFlight = false := rfl
  have hlines : t.submissions.filterMap Submission.line? = ["d".toList, "p".toList] := by
    decide +kernel
  obtain ⟨-, -, hentries, -⟩ := submissions_exclusive p hs moves
  exact ⟨hs, hentries.trans (congrArg (s.history.entries ++ ·) hlines), by decide +kernel⟩

end Traffic

end ExMode
