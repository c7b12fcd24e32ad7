import ExMode.Proofs.LineRecord

/-!
# ExMode.Proofs.Pausing

Running a line may pause.  A command may wait for something, and so may an interpreter
that a line is handed to; until they go on, others have their turn.  `Engine.Pauses` says
where they pause, and that their parts make up the whole again.

Nothing else pauses, so where a line pauses follows from that: `Pauses.begin` is what
becomes of a recorded line up to its first pause.

* `Pauses.begin_finish` — a line that goes on at once is a line that never paused;
* `Pauses.aside_begin` — a line leaves the history alone, before the pause and after it.
-/

namespace ExMode

/-- What the first part of an action comes to: it is over, or it pauses and something is left to
do. -/
inductive Stage (m : Type → Type) (α : Type) where
  | ended (a : α)
  | paused (rest : m α)

/-- Go on after the pause, if there is one. -/
def Stage.finish {m : Type → Type} [Monad m] {α : Type} : Stage m α → m α
  | .ended a => pure a
  | .paused rest => rest

/-- What is counted in a session: the lines of its history, and whether one is running. -/
def Session.tally (s : Session) : List Text × Bool := (s.history.entries, s.inFlight)

namespace Action

variable {α β : Type}

theorem eq_of_runFrom {x y : Action α} (h : ∀ s, runFrom x s = runFrom y s) : x = y := funext h

/-- The tally stays as it is. -/
abbrev KeepsTally (act : Action α) : Prop := ∀ x, Keeps (fun s => s.tally = x) act

theorem keepsTally_emit (event : Event) : KeepsTally (emit event) := fun _ _ hs => hs

theorem keepsTally_setStatus (t : Text) (isError : Bool) : KeepsTally (setStatus t isError) :=
  keepsTally_emit _

theorem keepsTally_log (level : LogLevel) (t : Text) : KeepsTally (log level t) :=
  keepsTally_emit _

theorem keepsTally_editing (act : Edit α) : KeepsTally (editing act) := fun _ _ hs => hs

theorem keepsTally_ofExcept (x : Except Fault α) :
    KeepsTally (MonadExcept.ofExcept x : Action α) := by
  intro y s hs
  rwa [runFrom_ofExcept]

/-- The tally stays as it is before the pause, and after it. -/
structure Aside (act : Action (Stage Action α)) : Prop where
  first : KeepsTally act
  rest : ∀ {s s' rest}, runFrom act s = (.ok (.paused rest), s') → KeepsTally rest

/-! ## actions that do not pause -/

/-- An action that is over when it is done. -/
def wholly (act : Action α) : Action (Stage Action α) := Stage.ended <$> act

theorem runFrom_wholly (act : Action α) (s : Session) :
    runFrom (wholly act) s = ((runFrom act s).1.map .ended, (runFrom act s).2) := by
  rw [wholly, map_eq_pure_bind, runFrom_bind]
  rcases runFrom act s with ⟨fault | a, s'⟩ <;> rfl

theorem wholly_finish (act : Action α) : wholly act >>= Stage.finish = act := by
  rw [wholly, bind_map_left]
  exact bind_pure act

theorem aside_wholly {act : Action α} (h : KeepsTally act) : Aside (wholly act) where
  first := by
    intro x s hs
    rw [runFrom_wholly]
    exact h x s hs
  rest := by
    intro s s' rest hrun
    rw [runFrom_wholly] at hrun
    rcases hact : runFrom act s with ⟨fault | a, t⟩ <;> rw [hact] at hrun <;> cases hrun

theorem Aside.bind {act : Action β} {next : β → Action (Stage Action α)} (h : KeepsTally act)
    (hnext : ∀ b, Aside (next b)) : Aside (act >>= next) where
  first := fun x => keeps_bind (h x) fun b => (hnext b).first x
  rest := by
    intro s s' rest hrun
    obtain ⟨b, t, -, hb⟩ := runFrom_bind_eq_ok.1 hrun
    exact (hnext b).rest hb

/-! ## what comes after an action -/

/-- An action with its fault as something that it gives. -/
def settled (act : Action α) : Action (Except Fault α) :=
  tryCatch (Except.ok <$> act) fun fault => pure (.error fault)

theorem runFrom_settled (act : Action α) (s : Session) :
    runFrom (settled act) s = (.ok (runFrom act s).1, (runFrom act s).2) := by
  rw [settled, runFrom_tryCatch, map_eq_pure_bind, runFrom_bind]
  rcases runFrom act s with ⟨fault | a, s'⟩ <;> rfl

/-- Begin an action.  What it gives is dealt with when it is over, and so are its faults. -/
def beginWith (act : Action (Stage Action α)) (next : α → Action Unit)
    (handle : Fault → Action Unit) : Action (Stage Action Unit) := do
  match ← settled act with
  | .error fault => wholly (handle fault)
  | .ok (.ended a) => wholly (tryCatch (next a) handle)
  | .ok (.paused rest) => return .paused (tryCatch (rest >>= next) handle)

theorem runFrom_beginWith (act : Action (Stage Action α)) (next : α → Action Unit)
    (handle : Fault → Action Unit) (s : Session) :
    runFrom (beginWith act next handle) s = match runFrom act s with
      | (.error fault, s') => runFrom (wholly (handle fault)) s'
      | (.ok (.ended a), s') => runFrom (wholly (tryCatch (next a) handle)) s'
      | (.ok (.paused rest), s') => (.ok (.paused (tryCatch (rest >>= next) handle)), s') := by
  rw [beginWith, runFrom_bind, runFrom_settled]
  rcases runFrom act s with ⟨fault | a | rest, s'⟩ <;> rfl

/-- Going on at once is doing the whole. -/
theorem beginWith_finish (act : Action (Stage Action α)) (next : α → Action Unit)
    (handle : Fault → Action Unit) :
    beginWith act next handle >>= Stage.finish =
      tryCatch (act >>= Stage.finish >>= next) handle := by
  refine eq_of_runFrom fun s => ?_
  rw [runFrom_bind, runFrom_beginWith, runFrom_tryCatch, runFrom_bind (act >>= Stage.finish),
    runFrom_bind act]
  rcases runFrom act s with ⟨fault | a | rest, s'⟩
  · dsimp only
    rw [← runFrom_bind, wholly_finish]
  · dsimp only
    rw [← runFrom_bind, wholly_finish, runFrom_tryCatch]
    rfl
  · dsimp only [Stage.finish]
    rw [runFrom_tryCatch, runFrom_bind]

theorem Aside.beginWith {act : Action (Stage Action α)} (h : Aside act) {next : α → Action Unit}
    (hnext : ∀ a, KeepsTally (next a)) {handle : Fault → Action Unit}
    (hhandle : ∀ fault, KeepsTally (handle fault)) : Aside (beginWith act next handle) := by
  have hkeeps {act : Action Unit} (hact : KeepsTally act) : KeepsTally (tryCatch act handle) :=
    fun x => keeps_tryCatch (hact x) fun fault => hhandle fault x
  constructor
  · intro x s hs
    have hfirst := h.first x s hs
    rw [runFrom_beginWith]
    rcases hact : runFrom act s with ⟨fault | a | rest, s'⟩ <;> rw [hact] at hfirst
    · exact (aside_wholly (hhandle fault)).first x s' hfirst
    · exact (aside_wholly (hkeeps (hnext a))).first x s' hfirst
    · exact hfirst
  · intro s s' rest hrun
    rw [runFrom_beginWith] at hrun
    rcases hact : runFrom act s with ⟨fault | a | rest', t⟩ <;> rw [hact] at hrun
    · exact (aside_wholly (hhandle fault)).rest hrun
    · exact (aside_wholly (hkeeps (hnext a))).rest hrun
    · cases hrun
      exact hkeeps fun x => keeps_bind (h.rest hact x) fun a => hnext a x

end Action

/-! ## where lines pause -/

/-- Where the commands of an engine pause, and its way to an interpreter.  The latter stays aside:
it neither writes to the history nor submits lines, before a pause and after it. -/
structure Engine.Pauses (e : Engine) where
  command : Command → List Text → Option LineRange → Edit (Stage Edit Outcome)
  command_finish : ∀ c past range, command c past range >>= Stage.finish = c.perform past range
  gateway : Gateway → Text → Action (Stage Action Reply)
  gateway_finish : ∀ g, e.gateway = some g → ∀ raw, gateway g raw >>= Stage.finish = g.run raw
  aside_gateway : ∀ g, e.gateway = some g → ∀ raw, Action.Aside (gateway g raw)

namespace Engine.Pauses

variable {e : Engine} (p : e.Pauses)

/-- Hand a line to an interpreter. -/
def beginDelegate (g : Gateway) (raw : Text) : Action (Stage Action Reply) := do
  Action.emit (.delegated raw)
  p.gateway g raw

/-- Run the command of a line here. -/
def beginPerform (raw : Text) (c : Command) (range : Option LineRange) :
    Action (Stage Action Outcome) := do
  Action.emit (.performed raw range)
  let past := (← get).history.entries
  let stage ← Action.editing (p.command c past range)
  match ← MonadExcept.ofExcept stage with
  | .ended o => return .ended o
  | .paused rest => return .paused (do
      let result ← Action.editing rest
      MonadExcept.ofExcept result)

/-- Carry out a line that was read. -/
def beginExecute (raw : Text) (c : Command) (range : Option LineRange) :
    Action (Stage Action Unit) := do
  match ← e.gatewayIf c.isDelegable with
  | some g =>
    Action.beginWith (p.beginDelegate g raw)
      (fun reply => Action.setStatus reply.status reply.isError) (reportFault raw)
  | none => Action.beginWith (p.beginPerform raw c range) publish (reportFault raw)

/-- Deal with a line that was refused. -/
def beginRefuse (raw : Text) (error : CommandError) : Action (Stage Action Unit) := do
  match ← e.gatewayIf (error.code = .notAnEditorCommand) with
  | some g =>
    Action.beginWith (p.beginDelegate g raw)
      (fun reply => Action.setStatus reply.status true)
      (fun fault => do
        Action.log .error ("Delegation failed for cmd=".toList ++ raw ++ ".".toList)
        Action.setStatus fault.message true)
  | none =>
    Action.wholly (Action.log .warning ("Error parsing cmd=".toList ++ raw ++ ". err=".toList ++
      error.message ++ ".".toList))

/-- Read a recorded line and take its route, up to its first pause. -/
def begin (raw : Text) : Action (Stage Action Unit) := do
  match e.parse raw with
  | .error fault =>
    Action.log .error ("Parser crashed on cmd=".toList ++ raw ++ ".".toList)
    p.beginRefuse raw ⟨.internalError, fault.message⟩
  | .ok (.refused error) => p.beginRefuse raw error
  | .ok (.command c range) => p.beginExecute raw c range

/-! ### going on at once -/

theorem beginDelegate_finish {g : Gateway} (hg : e.gateway = some g) (raw : Text) :
    p.beginDelegate g raw >>= Stage.finish = delegate g raw := by
  rw [beginDelegate, bind_assoc, p.gateway_finish g hg, delegate]

theorem beginPerform_finish (raw : Text) (c : Command) (range : Option LineRange) :
    p.beginPerform raw c range >>= Stage.finish = perform raw c range := by
  refine Action.eq_of_runFrom fun s => ?_
  rw [runFrom_perform, ← p.command_finish]
  simp only [beginPerform, Action.emit, runFrom_bind, runFrom_modify, runFrom_get,
    Action.runFrom_editing, runFrom_ofExcept]
  rcases runFrom (p.command c s.history.entries range) s.editor with ⟨fault | o | rest, ed⟩
  · rfl
  · rfl
  · simp only [Stage.finish, runFrom_pure, runFrom_bind, Action.runFrom_editing, runFrom_ofExcept]

theorem beginExecute_finish (raw : Text) (c : Command) (range : Option LineRange) :
    p.beginExecute raw c range >>= Stage.finish = e.execute raw c range := by
  refine Action.eq_of_runFrom fun s => ?_
  rw [beginExecute, bind_assoc, runFrom_bind, runFrom_gatewayIf, execute, runFrom_tryCatch,
    runFrom_bind, runFrom_gatewayIf]
  dsimp only
  rw [← runFrom_tryCatch]
  cases hroute : (if c.isDelegable then e.activeGateway? s else none) with
  | none =>
    dsimp only
    rw [Action.beginWith_finish, p.beginPerform_finish]
  | some g =>
    dsimp only
    rw [Action.beginWith_finish, p.beginDelegate_finish (gateway_of_wanted hroute)]

theorem beginRefuse_finish (raw : Text) (error : CommandError) :
    p.beginRefuse raw error >>= Stage.finish = e.refuse raw error := by
  refine Action.eq_of_runFrom fun s => ?_
  rw [beginRefuse, bind_assoc, runFrom_bind, runFrom_gatewayIf, refuse, runFrom_bind,
    runFrom_gatewayIf]
  dsimp only
  cases hroute :
      (if decide (error.code = .notAnEditorCommand) then e.activeGateway? s else none) with
  | none =>
    dsimp only
    rw [Action.wholly_finish]
  | some g =>
    dsimp only
    rw [Action.beginWith_finish, p.beginDelegate_finish (gateway_of_wanted hroute)]

/-- A line that goes on at once is a line that never paused. -/
theorem begin_finish (raw : Text) : p.begin raw >>= Stage.finish = e.dispatch raw := by
  unfold begin dispatch
  cases e.parse raw with
  | error fault =>
    dsimp only
    rw [bind_assoc, p.beginRefuse_finish]
  | ok parsed =>
    cases parsed with
    | refused error => exact p.beginRefuse_finish raw error
    | command c range => exact p.beginExecute_finish raw c range

/-! ### the tally -/

theorem keepsTally_publish (o : Outcome) : Action.KeepsTally (publish o) := by
  intro x
  unfold publish
  split
  · exact Action.keepsTally_setStatus _ _ x
  · exact keeps_pure _

theorem keepsTally_reportFault (raw : Text) (fault : Fault) :
    Action.KeepsTally (reportFault raw fault) := by
  intro x
  unfold reportFault
  split
  · exact Action.keepsTally_setStatus _ _ x
  · exact keeps_bind (Action.keepsTally_log _ _ x) fun _ => Action.keepsTally_setStatus _ _ x

theorem aside_beginDelegate {g : Gateway} (hg : e.gateway = some g) (raw : Text) :
    Action.Aside (p.beginDelegate g raw) :=
  .bind (Action.keepsTally_emit _) fun _ => p.aside_gateway g hg raw

/-- Commands have an editor to work on, and nothing else. -/
theorem aside_beginPerform (raw : Text) (c : Command) (range : Option LineRange) :
    Action.Aside (p.beginPerform raw c range) := by
  refine .bind (Action.keepsTally_emit _) fun _ => .bind (fun _ _ hs => hs) fun s =>
    .bind (Action.keepsTally_editing _) fun stage =>
      .bind (Action.keepsTally_ofExcept _) fun stage => ?_
  cases stage with
  | ended o => exact ⟨fun x => keeps_pure _, fun hrun => by cases hrun⟩
  | paused rest =>
    refine ⟨fun x => keeps_pure _, fun hrun => ?_⟩
    cases hrun
    exact fun x =>
      keeps_bind (Action.keepsTally_editing _ x) fun _ => Action.keepsTally_ofExcept _ x

theorem aside_gatewayIf_bind {wanted : Bool} {f : Option Gateway → Action (Stage Action Unit)}
    (hnone : Action.Aside (f none)) (hsome : ∀ g, e.gateway = some g → Action.Aside (f (some g))) :
    Action.Aside (e.gatewayIf wanted >>= f) := by
  have hall (s : Session) :
      Action.Aside (f (if wanted then e.activeGateway? s else none)) := by
    cases hroute : (if wanted then e.activeGateway? s else none) with
    | none => exact hnone
    | some g => exact hsome g (gateway_of_wanted hroute)
  have hrun (s : Session) : runFrom (e.gatewayIf wanted >>= f) s =
      runFrom (f (if wanted then e.activeGateway? s else none)) s := by
    rw [runFrom_bind, runFrom_gatewayIf]
  refine ⟨fun x s hs => ?_, fun {s s' rest} hpaused => ?_⟩
  · rw [hrun]
    exact (hall s).first x s hs
  · rw [hrun] at hpaused
    exact (hall s).rest hpaused

/-- A line that was recorded leaves the tally alone, before its first pause and after it. -/
theorem aside_begin (raw : Text) : Action.Aside (p.begin raw) := by
  have hrefuse (error : CommandError) : Action.Aside (p.beginRefuse raw error) :=
    aside_gatewayIf_bind (Action.aside_wholly (Action.keepsTally_log _ _)) fun g hg =>
      (p.aside_beginDelegate hg raw).beginWith (fun _ => Action.keepsTally_setStatus _ _)
        fun _ x => keeps_bind (Action.keepsTally_log _ _ x) fun _ =>
          Action.keepsTally_setStatus _ _ x
  unfold begin
  cases e.parse raw with
  | error fault => exact .bind (Action.keepsTally_log _ _) fun _ => hrefuse _
  | ok parsed =>
    cases parsed with
    | refused error => exact hrefuse error
    | command c range =>
      refine aside_gatewayIf_bind ?_ fun g hg => ?_
      · exact (p.aside_beginPerform raw c range).beginWith keepsTally_publish
          (keepsTally_reportFault raw)
      · exact (p.aside_beginDelegate hg raw).beginWith (fun _ => Action.keepsTally_setStatus _ _)
          (keepsTally_reportFault raw)

/-! ### an engine that pauses before everything -/

/-- Every command and every interpreter pauses before it does anything. -/
def beforehand (h : ∀ g, e.gateway = some g → ∀ raw, Action.KeepsTally (g.run raw)) : e.Pauses where
  command c past range := pure (.paused (c.perform past range))
  command_finish _ _ _ := pure_bind _ _
  gateway g raw := pure (.paused (g.run raw))
  gateway_finish _ _ _ := pure_bind _ _
  aside_gateway g hg raw := ⟨fun _ => keeps_pure _, fun hrun => by cases hrun; exact h g hg raw⟩

end Engine.Pauses

theorem Delegate.keepsTally_run (interpreter : Interpreter) (settings : DelegationSettings)
    (raw : Text) : Action.KeepsTally (run interpreter settings raw) := by
  intro x s hs
  rw [run_eq]
  exact hs

theorem Engine.keepsTally_builtIn {settings : Settings} {homes : List (Text × Text)}
    {program : Option Interpreter} {g : Gateway}
    (hg : (builtIn settings homes program).gateway = some g) (raw : Text) :
    Action.KeepsTally (g.run raw) := by
  obtain ⟨interpreter, -, rfl⟩ := Option.map_eq_some_iff.1 hg
  exact Delegate.keepsTally_run interpreter settings.delegation raw

end ExMode
