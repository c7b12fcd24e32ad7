import ExMode.Cli
import ExMode.Proofs.Cursor
import ExMode.Proofs.HistoryGiven

/-!
# ExMode.Proofs.ProgramRun

A run of the program on some lines, from the arguments to the end.  The session opens with what the
history file holds, its lines are given to the history one after the other, and closing writes down
what is held back.  The journal of the session, and with it the exit code, is what the lines wrote
to it: neither opening nor closing shows an error.

* `submitted`, `entered` — the lines that a run gets to, and those of them that it runs;
* `submitAll_cases` — the history after them, and what they wrote to the journal;
* `openFile_ready`, `runFrom_close` — the beginning and the end;
* `run_recorded` — the file, the disk and the exit code after the run.
-/

namespace ExMode

open History (Ledger FileKeeper Keeping)

/-! ## submitting a line -/

namespace InputBox

variable {e : Engine} {s : Session}

/-- The session in which a line that was admitted runs. -/
def admitted (s : Session) : Session :=
  Session.withoutCompletion { s with inFlight := true, lastKey := "<CR>".toList }

/-- Submitting a line while no other one is running comes to running it. -/
theorem runFrom_submit_of_idle (e : Engine) (raw : Text) (hs : s.inFlight = false) :
    runFrom (submit e raw) s = match runFrom (e.run raw) (admitted s) with
      | (.ok _, s') =>
        (.ok true, { s' with inFlight := false, journal := s'.journal ++ [.submitted true] })
      | (.error f, s') => (.error f, { s' with inFlight := false }) := by
  rw [runFrom_submit, hs]
  simp only [through, enter, finish, Engine.run, runFrom_bind, runFrom_get, hs, Bool.false_eq_true,
    if_false, runFrom_modify]
  rw [show Session.withoutCompletion { s with inFlight := true, lastKey := "<CR>".toList } =
    admitted s from rfl]
  by_cases hraw : raw = []
  · simp only [hraw, ne_eq, not_true_eq_false, if_false, runFrom_pure, if_true]
    rfl
  · simp only [ne_eq, hraw, not_false_eq_true, if_true, runFrom_bind]
    rcases runFrom (e.record raw) (admitted s) with ⟨f | _, s₁⟩
    · rfl
    · simp only [runFrom_pure, if_true, runFrom_bind]
      rcases runFrom (e.dispatch raw) s₁ with ⟨f | _, s₂⟩
      · rfl
      · rfl

end InputBox

/-! ## what lines write to the journal -/

/-- A line only adds to the journal. -/
theorem Engine.journal_run (settings : Settings) (homes : List (Text × Text))
    (program : Option Interpreter) (raw : Text) (s : Session) :
    s.journal <+: (runFrom ((builtIn settings homes program).run raw) s).2.journal := by
  let P (t : Session) : Prop := s.journal <+: t.journal
  have hrecord : Keeps P ((builtIn settings homes program).record raw) := by
    intro t ht
    obtain ⟨logs, hlogs⟩ := journal_record (builtIn settings homes program) raw t
    show s.journal <+: _
    rw [hlogs]
    exact ht.trans (List.prefix_append _ _)
  have hgateway : ∀ g, (builtIn settings homes program).gateway = some g →
      ∀ raw, Keeps P (g.run raw) := by
    intro g hg raw t ht
    obtain ⟨interpreter, -, rfl⟩ := Option.map_eq_some_iff.1 hg
    show s.journal <+: (runFrom (Delegate.run interpreter settings.delegation raw) t).2.journal
    rw [Delegate.run_eq]
    exact ht
  have hrun : Keeps P ((builtIn settings homes program).run raw) := by
    unfold run
    split
    · refine keeps_bind hrecord fun _ => keeps_dispatch
        (fun event t ht => ht.trans (List.prefix_append _ _)) (fun c range _ t ht => ?_)
        fun g hg => hgateway g hg raw
      rw [runFrom_perform]
      exact ht.trans (List.prefix_append _ _)
    · exact keeps_pure _
  exact hrun s (List.prefix_refl _)

namespace Cli

/-- The lines that a run gets to, each with the session that it finds: all of them, or those up to
the first one that leaves a request to quit. -/
def submitted (e : Engine) : List Text → Session → List (Text × Session)
  | [], _ => []
  | l :: ls, s =>
    let s' := (runFrom (InputBox.submit e l) s).2
    (l, s) :: if s'.editor.buffer.quitRequested then [] else submitted e ls s'

/-- The lines that a run runs: those that it gets to and that are not empty. -/
def entered (e : Engine) (lines : List Text) (s : Session) : List (Text × Session) :=
  (submitted e lines s).filter fun x => x.1 ≠ []

/-- What submitting a line writes to the journal. -/
def said (e : Engine) (x : Text × Session) : List Event :=
  (runFrom (InputBox.submit e x.1) x.2).2.journal.drop x.2.journal.length

/-- Whether a line puts an error on the status line. -/
def Fails (e : Engine) (x : Text × Session) : Prop := ∃ t, .status t true ∈ said e x

theorem entered_cons (e : Engine) (l : Text) (ls : List Text) (s : Session) :
    let s' := (runFrom (InputBox.submit e l) s).2
    entered e (l :: ls) s = (if l = [] then [] else [(l, s)]) ++
      if s'.editor.buffer.quitRequested then [] else entered e ls s' := by
  simp only [entered, submitted, List.filter_cons]
  by_cases hl : l = []
  · simp only [hl, ne_eq, not_true_eq_false, decide_false, Bool.false_eq_true, if_false, if_true,
      List.nil_append]
    split <;> rfl
  · simp only [hl, ne_eq, not_false_eq_true, decide_true, if_true, if_false]
    split <;> rfl

section

variable {path : Path} {maxEntries flushEvery : Int} {loaded given : List Text} {d : Disk}
  {settings : Settings} {homes : List (Text × Text)} {program : Option Interpreter}
  {s : Session}

theorem journal_submit (settings : Settings) (homes : List (Text × Text))
    (program : Option Interpreter) (hs : s.inFlight = false) (l : Text) :
    (runFrom (InputBox.submit (Engine.builtIn settings homes program) l) s).2.journal =
      s.journal ++ said (Engine.builtIn settings homes program) (l, s) := by
  refine (List.prefix_iff_eq_append.1 ?_).symm
  have hrun := Engine.journal_run settings homes program l (InputBox.admitted s)
  rw [InputBox.runFrom_submit_of_idle _ l hs]
  rcases hx : runFrom ((Engine.builtIn settings homes program).run l) (InputBox.admitted s) with
    ⟨f | _, s'⟩ <;> rw [hx] at hrun
  · exact hrun
  · exact hrun.trans (List.prefix_append _ _)

theorem any_isFailure_said_iff (e : Engine) (x : Text × Session) :
    (said e x).any isFailure = true ↔ Fails e x := by
  rw [List.any_eq_true]
  constructor
  · rintro ⟨event, hmem, hevent⟩
    cases event with
    | status t isError =>
      cases hevent
      exact ⟨t, hmem⟩
    | _ => cases hevent
  · rintro ⟨t, hmem⟩
    exact ⟨_, hmem, rfl⟩

/-- An empty line says nothing. -/
theorem any_isFailure_said_nil (e : Engine) (hs : s.inFlight = false) :
    (said e ([], s)).any isFailure = false := by
  have hsaid : said e ([], s) = [.submitted true] := by
    unfold said
    rw [InputBox.runFrom_submit_of_idle e [] hs]
    exact List.drop_left
  rw [hsaid]
  rfl

theorem map_fst_entered_cons (e : Engine) (l : Text) (ls : List Text) (s : Session) :
    let s' := (runFrom (InputBox.submit e l) s).2
    (entered e (l :: ls) s).map Prod.fst = (if l = [] then [] else [l]) ++
      if s'.editor.buffer.quitRequested then [] else (entered e ls s').map Prod.fst := by
  intro s'
  rw [entered_cons, List.map_append]
  congr 1
  · split <;> rfl
  · split <;> rfl

/-- Whether a line of a run fails: the first one, or one after it. -/
theorem any_entered_cons (e : Engine) (l : Text) (ls : List Text) (hs : s.inFlight = false) :
    let s' := (runFrom (InputBox.submit e l) s).2
    ((entered e (l :: ls) s).any fun y => (said e y).any isFailure) =
      ((said e (l, s)).any isFailure || if s'.editor.buffer.quitRequested then false
        else (entered e ls s').any fun y => (said e y).any isFailure) := by
  intro s'
  rw [entered_cons, List.any_append]
  congr 1
  · split
    · rename_i hl
      rw [hl, any_isFailure_said_nil e hs]
      rfl
    · exact Bool.or_false _
  · split <;> rfl

/-! ## the lines of a run -/

theorem runFrom_submitAll_cons (e : Engine) (l : Text) (ls : List Text) (s : Session) :
    runFrom (submitAll e (l :: ls)) s = match runFrom (InputBox.submit e l) s with
      | (.ok _, s') => if s'.editor.buffer.quitRequested then (.ok (), s')
        else runFrom (submitAll e ls) s'
      | (.error f, s') => (.error f, s') := by
  simp only [submitAll, runFrom_bind, runFrom_discard]
  rcases runFrom (InputBox.submit e l) s with ⟨f | admitted, s'⟩
  · rfl
  · dsimp only [Except.map]
    rw [runFrom_get]
    dsimp only
    cases s'.editor.buffer.quitRequested <;> rfl

/-- Submitting a line gives it to the history unless it is empty, and makes room for the next one.
It fails only if the system cannot be asked about the history file, or writing it takes too many
calls. -/
theorem given_submit (hmax : 1 ≤ maxEntries) (hparts : path.parts ≠ [])
    (h : s.Given path maxEntries flushEvery loaded d given) (hs : s.inFlight = false) {l : Text}
    (hleaves : l ≠ [] →
      (Engine.builtIn settings homes program).LeavesHistory path l (InputBox.admitted s)) :
    let x := runFrom (InputBox.submit (Engine.builtIn settings homes program) l) s
    x.2.Given path maxEntries flushEvery loaded d (given ++ if l = [] then [] else [l]) ∧
      x.2.inFlight = false ∧
      (x.1 = .ok true ∨ (path.hasNul = true ∧ l ≠ []) ∨ x.1 = .error .tooManyCalls) := by
  let e := Engine.builtIn settings homes program
  have hadmitted : (InputBox.admitted s).Given path maxEntries flushEvery loaded d given := h
  dsimp only
  rw [InputBox.runFrom_submit_of_idle _ l hs]
  by_cases hl : l = []
  · subst hl
    rw [if_pos rfl, List.append_nil]
    exact ⟨h, rfl, Or.inl rfl⟩
  · rw [if_neg hl]
    have hafter : (e.after l (InputBox.admitted s)).Given path maxEntries flushEvery loaded d
        (given ++ [l]) := hadmitted.after hmax hl (hleaves hl)
    obtain ⟨hloaded, k, deeds, hk, hledger⟩ := h
    have hfile : (InputBox.admitted s).history.InFile path :=
      ⟨hloaded, k, hk, hledger.sound.path_eq, hledger.sound.loaded_eq⟩
    have hfails := ((Engine.discreet_builtIn settings homes program).run_of_inFile hfile hparts l).2
    unfold Engine.after at hafter
    rcases hrun : runFrom (e.run l) (InputBox.admitted s) with ⟨f | _, s'⟩ <;>
      rw [hrun] at hafter hfails
    · refine ⟨hafter, rfl, Or.inr ?_⟩
      obtain ⟨-, hnul⟩ | ⟨rfl, -⟩ := hfails f rfl
      · exact Or.inl ⟨hnul, hl⟩
      · exact Or.inr rfl
    · exact ⟨hafter, rfl, Or.inl rfl⟩

/-- The lines of a run are given to the history, one after the other, unless the system cannot be
asked about its file or writing it takes too many calls. -/
theorem submitAll_cases (hmax : 1 ≤ maxEntries) (hparts : path.parts ≠ []) {lines : List Text}
    (h : s.Given path maxEntries flushEvery loaded d given) (hs : s.inFlight = false)
    (hleaves : ∀ x ∈ entered (Engine.builtIn settings homes program) lines s,
      (Engine.builtIn settings homes program).LeavesHistory path x.1 (InputBox.admitted x.2)) :
    let e := Engine.builtIn settings homes program
    let x := runFrom (submitAll e lines) s
    (x.1 = .ok () ∧
      x.2.Given path maxEntries flushEvery loaded d
        (given ++ (entered e lines s).map Prod.fst) ∧
      x.2.journal.any isFailure =
        (s.journal.any isFailure || (entered e lines s).any fun y => (said e y).any isFailure)) ∨
    (path.hasNul = true ∧ ∃ more ≠ [], x.2.Given path maxEntries flushEvery loaded d more) ∨
    x.1 = .error .tooManyCalls := by
  induction lines generalizing s given with
  | nil =>
    refine Or.inl ⟨rfl, ?_, ?_⟩
    · exact (List.append_nil given).symm ▸ h
    · exact (Bool.or_false _).symm
  | cons l ls ih =>
    intro e x
    have hx : x = _ := runFrom_submitAll_cons e l ls s
    have hmore := entered_cons e l ls s
    have hlines := map_fst_entered_cons e l ls s
    have hfailures := any_entered_cons e l ls hs
    have hjournal := journal_submit settings homes program hs l
    obtain ⟨hgiven, hidle, hresult⟩ := given_submit hmax hparts h hs (l := l) fun hl =>
      hleaves (l, s) (by rw [hmore]; simp [hl])
    rcases hsubmit : runFrom (InputBox.submit e l) s with ⟨f | admitted, s'⟩
    all_goals
      rw [hsubmit] at hx hmore hlines hfailures hjournal hgiven hidle hresult
      dsimp only at hx hmore hlines hfailures hjournal
    · -- the line failed, and the run is over
      rw [hx]
      obtain hok | ⟨hnul, hl⟩ | hcalls := hresult
      · cases hok
      · rw [if_neg hl] at hgiven
        exact Or.inr (Or.inl ⟨hnul, given ++ [l], by simp, hgiven⟩)
      · cases hcalls
        exact Or.inr (Or.inr rfl)
    · rw [hx, hlines, hfailures]
      cases hquit : s'.editor.buffer.quitRequested with
      | true =>
        refine Or.inl ⟨rfl, ?_, ?_⟩
        · simpa using hgiven
        · simpa [List.any_append] using congrArg (fun j => j.any isFailure) hjournal
      | false =>
        rw [hquit] at hmore
        obtain ⟨hok, hend, hrest⟩ | hfault := ih hgiven hidle fun y hy =>
          hleaves y (by rw [hmore]; exact List.mem_append_right _ hy)
        · refine Or.inl ⟨hok, ?_, ?_⟩
          · simpa [List.append_assoc] using hend
          · rw [hjournal, List.any_append] at hrest
            simpa [Bool.or_assoc] using hrest
        · exact Or.inr hfault

end

/-! ## the beginning of a run -/

/-- A session on a disk in which no error was shown and no line is running. -/
structure Calm (d : Disk) (s : Session) : Prop where
  disk : s.editor.disk = d
  idle : s.inFlight = false
  unfailing : s.journal.any isFailure = false

section

variable {d : Disk}

theorem Calm.noted {s : Session} (h : Calm d s) {notes : List Event}
    (hnotes : notes.any isFailure = false) : Calm d (s.noted notes) where
  disk := h.disk
  idle := h.idle
  unfailing := by
    show (s.journal ++ notes).any isFailure = false
    rw [List.any_append, h.unfailing, hnotes]
    rfl

theorem calm_printMarkup (t : Text) : Keeps (Calm d) (Action.printMarkup t) := by
  intro s hs
  simp only [Action.printMarkup, runFrom_bind, runFrom_get, runFrom_ofExcept]
  cases Console.display s.editor.disk.runtime t with
  | error f => exact hs
  | ok shown => exact hs.noted rfl

theorem calm_settingsOf (o : Options) : Keeps (Calm d) (settingsOf o) := by
  have hload (w : Workspace) : Keeps (Calm d) (w.loadSettings o.settingsPath) := by
    have hfile : Keeps (Calm d) (w.settingsFileOr o.settingsPath) := by
      unfold Workspace.settingsFileOr
      split
      · exact keeps_pure _
      · intro s hs
        rw [runFrom_bind, runFrom_get]
        dsimp only
        rw [runFrom_ofExcept]
        exact hs
    refine keeps_bind hfile fun path => keeps_get_bind fun s hs => ?_
    split
    · exact hs
    · split
      · exact keeps_bind (calm_printMarkup _) (fun _ => keeps_bind (calm_printMarkup _) fun _ =>
          keeps_pure _) s hs
      · exact hs
  exact keeps_get_bind fun s hs => keeps_bind (hload _) (fun _ => keeps_pure _) s hs

end

end Cli

/-- Looking for the program comes to an end, and is logged at most. -/
theorem Delegate.runFrom_start (search : SearchPath) (settings : DelegationSettings) (s : Session) :
    let found := locate? search s.editor.disk settings.program
    ∃ logs : List LogLine, runFrom (start search settings) s =
      (.ok found.isSome, Session.noted { s with interpreter := found } (logs.map Event.log)) := by
  simp only [start, runFrom_bind, runFrom_get, runFrom_set]
  split
  · exact ⟨[_], rfl⟩
  · refine ⟨[], ?_⟩
    rw [List.map_nil, Session.noted, List.append_nil]
    rfl

/-- A session starts with the entries of its history file, if that holds a history. -/
theorem Workspace.start_of_stored (around : Surroundings) {w : Workspace} {settings : Settings}
    {s : Session} {d : Disk} (hs : Cli.Calm d s) {path : Path} {stored : List Text}
    (hpath : w.historyFile d.homes settings = .ok path)
    (hstored : (FileKeeper.new path 1 1).stored d = .ok stored) :
    ∃ s', runFrom (w.start around settings) s = (.ok (Engine.builtIn settings d.homes
        (if settings.delegation.enabled then some around.interpreter else none)), s') ∧
      Cli.Calm d s' ∧
      s'.history = ⟨stored, true, .file ((FileKeeper.new path settings.history.maxEntries
        settings.history.flushEvery).adopt stored [])⟩ := by
  obtain ⟨rfl, hidle, hunfailing⟩ := hs
  let k := FileKeeper.new path settings.history.maxEntries settings.history.flushEvery
  let s₁ := Session.atEnd { s with history := ⟨stored, true, .file (k.adopt stored [])⟩ }
  have hload : runFrom Action.load { s with history := .new (.file k) } = (.ok (), s₁) := by
    rw [Action.runFrom_load_of_new (k := k) rfl,
      show k.stored s.editor.disk = .ok stored from hstored]
    rfl
  have hcalm : Cli.Calm s.editor.disk s₁ := ⟨rfl, hidle, hunfailing⟩
  unfold Workspace.start
  simp only [runFrom_bind, runFrom_get, hpath, runFrom_ofExcept, runFrom_modify, loadHistory,
    runFrom_tryCatch]
  rw [hload]
  dsimp only
  split
  · obtain ⟨logs, hstart⟩ := Delegate.runFrom_start around.search settings.delegation s₁
    rw [runFrom_bind, runFrom_discard, hstart]
    have hfound : Cli.Calm s.editor.disk { s₁ with
        interpreter :=
          Delegate.locate? around.search s₁.editor.disk settings.delegation.program } :=
      ⟨hcalm.disk, hcalm.idle, hcalm.unfailing⟩
    exact ⟨_, rfl, hfound.noted (by simp [Cli.isFailure]), rfl⟩
  · exact ⟨_, rfl, hcalm, rfl⟩

namespace Cli

section

variable {around : Workspace.Surroundings} {o : Options} {file : Path} {lines : List Text}
  {d : Disk} {settings : Settings} {path : Path} {stored : List Text} {b : Buffer}

/-- The session before anything happened in it. -/
def blank (d : Disk) : Session :=
  .start ⟨Buffer.empty, Registers.empty, d⟩ (.new (.memory []))

/-- A session on a file opens with the entries of the history file, if that holds a history. -/
theorem openFile_ready (around : Workspace.Surroundings)
    (hsettings : (runFrom (settingsOf o) (blank d)).1 = .ok settings)
    (hpath : (workspaceOf d o).historyFile d.homes settings = .ok path)
    (hstored : (FileKeeper.new path 1 1).stored d = .ok stored)
    (hbuffer : bufferOf d file = .ok b) :
    ∃ s, runFrom (openFile around o file) (blank d) = (.ok (Engine.builtIn settings d.homes
        (if settings.delegation.enabled then some around.interpreter else none)), s) ∧
      Calm d s ∧ s.editor.buffer = b ∧
      s.history = ⟨stored, true, .file ((FileKeeper.new path settings.history.maxEntries
        settings.history.flushEvery).adopt stored [])⟩ := by
  have hcalm := calm_settingsOf (d := d) o (blank d) ⟨rfl, rfl, rfl⟩
  rcases hread : runFrom (settingsOf o) (blank d) with ⟨r, s₁⟩
  rw [hread] at hsettings hcalm
  obtain ⟨s₂, hstart, hcalm₂, hhistory⟩ :=
    Workspace.start_of_stored around hcalm hpath hstored
  refine ⟨{ s₂ with editor := { s₂.editor with buffer := b } }, ?_, ⟨hcalm₂.disk, hcalm₂.idle,
    hcalm₂.unfailing⟩, rfl, hhistory⟩
  have hdisk : workspaceOf (blank d).editor.disk o = workspaceOf d o := rfl
  simp only [openFile, runFrom_bind, runFrom_get, hdisk, hread,
    show r = .ok settings from hsettings, hstart, hcalm₂.disk, hbuffer, runFrom_ofExcept, runFrom_modify, runFrom_pure]

/-! ## the end of a run -/

/-- Closing writes the history, and may only log. -/
theorem runFrom_close {s : Session} {k : FileKeeper} (hk : s.history.keeper = .file k) :
    let x := runFrom Keeping.flush ⟨k, s.editor.disk, []⟩
    (runFrom (Action.recording History.Recording.flush) s).1 = x.1 ∧
      ∃ s', runFrom close s = (x.1.map fun _ => (), s') ∧ s'.editor.disk = x.2.disk ∧
        s'.journal.any isFailure = s.journal.any isFailure := by
  have hflush := History.runFrom_keeping (fun entries => (true, entries)) Keeping.flush
    (h := s.history) hk s.editor.disk []
  have hrecord : runFrom (Action.recording History.Recording.flush) s = _ :=
    Action.runFrom_recording _ s
  rw [show runFrom History.Recording.flush _ = _ from hflush] at hrecord
  refine ⟨by rw [hrecord], ?_⟩
  simp only [close, runFrom_bind, runFrom_discard, hrecord]
  rcases runFrom Keeping.flush ⟨k, s.editor.disk, []⟩ with ⟨f | done, state⟩
  · refine ⟨_, rfl, rfl, ?_⟩
    simp [isFailure]
  · refine ⟨_, rfl, rfl, ?_⟩
    simp [isFailure, Delegate.stop]

/-- The lines of a session that has opened, up to and with its end. -/
theorem runLines_recorded {homes : List (Text × Text)} {program : Option Interpreter} {s : Session}
    {flushEvery : Int} (hmax : 1 ≤ settings.history.maxEntries) (hparts : path.parts ≠ [])
    (hopen : runFrom (openFile around o file) (blank d) =
      (.ok (Engine.builtIn settings homes program), s))
    (hcalm : Calm d s)
    (hgiven : s.Given path settings.history.maxEntries flushEvery stored d [])
    (hleaves : ∀ x ∈ entered (Engine.builtIn settings homes program) lines s,
      (Engine.builtIn settings homes program).LeavesHistory path x.1 (InputBox.admitted x.2))
    (hcalls : (runFrom (submitAll (Engine.builtIn settings homes program) lines) s).1 ≠
      .error .tooManyCalls)
    (hflush : (runFrom (Action.recording History.Recording.flush)
      (runFrom (submitAll (Engine.builtIn settings homes program) lines) s).2).1 = .ok true) :
    let e := Engine.builtIn settings homes program
    let ran := (entered e lines s).map Prod.fst
    ∃ s', runFrom (runLines around o file lines) (blank d) = (.ok (), s') ∧
      (ran ≠ [] → (FileKeeper.new path 1 1).stored s'.editor.disk =
        .ok ((stored ++ ran).rtake settings.history.maxEntries.toNat)) ∧
      (ran = [] → s'.editor.disk = d) ∧
      (s'.journal.any isFailure = true ↔ ∃ y ∈ entered e lines s, Fails e y) := by
  intro e ran
  have hcases := submitAll_cases hmax hparts hgiven hcalm.idle hleaves
  dsimp only at hcases
  rcases hlines : runFrom (submitAll (Engine.builtIn settings homes program) lines) s with ⟨r, s₁⟩
  rw [hlines] at hcalls hflush hcases
  obtain ⟨rfl, ⟨-, k, deeds, hk, hledger⟩, hfailures⟩ |
    ⟨hnul, more, hmore, -, k, deeds, hk, hledger⟩ | hfault := hcases
  case inr.inr => exact absurd hfault hcalls
  all_goals
    obtain ⟨hsame, s', hclose, hdisk, hjournal⟩ := runFrom_close hk
    rw [hsame] at hflush
    obtain ⟨t, ht⟩ : ∃ t, runFrom Keeping.flush ⟨k, s₁.editor.disk, []⟩ = (.ok true, t) :=
      ⟨_, Prod.ext hflush rfl⟩
  · obtain ⟨hsome, hnone⟩ := hledger.stored_of_flush hmax ht
    rw [ht] at hclose hdisk
    refine ⟨s', ?_, fun hran => ?_, fun hran => ?_, ?_⟩
    · simp only [runLines, runFrom_bind, hopen, runFrom_tryFinally, hlines]
      rw [hclose]
      rfl
    · rw [hdisk]
      exact hsome hran
    · rw [hdisk]
      exact hnone hran
    · rw [hjournal, hfailures, hcalm.unfailing, Bool.false_or, List.any_eq_true]
      exact exists_congr fun y => and_congr_right fun _ => any_isFailure_said_iff e y
  · rw [hledger.hasNul_of_flush hmax hmore ht] at hnul
    cases hnul

/-- How the program ends after lines that were run to their end. -/
theorem run_of_runLines {args : List Text} (input : List Text)
    (hargs : Request.ofArgs d args = .ok (.run o file lines)) {s : Session}
    (h : runFrom (runLines around o file lines) (blank d) = (.ok (), s)) :
    run around args input d =
      ⟨.code (if s.journal.any isFailure then 1 else 0), s.journal, s.editor.disk⟩ := by
  have hperform : runFrom (perform around input (.run o file lines)) (blank d) =
      (.ok (! s.journal.any isFailure), s) := by
    simp only [perform, runFrom_bind, h, runFrom_get, runFrom_pure]
  have hrun : (perform around input (.run o file lines)).run.run
      (Session.start ⟨Buffer.empty, Registers.empty, d⟩ (.new (.memory []))) = _ := hperform
  unfold run
  rw [hargs]
  dsimp only
  rw [hrun]
  cases s.journal.any isFailure <;> rfl

/-- A run of the program keeps what it ran, on a disk with a history file that holds a history, or
none, and with settings that keep at least one entry.  The session opens.  Its lines are submitted
up to the first one that leaves a request to quit, and those of them that are not empty are run.  If
they leave the history file alone, and the history is written, which takes no more calls than can be
open and is done by the last flush at the latest, the file holds the newest of the entries that it
held and of the lines that were run, however many of them are written at a time; if no line was run,
nothing happened to the disk.  The program ends with 1 if one of these lines put an error on the
status line, and else with 0. -/
theorem run_recorded (around : Workspace.Surroundings) {args : List Text} (input : List Text)
    (htree : d.IsTree) (hargs : Request.ofArgs d args = .ok (.run o file lines))
    (hsettings : (runFrom (settingsOf o) (blank d)).1 = .ok settings)
    (hmax : 1 ≤ settings.history.maxEntries)
    (hpath : (workspaceOf d o).historyFile d.homes settings = .ok path)
    (hstored : (FileKeeper.new path 1 1).stored d = .ok stored)
    (hbuffer : bufferOf d file = .ok b) :
    let e := Engine.builtIn settings d.homes
      (if settings.delegation.enabled then some around.interpreter else none)
    ∃ s, runFrom (openFile around o file) (blank d) = (.ok e, s) ∧ s.editor.buffer = b ∧
      ((∀ x ∈ entered e lines s, e.LeavesHistory path x.1 (InputBox.admitted x.2)) →
        (runFrom (submitAll e lines) s).1 ≠ .error .tooManyCalls →
        (runFrom (Action.recording History.Recording.flush) (runFrom (submitAll e lines) s).2).1 =
          .ok true →
        let ran := (entered e lines s).map Prod.fst
        let x := run around args input d
        (ran ≠ [] → (FileKeeper.new path 1 1).stored x.disk =
          .ok ((stored ++ ran).rtake settings.history.maxEntries.toNat)) ∧
        (ran = [] → x.disk = d) ∧
        (x.ending = .code 0 ∨ x.ending = .code 1) ∧
        (x.ending = .code 1 ↔ ∃ y ∈ entered e lines s, Fails e y)) := by
  intro e
  obtain ⟨s, hopen, hcalm, hb, hhistory⟩ :=
    openFile_ready around hsettings hpath hstored hbuffer
  have hparts : path.parts ≠ [] :=
    Workspace.parts_ne_nil_of_stored (k := FileKeeper.new path 1 1) htree.here fun f hf => by
      rw [hstored] at hf
      cases hf
  have hgiven : s.Given path settings.history.maxEntries (max 1 settings.history.flushEvery) stored
      d [] := by
    refine ⟨by rw [hhistory], _, [], by rw [hhistory], ?_⟩
    rw [hcalm.disk]
    exact Ledger.given_nil htree hstored
  refine ⟨s, hopen, hb, fun hleaves hcalls hflush => ?_⟩
  obtain ⟨s', hlines, hsome, hnone, hfails⟩ :=
    runLines_recorded hmax hparts hopen hcalm hgiven hleaves hcalls hflush
  intro ran x
  rw [show x = _ from run_of_runLines input hargs hlines]
  rw [← hfails]
  refine ⟨hsome, hnone, ?_, ?_⟩ <;> cases s'.journal.any isFailure <;> simp

end

/-- Two lines are written at a time and four are kept.  The second of three lines fails, an empty
one is passed over, and the last one quits, so that a fourth one is not run. -/
theorem run_recorded_quit :
    let file (t : String) : Entry := .file (Utf8.encode t.toList) false
    let exline := [".exline".toList]
    let d : Disk := ((((⟨[], [], [], [], .standard⟩ : Disk).put exline .directory).put
      (exline ++ ["config.json".toList])
        (file "\x7b\"history\": \x7b\"max_entries\": 4, \"flush_every\": 2\x7d\x7d")).put
      (exline ++ ["history.json".toList]) (file "[\"x\", \"y\"]")).put
      ["f".toList] (file "a\nb\n")
    let around : Workspace.Surroundings := ⟨fun _ _ d => (.timedOut, d), ⟨[], []⟩, "0".toList⟩
    let x := run around (["run", "f", "d", "", "q", "q!", "p"].map String.toList) [] d
    let history := FileKeeper.new (Path.ofText "/.exline/history.json".toList) 1 1
    history.stored d = .ok ["x".toList, "y".toList] ∧
      history.stored x.disk = .ok (["y", "d", "q", "q!"].map String.toList) ∧
      x.ending = .code 1 := by
  intro file exline d around x history
  let f := Path.ofText "f".toList
  let o : Options := ⟨none, none, false, none⟩
  let lines := ["d", "", "q", "q!", "p"].map String.toList
  let settings : Settings := { Settings.standard with history := ⟨"history.json".toList, 4, 2⟩ }
  let e := Engine.builtIn settings [] none
  have htree : d.IsTree := by
    iterate 4 refine Disk.isTree_put ?_ (by decide) (by decide) _
    exact Disk.isTree_empty [] [] .standard
  have hargs : Request.ofArgs d (["run", "f", "d", "", "q", "q!", "p"].map String.toList) =
      .ok (.run o f lines) := by
    decide +kernel
  have hsettings : (runFrom (settingsOf o) (blank d)).1 = .ok settings := by decide +kernel
  have hpath : (workspaceOf d o).historyFile d.homes settings =
      .ok (Path.ofText "/.exline/history.json".toList) := by
    decide +kernel
  have hstored : history.stored d = .ok ["x".toList, "y".toList] := by decide +kernel
  have hbuffer : bufferOf d f = .ok (Buffer.ofText "a\nb\n".toList (some f)) := by decide +kernel
  obtain ⟨s, hopen, -, hrun⟩ :=
    run_recorded around [] htree hargs hsettings (by decide) hpath hstored hbuffer
  have hs : s = (runFrom (openFile around o f) (blank d)).2 := (congrArg Prod.snd hopen).symm
  have hwrote : (entered e lines s).all
      fun x => (e.wrote? x.1 (InputBox.admitted x.2)).isNone := by
    rw [hs]
    decide +kernel
  have hcalls : (runFrom (submitAll e lines) s).1 ≠ .error .tooManyCalls := by
    rw [hs]
    decide +kernel
  have hran : (entered e lines s).map Prod.fst = ["d", "q", "q!"].map String.toList := by
    rw [hs]
    decide +kernel
  have hfails : (entered e lines s).any fun y => (said e y).any isFailure := by
    rw [hs]
    decide +kernel
  have hflush : (runFrom (Action.recording History.Recording.flush)
      (runFrom (submitAll e lines) s).2).1 = .ok true := by
    rw [hs]
    decide +kernel
  have hleaves : ∀ x ∈ entered e lines s,
      e.LeavesHistory (Path.ofText "/.exline/history.json".toList) x.1 (InputBox.admitted x.2) := by
    intro x hx
    refine ⟨fun p hp => ?_, fun g hg => by cases (Engine.errand?_eq_away.1 hg).1⟩
    have hnone := List.all_eq_true.1 hwrote x hx
    rw [hp] at hnone
    cases hnone
  obtain ⟨hkept, -, -, hending⟩ := hrun hleaves hcalls hflush
  refine ⟨hstored, ?_, hending.2 ?_⟩
  · have hsome : (entered e lines s).map Prod.fst ≠ [] := by
      rw [hran]
      decide
    have hlast : history.stored x.disk = .ok
        ((["x".toList, "y".toList] ++ (entered e lines s).map Prod.fst).rtake 4) := hkept hsome
    rw [hran] at hlast
    exact hlast
  · obtain ⟨y, hy, hfailure⟩ := List.any_eq_true.1 hfails
    exact ⟨y, hy, (any_isFailure_said_iff e y).1 hfailure⟩

end Cli

end ExMode
