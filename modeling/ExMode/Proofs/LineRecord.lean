import ExMode.Proofs.Session

/-!
# ExMode.Proofs.LineRecord

What is written down about the lines that are run: they are entries of the history,
whose end is where one is in it, and the last of them is in the `:` register, which
no command can write to.

The record is taken once for each line, before anything else happens to it
(`runFrom_record`), and nothing that can happen to the line afterwards touches them
(`keepsLineRecord_dispatch`).  The latter is shown for the commands of the library and
for programs that lines are handed to; of commands from outside and of other ways to
an interpreter it is asked, as `Engine.Discreet`.

* `keepsLineRecord_perform` — no command of the library alters the record;
* `LineCall.lineRecord_run` — the record of one line;
* `Session.lines_recorded` — the record of any run.
-/

namespace ExMode

/-! ## read-only registers -/

namespace Registers

theorem le_toLower {c : Char} (h : 'A' ≤ c) : 'A' ≤ c.toLower := by
  rw [Char.le_def] at h ⊢
  unfold Char.toLower
  split
  · rename_i hc
    rw [ge_iff_le, UInt32.le_iff_toNat_le, UInt32.le_iff_toNat_le] at hc
    rw [UInt32.le_iff_toNat_le] at h ⊢
    have hA : 'A'.val.toNat = 65 := rfl
    have hZ : 'Z'.val.toNat = 90 := rfl
    have hcase : ('a'.val - 'A'.val).toNat = 32 := rfl
    rw [UInt32.toNat_add]
    omega
  · exact h

/-- No name stands for a register that cannot be written to, apart from that register's own. -/
theorem isReadonly_of_slotName {name : Text} (h : isReadonly (slotName name) = true) :
    isReadonly name = true := by
  unfold slotName at h
  split at h
  · rename_i happends
    unfold appends at happends
    split at happends
    · rename_i c
      have hc : 'A' ≤ c.toLower := le_toLower (by simpa using (Bool.and_eq_true_iff.1 happends).1)
      simp only [isReadonly, List.map_cons, List.map_nil, Bool.or_eq_true, beq_iff_eq,
        List.cons.injEq, and_true] at h
      rcases h with ((h | h) | h) | h <;> rw [h] at hc <;> exact absurd hc (by decide)
    · cases happends
  · exact h

/-- All that writing to a register can do. -/
theorem cases_of_put {r r' : Registers} {name : Option Text} {text : List Text} {linewise : Bool}
    (h : r.put name text linewise = .ok r') :
    r' = r ∨ ∃ target reg, isReadonly target = false ∧
      (r' = r.set (slotName target) reg ∨
        ∃ mirror, r' = (r.set (slotName target) reg).set unnamed mirror) := by
  rcases name with _ | _ | ⟨c, n⟩ <;>
  · simp only [put] at h
    split at h
    · cases h
    rename_i htarget
    replace htarget := eq_false_of_ne_true htarget
    split at h
    · cases h
    split at h
    · exact Or.inl (Except.ok.inj h).symm
    split at h
    · exact Or.inr ⟨_, _, htarget, Or.inl (Except.ok.inj h).symm⟩
    · exact Or.inr ⟨_, _, htarget, Or.inr ⟨_, (Except.ok.inj h).symm⟩⟩

/-- Writing to a register alters no register that cannot be written to. -/
theorem get?_of_put {r r' : Registers} {name : Option Text} {text : List Text} {linewise : Bool}
    (h : r.put name text linewise = .ok r') {other : Text} (hother : isReadonly other = true) :
    r'.get? other = r.get? other := by
  have hunnamed : other ≠ unnamed := by
    rintro rfl
    cases hother
  obtain rfl | ⟨target, _, htarget, h⟩ := cases_of_put h
  · rfl
  have hslot : other ≠ slotName target := by
    rintro rfl
    rw [isReadonly_of_slotName hother] at htarget
    cases htarget
  obtain rfl | ⟨_, rfl⟩ := h
  · exact get?_set_of_ne hslot _ _
  · rw [get?_set_of_ne hunnamed, get?_set_of_ne hslot]

end Registers

namespace Command

variable {e e' : Editor} {c : Command} {r : Except Fault Outcome}

theorem Turn.get?_of_isReadonly (h : Turn e c r e') {name : Text}
    (hname : Registers.isReadonly name = true) :
    e'.registers.get? name = e.registers.get? name := by
  cases h with
  | kept _ hput => exact Registers.get?_of_put hput hname
  | edited _ _ hr =>
    obtain rfl | ⟨_, _, hput⟩ := hr
    · rfl
    · exact Registers.get?_of_put hput hname
  | stopped | told | moved | quitting | skipped | unwritten | written => rfl

end Command

/-! ## record of the lines -/

/-- A history that is loaded, and whose keeper, a memory, holds the same entries. -/
def History.mirrored (entries : List Text) : History := ⟨entries, true, .memory entries⟩

/-- What is written down about the lines that were run. -/
structure LineRecord where
  history : History
  historyIndex : Nat
  /-- What the `:` register holds. -/
  lastLine : Option Contents
  deriving DecidableEq, Repr

/-- What is written down in a session. -/
def Session.lineRecord (s : Session) : LineRecord :=
  ⟨s.history, s.historyIndex, s.editor.registers.get? Registers.commandName⟩

theorem Session.historyIndex_atEnd (s : Session) :
    s.atEnd.historyIndex = s.history.entries.length := by
  unfold atEnd atIndex
  dsimp only
  omega

namespace History

theorem runFrom_pushAll (entries more : List Text) (d : Disk) (log : List LogLine) :
    runFrom (Recording.pushAll more) ⟨mirrored entries, d, log⟩ =
      (.ok (), ⟨mirrored (entries ++ more), d, log⟩) := by
  induction more generalizing entries with
  | nil => simp [Recording.pushAll]
  | cons e more ih =>
    have h : runFrom (Recording.pushAll (e :: more)) ⟨mirrored entries, d, log⟩ =
        runFrom (Recording.pushAll more) ⟨mirrored (entries ++ [e]), d, log⟩ := rfl
    rw [h, ih, List.append_assoc, List.singleton_append]

/-- Loading from a memory makes the history and the memory agree. -/
theorem runFrom_load (early kept : List Text) (d : Disk) (log : List LogLine) :
    runFrom Recording.load ⟨⟨early, false, .memory kept⟩, d, log⟩ =
      (.ok (), ⟨mirrored (kept ++ early), d, log⟩) :=
  runFrom_pushAll kept early d log

end History

namespace Action

/-- What is written down stays as it is. -/
abbrev KeepsLineRecord {α : Type} (act : Action α) : Prop :=
  ∀ m, Keeps (fun s => s.lineRecord = m) act

theorem keepsLineRecord_emit (event : Event) : KeepsLineRecord (emit event) := fun _ _ hs => hs

/-- What the editor does is written down nowhere but in the `:` register. -/
theorem keepsLineRecord_editing {α : Type} {act : Edit α}
    (h : ∀ x, Keeps (fun e => e.registers.get? Registers.commandName = x) act) :
    KeepsLineRecord (editing act) := by
  rintro m s rfl
  rw [runFrom_editing]
  simp only [Session.lineRecord, h _ s.editor rfl]

end Action

/-! ## what a line may come to -/

/-- Whether nobody but the engine itself keeps the record: neither an interpreter nor a command from
outside touches them. -/
structure Engine.Discreet (e : Engine) : Prop where
  gateway : ∀ g, e.gateway = some g → ∀ raw, Action.KeepsLineRecord (g.run raw)
  foreign : ∀ raw f parsed, e.parse raw = .ok (.command (.foreign f) parsed) →
    ∀ range x, Keeps (fun ed => ed.registers.get? Registers.commandName = x) (f.perform range)

namespace Engine

variable {e : Engine} {raw : Text} {s : Session}

/-- A command that leaves the `:` register alone leaves the record alone. -/
theorem keepsLineRecord_perform {c : Command} {range : Option LineRange}
    (h : ∀ past x, Keeps (fun ed => ed.registers.get? Registers.commandName = x)
      (c.perform past range)) : Action.KeepsLineRecord (perform raw c range) := by
  rintro m s rfl
  rw [runFrom_perform]
  simp only [Session.lineRecord, h _ _ s.editor rfl]

/-- No command of the library writes to the `:` register. -/
theorem keeps_perform_of_isBuiltIn {c : Command} (hc : c.IsBuiltIn) (past : List Text)
    (range : Option LineRange) (x : Option Contents) :
    Keeps (fun ed => ed.registers.get? Registers.commandName = x) (c.perform past range) := by
  rintro ed rfl
  exact (Command.turn_perform hc past range ed).get?_of_isReadonly rfl

theorem Discreet.keeps_perform (he : e.Discreet) {c : Command} {parsed : Option LineRange}
    (h : e.parse raw = .ok (.command c parsed)) (past : List Text) (range : Option LineRange)
    (x : Option Contents) :
    Keeps (fun ed => ed.registers.get? Registers.commandName = x) (c.perform past range) := by
  cases c with
  | foreign f => exact he.foreign raw f parsed h range x
  | goto | delete | yank | print | substitute | write | quit | history | registers =>
    exact keeps_perform_of_isBuiltIn (fun f hf => by cases hf) past range x

/-- Whatever becomes of a line after it was recorded, the record stays as it is. -/
theorem Discreet.keepsLineRecord_dispatch (he : e.Discreet) (raw : Text) :
    Action.KeepsLineRecord (e.dispatch raw) := fun m =>
  keeps_dispatch (fun event => Action.keepsLineRecord_emit event m)
    (fun _ range h => keepsLineRecord_perform (fun past x => he.keeps_perform h past range x) m)
    fun g hg => he.gateway g hg raw m

/-! ## recording -/

/-- Recording a line takes it down, and changes nothing else that is written down. -/
theorem runFrom_record {entries : List Text} (hs : s.history = .mirrored entries) (raw : Text) :
    ∃ s', runFrom (e.record raw) s = (.ok (), s') ∧
      s'.lineRecord = ⟨.mirrored (entries ++ [raw]), (entries ++ [raw]).length,
        if e.refersToRegisters raw then s.lineRecord.lastLine else some (.recorded raw)⟩ := by
  obtain ⟨ed, h, i, c, k, m, f, p, j⟩ := s
  subst hs
  have hadd : ∀ d, runFrom (History.Recording.add raw) ⟨.mirrored entries, d, []⟩ =
      (.ok (), ⟨.mirrored (entries ++ [raw]), d, []⟩) := fun _ => rfl
  simp only [record, runFrom_bind, Action.emit, runFrom_modify, Action.runFrom_recording, hadd]
  cases hrefers : e.refersToRegisters raw with
  | true =>
    refine ⟨_, rfl, ?_⟩
    simp only [Session.lineRecord, Session.historyIndex_atEnd]
    rfl
  | false =>
    refine ⟨_, rfl, ?_⟩
    simp only [Session.lineRecord, Session.historyIndex_atEnd, Registers.record,
      Registers.get?_set_self]
    rfl

/-- The record after a line that is not empty. -/
theorem Discreet.lineRecord_after (he : e.Discreet) {entries : List Text}
    (hs : s.history = .mirrored entries) (h : raw ≠ []) :
    (e.after raw s).lineRecord = ⟨.mirrored (entries ++ [raw]), (entries ++ [raw]).length,
      if e.refersToRegisters raw then s.lineRecord.lastLine else some (.recorded raw)⟩ := by
  obtain ⟨s', hrecord, hlineRecord⟩ := runFrom_record (e := e) hs raw
  rw [after_of_ne_nil h, hrecord]
  exact he.keepsLineRecord_dispatch raw _ s' hlineRecord

end Engine

/-! ## the program that lines are handed to -/

namespace Delegate

theorem keeps_runProgram (interpreter : Interpreter) (settings : DelegationSettings)
    (program raw : Text) (r : Registers) :
    Keeps (fun ed : Editor => ed.registers = r)
      (runProgram interpreter settings program raw) := by
  rintro ed rfl
  simp only [runProgram, runFrom_bind, runFrom_get]
  split
  rename_i ready d _
  cases ready with
  | error fault => rfl
  | ok _ =>
    dsimp only
    split
    · rfl
    · generalize interpreter _ settings.timeout d = x
      obtain ⟨report, left⟩ := x
      dsimp only
      cases answer settings (commandOf raw) ed.buffer (bufferPath (scratch ed.disk)) left report <;>
        rfl

theorem keepsLineRecord_run (interpreter : Interpreter) (settings : DelegationSettings)
    (raw : Text) : Action.KeepsLineRecord (run interpreter settings raw) := by
  intro m
  refine keeps_get_bind fun s hs => ?_
  cases s.interpreter with
  | none => exact hs
  | some program =>
    refine keeps_bind (Action.keepsLineRecord_editing (fun x => ?_) m) (fun result => ?_) s hs
    · rintro ed rfl
      have hkept : (runFrom _ ed).2.registers = ed.registers :=
        keeps_runProgram interpreter settings program raw ed.registers ed rfl
      rw [hkept]
    · intro s hs
      rw [runFrom_ofExcept]
      exact hs

end Delegate

/-- Neither the commands of the built-in table nor a program that lines are handed to
keep the record. -/
theorem Engine.discreet_builtIn (settings : Settings) (homes : List (Text × Text))
    (program : Option Interpreter) : (builtIn settings homes program).Discreet where
  gateway := by
    intro g hg raw
    obtain ⟨p, -, rfl⟩ := Option.map_eq_some_iff.1 hg
    exact Delegate.keepsLineRecord_run p settings.delegation raw
  foreign := by
    intro raw f parsed h
    exact absurd rfl (Table.isBuiltIn_of_parse h f)

/-! ## runs -/

/-- A call of the command line: the engine, the buffer and the disk that it works on, and the line,
if one is given. -/
structure LineCall where
  engine : Engine
  buffer : Buffer
  disk : Disk
  raw : Option Text

namespace LineCall

/-- The line of a call, unless it is empty. -/
def line? (c : LineCall) : Option Text := c.raw.filter (· ≠ [])

/-- The line of a call if it is to be recorded in the `:` register. -/
def recorded? (c : LineCall) : Option Text :=
  c.line?.filter fun raw => ! c.engine.refersToRegisters raw

/-- The session as a call finds it. -/
def found (c : LineCall) (s : Session) : Session :=
  { s with editor := { s.editor with buffer := c.buffer, disk := c.disk } }

/-- What comes of a call, and the session it leaves. -/
def run (c : LineCall) (s : Session) : Except Fault Unit × Session :=
  runFrom (c.engine.run (c.raw.getD [])) (c.found s)

variable {c : LineCall} {s : Session}

/-- Without a line nothing happens. -/
theorem run_of_line?_eq_none (h : c.line? = none) (s : Session) :
    c.run s = (.ok (), c.found s) := by
  obtain ⟨e, b, d, _ | _ | ⟨x, raw⟩⟩ := c
  · rfl
  · rfl
  · cases h

theorem run_of_line?_eq_some {raw : Text} (h : c.line? = some raw) (s : Session) :
    raw ≠ [] ∧ (c.run s).2 = c.engine.after raw (c.found s) := by
  obtain ⟨e, b, d, _ | _ | ⟨x, raw⟩⟩ := c
  · cases h
  · cases h
  · cases h
    exact ⟨by simp, rfl⟩

/-- The record of one call. -/
theorem lineRecord_run (hc : c.engine.Discreet) {entries : List Text}
    (hs : s.history = .mirrored entries) :
    (c.run s).2.lineRecord = ⟨.mirrored (entries ++ c.line?.toList),
      if c.line? = none then s.historyIndex else (entries ++ c.line?.toList).length,
      (c.recorded?.map .recorded).or s.lineRecord.lastLine⟩ := by
  unfold recorded?
  cases hline : c.line? with
  | none =>
    rw [run_of_line?_eq_none hline]
    simp [found, Session.lineRecord, hs]
  | some raw =>
    obtain ⟨hraw, hrun⟩ := run_of_line?_eq_some hline s
    rw [hrun, hc.lineRecord_after (s := c.found s) hs hraw]
    cases hrefers : c.engine.refersToRegisters raw <;>
      simp [Option.filter_some, hrefers, found, Session.lineRecord]

end LineCall

namespace Session

/-- The session after some calls. -/
def afterCalls (s : Session) (calls : List LineCall) : Session :=
  calls.foldl (fun s c => (c.run s).2) s

/-- The record of any run. -/
theorem lineRecord_afterCalls {calls : List LineCall} (hcalls : ∀ c ∈ calls, c.engine.Discreet)
    {entries : List Text} {s : Session} (hs : s.history = .mirrored entries) :
    let lines := calls.filterMap LineCall.line?
    (s.afterCalls calls).lineRecord = ⟨.mirrored (entries ++ lines),
      if lines = [] then s.historyIndex else (entries ++ lines).length,
      ((calls.filterMap LineCall.recorded?).getLast?.map .recorded).or s.lineRecord.lastLine⟩ := by
  induction calls generalizing s entries with
  | nil => simp [afterCalls, lineRecord, hs]
  | cons c calls ih =>
    obtain ⟨hc, hcalls⟩ := List.forall_mem_cons.1 hcalls
    have hstep := LineCall.lineRecord_run (s := s) hc hs
    obtain ⟨hhistory, hindex, -⟩ := LineRecord.mk.inj hstep
    have hrest := ih hcalls hhistory
    have hcons (f : LineCall → Option Text) :
        (c :: calls).filterMap f = (f c).toList ++ calls.filterMap f := by
      cases h : f c <;> simp [h]
    dsimp only at hrest ⊢
    rw [show s.afterCalls (c :: calls) = (c.run s).2.afterCalls calls from rfl, hrest, hstep,
      hindex, hcons, hcons]
    refine LineRecord.mk.injEq .. ▸ ⟨by rw [List.append_assoc], ?_, ?_⟩
    · cases c.line? <;> simp
    · rw [List.getLast?_append]
      cases (calls.filterMap LineCall.recorded?).getLast? <;> cases c.recorded? <;> rfl

/-- Every line that is not empty is taken down exactly once, whatever comes of it: by the history
and its keeper, in the order of the calls, and by the `:` register unless it refers to registers.
Without a line nothing happens at all, and no command of the built-in table has a hand in what is
written down. -/
theorem lines_recorded :
    (∀ (s : Session) (entries : List Text), s.history = .mirrored entries →
      ∀ calls : List LineCall, (∀ c ∈ calls, c.engine.Discreet) →
      let t := s.afterCalls calls
      let lines := calls.filterMap LineCall.line?
      t.history = .mirrored (entries ++ lines) ∧
      (lines ≠ [] → t.historyIndex = (entries ++ lines).length) ∧
      t.editor.registers.get? Registers.commandName =
        match (calls.filterMap LineCall.recorded?).getLast? with
        | some raw => some (.recorded raw)
        | none => s.editor.registers.get? Registers.commandName) ∧
    (∀ (c : LineCall) (s : Session), c.line? = none → c.run s = (.ok (), c.found s)) ∧
    ∀ homes typed c parsed, (Table.ofExtra homes []).parse typed = .ok (.command c parsed) →
      ∀ raw range (s : Session),
        (runFrom (Engine.perform raw c range) s).2.lineRecord = s.lineRecord := by
  refine ⟨fun s entries hs calls hcalls => ?_, fun c s h => LineCall.run_of_line?_eq_none h s, ?_⟩
  · obtain ⟨hhistory, hindex, hlast⟩ := LineRecord.mk.inj (lineRecord_afterCalls hcalls hs)
    refine ⟨hhistory, fun hlines => hindex.trans (if_neg hlines), hlast.trans ?_⟩
    cases (calls.filterMap LineCall.recorded?).getLast? <;> rfl
  · intro homes typed c parsed hparse raw range s
    have hc := Table.isBuiltIn_of_parse hparse
    exact Engine.keepsLineRecord_perform
      (fun past x => Engine.keeps_perform_of_isBuiltIn hc past range x) s.lineRecord s rfl

/-- Yanking into the `:` register fails, a line is missing, a parser crashes, and a line refers to
the registers. -/
theorem lines_recorded_failures :
    let editor : Editor :=
      ⟨Buffer.ofText "a\nb".toList none, Registers.empty, ⟨[], [], [], [], .standard⟩⟩
    let s := (runFrom Action.load (start editor (.new (.memory ["x".toList])))).2
    let e := Engine.builtIn .standard [] none
    let crashing : Engine := { e with parse := fun _ => .error .noSuchItem }
    let call (e : Engine) (raw : Option Text) : LineCall :=
      ⟨e, s.editor.buffer, s.editor.disk, raw⟩
    let calls := [call e (some "y :".toList), call e none, call crashing (some "p".toList),
      call e (some ":reg a".toList), call e (some [])]
    let t := s.afterCalls calls
    t.history = .mirrored ["x".toList, "y :".toList, "p".toList, ":reg a".toList] ∧
      t.historyIndex = 4 ∧
      t.editor.registers.get? Registers.commandName = some (.recorded "p".toList) := by
  intro editor s e crashing call calls t
  have hs : s.history = .mirrored ["x".toList] := rfl
  have he : e.Discreet := Engine.discreet_builtIn .standard [] none
  have hcrashing : crashing.Discreet := ⟨he.gateway, fun raw f parsed h => by cases h⟩
  have hcalls : ∀ c ∈ calls, c.engine.Discreet := by
    simp only [calls, call, List.forall_mem_cons]
    exact ⟨he, he, hcrashing, he, he, fun c hc => by cases hc⟩
  obtain ⟨hhistory, hindex, hlast⟩ := lines_recorded.1 s _ hs calls hcalls
  exact ⟨hhistory, hindex (by decide), hlast⟩

end Session

end ExMode
