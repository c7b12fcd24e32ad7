import ExMode.Proofs.Cursor

/-!
# ExMode.Proofs.Walk

Walking the history.  Opening the box goes to the end of the history, and so does taking a line
into it, if that comes through.  From there each key leads one place on, as far as there are
entries, and shows the entry there; past the newest one it shows an empty line.  Completing a text
in between does not lead anywhere, and no key does anything to the history, the registers or the
buffer.

A line that is handed to the history is in it even if its keeper cannot take it.  Then nobody goes
to the end of the history, and the walk starts where the one before ended.  That happens only when
the path of the history file holds a NUL character, or when too many directories are missing on the
way to it.

* `Use.ready_after` — a history that is ready stays so;
* `Use.recorded_after` — where a line that is recorded leaves one;
* `Key.after_eq`, `Key.answer?_eq` — one key;
* `Key.afterAll_eq`, `Key.answers_eq` — any number of keys;
* `InputBox.history_walked` — the whole account.
-/

namespace ExMode

/-! ## a history that is ready -/

/-- The history is loaded, and the file of its keeper, if there is one, has a name and was read. -/
structure History.Ready (h : History) : Prop where
  loaded : h.loaded = true
  file : ∀ k, h.keeper = .file k → k.path.parts ≠ [] ∧ k.loaded = true

namespace History.Recording

/-- What a keeper does leaves the history ready if it leaves a file that was read. -/
theorem ready_keeping {α : Type} {inMemory : List Text → α × List Text} {inFile : Keeping α}
    (h : ∀ path, Keeps (fun s : KeepingState => s.keeper.Tends path) inFile) :
    Keeps (fun r : Records => r.history.Ready) (keeping inMemory inFile) := by
  rintro ⟨⟨entries, loaded, keeper⟩, d, log⟩ ⟨hloaded, hfile⟩
  cases keeper with
  | memory kept => exact ⟨hloaded, by rintro _ ⟨⟩⟩
  | file k =>
    obtain ⟨hparts, hk⟩ := hfile k rfl
    have htends := h k.path ⟨k, d, log⟩ ⟨rfl, hk⟩
    rw [runFrom_keeping (h := ⟨entries, loaded, .file k⟩) _ _ rfl]
    constructor
    · exact hloaded
    · rintro _ ⟨⟩
      exact ⟨htends.path_eq.symm ▸ hparts, htends.loaded⟩

theorem ready_keep (entry : Text) : Keeps (fun r : Records => r.history.Ready) (keep entry) :=
  ready_keeping fun _ _ hs => Keeping.tends_append hs entry

theorem ready_push (entry : Text) : Keeps (fun r : Records => r.history.Ready) (push entry) :=
  fun _ hr => ⟨hr.loaded, hr.file⟩

theorem ready_pushAll (entries : List Text) :
    Keeps (fun r : Records => r.history.Ready) (pushAll entries) := by
  induction entries with
  | nil => exact keeps_pure _
  | cons entry entries ih =>
    exact keeps_bind (ready_push entry) fun _ => keeps_bind (ready_keep entry) fun _ => ih

theorem ready_add (entry : Text) : Keeps (fun r : Records => r.history.Ready) (add entry) := by
  refine keeps_bind (ready_push entry) fun _ => keeps_get_bind fun r hr => ?_
  split
  · exact ready_keep entry r hr
  · exact hr

theorem ready_clear : Keeps (fun r : Records => r.history.Ready) clear := by
  refine keeps_bind (fun _ hr => ⟨hr.loaded, hr.file⟩) fun _ => ready_keeping fun path =>
    keeps_bind (fun _ hs => ⟨hs.path_eq, rfl⟩) fun _ s hs => ?_
  rw [runFrom_discard]
  exact Keeping.tends_flush hs

/-- A history is loaded once. -/
theorem ready_load : Keeps (fun r : Records => r.history.Ready) load := by
  refine keeps_get_bind fun r hr => ?_
  rw [if_pos hr.loaded]
  exact hr

/-- Loading a history, if it comes through, makes it ready. -/
theorem ready_of_load {r : Records} (hhere : r.disk.at? r.disk.here = some .directory)
    (hload : (runFrom load r).1 = .ok ()) : (runFrom load r).2.history.Ready := by
  obtain ⟨⟨entries, loaded, keeper⟩, d, log⟩ := r
  cases loaded with
  | true => cases hload
  | false =>
    cases keeper with
    | memory kept =>
      rw [runFrom_load]
      exact ⟨rfl, by simp [mirrored]⟩
    | file k =>
      rw [runFrom_load_into] at hload ⊢
      cases hstored : k.stored d with
      | error f => simp [hstored] at hload
      | ok stored =>
        have hparts : k.path.parts ≠ [] := Workspace.parts_ne_nil_of_stored hhere
          fun e he => by rw [hstored] at he; cases he
        refine ready_pushAll entries _ ⟨rfl, ?_⟩
        rintro _ ⟨⟩
        exact ⟨hparts, rfl⟩

/-- A history that is ready takes every line, unless something prevents that its file is written. -/
theorem prevents_of_add {r : Records} (hr : r.history.Ready) {entry : Text} {f : Fault}
    (h : (runFrom (add entry) r).1 = .error f) :
    ∃ k, r.history.keeper = .file k ∧ r.disk.Prevents k.path f := by
  obtain ⟨⟨entries, loaded, keeper⟩, d, log⟩ := r
  obtain ⟨rfl, hfile⟩ := hr
  cases keeper with
  | memory kept => cases h
  | file k =>
    obtain ⟨hparts, hk⟩ := hfile k rfl
    rw [runFrom_add rfl rfl] at h
    exact ⟨k, rfl, Keeping.prevents_of_append ⟨rfl, hk⟩ hparts h⟩

end History.Recording

theorem Action.ready_recording {α : Type} {act : History.Recording α}
    (h : Keeps (fun r : History.Records => r.history.Ready) act) :
    Keeps (fun s => s.history.Ready) (recording act) := by
  intro s hs
  rw [runFrom_recording]
  exact h _ hs

/-! ## the end of the history -/

namespace Session

/-- Where one is, and in which history. -/
def place (s : Session) : History × Nat := (s.history, s.historyIndex)

theorem ready_of_place {s s' : Session} (hplace : s'.place = s.place) (h : s.history.Ready) :
    s'.history.Ready := by
  obtain ⟨hhistory, -⟩ := Prod.mk.inj hplace
  rwa [hhistory]

/-- One is at the end of a history that is ready. -/
structure Arrived (s : Session) : Prop where
  ready : s.history.Ready
  index_eq : s.historyIndex = s.history.entries.length

/-- What comes of handing a line to the history of a session. -/
def taking (s : Session) (line : Text) : Except Fault Unit :=
  (runFrom (History.Recording.add line) ⟨s.history, s.editor.disk, []⟩).1

/-- How a session is left by a line that is recorded: the line is in the history, which is as ready
as it was, and one is at its end if the line was taken, or else where one was before. -/
structure Recorded (s : Session) (line : Text) (s' : Session) : Prop where
  entries_eq : s'.history.entries = s.history.entries ++ [line]
  index_eq : s'.historyIndex = match s.taking line with
    | .ok () => s.history.entries.length + 1
    | .error _ => s.historyIndex
  ready : s.history.Ready → s'.history.Ready

theorem Recorded.congr {s t u : Session} {line : Text} (h : Recorded s line t)
    (hplace : u.place = t.place) : Recorded s line u := by
  obtain ⟨hhistory, hindex⟩ := Prod.mk.inj hplace
  constructor
  · rw [hhistory, h.entries_eq]
  · rw [hindex, h.index_eq]
  · exact fun hs => ready_of_place hplace (h.ready hs)

/-- Nothing but the history, the place in it and the disk has a part in recording a line. -/
theorem Recorded.of_same {s t u : Session} {line : Text} (h : Recorded t line u)
    (hplace : t.place = s.place) (hdisk : t.editor.disk = s.editor.disk) :
    Recorded s line u := by
  obtain ⟨hhistory, hindex⟩ := Prod.mk.inj hplace
  have htaking : t.taking line = s.taking line := by simp only [taking, hhistory, hdisk]
  constructor
  · rw [h.entries_eq, hhistory]
  · rw [h.index_eq, htaking, hhistory, hindex]
  · rw [← hhistory]
    exact h.ready

end Session

/-- Adding a line to the history and going to its end records the line, if whatever is done after
that leads nowhere. -/
theorem Action.recorded_add {α : Type} {rest : Action α}
    (hrest : ∀ x, Keeps (fun s => s.place = x) rest) (line : Text) (s : Session) :
    s.Recorded line (runFrom (do
      recording (History.Recording.add line)
      modify Session.atEnd
      rest) s).2 := by
  have hentries := History.Recording.entries_add line ⟨s.history, s.editor.disk, []⟩
  have hready := History.Recording.ready_add line ⟨s.history, s.editor.disk, []⟩
  have htaking : s.taking line =
    (runFrom (History.Recording.add line) ⟨s.history, s.editor.disk, []⟩).1 := rfl
  rw [runFrom_bind, runFrom_recording]
  rcases hadd : runFrom (History.Recording.add line) ⟨s.history, s.editor.disk, []⟩ with ⟨f | _, r⟩
    <;> rw [hadd] at hentries hready htaking
  · constructor
    · exact hentries
    · rw [htaking]
    · exact hready
  · refine Session.Recorded.congr (t := Session.atEnd { s with history := r.history }) ?_
      (hrest _ _ rfl)
    constructor
    · exact hentries
    · rw [Session.historyIndex_atEnd, htaking]
      simp [show r.history.entries = s.history.entries ++ [line] from hentries]
    · exact hready

namespace Engine

variable {e : Engine} {s : Session}

/-- Whether the way to an interpreter leaves one where one is in the history, and the history as it
is. -/
def KeepsPlace (e : Engine) : Prop :=
  ∀ g, e.gateway = some g → ∀ raw x, Keeps (fun s => s.place = x) (g.run raw)

/-- Whoever leaves the record of the lines alone leaves one where one is. -/
theorem Discreet.keepsPlace (he : e.Discreet) : e.KeepsPlace := by
  rintro g hg raw _ s rfl
  have hlineRecord : (runFrom (g.run raw) s).2.lineRecord = s.lineRecord :=
    he.gateway g hg raw _ s rfl
  obtain ⟨hhistory, hindex, -⟩ := LineRecord.mk.inj hlineRecord
  rw [Session.place, hhistory, hindex, Session.place]

/-- What becomes of a recorded line leads nowhere in the history. -/
theorem KeepsPlace.place_dispatch (he : e.KeepsPlace) (raw : Text) (s : Session) :
    (runFrom (e.dispatch raw) s).2.place = s.place :=
  keeps_dispatch (P := fun s' => s'.place = s.place) (fun _ _ hs => hs)
    (fun _ _ _ _ hs => by rwa [runFrom_perform]) (fun g hg => he g hg raw s.place) s rfl

theorem recorded_record (e : Engine) (raw : Text) (s : Session) :
    s.Recorded raw (runFrom (e.record raw) s).2 := by
  let emitted : Session := { s with journal := s.journal ++ [.recorded raw] }
  refine Session.Recorded.of_same (t := emitted) ?_ rfl rfl
  refine Action.recorded_add (fun x => ?_) raw emitted
  split
  · exact fun _ hs => hs
  · exact keeps_pure _

theorem KeepsPlace.recorded_run (he : e.KeepsPlace) {raw : Text} (h : raw ≠ []) (s : Session) :
    s.Recorded raw (runFrom (e.run raw) s).2 := by
  rw [run, if_pos h]
  exact runFrom_bind_of_keeps (P := s.Recorded raw) (e.recorded_record raw s)
    fun _ s' hs => hs.congr (he.place_dispatch raw s')

theorem recorded_offerHistory (e : Engine) (initial : Text) (s : Session) :
    s.Recorded initial (runFrom (e.offerHistory initial) s).2 := by
  refine Action.recorded_add (fun x => keeps_get_bind fun s hs => ?_) initial s
  exact hs

end Engine

/-! ## lines that are recorded -/

/-- A line that is admitted is recorded. -/
theorem InputBox.recorded_enter {e : Engine} {s : Session} {raw : Text} (h : s.inFlight = false)
    (hraw : raw ≠ []) : s.Recorded raw (runFrom (enter e raw) s).2 := by
  let admitted : Session :=
    { s with inFlight := true, lastKey := "<CR>".toList }.withoutCompletion
  have henter : runFrom (enter e raw) s = runFrom (do e.record raw; return true) admitted := by
    simp only [enter, runFrom_bind, runFrom_get, runFrom_modify, h, Bool.false_eq_true, if_false,
      if_pos hraw, admitted]
  rw [henter]
  refine Session.Recorded.of_same (t := admitted) ?_ rfl rfl
  exact runFrom_bind_of_keeps (P := admitted.Recorded raw) (e.recorded_record raw admitted)
    fun _ => keeps_pure _

/-- A line that is refused or empty leads nowhere. -/
theorem InputBox.place_enter {e : Engine} {s : Session} {raw : Text}
    (h : s.inFlight = true ∨ raw = []) : (runFrom (enter e raw) s).2.place = s.place := by
  simp only [enter, runFrom_bind, runFrom_get]
  split
  · rfl
  · rename_i hidle
    obtain rfl := h.resolve_left hidle
    rfl

namespace Use

variable {e : Engine} {t : Table} {s : Session}

/-- The line that is handed to the history. -/
def recorded? (s : Session) : Use → Option Text
  | .run raw => if raw = [] then none else some raw
  | .showHistory initial _ => some initial
  | .browseHistory typed _ => some typed
  | .submit raw => if s.inFlight ∨ raw = [] then none else some raw
  | _ => none

/-- A line that is handed to the history is recorded. -/
theorem recorded_after (he : e.KeepsPlace) (t : Table) {u : Use} {line : Text}
    (h : u.recorded? s = some line) : s.Recorded line (u.after e t s) := by
  cases u with
  | run raw =>
    by_cases hraw : raw = []
    · simp [recorded?, hraw] at h
    · simp only [recorded?, if_neg hraw, Option.some.injEq] at h
      subst h
      exact he.recorded_run hraw s
  | showHistory initial choice =>
    cases h
    exact runFrom_bind_of_keeps (P := s.Recorded line) (e.recorded_offerHistory line s)
      fun _ => keeps_pure _
  | browseHistory typed choice =>
    cases h
    refine runFrom_bind_of_keeps (P := s.Recorded line) ?_ fun _ => keeps_pure _
    exact (e.recorded_offerHistory line s.withoutCompletion).of_same rfl rfl
  | submit raw =>
    by_cases hidle : s.inFlight = true ∨ raw = []
    · simp [recorded?, hidle] at h
    · simp only [recorded?, if_neg hidle, Option.some.injEq] at h
      subst h
      simp only [not_or, Bool.not_eq_true] at hidle
      exact InputBox.of_submit (P := s.Recorded raw) (fun _ _ hs => hs.congr rfl)
        (fun _ hs => hs.congr rfl) (fun s' hs => hs.congr (he.place_dispatch raw s'))
        (InputBox.recorded_enter hidle.1 hidle.2)
  | _ => cases h

/-- Whatever is done with a history that is ready leaves it so. -/
theorem ready_after (he : e.KeepsPlace) (t : Table) (hs : s.history.Ready) (u : Use) :
    (u.after e t s).history.Ready := by
  cases hline : u.recorded? s with
  | some line => exact (recorded_after he t hline).ready hs
  | none =>
    cases u with
    | load =>
      refine keeps_bind (P := fun s => s.history.Ready) (Action.ready_recording
        History.Recording.ready_load) (fun _ => ?_) s hs
      exact fun _ hs => hs
    | run raw =>
      have hraw : raw = [] := by simpa [recorded?] using hline
      subst hraw
      exact hs
    | showHistory | browseHistory => cases hline
    | openBox | closeBox => exact hs
    | up =>
      rw [after, InputBox.runFrom_historyUp]
      repeat' split
      all_goals exact hs
    | down =>
      rw [after, InputBox.runFrom_historyDown]
      split <;> exact hs
    | complete typed reverse =>
      obtain ⟨c, key, h⟩ := InputBox.snd_complete t typed reverse s
      rw [after, h]
      exact hs
    | submit raw =>
      refine InputBox.of_submit (P := fun s => s.history.Ready) (fun _ _ hs => hs)
        (fun _ hs => hs) (fun s' hs => ?_) ?_
      · exact Session.ready_of_place (he.place_dispatch raw s') hs
      · have hidle : s.inFlight = true ∨ raw = [] := by
          simpa [recorded?, or_iff_not_imp_left] using hline
        exact Session.ready_of_place (InputBox.place_enter hidle) hs
    | add entry => exact Action.ready_recording (History.Recording.ready_add entry) s hs
    | clear => exact Action.ready_recording History.Recording.ready_clear s hs

end Use

/-! ## keys -/

/-- The entry at a place in the history; an empty line at its end. -/
def History.lineAt (h : History) (i : Nat) : Text := h.entries[i]?.getD []

/-- A session that has walked to a place in its history. -/
def Session.walkedTo (s : Session) (i : Nat) (completion : Completion) (lastKey : Text) : Session :=
  { s with historyIndex := i, completion := completion, lastKey := lastKey }

/-- A key that is pressed in the box: a step along the history, or a completion of what is typed. -/
inductive Key where
  | up
  | down
  | complete (typed : Text) (reverse : Bool)

namespace Key

/-- What is done with the session. -/
def use : Key → Use
  | .up => .up
  | .down => .down
  | .complete typed reverse => .complete typed reverse

/-- What the box shows when a step along the history is taken. -/
def answer? (s : Session) : Key → Option (Except Fault (Option Text))
  | .up => some (runFrom InputBox.historyUp s).1
  | .down => some (runFrom InputBox.historyDown s).1
  | .complete _ _ => none

/-- The session after some keys. -/
def afterAll (e : Engine) (t : Table) (s : Session) (keys : List Key) : Session :=
  keys.foldl (fun s key => key.use.after e t s) s

/-- What the box shows, key by key. -/
def answers (e : Engine) (t : Table) : Session → List Key → List (Except Fault (Option Text))
  | _, [] => []
  | s, key :: keys => (key.answer? s).toList ++ answers e t (key.use.after e t s) keys

/-- Where a key leads to in a history of `n` entries, if it leads anywhere. -/
def leads? (n i : Nat) : Key → Option Nat
  | .up => some (i - 1)
  | .down => some (min (i + 1) n)
  | .complete _ _ => none

/-- Where one is after a key. -/
def lead (n i : Nat) (key : Key) : Nat := (key.leads? n i).getD i

/-- The places that keys lead to, one by one. -/
def places (n : Nat) : Nat → List Key → List Nat
  | _, [] => []
  | i, key :: keys => (key.leads? n i).toList ++ places n (key.lead n i) keys

theorem lead_le {n i : Nat} (h : i ≤ n) (key : Key) : key.lead n i ≤ n := by
  cases key <;> simp only [lead, leads?, Option.getD_some, Option.getD_none] <;> omega

variable {e : Engine} {t : Table} {s : Session}

theorem browsable_eq (hloaded : s.history.loaded = true) :
    s.history.browsable = s.history.entries := if_pos hloaded

theorem stepped_up (hs : s.InHistory) : InputBox.stepped s "<up>" (-1) =
    s.walkedTo (Key.up.lead s.history.entries.length s.historyIndex) .none "<up>".toList := by
  have hindex : (max 0 (min ((s.historyIndex : Int) + -1) s.history.entries.length)).toNat =
      s.historyIndex - 1 := by
    unfold Session.InHistory at hs
    omega
  exact congrArg (s.walkedTo · .none "<up>".toList) hindex

theorem stepped_down (s : Session) : InputBox.stepped s "<down>" 1 =
    s.walkedTo (Key.down.lead s.history.entries.length s.historyIndex) .none
      "<down>".toList := by
  have hindex : (max 0 (min ((s.historyIndex : Int) + 1) s.history.entries.length)).toNat =
      min (s.historyIndex + 1) s.history.entries.length := by
    omega
  exact congrArg (s.walkedTo · .none "<down>".toList) hindex

/-- A step towards the oldest entry, in a history with entries. -/
theorem runFrom_up (hloaded : s.history.loaded = true) (hne : s.history.entries ≠ [])
    (hs : s.InHistory) :
    let i := Key.up.lead s.history.entries.length s.historyIndex
    runFrom InputBox.historyUp s =
      (.ok (some (s.history.lineAt i)), s.walkedTo i .none "<up>".toList) := by
  intro i
  have hi : i < s.history.entries.length := by
    have hpos := List.length_pos_iff.2 hne
    unfold Session.InHistory at hs
    simp only [i, lead, leads?, Option.getD_some]
    omega
  rw [InputBox.runFrom_historyUp, if_neg (browsable_eq hloaded ▸ hne), stepped_up hs,
    browsable_eq hloaded]
  rw [show (s.walkedTo i .none "<up>".toList).historyIndex = i from rfl,
    List.getElem?_eq_getElem hi, History.lineAt, List.getElem?_eq_getElem hi, Option.getD_some]

/-- A step towards the newest entry, in a history with entries. -/
theorem runFrom_down (hloaded : s.history.loaded = true) (hne : s.history.entries ≠ []) :
    let i := Key.down.lead s.history.entries.length s.historyIndex
    runFrom InputBox.historyDown s =
      (.ok (some (s.history.lineAt i)), s.walkedTo i .none "<down>".toList) := by
  intro i
  rw [InputBox.runFrom_historyDown, if_neg (browsable_eq hloaded ▸ hne), stepped_down,
    browsable_eq hloaded]
  rfl

/-- Every step along the history shows the line that it leads to. -/
theorem answer?_eq (hloaded : s.history.loaded = true) (hne : s.history.entries ≠ [])
    (hs : s.InHistory) (key : Key) :
    key.answer? s = (key.leads? s.history.entries.length s.historyIndex).map
      fun i => .ok (some (s.history.lineAt i)) := by
  cases key with
  | up => rw [answer?, runFrom_up hloaded hne hs]; rfl
  | down => rw [answer?, runFrom_down hloaded hne]; rfl
  | complete typed reverse => rfl

/-- A key leads to its place, and changes nothing but the place and what the box shows. -/
theorem after_eq (e : Engine) (t : Table) (hloaded : s.history.loaded = true)
    (hne : s.history.entries ≠ []) (hs : s.InHistory) (key : Key) :
    ∃ c k, key.use.after e t s =
      s.walkedTo (key.lead s.history.entries.length s.historyIndex) c k := by
  cases key with
  | up => exact ⟨_, _, congrArg Prod.snd (runFrom_up hloaded hne hs)⟩
  | down => exact ⟨_, _, congrArg Prod.snd (runFrom_down hloaded hne)⟩
  | complete typed reverse => exact InputBox.snd_complete t typed reverse s

/-- Keys lead from place to place, and change nothing but the place and what the box shows. -/
theorem afterAll_eq (e : Engine) (t : Table) (hloaded : s.history.loaded = true)
    (hne : s.history.entries ≠ []) (hs : s.InHistory) (keys : List Key) :
    ∃ c k, afterAll e t s keys = s.walkedTo
      (keys.foldl (fun i key => key.lead s.history.entries.length i) s.historyIndex) c k := by
  induction keys generalizing s with
  | nil => exact ⟨_, _, rfl⟩
  | cons key keys ih =>
    obtain ⟨c, k, hkey⟩ := after_eq e t hloaded hne hs key
    obtain ⟨c', k', hkeys⟩ := ih (s := key.use.after e t s) (by rwa [hkey]) (by rwa [hkey])
      (by rw [hkey]; exact lead_le hs key)
    refine ⟨c', k', ?_⟩
    rw [afterAll, List.foldl_cons, ← afterAll, hkeys, hkey]
    rfl

/-- Keys show the lines that they lead to, one after another. -/
theorem answers_eq (e : Engine) (t : Table) (hloaded : s.history.loaded = true)
    (hne : s.history.entries ≠ []) (hs : s.InHistory) (keys : List Key) :
    answers e t s keys = (places s.history.entries.length s.historyIndex keys).map
      fun i => .ok (some (s.history.lineAt i)) := by
  induction keys generalizing s with
  | nil => rfl
  | cons key keys ih =>
    obtain ⟨c, k, hkey⟩ := after_eq e t hloaded hne hs key
    have hrest := ih (s := key.use.after e t s) (by rwa [hkey]) (by rwa [hkey])
      (by rw [hkey]; exact lead_le hs key)
    rw [answers, answer?_eq hloaded hne hs, hrest, hkey, places, List.map_append,
      Option.toList_map]
    rfl

/-! ## up and down again -/

theorem places_append (n i : Nat) (keys more : List Key) :
    places n i (keys ++ more) =
      places n i keys ++ places n (keys.foldl (fun i key => key.lead n i) i) more := by
  induction keys generalizing i with
  | nil => rfl
  | cons key keys ih =>
    rw [List.cons_append, places, ih, places, List.append_assoc, List.foldl_cons]

variable {h : History}

theorem foldl_lead_up (n i k : Nat) :
    (List.replicate k up).foldl (fun i key => key.lead n i) i = i - k := by
  induction k generalizing i with
  | zero => rfl
  | succ k ih =>
    rw [List.replicate_succ, List.foldl_cons, ih, lead, leads?, Option.getD_some]
    omega

/-- Steps up show the entries before a place, the newest one first. -/
theorem lines_up {n i k : Nat} (hk : k ≤ i) (hi : i ≤ h.entries.length) :
    (places n i (List.replicate k up)).map h.lineAt = (h.entries.take i).reverse.take k := by
  induction k generalizing i with
  | zero => rfl
  | succ k ih =>
    obtain ⟨i, rfl⟩ := Nat.exists_eq_add_one_of_ne_zero (Nat.ne_zero_of_lt hk)
    have htake : h.entries.take (i + 1) = h.entries.take i ++ [h.lineAt i] := by
      rw [List.take_succ_eq_append_getElem hi, History.lineAt, List.getElem?_eq_getElem hi,
        Option.getD_some]
    rw [List.replicate_succ, places, lead, leads?, Option.toList_some, Option.getD_some,
      Nat.add_sub_cancel, List.singleton_append, List.map_cons,
      ih (Nat.le_of_succ_le_succ hk) (Nat.le_of_lt hi), htake, List.reverse_concat,
      List.take_succ_cons]

/-- Steps down show the entries behind a place, and an empty line behind the last one. -/
theorem lines_down {i j : Nat} (hj : i + j ≤ h.entries.length) :
    (places h.entries.length i (List.replicate j down)).map h.lineAt =
      ((h.entries ++ [[]]).drop (i + 1)).take j := by
  induction j generalizing i with
  | zero => simp [places]
  | succ j ih =>
    have hi : i + 1 < (h.entries ++ [[]]).length := by
      simp only [List.length_append, List.length_singleton]
      omega
    have hline : (h.entries ++ [[]])[i + 1] = h.lineAt (i + 1) := by
      rw [History.lineAt]
      grind
    rw [List.replicate_succ, places, lead, leads?, Option.toList_some, Option.getD_some,
      List.singleton_append, List.map_cons, Nat.min_eq_left (by omega), ih (by omega),
      List.drop_eq_getElem_cons hi, List.take_succ_cons, hline]

/-- Steps up show the newest entries, the newest one first, and as many steps down or less show them
again in the other order, and an empty line in the end. -/
theorem lines_up_down {j k : Nat} (hj : j ≤ k) (hk : k ≤ h.entries.length) :
    (places h.entries.length h.entries.length
      (List.replicate k up ++ List.replicate j down)).map h.lineAt =
      h.entries.reverse.take k ++ ((h.entries.reverse.take k).reverse.tail ++ [[]]).take j := by
  have hdrop : ((h.entries ++ [[]]).drop (h.entries.length - k + 1)).take j =
      ((h.entries.reverse.take k).reverse.tail ++ [[]]).take j := by
    cases j with
    | zero => simp
    | succ j =>
      rw [List.take_reverse, List.reverse_reverse, List.tail_drop,
        List.drop_append_of_le_length (by omega)]
  rw [places_append, List.map_append, foldl_lead_up, lines_up hk le_rfl, List.take_length,
    lines_down (by omega), hdrop]

end Key

/-! ## walking the history -/

/-- Loading the history goes to its end. -/
theorem Session.arrived_load {s : Session}
    (hhere : s.editor.disk.at? s.editor.disk.here = some .directory)
    (hload : (runFrom Action.load s).1 = .ok ()) : (runFrom Action.load s).2.Arrived := by
  have hready : ∀ r, runFrom History.Recording.load ⟨s.history, s.editor.disk, []⟩ = (.ok (), r) →
      r.history.Ready := fun r hr => by
    have hready := History.Recording.ready_of_load (r := ⟨s.history, s.editor.disk, []⟩) hhere
      (by rw [hr])
    rwa [hr] at hready
  simp only [Action.load, runFrom_bind, Action.runFrom_recording] at hload ⊢
  rcases hrun : runFrom History.Recording.load ⟨s.history, s.editor.disk, []⟩ with ⟨f | _, r⟩
  · rw [hrun] at hload
    cases hload
  · exact ⟨hready r hrun, Session.historyIndex_atEnd _⟩

namespace InputBox

variable {e : Engine}

/-- Opening the box goes to the end of the history. -/
theorem arrived_openBox {s : Session} (hs : s.history.Ready) : (openBox s).Arrived := by
  constructor
  · exact hs
  · simp [openBox, Session.atIndex, Session.withoutCompletion, Session.withMode,
      Key.browsable_eq hs.loaded]

/-- A history that was loaded is ready, and stays so whatever is done.  Opening the box goes to its
end, and so does every line that is handed to it and taken; a line is not taken only if the path of
the history file holds a NUL character, or if too many directories are missing on the way to it, and
then it is in the history all the same and one is where one was.  From the end of a history that is
not empty, any keys lead from place to place as far as there are places, change nothing but the
place and what the box shows, and every step shows the line that it leads to: steps up show the
newest entries, newest first, and steps down after that show them again in the other order, and an
empty line in the end. -/
theorem history_walked (he : e.KeepsPlace) (t : Table) :
    (∀ s : Session, s.editor.disk.at? s.editor.disk.here = some .directory →
      (runFrom Action.load s).1 = .ok () → (runFrom Action.load s).2.Arrived) ∧
    (∀ s : Session, s.history.Ready →
      (∀ u : Use, (u.after e t s).history.Ready) ∧
      ((openBox s).Arrived ∧ (openBox s).history = s.history) ∧
      ∀ (u : Use) (line : Text), u.recorded? s = some line →
        (u.after e t s).history.entries = s.history.entries ++ [line] ∧
        (s.taking line = .ok () → (u.after e t s).Arrived) ∧
        ∀ f, s.taking line = .error f →
          (∃ k, s.history.keeper = .file k ∧
            (f = .embeddedNul ∧ k.path.hasNul = true ∨
              f = .tooManyCalls ∧ s.editor.disk.TooDeep k.path.parent)) ∧
          (u.after e t s).historyIndex = s.historyIndex) ∧
    ∀ s : Session, s.Arrived → s.history.entries ≠ [] →
      let h := s.history.entries
      (∀ keys : List Key,
        (∃ c k, Key.afterAll e t s keys =
          s.walkedTo (keys.foldl (fun i key => key.lead h.length i) h.length) c k) ∧
        Key.answers e t s keys =
          (Key.places h.length h.length keys).map fun i => .ok (some (s.history.lineAt i))) ∧
      ∀ j k, j ≤ k → k ≤ h.length →
        Key.answers e t s (List.replicate k .up ++ List.replicate j .down) =
          (h.reverse.take k ++ ((h.reverse.take k).reverse.tail ++ [[]]).take j).map
            fun line => .ok (some line) := by
  refine ⟨fun s => Session.arrived_load, fun s hs => ⟨Use.ready_after he t hs,
    ⟨arrived_openBox hs, rfl⟩, fun u line hline => ?_⟩, fun s hs hne => ?_⟩
  · have hrecorded := Use.recorded_after he t hline
    refine ⟨hrecorded.entries_eq, fun htaken => ⟨hrecorded.ready hs, ?_⟩, fun f hf =>
      ⟨History.Recording.prevents_of_add (r := ⟨s.history, s.editor.disk, []⟩) hs hf, ?_⟩⟩
    · rw [hrecorded.index_eq, htaken, hrecorded.entries_eq, List.length_append,
        List.length_singleton]
    · rw [hrecorded.index_eq, hf]
  · intro h
    have hin : s.InHistory := hs.index_eq.le
    have hanswers (keys : List Key) : Key.answers e t s keys =
        (Key.places h.length h.length keys).map fun i => .ok (some (s.history.lineAt i)) := by
      rw [Key.answers_eq e t hs.ready.loaded hne hin, hs.index_eq]
    refine ⟨fun keys => ⟨?_, hanswers keys⟩, fun j k hj hk => ?_⟩
    · simpa only [hs.index_eq] using Key.afterAll_eq e t hs.ready.loaded hne hin keys
    · rw [hanswers, ← Key.lines_up_down hj hk, List.map_map]
      rfl

/-- Two entries are loaded and a line is run; on the way up a command name is completed, and the box
is walked past both ends of the history. -/
theorem history_walked_loaded :
    let editor : Editor :=
      ⟨Buffer.ofText "a\nb".toList none, Registers.empty, ⟨[], [], [], [], .standard⟩⟩
    let e := Engine.builtIn .standard [] none
    let t := Table.ofExtra [] []
    let start := Session.start editor (.new (.memory ["y".toList, "s/a/b".toList]))
    let loaded := (runFrom Action.load start).2
    let s := (Use.run "d".toList).after e t loaded
    let keys : List Key := [.up, .complete "del".toList false, .up, .up, .up, .down, .down, .down,
      .down]
    e.KeepsPlace ∧ loaded.history.Ready ∧ s.Arrived ∧ Key.answers e t s keys =
      ["d", "s/a/b", "y", "y", "s/a/b", "d", "", ""].map fun line => .ok (some line.toList) := by
  intro editor e t start loaded s keys
  have he : e.KeepsPlace := (Engine.discreet_builtIn _ _ _).keepsPlace
  obtain ⟨hload, hready, hwalk⟩ := history_walked he t
  have hloaded : loaded.Arrived := hload start (by decide +kernel) (by decide +kernel)
  obtain ⟨-, -, hrecorded⟩ := hready loaded hloaded.ready
  obtain ⟨hentries, harrived, -⟩ := hrecorded (.run "d".toList) "d".toList (by decide +kernel)
  have hs : s.Arrived := harrived (by decide +kernel)
  have hkept : s.history.entries = ["y".toList, "s/a/b".toList, "d".toList] := by decide +kernel
  obtain ⟨hkeys, -⟩ := hwalk s hs (by rw [hkept]; decide)
  refine ⟨he, hloaded.ready, hs, ?_⟩
  rw [(hkeys keys).2]
  simp only [History.lineAt, hkept]
  rfl

/-- The path of the history file holds a NUL character: both lines are in the history, but nobody
goes to its end, and a step up shows the older one. -/
theorem history_walked_nul :
    let editor : Editor :=
      ⟨Buffer.ofText "a\nb".toList none, Registers.empty, ⟨[], [], [], [], .standard⟩⟩
    let e := Engine.builtIn .standard [] none
    let t := Table.ofExtra [] []
    let keeper := History.FileKeeper.new (Path.ofText "h\x00".toList) 1000 1
    let uses : List Use := [.load, .run "d".toList, .run "y".toList]
    let s := uses.foldl (Use.after e t) (Session.start editor (.new (.file keeper)))
    s.history.loaded = true ∧ s.history.entries = ["d".toList, "y".toList] ∧
      s.historyIndex = 0 ∧ Key.answers e t s [.up] = [.ok (some "d".toList)] := by
  decide +kernel

end InputBox

end ExMode
