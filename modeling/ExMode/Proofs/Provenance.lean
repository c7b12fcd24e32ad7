import ExMode.Proofs.Classified
import ExMode.Proofs.Command

/-!
# ExMode.Proofs.Provenance

Where the characters of the lines come from.  Matching a pattern moves characters from one side of a
place to the other and copies them into groups, so whatever a match holds was in the line; a
template puts in characters of its own; and the template of a substitution holds what was typed,
line feeds, and the few characters that its notation needs.  So commands put nothing into a buffer
but line feeds and what the command line holds.

All of this is said with one predicate `P` of characters, which texts, places and matches are over.

* `walks_run` — matching keeps places over `P`, whatever the pattern;
* `over_replaceIn`, `over_onLines` — substitution makes lines of old and typed characters;
* `over_of_parse`, `over_buffer_perform` — so does every command that a command line is read as.
-/

namespace ExMode

variable {P : Char → Prop}

/-! ## texts over a set of characters -/

/-- A text all of whose characters satisfy `P`. -/
def Text.Over (P : Char → Prop) (t : Text) : Prop := ∀ c ∈ t, P c

namespace Text

theorem over_nil : Over P [] := by
  intro c hc
  cases hc

theorem over_cons {c : Char} {t : Text} : Over P (c :: t) ↔ P c ∧ Over P t :=
  List.forall_mem_cons

theorem over_append {t u : Text} : Over P (t ++ u) ↔ Over P t ∧ Over P u :=
  List.forall_mem_append

theorem Over.of_sublist {t u : Text} (h : Over P t) (hsub : u.Sublist t) : Over P u :=
  fun c hc => h c (hsub.subset hc)

end Text

open Text (Over)

/-! ## matching -/

/-- A place in a line over `P`, whose groups are over `P` too. -/
structure Place.Over (P : Char → Prop) (s : Place) : Prop where
  before : Text.Over P s.before
  after : Text.Over P s.after
  groups : ∀ x ∈ s.groups, Text.Over P x.2

namespace Place

variable {s e : Place}

theorem Over.textTo (h : s.Over P) (e : Place) : Text.Over P (s.textTo e) :=
  h.after.of_sublist (List.take_sublist _ _)

theorem Over.group? (h : s.Over P) {i : Nat} {t : Text} (ht : s.group? i = some t) :
    Text.Over P t := by
  obtain ⟨l, r, hgroups, -⟩ := List.lookup_eq_some_iff.1 ht
  exact h.groups (i, t) (by simp [hgroups])

/-- A place one character further. -/
theorem Over.step (h : s.Over P) {c : Char} {r : Text} (hs : s.after = c :: r) :
    Place.Over P { s with before := c :: s.before, after := r } := by
  obtain ⟨hc, hr⟩ := Text.over_cons.1 (hs ▸ h.after)
  exact ⟨Text.over_cons.2 ⟨hc, h.before⟩, hr, h.groups⟩

theorem Over.back? (h : s.Over P) {n : Nat} (he : s.back? n = some e) : e.Over P := by
  induction n generalizing s with
  | zero =>
    cases he
    exact h
  | succ n ih =>
    unfold Place.back? at he
    split at he
    · cases he
    · rename_i c r hs
      obtain ⟨hc, hr⟩ := Text.over_cons.1 (hs ▸ h.before)
      have hstep : Place.Over P { s with before := r, after := c :: s.after } :=
        ⟨hr, Text.over_cons.2 ⟨hc, h.after⟩, h.groups⟩
      exact ih hstep he

/-- The place with the groups of another one. -/
theorem Over.withGroups (h : s.Over P) (he : e.Over P) :
    Place.Over P { s with groups := e.groups } :=
  ⟨h.before, h.after, he.groups⟩

end Place

namespace Pattern

/-- A way on that leads from places over `P` only to such places. -/
def Stays (P : Char → Prop) (k : Rest) : Prop := ∀ s e, s.Over P → k s = some e → e.Over P

/-- A way of matching that, whatever stays over `P` afterwards, stays over `P` with it. -/
def Walks (P : Char → Prop) (body : Place → Rest → Option Place) : Prop :=
  ∀ k, Stays P k → Stays P fun s => body s k

theorem stays_some : Stays P some := by
  intro s e hs h
  cases h
  exact hs

theorem stays_takeText (o : PatternOptions) (t : Text) : Stays P (takeText o t) := by
  induction t with
  | nil => exact stays_some
  | cons c t ih =>
    intro s e hs h
    unfold takeText at h
    split at h
    · cases h
    · rename_i d r hafter
      extract_lets same at h
      split at h
      · exact ih _ e (hs.step hafter) h
      · cases h

section

variable {body : Place → Rest → Option Place} {k : Rest}

/-! The rounds of a repetition go by the fuel: each is one walk of the body, and then the rounds
that are left are what follows. -/

theorem stays_greedyRounds (hbody : Walks P body) (hk : Stays P k) (least : Nat)
    (most : Option Nat) (fuel count : Nat) (last : Option Nat) :
    Stays P (greedyRounds body least most k fuel count last) := by
  induction fuel generalizing count last with
  | zero => exact hk
  | succ fuel ih =>
    intro s e hs h
    unfold greedyRounds at h
    split at h
    · exact hbody _ (ih (count + 1) last) s e hs h
    split at h
    · split at h
      · rename_i e' hround
        cases h
        exact hbody _ (ih (count + 1) (some s.after.length)) s e hs hround
      · exact hk s e hs h
    · exact hk s e hs h

theorem stays_lazyRounds (hbody : Walks P body) (hk : Stays P k) (least : Nat)
    (most : Option Nat) (fuel count : Nat) (last : Option Nat) :
    Stays P (lazyRounds body least most k fuel count last) := by
  induction fuel generalizing count last with
  | zero => exact hk
  | succ fuel ih =>
    intro s e hs h
    unfold lazyRounds at h
    split at h
    · exact hbody _ (ih (count + 1) last) s e hs h
    split at h
    · rename_i e' hrest
      cases h
      exact hk s e hs hrest
    · split at h
      · exact hbody _ (ih (count + 1) (some s.after.length)) s e hs h
      · cases h

theorem stays_possessiveRounds (hbody : Walks P body) (least : Nat) (most : Option Nat)
    (fuel count : Nat) (last : Option Nat) :
    Stays P (possessiveRounds body least most fuel count last) := by
  induction fuel generalizing count last with
  | zero => exact stays_some
  | succ fuel ih =>
    intro s e hs h
    have hround {e' : Place} (h' : body s some = some e') : e'.Over P :=
      hbody some stays_some s e' hs h'
    unfold possessiveRounds at h
    split at h
    · split at h
      · rename_i e' h'
        exact ih _ _ e' e (hround h') h
      · cases h
    split at h
    · split at h
      · rename_i e' h'
        exact ih _ _ e' e (hround h') h
      · exact stays_some s e hs h
    · exact stays_some s e hs h

end

/-- Matching moves characters and copies them, and adds none. -/
theorem walks_run (p : Pattern) : Walks P p.run := by
  induction p with
  | empty => exact fun k hk => hk
  | test o t =>
    intro k hk s e hs h
    simp only [run] at h
    split at h
    · cases h
    · rename_i hafter
      split at h
      · exact hk _ e (hs.step hafter) h
      · cases h
  | anchor o a =>
    intro k hk s e hs h
    simp only [run] at h
    split at h
    · exact hk s e hs h
    · cases h
  | seq p q hp hq => exact fun k hk => hp _ (hq k hk)
  | alt p q hp hq =>
    intro k hk s e hs h
    simp only [run] at h
    split at h
    · rename_i e' hfirst
      cases h
      exact hp k hk s e hs hfirst
    · exact hq k hk s e hs h
  | group p hp => exact hp
  | capture i p hp =>
    intro k hk s e hs h
    have hcapture : Stays P fun e => k { e with groups := (i, s.textTo e) :: e.groups } := by
      intro e' e he' h'
      have hcaptured : Place.Over P { e' with groups := (i, s.textTo e') :: e'.groups } :=
        ⟨he'.before, he'.after, List.forall_mem_cons.2 ⟨hs.textTo e', he'.groups⟩⟩
      exact hk _ e hcaptured h'
    exact hp _ hcapture s e hs h
  | repeated greed least most p hp =>
    intro k hk s e hs h
    cases greed with
    | greedy => exact stays_greedyRounds hp hk least most _ 0 none s e hs h
    | lazy => exact stays_lazyRounds hp hk least most _ 0 none s e hs h
    | possessive =>
      simp only [run] at h
      split at h
      · rename_i e' hrounds
        exact hk e' e (stays_possessiveRounds hp least most _ 0 none s e' hs hrounds) h
      · cases h
  | reference o i =>
    intro k hk s e hs h
    simp only [run] at h
    split at h
    · cases h
    split at h
    · rename_i e' htaken
      exact hk e' e (stays_takeText o _ s e' hs htaken) h
    · cases h
  | lookAhead negated p hp =>
    intro k hk s e hs h
    simp only [run] at h
    split at h
    · rename_i e' hahead
      split at h
      · cases h
      · exact hk _ e (hs.withGroups (hp some stays_some s e' hs hahead)) h
    · split at h
      · exact hk s e hs h
      · cases h
  | lookBehind negated least most p hp =>
    intro k hk s e hs h
    simp only [run] at h
    split at h
    · split at h
      · exact hk s e hs h
      · cases h
    · rename_i b hback
      split at h
      · rename_i e' hbehind
        split at h
        · cases h
        · exact hk _ e (hs.withGroups (hp some stays_some b e' (hs.back? hback) hbehind)) h
      · split at h
        · exact hk s e hs h
        · cases h
  | atomic p hp =>
    intro k hk s e hs h
    simp only [run] at h
    split at h
    · rename_i e' hinner
      exact hk e' e (hp some stays_some s e' hs hinner) h
    · cases h
  | conditional i p q hp hq =>
    intro k hk s e hs h
    simp only [run] at h
    split at h
    · exact hp k hk s e hs h
    · exact hq k hk s e hs h

/-! ## replacing matches -/

/-- A match in a line over `P`. -/
structure Match.Over (P : Char → Prop) (m : Match) : Prop where
  start : m.start.Over P
  stop : m.stop.Over P

/-- Whatever a group of a match holds was in the line. -/
theorem Match.Over.groupText {m : Match} (h : m.Over P) (i : Nat) :
    Text.Over P (m.groupText i) := by
  unfold Match.groupText
  split
  · exact h.start.textTo m.stop
  · cases hgroup : m.stop.group? i with
    | none => exact Text.over_nil
    | some t => exact h.stop.group? hgroup

theorem over_matchAt? {p : Pattern} {nonempty : Bool} {s : Place} {m : Match} (hs : s.Over P)
    (h : p.matchAt? nonempty s = some m) : m.Over P := by
  obtain ⟨e, he, rfl⟩ := Option.map_eq_some_iff.1 h
  refine ⟨hs, walks_run p _ ?_ s e hs he⟩
  intro s' e' hs' h'
  dsimp only at h'
  split at h'
  · cases h'
  · cases h'
    exact hs'

theorem over_findFrom {p : Pattern} {nonempty : Bool} {before after : Text} {m : Match}
    (hbefore : Over P before) (hafter : Over P after)
    (h : p.findFrom nonempty before after = some m) : m.Over P := by
  have hgroups : ∀ x ∈ ([] : List (Nat × Text)), Over P x.2 := by simp
  induction after generalizing nonempty before with
  | nil => exact over_matchAt? ⟨hbefore, hafter, hgroups⟩ h
  | cons c r ih =>
    unfold findFrom at h
    split at h
    · rename_i hfirst
      cases h
      exact over_matchAt? ⟨hbefore, hafter, hgroups⟩ hfirst
    · obtain ⟨hc, hr⟩ := Text.over_cons.1 hafter
      exact ih (Text.over_cons.2 ⟨hc, hbefore⟩) hr h

theorem over_matchesFrom {p : Pattern} {fuel : Nat} {nonempty : Bool} {before after : Text}
    (hbefore : Over P before) (hafter : Over P after) :
    ∀ m ∈ p.matchesFrom fuel nonempty before after, m.Over P := by
  induction fuel generalizing nonempty before after with
  | zero => simp [matchesFrom]
  | succ fuel ih =>
    unfold matchesFrom
    split
    · simp
    · rename_i m hfound
      have hm := over_findFrom hbefore hafter hfound
      exact List.forall_mem_cons.2 ⟨hm, ih hm.stop.before hm.stop.after⟩

theorem over_spliceFrom {after : Text} {ms : List (Match × Text)} (hafter : Over P after)
    (hms : ∀ x ∈ ms, x.1.Over P ∧ Over P x.2) : Over P (spliceFrom after ms) := by
  induction ms generalizing after with
  | nil => exact hafter
  | cons x ms ih =>
    obtain ⟨⟨hm, hnew⟩, hms⟩ := List.forall_mem_cons.1 hms
    have hkept := hafter.of_sublist (List.take_sublist (after.length - x.1.start.after.length) _)
    exact Text.over_append.2 ⟨Text.over_append.2 ⟨hkept, hnew⟩, ih hm.stop.after hms⟩

/-- A line in which matches are replaced holds what it held and what was put in. -/
theorem over_replaceIn (p : Pattern) (everywhere : Bool) {expand : Match → Text} {line : Text}
    (hline : Over P line) (hexpand : ∀ m : Match, m.Over P → Over P (expand m)) :
    Over P (p.replaceIn everywhere expand line).1 := by
  have hms : ∀ m ∈ (if everywhere then p.matchesIn line else (p.firstIn? line).toList),
      m.Over P := by
    split
    · exact over_matchesFrom Text.over_nil hline
    · intro m hm
      exact over_findFrom Text.over_nil hline (Option.mem_toList.1 hm)
  refine over_spliceFrom hline fun x hx => ?_
  obtain ⟨m, hm, rfl⟩ := List.mem_map.1 hx
  exact ⟨hms m hm, hexpand m (hms m hm)⟩

namespace Template

/-- A template puts in what is written in it. -/
theorem mem_of_readFrom {groups fuel place : Nat} {t : Text} {template : Template} {c : Char}
    (h : readFrom groups fuel place t = .ok template) (hc : .char c ∈ template) : c ∈ t := by
  fun_induction readFrom groups fuel place t generalizing template with
  | case1 | case2 =>
    cases h
    cases hc
  | case4 | case5 | case7 | case9 | case10 => cases h
  | case3 fuel place d r hd ih =>
    obtain ⟨rest, hrest, rfl⟩ := map_eq_ok.1 h
    cases hc with
    | head => exact List.mem_cons_self
    | tail _ hc => exact List.mem_cons_of_mem _ (ih hrest hc)
  | case6 fuel place d hd r name close rest hdrop hname hgroups =>
    rename_i ih
    obtain ⟨pieces, hpieces, rfl⟩ := map_eq_ok.1 h
    have hrest : c ∈ r.drop name.length := by
      rw [hdrop]
      cases hc with
      | tail _ hc => exact List.mem_cons_of_mem _ (ih hpieces hc)
    simp [List.mem_of_mem_drop hrest]
  | case8 fuel place d hd r ih =>
    obtain ⟨pieces, hpieces, rfl⟩ := map_eq_ok.1 h
    cases hc with
    | head => simp
    | tail _ hc => simp [ih hpieces hc]

theorem over_expand {t : Text} {groups : Nat} {template : Template}
    (h : ofText groups t = .ok template) (ht : Over P t) {m : Match} (hm : m.Over P) :
    Over P (expand template m) := by
  intro c hc
  obtain ⟨piece, hpiece, hc⟩ := List.mem_flatMap.1 hc
  cases piece with
  | char d =>
    obtain rfl := List.mem_singleton.1 hc
    exact ht c (mem_of_readFrom h hpiece)
  | group i => exact hm.groupText i c hc

end Template

end Pattern

/-! ## substitutions -/

namespace Magic

/-- The characters that a template is written with, besides those that are put in. -/
def marks : Text := ['\\', 'g', '<', '>', '0', '\n']

theorem over_groupText {digit : Char} (hmarks : Over P marks) (hdigit : P digit) :
    Over P (groupText digit) := by
  intro c hc
  simp only [groupText, List.mem_cons, List.not_mem_nil, or_false] at hc
  obtain rfl | rfl | rfl | rfl | rfl := hc
  · exact hmarks _ (by decide)
  · exact hmarks _ (by decide)
  · exact hmarks _ (by decide)
  · exact hdigit
  · exact hmarks _ (by decide)

theorem over_backslashes (hmarks : Over P marks) : Over P ['\\', '\\'] := by
  intro c hc
  have hbackslash : c = '\\' := by simpa using hc
  rw [hbackslash]
  exact hmarks _ (by decide)

theorem over_replacementEscape {c : Char} (hmarks : Over P marks) (hc : P c) :
    Over P (replacementEscape c) := by
  unfold replacementEscape
  split
  · exact over_groupText hmarks hc
  split
  · exact hmarks.of_sublist (by decide)
  split
  · exact over_backslashes hmarks
  · exact Text.over_cons.2 ⟨hc, Text.over_nil⟩

theorem over_replacementPlain {c : Char} (hmarks : Over P marks) (hc : P c) :
    Over P (replacementPlain c) := by
  unfold replacementPlain
  split
  · exact over_groupText hmarks (hmarks '0' (by decide))
  split
  · exact over_backslashes hmarks
  · exact Text.over_cons.2 ⟨hc, Text.over_nil⟩

/-- A replacement is written in template notation with its own characters and the marks. -/
theorem over_templateText {t : Text} (hmarks : Over P marks) (ht : Over P t) :
    Over P (templateText t) := by
  fun_induction templateText t with
  | case1 => exact ht
  | case2 c => exact over_replacementPlain hmarks (ht c (by simp))
  | case3 d r ih =>
    obtain ⟨-, ht⟩ := Text.over_cons.1 ht
    obtain ⟨hd, hr⟩ := Text.over_cons.1 ht
    exact Text.over_append.2 ⟨over_replacementEscape hmarks hd, ih hr⟩
  | case4 c d r hc ih =>
    obtain ⟨hc, hr⟩ := Text.over_cons.1 ht
    exact Text.over_append.2 ⟨over_replacementPlain hmarks hc, ih hr⟩

end Magic

namespace Substitution

variable {s : Substitution} {line : Text} {lines : List Text} {w w' : Substituted}

theorem over_replacementOf {args : Text} (hargs : Over P args) : Over P (replacementOf args) := by
  unfold replacementOf
  split
  · exact Text.over_nil
  · rename_i delimiter body hbody
    have htrim := hargs.of_sublist (Text.trimLeft_suffix args).sublist
    rw [hbody] at htrim
    cases hfield : (Magic.splitFields body delimiter)[1]? with
    | none => exact Text.over_nil
    | some f =>
      exact (Text.over_cons.1 htrim).2.of_sublist
        (Magic.sublist_of_mem_fieldsFrom (List.mem_of_getElem? hfield))

/-- The template of a substitution holds what was typed, and marks. -/
theorem over_template_of_ofArgs {args : Text} (hmarks : Over P Magic.marks) (hargs : Over P args)
    (h : ofArgs args = .ok s) : Over P s.template := by
  rw [template_of_ofArgs h]
  exact Magic.over_templateText hmarks (over_replacementOf hargs)

/-- The lines that a line becomes hold what the line held and what the template puts in. -/
theorem over_onLine (hs : Over P s.template) (hline : Over P line) {new : List Text} {hits : Nat}
    (h : s.onLine line = .ok (new, hits)) : ∀ l ∈ new, Over P l := by
  obtain ⟨template, htemplate, h⟩ := bind_eq_ok.1 h
  simp only [pure, Except.pure, Except.ok.injEq, Prod.mk.injEq] at h
  obtain ⟨rfl, -⟩ := h
  have hread : Pattern.Template.ofText s.compiled.groups s.template = .ok template := by
    cases hr : Pattern.Template.ofText s.compiled.groups s.template with
    | error e =>
      rw [hr] at htemplate
      cases htemplate
    | ok t =>
      rw [hr] at htemplate
      cases htemplate
      rfl
  have hnew := Pattern.over_replaceIn s.compiled.pattern s.everywhere hline
    fun m hm => Pattern.Template.over_expand hread hs hm
  split
  · simpa using hline
  · intro l hl
    exact hnew.of_sublist (Text.sublist_of_mem_splitOn hl)

theorem over_onLinesFrom (hs : Over P s.template) (hlines : ∀ l ∈ lines, Over P l) {n : Nat}
    {i : Int} (hw : ∀ l ∈ w.lines, Over P l) (h : s.onLinesFrom lines n i w = .ok w') :
    ∀ l ∈ w'.lines, Over P l := by
  induction n generalizing i w with
  | zero =>
    cases h
    exact hw
  | succ n ih =>
    cases hi : Span.at? lines i with
    | none =>
      simp only [onLinesFrom, hi] at h
      cases h
    | some line =>
      rw [onLinesFrom_succ s lines n i w hi] at h
      obtain ⟨⟨new, hits⟩, hnew, h⟩ := bind_eq_ok.1 h
      refine ih ?_ h
      have hnew := over_onLine hs (hlines line (Span.mem_of_at? hi)) hnew
      exact List.forall_mem_append.2 ⟨hw, hnew⟩

/-- What a substitution leaves behind holds what the lines held and what the template puts in. -/
theorem over_onLines (hs : Over P s.template) (hlines : ∀ l ∈ lines, Over P l) {first last : Int}
    (h : s.onLines lines first last = .ok w) : ∀ l ∈ w.lines, Over P l :=
  over_onLinesFrom hs hlines (by simp) h

end Substitution

/-! ## commands -/

/-- A buffer whose lines are over `P`. -/
def Buffer.Over (P : Char → Prop) (b : Buffer) : Prop := ∀ l ∈ b.lines, Text.Over P l

namespace Buffer

variable {b : Buffer}

theorem Over.replaceLines (h : b.Over P) {new : List Text} (hnew : ∀ l ∈ new, Text.Over P l)
    (first last : Int) : (b.replaceLines first last new).Over P := by
  intro l hl
  obtain hl | hl | rfl := mem_lines_replaceLines hl
  · exact h l hl
  · exact hnew l hl
  · exact Text.over_nil

end Buffer

namespace Command

variable {e : Editor} {c : Command}

/-- Whatever a command puts in its template is over `P`. -/
def Over (P : Char → Prop) : Command → Prop
  | .substitute sub => Text.Over P sub.template
  | _ => True

/-- A row of the built-in table that builds a substitution reads it from the arguments. -/
theorem ofArgs_of_build {homes : List (Text × Text)} {row : Row} {call : Call} {sub : Substitution}
    (hrow : row ∈ Table.builtInRows homes) (h : row.build call = .ok (.substitute sub)) :
    Substitution.ofArgs call.args = .ok sub := by
  simp only [Table.builtInRows, List.mem_cons, List.not_mem_nil, or_false] at hrow
  obtain rfl | rfl | rfl | rfl | rfl | rfl | rfl | rfl | rfl | rfl | rfl := hrow
  all_goals first
    | cases h
    | obtain ⟨_, hread, h⟩ := bind_eq_ok.1 h
      cases h <;> exact hread

/-- A command that is read from a line puts in what the line holds, and marks. -/
theorem over_of_parse {homes : List (Text × Text)} {raw : Text} {range : Option LineRange}
    (hmarks : Text.Over P Magic.marks) (hraw : Text.Over P raw)
    (h : (Table.ofExtra homes []).parse raw = .ok (.command c range)) : c.Over P := by
  obtain ⟨line, hline, h⟩ := bind_eq_ok.1 h
  have hfits := Table.yields_recognise (Table.ofExtra homes []) raw
  rw [hline] at hfits
  cases line with
  | refused err => cases h
  | bare range =>
    cases h
    exact trivial
  | entry row call range =>
    obtain ⟨hrow, hargs⟩ := hfits
    simp only [Table.Recognised.build] at h
    split at h
    · rename_i built hbuilt
      cases h
      cases c with
      | substitute sub =>
        have hread := ofArgs_of_build (by simpa [Table.ofExtra] using hrow) hbuilt
        exact Substitution.over_template_of_ofArgs hmarks (hraw.of_sublist hargs) hread
      | _ => exact trivial
    · split at h <;> cases h

/-- A command of the library leaves lines of characters that were there or that it puts in. -/
theorem over_buffer_perform (hc : c.IsBuiltIn) (hover : c.Over P) (he : e.buffer.Over P)
    (past : List Text) (range : Option LineRange) :
    (runFrom (c.perform past range) e).2.buffer.Over P := by
  cases c with
  | foreign f => exact absurd rfl (hc f)
  | delete target =>
    simp only [perform, runFrom_delete]
    split
    · exact he
    split
    · exact he
    · exact he.replaceLines (by simp) _ _
  | substitute sub =>
    simp only [perform, runFrom_substitute]
    split
    · exact he
    split
    · exact he
    rename_i w hw
    split
    · exact he
    split
    · exact he
    · exact he.replaceLines (Substitution.over_onLines hover he hw) _ _
  -- the other commands leave the lines as they are, whatever comes of them
  | goto =>
    simp only [perform, runFrom_goto]
    repeat' split
    all_goals exact he
  | yank target =>
    simp only [perform, runFrom_yank]
    repeat' split
    all_goals exact he
  | print =>
    simp only [perform, runFrom_print]
    repeat' split
    all_goals exact he
  | write target quitAfter onlyIfModified =>
    simp only [perform, runFrom_write]
    repeat' split
    all_goals exact he
  | quit force =>
    simp only [perform, runFrom_quit]
    repeat' split
    all_goals exact he
  | history => exact he
  | registers names => exact he

end Command

end ExMode
