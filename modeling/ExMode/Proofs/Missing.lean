import ExMode.Proofs.Tree

/-!
# ExMode.Proofs.Missing

Which directories on the way to a path are missing.  To make a directory whose own
directory is missing, that one is made first, from inside the call that found it
missing.  So the calls that are open inside one another are as many as there are missing
directories on the way, and there is one more for each time that the system says that one
is missing although it is not.  `Disk.TooDeep` says that these are more than the runtime
has room for.

* `isMissing_parent_of_locate` — what it means that a path leads nowhere;
* `Grows` — a disk on which more lies, and fewer refusals are to come;
* `TooDeep.of_grows` — on it nothing becomes too deep that was not;
* `missingAbove_eq_zero` — on the way to something nothing is missing.
-/

namespace ExMode

theorem Text.joinWith_prefix (sep : Text) {ts us : List Text} (h : ts <+: us) :
    joinWith sep ts <+: joinWith sep us := by
  induction ts generalizing us with
  | nil => exact List.nil_prefix
  | cons t ts ih =>
    cases us with
    | nil => cases List.prefix_nil.1 h
    | cons u us =>
      obtain ⟨rfl, hrest⟩ := List.cons_prefix_cons.1 h
      cases us with
      | nil =>
        obtain rfl := List.prefix_nil.1 hrest
        exact List.prefix_rfl
      | cons v us =>
        cases ts with
        | nil =>
          rw [joinWith, joinWith, List.append_assoc]
          exact List.prefix_append _ _
        | cons w ts =>
          rw [joinWith, joinWith]
          exact (List.prefix_append_right_inj _).2 (ih hrest)

namespace Disk

/-! ## what is missing -/

/-- Whether nothing lies where a path leads. -/
def isMissing (d : Disk) (p : Path) : Bool :=
  match d.stat p with
  | .error .noEntry => true
  | _ => false

/-- How many directories on the way to a path are missing. -/
def missingAbove (d : Disk) (p : Path) : Nat :=
  (List.range (p.parts.length - 1)).countP fun n =>
    d.isMissing { p with parts := p.parts.take (n + 1) }

/-- Whether the calls that make a directory and those above it may be more inside one another than
the runtime has room for: one for each directory that is missing on the way, and one for each time
that the system is to say so whatever is there. -/
def TooDeep (d : Disk) (p : Path) : Prop :=
  d.runtime.nesting < d.missingAbove p + d.refusals.count (some .noEntry)

instance (d : Disk) (p : Path) : Decidable (d.TooDeep p) :=
  inferInstanceAs (Decidable (_ < _))

variable {d d' : Disk} {p : Path}

theorem missingAbove_of_length_le (h : p.parts.length ≤ 1) : d.missingAbove p = 0 := by
  rw [missingAbove, Nat.sub_eq_zero_of_le h, List.range_zero, List.countP_nil]

/-- The last directory on the way is the one that the path is in. -/
theorem missingAbove_eq_parent (h : 2 ≤ p.parts.length) : d.missingAbove p =
    d.missingAbove p.parent + if d.isMissing p.parent then 1 else 0 := by
  obtain ⟨n, hn⟩ := Nat.exists_eq_add_of_le' h
  have hlength : p.parent.parts.length = n + 1 := by simp [Path.parent, hn]
  have htake (m : Nat) (hm : m + 1 ≤ n + 1) :
      ({ p with parts := p.parts.take (m + 1) } : Path) =
        { p.parent with parts := p.parent.parts.take (m + 1) } := by
    rw [Path.parent, List.dropLast_eq_take, List.take_take, Nat.min_eq_left (by omega)]
  have hlast : ({ p with parts := p.parts.take (n + 1) } : Path) = p.parent := by
    rw [htake n (Nat.le_refl _), List.take_of_length_le (Nat.le_of_eq hlength)]
  rw [missingAbove, missingAbove, hn, hlength, Nat.add_sub_cancel,
    show n + 2 - 1 = n + 1 from rfl, List.range_succ, List.countP_append, List.countP_singleton,
    hlast]
  congr 1
  refine List.countP_congr fun m hm => ?_
  rw [htake m (by have := List.mem_range.1 hm; omega)]

/-! ## following the front of a path -/

/-- A path that leads nowhere is in a directory that is missing, unless it leads nowhere on the way
there. -/
theorem follow_dropLast_of_noEntry {loc : Location} {parts : List Text}
    (h : d.follow loc parts = .error .noEntry) : 2 ≤ parts.length ∧
      (d.follow loc parts.dropLast = .error .noEntry ∨
        ∃ l, d.follow loc parts.dropLast = .ok l ∧ d.at? l = none) := by
  induction parts generalizing loc with
  | nil => cases h
  | cons part rest ih =>
    cases rest with
    | nil =>
      rw [follow_singleton] at h
      split at h <;> cases h
    | cons q rest =>
      refine ⟨by simp, ?_⟩
      rw [follow_cons_cons] at h
      split at h
      · cases h
      rename_i hlen
      split at h
      · rename_i hnone
        cases rest with
        | nil =>
          rw [List.dropLast_cons_cons, List.dropLast_singleton, follow_singleton, if_neg hlen]
          exact Or.inr ⟨_, rfl, hnone⟩
        | cons r rest =>
          rw [List.dropLast_cons_cons, List.dropLast_cons_cons, follow_cons_cons, if_neg hlen,
            hnone]
          exact Or.inl rfl
      · cases h
      · rename_i hdir
        obtain ⟨hlength, hrest⟩ := ih h
        cases rest with
        | nil => exact absurd hlength (by simp)
        | cons r rest =>
          rw [List.dropLast_cons_cons] at hrest ⊢
          rw [List.dropLast_cons_cons, follow_cons_cons, if_neg hlen, hdir]
          exact hrest

/-- On the way to where a path leads there are directories. -/
theorem follow_take_of_follow {loc l : Location} {parts : List Text} {n : Nat}
    (h : d.follow loc parts = .ok l) (hn : n + 1 < parts.length) :
    ∃ l', d.follow loc (parts.take (n + 1)) = .ok l' ∧ d.at? l' = some .directory := by
  induction parts generalizing loc n with
  | nil => cases hn
  | cons part rest ih =>
    cases rest with
    | nil => exact absurd hn (by simp)
    | cons q rest =>
      rw [follow_cons_cons] at h
      split at h
      · cases h
      rename_i hlen
      split at h
      · cases h
      · cases h
      rename_i hdir
      cases n with
      | zero =>
        rw [List.take_succ_cons, List.take_zero, follow_singleton, if_neg hlen]
        exact ⟨_, rfl, hdir⟩
      | succ n =>
        rw [List.take_succ_cons, List.take_succ_cons, follow_cons_cons, if_neg hlen, hdir,
          ← List.take_succ_cons]
        exact ih h (by simpa using hn)

/-- A path is short enough if a longer one is. -/
theorem locate_of_leading {parts : List Text} (hparts : parts <+: p.parts)
    (h : ¬ (Utf8.encode p.text).length > maxPathBytes) : d.locate { p with parts := parts } =
      d.follow (if p.isAbsolute then [] else d.here) parts := by
  have hshort : ¬ (Utf8.encode ({ p with parts := parts } : Path).text).length > maxPathBytes := by
    unfold Path.text at h ⊢
    dsimp only
    split
    · decide
    · rename_i hroot
      have hroot' : ¬ (p.root = .here ∧ p.parts = []) := fun ⟨hhere, hnil⟩ =>
        hroot ⟨hhere, List.prefix_nil.1 (hnil ▸ hparts)⟩
      rw [if_neg hroot'] at h
      obtain ⟨more, hmore⟩ := Text.joinWith_prefix ['/'] hparts
      rw [← hmore] at h
      simp only [Utf8.encode, List.flatMap_append, List.length_append] at h ⊢
      omega
  rw [locate, if_neg hshort]
  rfl

/-- A path that leads nowhere is in a directory that is missing. -/
theorem isMissing_parent_of_locate (h : d.locate p = .error .noEntry) :
    2 ≤ p.parts.length ∧ d.isMissing p.parent = true := by
  unfold locate at h
  split at h
  · cases h
  rename_i hlen
  obtain ⟨hlength, hfollow⟩ := follow_dropLast_of_noEntry h
  refine ⟨hlength, ?_⟩
  have hparent : d.locate p.parent = _ := locate_of_leading (List.dropLast_prefix p.parts) hlen
  unfold isMissing stat
  rw [hparent]
  obtain hnone | ⟨l, hl, hat⟩ := hfollow
  · rw [hnone]
    rfl
  · rw [hl]
    simp only [bind, Except.bind, hat]

/-- On the way to where a path leads nothing is missing. -/
theorem missingAbove_eq_zero {l : Location} (h : d.locate p = .ok l) : d.missingAbove p = 0 := by
  unfold locate at h
  split at h
  · cases h
  rename_i hlen
  refine List.countP_eq_zero.2 fun n hn => ?_
  have hn := List.mem_range.1 hn
  obtain ⟨l', hl', hat⟩ := follow_take_of_follow h (show n + 1 < p.parts.length by omega)
  unfold isMissing stat
  rw [locate_of_leading (List.take_prefix _ _) hlen, hl']
  simp only [bind, Except.bind, hat]
  decide

/-- On the way to the directory of a path no more is missing than on the way to the path. -/
theorem missingAbove_parent_le (d : Disk) (p : Path) :
    d.missingAbove p.parent ≤ d.missingAbove p := by
  by_cases h : 2 ≤ p.parts.length
  · rw [missingAbove_eq_parent h]
    exact Nat.le_add_right _ _
  · rw [missingAbove_of_length_le (p := p.parent)]
    · exact Nat.zero_le _
    · simp only [Path.parent, List.length_dropLast]
      omega

/-- Where a path leads, only the system can say that directories are missing. -/
theorem TooDeep.lt_count {l : Location} (hp : d.TooDeep p.parent) (h : d.locate p = .ok l) :
    d.runtime.nesting < d.refusals.count (some .noEntry) := by
  have hparent := d.missingAbove_parent_le p
  rw [missingAbove_eq_zero h] at hparent
  unfold TooDeep at hp
  omega

/-! ## disks on which more lies -/

/-- The same runtime, and some of the refusals to come used up. -/
structure Spends (d d' : Disk) : Prop where
  runtime_eq : d'.runtime = d.runtime
  refusals : d'.refusals <:+ d.refusals

theorem Spends.refl (d : Disk) : d.Spends d := ⟨rfl, List.suffix_rfl⟩

theorem Spends.trans {d'' : Disk} (h : d.Spends d') (h' : d'.Spends d'') : d.Spends d'' :=
  ⟨h'.runtime_eq.trans h.runtime_eq, h'.refusals.trans h.refusals⟩

theorem spends_spend (d : Disk) : d.Spends d.spend := ⟨rfl, List.tail_suffix _⟩

/-- Whatever lies anywhere still does, directories as directories and files as files. -/
structure Grows (d d' : Disk) : Prop extends d.Spends d' where
  here_eq : d'.here = d.here
  entry : ∀ loc e, d.at? loc = some e →
    ∃ e', d'.at? loc = some e' ∧ (e' = .directory ↔ e = .directory)

theorem Grows.refl (d : Disk) : d.Grows d := ⟨.refl d, rfl, fun _ e h => ⟨e, h, Iff.rfl⟩⟩

theorem Grows.trans {d'' : Disk} (h : d.Grows d') (h' : d'.Grows d'') : d.Grows d'' where
  toSpends := h.toSpends.trans h'.toSpends
  here_eq := h'.here_eq.trans h.here_eq
  entry := by
    intro loc e he
    obtain ⟨e', he', hkind⟩ := h.entry loc e he
    obtain ⟨e'', he'', hkind'⟩ := h'.entry loc e' he'
    exact ⟨e'', he'', hkind'.trans hkind⟩

theorem grows_spend (d : Disk) : d.Grows d.spend :=
  ⟨spends_spend d, rfl, fun _ e h => ⟨e, h, Iff.rfl⟩⟩

/-- Something is put where nothing of another kind is. -/
theorem grows_put {loc : Location} {e : Entry} (hloc : loc ≠ [])
    (h : ∀ old, d.at? loc = some old → (e = .directory ↔ old = .directory)) :
    d.Grows (d.put loc e) where
  toSpends := ⟨rfl, List.suffix_rfl⟩
  here_eq := rfl
  entry := by
    intro l old hold
    by_cases hl : l = loc
    · subst hl
      exact ⟨e, at?_put_self d hloc e, h old hold⟩
    · exact ⟨old, (at?_put_of_ne d hl e).trans hold, Iff.rfl⟩

/-- Where a path leads, it still leads, unless something was missing on the way. -/
theorem Grows.follow_eq (h : d.Grows d') (loc : Location) (parts : List Text) :
    d.follow loc parts = .error .noEntry ∨ d'.follow loc parts = d.follow loc parts := by
  induction parts generalizing loc with
  | nil => exact Or.inr rfl
  | cons part rest ih =>
    cases rest with
    | nil => exact Or.inr rfl
    | cons q rest =>
      rw [follow_cons_cons, follow_cons_cons]
      split
      · exact Or.inr rfl
      cases hat : d.at? (child loc part) with
      | none => exact Or.inl rfl
      | some e =>
        obtain ⟨e', he', hkind⟩ := h.entry _ e hat
        rw [he']
        cases e with
        | directory =>
          obtain rfl := hkind.2 rfl
          exact ih _
        | file bytes x =>
          cases e' with
          | directory => cases hkind.1 rfl
          | file bytes' x' => exact Or.inr rfl

theorem Grows.locate_eq (h : d.Grows d') (p : Path) :
    d.locate p = .error .noEntry ∨ d'.locate p = d.locate p := by
  unfold locate
  rw [h.here_eq]
  split
  · exact Or.inr rfl
  · exact h.follow_eq _ _

/-- Nothing is missing that was not. -/
theorem Grows.isMissing (h : d.Grows d') (hp : d'.isMissing p = true) : d.isMissing p = true := by
  unfold Disk.isMissing stat at hp ⊢
  obtain hnone | heq := h.locate_eq p
  · rw [hnone]
    rfl
  · rw [heq] at hp
    cases hl : d.locate p with
    | error cause => rwa [hl] at hp
    | ok loc =>
      cases hat : d.at? loc with
      | none => simp only [bind, Except.bind, hat]
      | some e =>
        obtain ⟨e', he', -⟩ := h.entry loc e hat
        rw [hl] at hp
        simp only [bind, Except.bind, he'] at hp
        cases hp

theorem Grows.missingAbove_le (h : d.Grows d') (p : Path) : d'.missingAbove p ≤ d.missingAbove p :=
  List.countP_mono_left fun _ _ => h.isMissing

/-- Where no more is missing on the way, and fewer refusals are to come, nothing is too deep that
was not. -/
theorem TooDeep.of_spends (hp : d'.TooDeep p) (h : d.Spends d')
    (hmissing : d'.missingAbove p ≤ d.missingAbove p) : d.TooDeep p := by
  have hcount := h.refusals.sublist.count_le (some OsCause.noEntry)
  have hruntime := congrArg Runtime.nesting h.runtime_eq
  unfold TooDeep at hp ⊢
  omega

theorem TooDeep.of_grows (hp : d'.TooDeep p) (h : d.Grows d') : d.TooDeep p :=
  hp.of_spends h.toSpends (h.missingAbove_le p)

/-! ## what makes more lie on a disk -/

theorem keeps_grows_makeDirectory (d : Disk) (p : Path) : Keeps d.Grows (makeDirectory p) := by
  intro d' h
  unfold makeDirectory
  cases p.hasNul with
  | true => exact h
  | false =>
    have hspend := h.trans (grows_spend d')
    simp only [Bool.false_eq_true, if_false, runFrom_bind, runFrom_get]
    rcases attempt_cases p none d' with hattempt | ⟨e, hattempt⟩ <;> rw [hattempt]
    · dsimp only
      cases d'.spend.locate p with
      | error cause => exact hspend
      | ok loc =>
        dsimp only
        cases hat : d'.spend.at? loc with
        | some e => exact hspend
        | none =>
          have hloc : d'.spend.at? loc ≠ some .directory := by simp [hat]
          refine hspend.trans (grows_put (ne_nil_of_at? hloc) fun old hold => ?_)
          rw [hat] at hold
          cases hold
    · exact hspend

theorem keeps_grows_ensureDirectories (d : Disk) (p : Path) :
    Keeps d.Grows (ensureDirectories p) := keeps_ensureDirectories (keeps_grows_makeDirectory d) p

theorem keeps_grows_writeBytes (d : Disk) (p : Path) (bytes : Utf8.Bytes) :
    Keeps d.Grows (writeBytes p bytes) := by
  intro d' h
  obtain ⟨-, hwrite⟩ | ⟨e, hwrite⟩ | ⟨loc, x, -, -, hdir, hwrite⟩ := writeBytes_cases p bytes d' <;>
    rw [hwrite]
  · exact h
  · exact h.trans (grows_spend d')
  · refine (h.trans (grows_spend d')).trans (grows_put (ne_nil_of_at? hdir) fun old hold => ?_)
    have hold' : old ≠ .directory := by
      rintro rfl
      exact hdir hold
    simpa using hold'

/-- A move uses up refusals, and everything lies where it did if it fails. -/
theorem spends_rename (source target : Path) (d : Disk) :
    let x := runFrom (rename source target) d
    d.Spends x.2 ∧ ∀ f, x.1 = .error f → d.Grows x.2 := by
  have hspend : d.Spends d.spend ∧ d.Grows d.spend := ⟨spends_spend d, grows_spend d⟩
  unfold rename
  cases source.hasNul || target.hasNul with
  | true => exact ⟨.refl d, fun _ _ => .refl d⟩
  | false =>
    simp only [Bool.false_eq_true, if_false, runFrom_bind, runFrom_get]
    rcases attempt_cases source (some target) d with hattempt | ⟨e, hattempt⟩ <;> rw [hattempt]
    · dsimp only
      repeat' split
      all_goals first
        | exact ⟨hspend.1, fun _ _ => hspend.2⟩
        | exact ⟨⟨rfl, List.tail_suffix _⟩, fun _ h => by cases h⟩
    · exact ⟨hspend.1, fun _ _ => hspend.2⟩

/-! ## out of room -/

theorem head?_refusals_of_attempt {q : Path} {target : Option Path} {e : OsError}
    (h : (runFrom (attempt q target) d).1 = .error (.os e)) :
    d.refusals.head? = some (some e.cause) := by
  simp only [attempt, runFrom_bind, runFrom_get] at h
  rcases hr : d.refusals with _ | ⟨_ | cause, rs⟩ <;> rw [hr] at h <;> cases h
  rfl

/-- Where the system says that a directory is missing, one is missing, or this refusal was to
come. -/
theorem makeDirectory_noEntry {q : Text} {target : Option Text}
    (h : runFrom (makeDirectory p) d = (.error (.os ⟨.noEntry, q, target⟩), d')) :
    d' = d.spend ∧ (d.refusals.head? = some (some .noEntry) ∨ d.locate p = .error .noEntry) := by
  unfold makeDirectory at h
  cases hnul : p.hasNul with
  | true =>
    rw [hnul] at h
    cases h
  | false =>
    simp only [hnul, Bool.false_eq_true, if_false, runFrom_bind, runFrom_get] at h
    rcases hattempt : attempt_cases p none d with hok | ⟨e, herror⟩
    · rw [hok] at h
      dsimp only at h
      rw [locate_spend] at h
      cases hl : d.locate p with
      | error cause =>
        rw [hl] at h
        cases h
        exact ⟨rfl, Or.inr rfl⟩
      | ok loc =>
        rw [hl] at h
        dsimp only at h
        split at h <;> cases h
    · have hhead := head?_refusals_of_attempt (congrArg Prod.fst herror)
      rw [herror] at h
      cases h
      exact ⟨rfl, Or.inl hhead⟩

/-- For each directory that is missing or is said to be, one call more is open. -/
theorem missing_of_noEntry
    (h : d.refusals.head? = some (some .noEntry) ∨ d.locate p = .error .noEntry) :
    d.spend.missingAbove p.parent + d.spend.refusals.count (some .noEntry) <
      d.missingAbove p + d.refusals.count (some .noEntry) := by
  have hspend := (grows_spend d).missingAbove_le p.parent
  obtain hhead | hnone := h
  · have hparent := d.missingAbove_parent_le p
    obtain ⟨rest, hrest⟩ := List.head?_eq_some_iff.1 hhead
    have hrefusals : d.spend.refusals = rest := congrArg List.tail hrest
    rw [hrefusals, hrest, List.count_cons_self]
    omega
  · obtain ⟨hlength, hmissing⟩ := isMissing_parent_of_locate hnone
    have hcount := (spends_spend d).refusals.sublist.count_le (some OsCause.noEntry)
    rw [missingAbove_eq_parent hlength, if_pos hmissing]
    omega

end Disk

end ExMode
