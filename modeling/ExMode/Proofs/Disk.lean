import ExMode.Disk
import ExMode.Proofs.Effect

/-!
# ExMode.Proofs.Disk

What the changing operations on a disk do, each as one statement on the disk it
found and the disk it leaves.

Following a path only ever asks whether the places on its way are directories.
So a disk on which every directory of another one is still a directory (`Opens`)
leads every path that led anywhere to the same place, and a file that was written
is found again under its path (`readBytes_of_writeBytes`).
-/

namespace ExMode

namespace Disk

variable {d d' : Disk} {p : Path} {bytes : Utf8.Bytes}

/-! ## one step of a path -/

/-- Where one part of a path leads from a location. -/
def child (loc : Location) (part : Text) : Location :=
  if part = ['.', '.'] then loc.dropLast else loc ++ [part]

theorem follow_singleton (d : Disk) (loc : Location) (part : Text) :
    d.follow loc [part] =
      if (Utf8.encode part).length > maxNameBytes then .error .nameTooLong
      else .ok (child loc part) := by
  rw [follow]
  rfl

/-- Every part of a path but the last one must lead to a directory. -/
theorem follow_cons_cons (d : Disk) (loc : Location) (part q : Text) (rest : List Text) :
    d.follow loc (part :: q :: rest) =
      if (Utf8.encode part).length > maxNameBytes then .error .nameTooLong
      else match d.at? (child loc part) with
        | none => .error .noEntry
        | some (.file _ _) => .error .notDirectory
        | some .directory => d.follow (child loc part) (q :: rest) := by
  rw [follow]
  rfl

/-- Every directory of `d` is a directory of `d'`, and one is in the same place on both. -/
structure Opens (d d' : Disk) : Prop where
  here_eq : d'.here = d.here
  directory : ∀ loc, d.at? loc = some .directory → d'.at? loc = some .directory

/-- A path leads to the same place on a disk with the same directories and perhaps more. -/
theorem Opens.follow (h : d.Opens d') {loc l : Location} {parts : List Text}
    (hf : d.follow loc parts = .ok l) : d'.follow loc parts = .ok l := by
  induction parts generalizing loc with
  | nil => exact hf
  | cons part rest ih =>
    cases rest with
    | nil => exact hf
    | cons q rest =>
      rw [follow_cons_cons] at hf ⊢
      split at hf
      · cases hf
      rename_i hlen
      rw [if_neg hlen]
      split at hf
      · cases hf
      · cases hf
      · rename_i hdir
        rw [h.directory _ hdir]
        exact ih hf

theorem Opens.locate (h : d.Opens d') {l : Location} (hl : d.locate p = .ok l) :
    d'.locate p = .ok l := by
  unfold Disk.locate at hl ⊢
  split at hl
  · cases hl
  · rename_i hlen
    rw [if_neg hlen, h.here_eq]
    exact h.follow hl

theorem Opens.refl (d : Disk) : d.Opens d := ⟨rfl, fun _ h => h⟩

theorem Opens.trans {d'' : Disk} (h : d.Opens d') (h' : d'.Opens d'') : d.Opens d'' where
  here_eq := h'.here_eq.trans h.here_eq
  directory := fun loc hloc => h'.directory loc (h.directory loc hloc)

/-- Putting something where no directory is closes no directory. -/
theorem opens_put {loc : Location} (hloc : d.at? loc ≠ some .directory) (e : Entry) :
    d.Opens (d.put loc e) where
  here_eq := rfl
  directory := by
    intro l hl
    have hne : l ≠ loc := by
      rintro rfl
      exact hloc hl
    rw [at?_put_of_ne d hne, hl]

/-- The root directory is always there. -/
theorem ne_nil_of_at? {loc : Location} (h : d.at? loc ≠ some .directory) : loc ≠ [] := by
  rintro rfl
  exact h rfl

/-! ## refusals -/

/-- The disk with one refusal to come used up. -/
def spend (d : Disk) : Disk := { d with refusals := d.refusals.tail }

@[simp] theorem at?_spend (d : Disk) (loc : Location) : d.spend.at? loc = d.at? loc := rfl

theorem opens_spend (d : Disk) : d.Opens d.spend := ⟨rfl, fun _ h => h⟩

theorem locate_spend (d : Disk) (p : Path) : d.spend.locate p = d.locate p := by
  have hfollow (loc : Location) (parts : List Text) :
      d.spend.follow loc parts = d.follow loc parts := by
    induction parts generalizing loc with
    | nil => rfl
    | cons part rest ih =>
      cases rest with
      | nil => rfl
      | cons q rest => rw [follow_cons_cons, follow_cons_cons, at?_spend, ih]
  unfold locate
  rw [hfollow]
  rfl

/-- An attempt uses up one refusal to come, and fails with it if it names a cause. -/
theorem attempt_cases (p : Path) (target : Option Path) (d : Disk) :
    runFrom (attempt p target) d = (.ok (), d.spend) ∨
      ∃ e, runFrom (attempt p target) d = (.error (.os e), d.spend) := by
  simp only [attempt, runFrom_bind, runFrom_get, spend]
  rcases hr : d.refusals with _ | ⟨_ | cause, rs⟩
  · have : { d with refusals := [] } = d := by rw [← hr]
    rw [List.tail_nil, this]
    exact Or.inl rfl
  · exact Or.inl rfl
  · exact Or.inr ⟨_, rfl⟩

/-! ## writing files -/

/-- Writing a file: the path is unusable, or the system refuses and at most a refusal to come was
used up, or the file lies where its path leads and nothing else changed. -/
theorem writeBytes_cases (p : Path) (bytes : Utf8.Bytes) (d : Disk) :
    (p.hasNul = true ∧ runFrom (writeBytes p bytes) d = (.error .embeddedNul, d)) ∨
    (∃ e, runFrom (writeBytes p bytes) d = (.error (.os e), d.spend)) ∨
    ∃ loc x, p.hasNul = false ∧ d.locate p = .ok loc ∧ d.at? loc ≠ some .directory ∧
      runFrom (writeBytes p bytes) d = (.ok (), d.spend.put loc (.file bytes x)) := by
  unfold writeBytes
  cases hnul : p.hasNul with
  | true => exact Or.inl ⟨rfl, rfl⟩
  | false =>
    right
    simp only [Bool.false_eq_true, if_false, runFrom_bind, runFrom_get]
    rcases attempt_cases p none d with h | ⟨e, h⟩ <;> rw [h]
    · dsimp only
      rw [locate_spend]
      cases hl : d.locate p with
      | error cause => exact Or.inl ⟨_, rfl⟩
      | ok loc =>
        dsimp only
        rw [at?_spend]
        rcases ha : d.at? loc with _ | _ | ⟨old, x⟩
        · exact Or.inr ⟨loc, false, trivial, rfl, by simp [ha], rfl⟩
        · exact Or.inl ⟨_, rfl⟩
        · exact Or.inr ⟨loc, x, trivial, rfl, by simp [ha], rfl⟩
    · exact Or.inl ⟨e, rfl⟩

/-- What can be read from a path is in the file that the path leads to. -/
theorem readBytes_eq_ok : d.readBytes p = .ok bytes ↔
    p.hasNul = false ∧ ∃ loc x, d.locate p = .ok loc ∧ d.at? loc = some (.file bytes x) := by
  unfold readBytes stat
  cases p.hasNul with
  | true => simp
  | false =>
    cases d.locate p with
    | error cause => simp [bind, Except.bind]
    | ok loc =>
      rcases hat : d.at? loc with _ | _ | ⟨old, x⟩
      · simp [bind, Except.bind, hat]
      · simp [bind, Except.bind, hat]
      · cases x <;> simp [bind, Except.bind, hat]

theorem pathExists_of_readBytes (h : d.readBytes p = .ok bytes) : d.pathExists p = .ok true := by
  obtain ⟨hnul, loc, x, hloc, hat⟩ := readBytes_eq_ok.1 h
  have hstat : d.stat p = .ok (.file bytes x) := by
    simp only [stat, hloc, bind, Except.bind, hat]
  simp only [pathExists, find?, hnul, hstat]
  rfl

theorem pathExists_eq_false (hnul : p.hasNul = false) {loc : Location} (hloc : d.locate p = .ok loc)
    (hat : d.at? loc = none) : d.pathExists p = .ok false := by
  have hstat : d.stat p = .error .noEntry := by
    simp only [stat, hloc, bind, Except.bind, hat]
  simp only [pathExists, find?, hnul, hstat]
  rfl

/-- A path that can be followed leads to a directory or it does not. -/
theorem isDirectory_of_locate (hnul : p.hasNul = false) {loc : Location}
    (hloc : d.locate p = .ok loc) :
    d.isDirectory p = .ok (decide (d.at? loc = some .directory)) := by
  cases hat : d.at? loc with
  | none =>
    have hstat : d.stat p = .error .noEntry := by
      simp only [stat, hloc, bind, Except.bind, hat]
    rw [isDirectory, find?, hnul, hstat]
    rfl
  | some e =>
    have hstat : d.stat p = .ok e := by
      simp only [stat, hloc, bind, Except.bind, hat]
    rw [isDirectory, find?, hnul, hstat]
    cases e <;> rfl

/-- What is a directory for one who asks is one where the path leads. -/
theorem isDirectory_eq_true : d.isDirectory p = .ok true ↔
    p.hasNul = false ∧ ∃ loc, d.locate p = .ok loc ∧ d.at? loc = some .directory := by
  constructor
  · intro h
    have hnul : p.hasNul = false := by
      refine Bool.eq_false_iff.2 fun hnul => ?_
      rw [isDirectory, find?, if_pos hnul] at h
      cases h
    cases hloc : d.locate p with
    | error cause =>
      have hstat : d.stat p = .error cause := by
        rw [stat, hloc]
        rfl
      rw [isDirectory, find?, hnul, hstat] at h
      cases cause <;> cases h
    | ok loc =>
      rw [isDirectory_of_locate hnul hloc] at h
      exact ⟨hnul, loc, rfl, of_decide_eq_true (Except.ok.inj h)⟩
  · rintro ⟨hnul, loc, hloc, hat⟩
    rw [isDirectory_of_locate hnul hloc, hat, decide_eq_true rfl]

theorem readBytes_spend (d : Disk) (p : Path) : d.spend.readBytes p = d.readBytes p := by
  unfold readBytes stat
  rw [locate_spend]
  rfl

/-- What was written to a path can be read from it. -/
theorem readBytes_of_writeBytes (h : runFrom (writeBytes p bytes) d = (.ok (), d')) :
    d'.readBytes p = .ok bytes := by
  rcases writeBytes_cases p bytes d with ⟨-, h'⟩ | ⟨e, h'⟩ | ⟨loc, x, hnul, hloc, hdir, h'⟩ <;>
    rw [h'] at h <;> cases h
  have hspend : d.spend.at? loc ≠ some .directory := hdir
  have hopens := (opens_spend d).trans (opens_put hspend (.file bytes x))
  exact readBytes_eq_ok.2 ⟨hnul, loc, x, hopens.locate hloc,
    at?_put_self d.spend (ne_nil_of_at? hdir) _⟩

/-! ## making directories -/

section

variable {P : Disk → Prop} (hmake : ∀ p, Keeps P (makeDirectory p))

include hmake

theorem keeps_makeDirectoryElse (p : Path) {above : OnDisk Unit} (habove : Keeps P above) :
    Keeps P (makeDirectoryElse p above) := by
  refine keeps_tryCatch (hmake p) fun fault => ?_
  split
  · split
    · exact keeps_throw _
    · exact habove
  · refine keeps_get_bind fun d h => ?_
    split <;> exact h
  · exact keeps_throw _

theorem keeps_ensureDirectory (p : Path) : Keeps P (ensureDirectory p) :=
  keeps_makeDirectoryElse hmake p (keeps_throw _)

theorem keeps_ensureDirectoriesFrom (room : Nat) (p : Path) :
    Keeps P (ensureDirectoriesFrom room p) := by
  induction room generalizing p with
  | zero => exact keeps_makeDirectoryElse hmake p (keeps_throw _)
  | succ room ih =>
    exact keeps_makeDirectoryElse hmake p
      (keeps_bind (ih p.parent) fun _ => keeps_ensureDirectory hmake p)

/-- What the making of one directory keeps, the making of many keeps. -/
theorem keeps_ensureDirectories (p : Path) : Keeps P (ensureDirectories p) :=
  keeps_get_bind fun d h => keeps_ensureDirectoriesFrom hmake _ p d h

end

/-! ## files that are spared -/

/-- The file at a path is spared: what could be read there still can, and no file came there. -/
structure Spares (d : Disk) (p : Path) (d' : Disk) : Prop where
  read : ∀ bytes, d.readBytes p = .ok bytes → d'.readBytes p = .ok bytes
  file : ∀ loc bytes x, d'.locate p = .ok loc → d'.at? loc = some (.file bytes x) →
    d.at? loc = some (.file bytes x)

theorem Spares.refl (d : Disk) (p : Path) : d.Spares p d := ⟨fun _ h => h, fun _ _ _ _ h => h⟩

theorem Spares.spend (h : d.Spares p d') : d.Spares p d'.spend where
  read := fun bytes hread => (readBytes_spend d' p).trans (h.read bytes hread)
  file := fun loc bytes x hloc => h.file loc bytes x ((locate_spend d' p).symm.trans hloc)

/-- Where no directory was closed and the files that the path can lead to are the same, the path is
spared. -/
theorem Opens.spares (h : d.Opens d')
    (hfile : ∀ loc bytes x, d'.locate p = .ok loc →
      (d'.at? loc = some (.file bytes x) ↔ d.at? loc = some (.file bytes x))) :
    d.Spares p d' where
  read := by
    intro bytes hread
    obtain ⟨hnul, loc, x, hloc, hat⟩ := readBytes_eq_ok.1 hread
    have hloc' := h.locate hloc
    exact readBytes_eq_ok.2 ⟨hnul, loc, x, hloc', (hfile loc bytes x hloc').2 hat⟩
  file := fun loc bytes x hloc => (hfile loc bytes x hloc).1

end Disk

end ExMode
