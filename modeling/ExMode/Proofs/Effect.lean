/-!
# ExMode.Proofs.Effect

Running actions.  Every action of this library, on the editor, the disk, the
history or the session, is a program over one state that may stop short with a
fault, and the state it got to is left behind either way.  `runFrom` gives both.

Three kinds of statement are made about actions.  An equation for `runFrom` says
all that an action does; the lemmas here take such an equation apart along the
program.  `Keeps P` says only that the action leaves `P` true where it finds it
true, whatever comes of it, and is built up along the program without looking at
any results.  `StopsFor Q` says why the action can stop short, and looks at nothing
else.

Readers of texts are programs of another kind, which leave no state behind when they
stop.  `Maintains I R Q` says all three things of a step of one.
-/

namespace ExMode

variable {ε σ α β : Type}

/-! ## results -/

theorem bind_eq_ok {x : Except ε α} {f : α → Except ε β} {b : β} :
    x >>= f = .ok b ↔ ∃ a, x = .ok a ∧ f a = .ok b := by
  cases x with
  | error e => simp [bind, Except.bind]
  | ok a => simp [bind, Except.bind]

theorem bind_eq_error {x : Except ε α} {f : α → Except ε β} {e : ε} :
    x >>= f = .error e ↔ x = .error e ∨ ∃ a, x = .ok a ∧ f a = .error e := by
  cases x with
  | error e => simp [bind, Except.bind]
  | ok a => simp [bind, Except.bind]

theorem map_eq_error {x : Except ε α} {f : α → β} {e : ε} :
    x.map f = .error e ↔ x = .error e := by
  cases x with
  | error e => simp [Except.map]
  | ok a => simp [Except.map]

theorem map_eq_ok {x : Except ε α} {f : α → β} {b : β} :
    x.map f = .ok b ↔ ∃ a, x = .ok a ∧ f a = b := by
  cases x with
  | error e => simp [Except.map]
  | ok a => simp [Except.map]

theorem mapError_eq_error {x : Except ε α} {g : ε → σ} {e : σ} :
    x.mapError g = .error e ↔ ∃ e', x = .error e' ∧ g e' = e := by
  cases x with
  | error e' =>
    constructor
    · exact fun h => ⟨e', rfl, Except.error.inj h⟩
    · rintro ⟨_, ⟨⟩, rfl⟩
      rfl
  | ok a => exact ⟨nofun, nofun⟩

theorem mapError_eq_ok {x : Except ε α} {g : ε → σ} {a : α} :
    x.mapError g = .ok a ↔ x = .ok a := by
  cases x with
  | error e => exact ⟨nofun, nofun⟩
  | ok a' => exact ⟨fun h => congrArg Except.ok (Except.ok.inj h), fun h => by cases h; rfl⟩

theorem any_toOption_eq_true {x : Except ε α} {p : α → Bool} :
    x.toOption.any p = true ↔ ∃ a, x = .ok a ∧ p a = true := by
  cases x with
  | error e => exact ⟨nofun, nofun⟩
  | ok a => exact ⟨fun h => ⟨a, rfl, h⟩, fun ⟨_, h, ha⟩ => Except.ok.inj h ▸ ha⟩

/-- What an action makes of each element, if it makes the same as a function where it succeeds. -/
theorem mapM_eq_map {f : α → Except ε β} {g : α → β} {as : List α} {bs : List β}
    (hf : ∀ a ∈ as, ∀ b, f a = .ok b → b = g a) (h : as.mapM f = .ok bs) : bs = as.map g := by
  induction as generalizing bs with
  | nil =>
    cases h
    rfl
  | cons a as ih =>
    rw [List.mapM_cons] at h
    obtain ⟨b, hb, h⟩ := bind_eq_ok.1 h
    obtain ⟨rest, hrest, h⟩ := bind_eq_ok.1 h
    cases h
    rw [List.map_cons, hf a List.mem_cons_self b hb,
      ih (fun a ha => hf a (List.mem_cons_of_mem _ ha)) hrest]

/-- A result of which `P` holds when something is given, and `Q` when there is an error. -/
def Yields (P : α → Prop) (Q : ε → Prop) : Except ε α → Prop
  | .ok a => P a
  | .error e => Q e

theorem Yields.bind {P : α → Prop} {Q : ε → Prop} {R : β → Prop} {x : Except ε α}
    {f : α → Except ε β} (hx : Yields P Q x) (hf : ∀ a, P a → Yields R Q (f a)) :
    Yields R Q (x >>= f) := by
  cases x with
  | error e => exact hx
  | ok a => exact hf a hx

theorem Yields.map {P : α → Prop} {Q : ε → Prop} {R : β → Prop} {x : Except ε α} {f : α → β}
    (hx : Yields P Q x) (hf : ∀ a, P a → R (f a)) : Yields R Q (x.map f) := by
  cases x with
  | error e => exact hx
  | ok a => exact hf a hx

theorem Yields.mono {P P' : α → Prop} {Q Q' : ε → Prop} {x : Except ε α} (h : Yields P Q x)
    (hP : ∀ a, P a → P' a) (hQ : ∀ e, Q e → Q' e) : Yields P' Q' x := by
  cases x with
  | error e => exact hQ e h
  | ok a => exact hP a h

theorem Yields.mapM {Q : ε → Prop} {f : α → Except ε β} {as : List α}
    (h : ∀ a ∈ as, Yields (fun _ => True) Q (f a)) : Yields (fun _ => True) Q (as.mapM f) := by
  induction as with
  | nil => trivial
  | cons a as ih =>
    rw [List.mapM_cons]
    refine (h a List.mem_cons_self).bind fun _ _ => ?_
    exact (ih fun b hb => h b (List.mem_cons_of_mem a hb)).bind fun _ _ => trivial

/-! ## running a program step by step -/

/-- What an action gives, or why it stopped short, and the state it leaves. -/
def runFrom (act : ExceptT ε (StateM σ) α) (s : σ) : Except ε α × σ := act.run.run s

@[simp] theorem runFrom_pure (a : α) (s : σ) :
    runFrom (pure a : ExceptT ε (StateM σ) α) s = (.ok a, s) := rfl

@[simp] theorem runFrom_get (s : σ) :
    runFrom (get : ExceptT ε (StateM σ) σ) s = (.ok s, s) := rfl

@[simp] theorem runFrom_set (t s : σ) :
    runFrom (set t : ExceptT ε (StateM σ) PUnit) s = (.ok ⟨⟩, t) := rfl

@[simp] theorem runFrom_modify (f : σ → σ) (s : σ) :
    runFrom (modify f : ExceptT ε (StateM σ) PUnit) s = (.ok ⟨⟩, f s) := rfl

@[simp] theorem runFrom_ofExcept (x : Except ε α) (s : σ) :
    runFrom (MonadExcept.ofExcept x : ExceptT ε (StateM σ) α) s = (x, s) := by
  cases x <;> rfl

theorem runFrom_bind (x : ExceptT ε (StateM σ) α) (f : α → ExceptT ε (StateM σ) β) (s : σ) :
    runFrom (x >>= f) s = match runFrom x s with
      | (.ok a, s') => runFrom (f a) s'
      | (.error e, s') => (.error e, s') := by
  simp only [runFrom, ExceptT.run_bind, StateT.run_bind]
  show (match x.run.run s with | (a, s') => _) = _
  rcases h : (x.run.run s : Except ε α × σ) with ⟨_ | a, s'⟩ <;> rfl

theorem runFrom_bind_eq_ok {x : ExceptT ε (StateM σ) α} {f : α → ExceptT ε (StateM σ) β}
    {s t : σ} {b : β} : runFrom (x >>= f) s = (.ok b, t) ↔
      ∃ a s', runFrom x s = (.ok a, s') ∧ runFrom (f a) s' = (.ok b, t) := by
  rw [runFrom_bind]
  rcases runFrom x s with ⟨_ | a, s'⟩ <;> simp [and_assoc]

theorem runFrom_tryCatch (x : ExceptT ε (StateM σ) α) (h : ε → ExceptT ε (StateM σ) α) (s : σ) :
    runFrom (tryCatch x h) s = match runFrom x s with
      | (.ok a, s') => (.ok a, s')
      | (.error e, s') => runFrom (h e) s' := by
  show runFrom (ExceptT.tryCatch x h) s = _
  simp only [runFrom, ExceptT.run, ExceptT.tryCatch, ExceptT.mk, StateT.run_bind]
  show (match (x : StateM σ _).run s with | (a, s') => _) = _
  rcases h : (StateT.run (x : StateM σ _) s : Except ε α × σ) with ⟨_ | a, s'⟩ <;> rfl

theorem runFrom_discard (x : ExceptT ε (StateM σ) α) (s : σ) :
    runFrom (discard x) s = ((runFrom x s).1.map fun _ => ⟨⟩, (runFrom x s).2) := by
  have h : (discard x : ExceptT ε (StateM σ) PUnit) = x >>= fun _ => pure ⟨⟩ := rfl
  rw [h, runFrom_bind]
  rcases runFrom x s with ⟨_ | a, s'⟩ <;> rfl

/-- What is done finally is done after success and failure, and only its own failure shows. -/
theorem runFrom_tryFinally (x : ExceptT ε (StateM σ) α) (y : ExceptT ε (StateM σ) β) (s : σ) :
    runFrom (tryFinally x y) s = match runFrom y (runFrom x s).2 with
      | (.ok _, s') => ((runFrom x s).1, s')
      | (.error e, s') => (.error e, s') := by
  rcases hx : runFrom x s with ⟨r, s'⟩
  rcases hy : runFrom y s' with ⟨r', s''⟩
  have hx' : x s = (r, s') := hx
  have hy' : y s' = (r', s'') := hy
  cases r <;> cases r' <;>
  · simp only [tryFinally, tryFinally', runFrom, ExceptT.run, ExceptT.mk, StateT.run, bind,
      StateT.bind, Functor.map, ExceptT.map, hx', hy']
    rfl

/-! ## what actions keep -/

/-- An action that leaves `P` true where it finds it true, whatever comes of it. -/
def Keeps (P : σ → Prop) (act : ExceptT ε (StateM σ) α) : Prop := ∀ s, P s → P (runFrom act s).2

section

variable {P : σ → Prop}

theorem keeps_pure (a : α) : Keeps P (pure a : ExceptT ε (StateM σ) α) := fun _ hs => hs

theorem keeps_throw (e : ε) : Keeps P (throw e : ExceptT ε (StateM σ) α) := fun _ hs => hs

/-- What holds after an action still holds after a continuation that keeps it. -/
theorem runFrom_bind_of_keeps {x : ExceptT ε (StateM σ) α} {f : α → ExceptT ε (StateM σ) β}
    {s : σ} (hx : P (runFrom x s).2) (hf : ∀ a, Keeps P (f a)) : P (runFrom (x >>= f) s).2 := by
  rw [runFrom_bind]
  rcases hr : runFrom x s with ⟨_ | a, s'⟩ <;> rw [hr] at hx
  · exact hx
  · exact hf a s' hx

/-- An action that came through went through its first part, and found true what that part keeps. -/
theorem Keeps.of_bind_eq_ok {x : ExceptT ε (StateM σ) α} {f : α → ExceptT ε (StateM σ) β}
    {s t : σ} {b : β} (hx : Keeps P x) (hs : P s) (h : runFrom (x >>= f) s = (.ok b, t)) :
    ∃ a s', P s' ∧ runFrom (f a) s' = (.ok b, t) := by
  obtain ⟨a, s', hr, h⟩ := runFrom_bind_eq_ok.1 h
  have hs' := hx s hs
  rw [hr] at hs'
  exact ⟨a, s', hs', h⟩

theorem runFrom_tryCatch_of_keeps {x : ExceptT ε (StateM σ) α} {h : ε → ExceptT ε (StateM σ) α}
    {s : σ} (hx : P (runFrom x s).2) (hh : ∀ e, Keeps P (h e)) :
    P (runFrom (tryCatch x h) s).2 := by
  rw [runFrom_tryCatch]
  rcases hr : runFrom x s with ⟨e | a, s'⟩ <;> rw [hr] at hx
  · exact hh e s' hx
  · exact hx

theorem keeps_bind {x : ExceptT ε (StateM σ) α} {f : α → ExceptT ε (StateM σ) β}
    (hx : Keeps P x) (hf : ∀ a, Keeps P (f a)) : Keeps P (x >>= f) :=
  fun s hs => runFrom_bind_of_keeps (hx s hs) hf

/-- After the state was read, the rest starts from the very state that was read. -/
theorem keeps_get_bind {f : σ → ExceptT ε (StateM σ) β} (hf : ∀ s, P s → P (runFrom (f s) s).2) :
    Keeps P (get >>= f) := hf

theorem keeps_tryCatch {x : ExceptT ε (StateM σ) α} {h : ε → ExceptT ε (StateM σ) α}
    (hx : Keeps P x) (hh : ∀ e, Keeps P (h e)) : Keeps P (tryCatch x h) :=
  fun s hs => runFrom_tryCatch_of_keeps (hx s hs) hh

end

/-! ## why actions stop short -/

/-- An action that stops short for no other reasons than those with `Q`. -/
def StopsFor (Q : ε → Prop) (act : ExceptT ε (StateM σ) α) : Prop :=
  ∀ s e, (runFrom act s).1 = .error e → Q e

section

variable {Q R : ε → Prop}

theorem stopsFor_pure (a : α) : StopsFor Q (pure a : ExceptT ε (StateM σ) α) := by
  intro s e h
  cases h

theorem stopsFor_throw {e : ε} (h : Q e) : StopsFor Q (throw e : ExceptT ε (StateM σ) α) := by
  intro s e' he
  cases he
  exact h

theorem stopsFor_set (t : σ) : StopsFor Q (set t : ExceptT ε (StateM σ) PUnit) := by
  intro s e h
  cases h

theorem stopsFor_modify (f : σ → σ) :
    StopsFor Q (modify f : ExceptT ε (StateM σ) PUnit) := by
  intro s e h
  cases h

theorem stopsFor_bind {x : ExceptT ε (StateM σ) α} {f : α → ExceptT ε (StateM σ) β}
    (hx : StopsFor Q x) (hf : ∀ a, StopsFor Q (f a)) : StopsFor Q (x >>= f) := by
  intro s e h
  rw [runFrom_bind] at h
  rcases hr : runFrom x s with ⟨e' | a, s'⟩ <;> rw [hr] at h
  · cases h
    exact hx s e (by rw [hr])
  · exact hf a s' e h

theorem stopsFor_get_bind {f : σ → ExceptT ε (StateM σ) β} (hf : ∀ s, StopsFor Q (f s)) :
    StopsFor Q (get >>= f) := fun s => hf s s

/-- Only the handler decides why a guarded action can stop short. -/
theorem stopsFor_tryCatch {x : ExceptT ε (StateM σ) α} {h : ε → ExceptT ε (StateM σ) α}
    (hx : StopsFor R x) (hh : ∀ e, R e → StopsFor Q (h e)) : StopsFor Q (tryCatch x h) := by
  intro s e he
  rw [runFrom_tryCatch] at he
  rcases hr : runFrom x s with ⟨e' | a, s'⟩ <;> rw [hr] at he
  · exact hh e' (hx s e' (by rw [hr])) s' e he
  · cases he

theorem StopsFor.mono {act : ExceptT ε (StateM σ) α} (h : StopsFor R act)
    (hRQ : ∀ e, R e → Q e) : StopsFor Q act := fun s e he => hRQ e (h s e he)

end

/-! ## steps that leave no state when they stop -/

section

variable {I : σ → Prop} {R : ε → Prop} {Q : α → Prop} {S : β → Prop}
  {x y : StateT σ (Except ε) α} {f : α → StateT σ (Except ε) β}

/-- A step that keeps `I` true of its state and stops short only for a reason of `R`; what it gives
has `Q`. -/
def Maintains (I : σ → Prop) (R : ε → Prop) (Q : α → Prop) (act : StateT σ (Except ε) α) : Prop :=
  ∀ s, I s → Yields (fun x => I x.2 ∧ Q x.1) R (act.run s)

theorem maintains_pure {a : α} (h : Q a) : Maintains I R Q (pure a) := fun _ hs => ⟨hs, h⟩

theorem maintains_throw {e : ε} (h : R e) : Maintains I R Q (throw e) := fun _ _ => h

theorem maintains_set {s : σ} (h : I s) : Maintains I R (fun _ => True) (set s) :=
  fun _ _ => ⟨h, trivial⟩

theorem maintains_modify {f : σ → σ} (h : ∀ s, I s → I (f s)) :
    Maintains I R (fun _ => True) (modify f) := fun s hs => ⟨h s hs, trivial⟩

theorem maintains_get_bind {f : σ → StateT σ (Except ε) β}
    (hf : ∀ s, I s → Maintains I R S (f s)) : Maintains I R S (get >>= f) :=
  fun s hs => hf s hs s hs

theorem Maintains.mono {P : α → Prop} (h : Maintains I R P x) (hPQ : ∀ a, P a → Q a) :
    Maintains I R Q x :=
  fun s hs => (h s hs).mono (fun (a, _) ha => ⟨ha.1, hPQ a ha.2⟩) fun _ he => he

theorem Maintains.bind (hx : Maintains I R Q x) (hf : ∀ a, Q a → Maintains I R S (f a)) :
    Maintains I R S (x >>= f) := by
  intro s hs
  rw [StateT.run_bind]
  exact (hx s hs).bind fun (a, s') ha => hf a ha.2 s' ha.1

/-- What comes next is done whatever a step gives. -/
theorem Maintains.next (hx : Maintains I R (fun _ => True) x)
    (hf : ∀ a, Maintains I R S (f a)) : Maintains I R S (x >>= f) := hx.bind fun a _ => hf a

theorem Maintains.map {f : α → β} (hx : Maintains I R Q x) (hf : ∀ a, Q a → S (f a)) :
    Maintains I R S (f <$> x) := by
  rw [map_eq_pure_bind]
  exact hx.bind fun a ha => maintains_pure (hf a ha)

theorem Maintains.discard (hx : Maintains I R Q x) :
    Maintains I R (fun _ => True) (Functor.discard x) := hx.map fun _ _ => trivial

theorem maintains_ite {p : Prop} [Decidable p] (hx : Maintains I R Q x) (hy : Maintains I R Q y) :
    Maintains I R Q (if p then x else y) := by
  split
  · exact hx
  · exact hy

/-- A step that is taken or left out, in front of the same rest. -/
theorem Maintains.optional {p : Prop} [Decidable p] {x : StateT σ (Except ε) PUnit}
    {f : PUnit → StateT σ (Except ε) β} (hx : Maintains I R (fun _ => True) x)
    (hf : Maintains I R S (f ())) : Maintains I R S (if p then x >>= f else f ()) :=
  maintains_ite (hx.next fun _ => hf) hf

/-- A check that stops short, in front of the rest of a step. -/
theorem maintains_guard {p : Prop} [Decidable p] {e : ε} {f : PUnit → StateT σ (Except ε) β}
    (he : R e) (hf : Maintains I R S (f ())) :
    Maintains I R S (if p then throw e >>= f else f ()) :=
  Maintains.optional (maintains_throw he) hf

end

end ExMode
