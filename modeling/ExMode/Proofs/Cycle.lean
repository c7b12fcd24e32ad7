import ExMode.Proofs.Completion

/-!
# ExMode.Proofs.Cycle

Going through the candidates.  While completion is under way, what stands in the box does not
matter: each press of the key turns the candidates on by one place, forwards or backwards, and
round at both ends.  Turning is addition modulo the number of candidates, so that what any number of
presses shows depends on nothing but the places that they go in all.

* `Completion.turn_turn` — turning twice is turning once by the sum;
* `InputBox.runFrom_complete_of_active` — one press turns the candidates, and does nothing else;
* `InputBox.runFrom_pressAll` — and so do any number of presses;
* `InputBox.presses_cycle` — from the first press on.
-/

namespace ExMode

namespace Completion

variable {c : Completion}

/-- The candidates turned on by some places, round at both ends. -/
def turn (c : Completion) (places : Int) : Completion :=
  { c with index := ((c.index + places) % c.items.length).toNat }

theorem length_pos (hc : c.items ≠ []) : 0 < (c.items.length : Int) := by
  have := List.length_pos_iff.2 hc
  omega

theorem natCast_index_turn (hc : c.items ≠ []) (places : Int) :
    ((c.turn places).index : Int) = (c.index + places) % c.items.length :=
  Int.toNat_of_nonneg (Int.emod_nonneg _ (Int.ne_of_gt (length_pos hc)))

theorem index_turn_lt (hc : c.items ≠ []) (places : Int) :
    (c.turn places).index < c.items.length := by
  have hlt := Int.emod_lt_of_pos (c.index + places) (length_pos hc)
  rw [← natCast_index_turn hc] at hlt
  omega

/-- The place next to one, in either direction. -/
theorem index_turn_one (hc : c.index < c.items.length) (reverse : Bool) :
    (c.turn (if reverse then -1 else 1)).index =
      if reverse then (c.index + c.items.length - 1) % c.items.length
      else (c.index + 1) % c.items.length := by
  unfold turn
  dsimp only
  generalize c.items.length = n at hc
  have hback : ((c.index + n - 1 : Nat) : Int) = c.index + -1 + n := by omega
  split
  · rw [← Int.toNat_natCast (_ % n), Int.natCast_emod, hback, Int.add_emod_right]
  · rw [← Int.toNat_natCast (_ % n), Int.natCast_emod, Int.natCast_add, Int.natCast_one]

theorem turn_zero (hc : c.index < c.items.length) : c.turn 0 = c := by
  have hindex : ((c.index + 0) % c.items.length : Int) = c.index := by
    rw [Int.add_zero]
    exact Int.emod_eq_of_lt (by omega) (by omega)
  rw [turn, hindex, Int.toNat_natCast]

/-- Turning twice is turning once by the sum. -/
theorem turn_turn (hc : c.items ≠ []) (places more : Int) :
    (c.turn places).turn more = c.turn (places + more) := by
  have hsum : ((c.turn places).index + more) % (c.items.length : Int) =
      (c.index + (places + more)) % c.items.length := by
    rw [natCast_index_turn hc, Int.emod_add_emod, Int.add_assoc]
  unfold turn at hsum ⊢
  dsimp only at hsum ⊢
  rw [hsum]

/-- Turning by whole rounds more makes no difference. -/
theorem turn_add_of_dvd {places more : Int} (h : (c.items.length : Int) ∣ more) :
    c.turn (places + more) = c.turn places := by
  obtain ⟨rounds, rfl⟩ := h
  rw [turn, turn, ← Int.add_assoc, Int.add_mul_emod_self_left]

end Completion

namespace InputBox

/-- A press of the key: what stands in the box, and whether to go backwards. -/
structure Press where
  typed : Text
  reverse : Bool
  deriving DecidableEq, Repr

/-- The name of the key that is pressed. -/
def Press.key (p : Press) : Text := if p.reverse then "<S-Tab>".toList else "<Tab>".toList

/-- How many more of the presses go forwards than backwards. -/
def places (presses : List Press) : Int :=
  (presses.countP fun p => ! p.reverse) - presses.countP fun p => p.reverse

theorem places_cons (p : Press) (presses : List Press) :
    places (p :: presses) = (if p.reverse then -1 else 1) + places presses := by
  unfold places
  rw [List.countP_cons, List.countP_cons]
  cases p.reverse <;> simp <;> omega

theorem places_append (presses more : List Press) :
    places (presses ++ more) = places presses + places more := by
  unfold places
  rw [List.countP_append, List.countP_append]
  omega

/-- Presses in one direction go as many places as there are presses. -/
theorem places_of_reverse {presses : List Press} {reverse : Bool}
    (h : ∀ p ∈ presses, p.reverse = reverse) :
    places presses = (if reverse then -1 else 1) * (presses.length : Int) := by
  induction presses with
  | nil => exact (Int.mul_zero _).symm
  | cons p presses ih =>
    rw [places_cons, h p List.mem_cons_self, ih fun q hq => h q (List.mem_cons_of_mem _ hq),
      List.length_cons, Int.natCast_add, Int.natCast_one, Int.mul_add, Int.mul_one, Int.add_comm]

/-- Press the key again and again, with nothing done in between; what the last press shows. -/
def pressAll (t : Table) (shown : Text) (presses : List Press) : Action Text :=
  presses.foldlM (fun _ p => complete t p.typed p.reverse) shown

variable {t : Table} {s : Session}

/-- While completion is under way, a press turns the candidates on by one place. -/
theorem runFrom_complete_of_active (hs : s.completion.index < s.completion.items.length)
    (p : Press) :
    let c := s.completion.turn (if p.reverse then -1 else 1)
    runFrom (complete t p.typed p.reverse) s =
      (.ok (shown c), { s with lastKey := p.key, completion := c }) := by
  have hactive : s.completion.isActive = true := by
    rw [Completion.isActive, Bool.not_eq_true', List.isEmpty_eq_false_iff]
    exact List.ne_nil_of_length_pos (Nat.zero_lt_of_lt hs)
  have hindex := Completion.index_turn_one hs p.reverse
  simp only [complete, runFrom_bind, runFrom_modify, runFrom_get, hactive, if_true, runFrom_set,
    runFrom_pure, ← hindex]
  rfl

/-- Any number of presses turn the candidates on by the places that they go in all. -/
theorem runFrom_pressAll (hs : s.completion.index < s.completion.items.length)
    (presses : List Press) :
    let c := s.completion.turn (places presses)
    runFrom (pressAll t (shown s.completion) presses) s = (.ok (shown c),
      { s with lastKey := (presses.getLast?.map Press.key).getD s.lastKey, completion := c }) := by
  have hne : s.completion.items ≠ [] := List.ne_nil_of_length_pos (Nat.zero_lt_of_lt hs)
  induction presses generalizing s with
  | nil =>
    have hzero : s.completion.turn (places []) = s.completion := Completion.turn_zero hs
    rw [hzero]
    rfl
  | cons p presses ih =>
    have hturn := Completion.turn_turn hne (if p.reverse then -1 else 1) (places presses)
    rw [pressAll, List.foldlM_cons, runFrom_bind, runFrom_complete_of_active hs p]
    dsimp only
    rw [places_cons, ← hturn]
    have hrest := ih (s := { s with
      lastKey := p.key, completion := s.completion.turn (if p.reverse then -1 else 1) })
      (Completion.index_turn_lt hne _) hne
    refine hrest.trans ?_
    cases presses with
    | nil => rfl
    | cons q presses => simp [List.getLast?_cons]

/-- From the first press on, presses go round.  The first one makes the candidates, and stands at
the first of them, or at the last one when going backwards; whatever is in the box later, the index
is from there on the places gone in all, round at both ends, and the candidate at the index stands
behind what was kept of the text.  Nothing else changes but the name of the key, so that a press and
one the other way, or as many presses one way as there are candidates, lead back to the same
text. -/
theorem presses_cycle {first : Press} {position : Nat} {items : List Text}
    (hs : s.completion.isActive = false)
    (hitems : candidates t s.editor.disk first.typed = .ok (position, items)) (hne : items ≠ [])
    (later : List Press) :
    let n := items.length
    let start := if first.reverse then n - 1 else 0
    let shownBy (presses : List Press) := (runFrom (pressAll t first.typed presses) s).1
    (∃ index candidate, index < n ∧ (index : Int) = (start + places later) % n ∧
      items[index]? = some candidate ∧
      runFrom (pressAll t first.typed (first :: later)) s =
        (.ok (first.typed.take position ++ candidate),
          { s with
            lastKey := (later.getLast?.getD first).key
            completion := ⟨index, items, position, first.typed⟩ })) ∧
    (∀ p q : Press, p.reverse = ! q.reverse →
      shownBy (first :: later ++ [p, q]) = shownBy (first :: later)) ∧
    ∀ round reverse, round.length = n → (∀ p ∈ round, p.reverse = reverse) →
      shownBy (first :: later ++ round) = shownBy (first :: later) := by
  intro n start shownBy
  have hn : 0 < n := List.length_pos_iff.2 hne
  let c : Completion := ⟨start, items, position, first.typed⟩
  have hc : c.index < c.items.length := by
    show (if first.reverse then n - 1 else 0) < n
    split <;> omega
  have hrun (presses : List Press) : runFrom (pressAll t first.typed (first :: presses)) s =
      (.ok (shown (c.turn (places presses))),
        { s with
          lastKey := (presses.getLast?.getD first).key
          completion := c.turn (places presses) }) := by
    rw [pressAll, List.foldlM_cons, runFrom_bind, runFrom_complete_of_items _ hs hitems hne]
    refine (runFrom_pressAll (s := { s with lastKey := first.key, completion := c }) hc
      presses).trans ?_
    rw [Option.getD_map]
  have hback (more : List Press) (hmore : (n : Int) ∣ places more) :
      shownBy (first :: later ++ more) = shownBy (first :: later) := by
    show (runFrom (pressAll t first.typed (first :: (later ++ more))) s).1 =
      (runFrom (pressAll t first.typed (first :: later)) s).1
    rw [hrun, hrun, places_append, c.turn_add_of_dvd hmore]
  refine ⟨?_, fun p q hpq => hback _ ?_, fun round reverse hlength hround => hback _ ?_⟩
  · have hlt := c.index_turn_lt hne (places later)
    have hcandidate : (c.turn (places later)).items[(c.turn (places later)).index]? = _ :=
      List.getElem?_eq_getElem hlt
    refine ⟨_, _, hlt, c.natCast_index_turn hne (places later), hcandidate, ?_⟩
    rw [hrun, shown, hcandidate]
    rfl
  · rw [places_cons, places_cons, hpq]
    cases q.reverse <;> exact ⟨0, by simp [places]⟩
  · rw [places_of_reverse hround, hlength]
    exact Int.dvd_mul_left _ _

/-- Backwards to the last of two names, and on by three, whatever stands in the box. -/
theorem presses_cycle_names :
    let t := Table.ofExtra [] []
    let s := Session.start
      ⟨Buffer.ofText "a".toList none, Registers.empty, ⟨[], [], [], [], .standard⟩⟩
      (.new (.memory []))
    let first : Press := ⟨":%d".toList, true⟩
    let later := [Press.mk ":%display".toList false, ⟨[], false⟩, ⟨"q".toList, false⟩]
    ∃ s', runFrom (pressAll t first.typed (first :: later)) s = (.ok ":%delete".toList, s') ∧
      s'.completion.index = 0 := by
  intro t s first later
  have hnames : t.completions "d".toList = ["delete".toList, "display".toList] :=
    List.mergeSort_of_pairwise (by decide +kernel)
  have hfront : LineRange.splitFront first.typed =
      .ok (some .wholeFile, ":%".toList, "d".toList) := by decide +kernel
  have hitems : candidates t s.editor.disk first.typed =
      .ok (2, ["delete".toList, "display".toList]) := by
    rw [candidates_of_name hfront (by decide), ← hnames]
    rfl
  obtain ⟨⟨index, candidate, -, hindex, hcandidate, hrun⟩, -⟩ :=
    presses_cycle (t := t) (s := s) rfl hitems (List.cons_ne_nil _ _) later
  obtain rfl : index = 0 := by
    have hplaces : places later = 3 := by decide
    rw [hplaces] at hindex
    exact Int.ofNat_inj.1 (hindex.trans (by decide))
  cases hcandidate
  exact ⟨_, hrun, rfl⟩

end InputBox

end ExMode
