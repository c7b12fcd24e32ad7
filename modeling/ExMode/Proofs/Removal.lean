import ExMode.Proofs.Command
import ExMode.Proofs.Register

/-!
# ExMode.Proofs.Removal

Deleting and yanking lose no text.  The lines of the buffer are those in front of a span, those of
the span and those behind it.  Deleting leaves the first and the last, and the ones between are in
a register.  Yanking puts the same lines into a register and leaves the buffer alone.

* `Registers.receive_put` — what becomes of the registers when lines are put under a name;
* `Command.deleted_lines_kept` — both commands on the same input.
-/

namespace ExMode

/-! ## what a register is given -/

namespace Registers

variable {r : Registers} {name : Text} {lines : List Text}

/-- What becomes of the registers when whole lines are put under a name: they follow what is there
for an upper-case name and take its place for any other, the unnamed register holds the same, and
every other register is left alone. -/
structure Receive (r r' : Registers) (name : Text) (lines : List Text) : Prop where
  named : r'.get? (slotName name) =
    some (.lines ((if appends name then r.linesIn (slotName name) else []) ++ lines) true)
  unnamed : r'.get? unnamed = r'.get? (slotName name)
  others : ∀ n, n ≠ slotName name → n ≠ Registers.unnamed → r'.get? n = r.get? n

theorem receive_put (h : isWritable name = true) (hhole : name ≠ blackHole) (r : Registers)
    (lines : List Text) :
    ∃ r', r.put (some name) lines true = .ok r' ∧ r.Receive r' name lines := by
  have hne : name ≠ [] := by
    rintro rfl
    cases h
  obtain ⟨r', hput, hget⟩ := put_of_slot? (slot?_of_isWritable hne h hhole) r lines true
  have htarget : target (some name) = name := by
    obtain ⟨c, n, rfl⟩ := List.exists_cons_of_ne_nil hne
    rfl
  refine ⟨r', hput, ?_, ?_, ?_⟩
  · rw [hget, if_pos (Or.inl rfl), htarget, payload_eq]
    split <;> rfl
  · rw [hget, hget, if_pos (Or.inr rfl), if_pos (Or.inl rfl)]
  · intro n hslot hunnamed
    rw [hget, if_neg (not_or.2 ⟨hslot, hunnamed⟩)]

end Registers

namespace Command

/-- Deleting and yanking act on the same lines, and stop short for the same reasons.  The buffer is
made up of what stands in front of these lines, the lines, and what follows.  Deleting leaves a
buffer of the first and the last part, or of one empty line if there is nothing in them, with the
cursor where the lines were or on the last line; and the lines are in the register that was named,
or in `1`.  Yanking leaves the buffer as it was and puts the lines into the register that was
named, or into `0`. -/
theorem deleted_lines_kept {e : Editor} (hb : e.buffer.WellFormed) {target : LineTarget}
    (hname : ∀ c ∈ target.register, Registers.isWritable [c] = true ∧ [c] ≠ Registers.blackHole)
    (past : List Text) (range : Option LineRange) :
    (∃ f, e.buffer.span range target.count = .error f ∧
      runFrom ((Command.delete target).perform past range) e = (.error f, e) ∧
      runFrom ((Command.yank target).perform past range) e = (.error f, e)) ∨
    ∃ s front removed rest r r', e.buffer.span range target.count = .ok s ∧
      s.Cuts e.buffer.lines front removed rest ∧
      (let left := if front ++ rest = [] then [[]] else front ++ rest
      runFrom ((Command.delete target).perform past range) e =
        (.ok (.deleted removed.length), { e with
        registers := r
        buffer := { e.buffer with
          lines := left, cursor := min s.first (left.length - 1), modified := true } })) ∧
      e.registers.Receive r (target.register.elim ['1'] fun c => [c]) removed ∧
      runFrom ((Command.yank target).perform past range) e =
        (.ok (.yanked removed.length), { e with registers := r' }) ∧
      e.registers.Receive r' (target.register.elim ['0'] fun c => [c]) removed := by
  cases hs : e.buffer.span range target.count with
  | error f =>
    refine Or.inl ⟨f, rfl, ?_, ?_⟩
    · rw [perform, runFrom_delete, hs]
    · rw [perform, runFrom_yank, hs]
  | ok s =>
    obtain ⟨front, removed, rest, hcut⟩ := Buffer.exists_cuts_of_span hb hs
    have hfirst : 0 ≤ s.first := hcut.length_front ▸ Int.natCast_nonneg _
    have hbetween : e.buffer.linesBetween s.first s.last = removed := hcut.slice_eq
    have hput (preset : Text) (hpreset : Registers.isWritable preset = true)
        (hhole : preset ≠ Registers.blackHole) : ∃ r',
        e.registers.put (some (target.register.elim preset fun c => [c])) removed true = .ok r' ∧
        e.registers.Receive r' (target.register.elim preset fun c => [c]) removed := by
      cases htarget : target.register with
      | none => exact Registers.receive_put hpreset hhole _ _
      | some c =>
        obtain ⟨hwritable, hc⟩ := hname c htarget
        exact Registers.receive_put hwritable hc _ _
    obtain ⟨r, hdelete, hr⟩ := hput ['1'] (by decide) (by decide)
    obtain ⟨r', hyank, hr'⟩ := hput ['0'] (by decide) (by decide)
    refine Or.inr ⟨s, front, removed, rest, r, r', rfl, hcut, ?_, hr, ?_, hr'⟩
    · have hbuffer := Buffer.replaceLines_of_cuts hcut [] hfirst
      rw [List.append_nil] at hbuffer
      simp only [perform, runFrom_delete, hs, hbetween, Registers.deleteName, hdelete]
      rw [hbuffer]
    · simp only [perform, runFrom_yank, hs, hbetween, Registers.yankName, hyank]

/-- Two lines are deleted from the end of the buffer, for a count that leads beyond it, and follow
what the register holds. -/
theorem deleted_lines_kept_appended :
    let b : Buffer := { Buffer.empty with lines := [['a'], ['b'], ['c']], cursor := 2 }
    let e : Editor :=
      ⟨b, Registers.empty.stored ['x'] (.lines [['z']] true), ⟨[], [], [], [], .standard⟩⟩
    let target : LineTarget := ⟨some 'X', some 5⟩
    b.WellFormed ∧
      (∀ c ∈ target.register, Registers.isWritable [c] = true ∧ [c] ≠ Registers.blackHole) ∧
      ∃ r, runFrom ((Command.delete target).perform [] (some (.single (.ofLine 2)))) e =
          (.ok (.deleted 2), { e with
            registers := r
            buffer := { b with lines := [['a']], cursor := 0, modified := true } }) ∧
        r.get? ['x'] = some (.lines [['z'], ['b'], ['c']] true) ∧
        r.get? Registers.unnamed = r.get? ['x'] := by
  intro b e target
  have hb : b.WellFormed := ⟨by decide, by decide, by decide, by decide⟩
  have hname : ∀ c ∈ target.register,
      Registers.isWritable [c] = true ∧ [c] ≠ Registers.blackHole := by
    rintro c ⟨⟩
    decide
  refine ⟨hb, hname, ?_⟩
  obtain ⟨f, hf, -⟩ | ⟨s, front, removed, rest, r, r', hs, hcut, hdelete, hr, -⟩ :=
    deleted_lines_kept (e := e) hb hname [] (some (.single (.ofLine 2)))
  · cases hf
  · cases hs
    have hremoved : removed = [['b'], ['c']] := hcut.slice_eq.symm
    have hleft : front ++ rest = [['a']] := by
      rw [← List.append_nil front, ← hcut.splice_eq]
      rfl
    rw [hremoved, hleft] at hdelete
    rw [hremoved] at hr
    exact ⟨r, hdelete, hr.named, hr.unnamed⟩

end Command

end ExMode
