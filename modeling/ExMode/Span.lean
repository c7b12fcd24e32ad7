/-!
# ExMode.Span

Cutting lists at integer positions.  A negative position counts from the end,
and a span reaches no further than the list does, so every pair of positions
cuts every list.
-/

namespace ExMode

namespace Span

variable {α : Type}

/-- A position brought between zero and `n`; a negative one counts from the end. -/
def clamp (n : Nat) (i : Int) : Nat :=
  if i < 0 then (i + n).toNat else min i.toNat n

/-- The elements from position `start` up to but not including `stop`. -/
def slice (xs : List α) (start stop : Int) : List α :=
  (xs.take (clamp xs.length stop)).drop (clamp xs.length start)

/-- The list with the elements from `start` up to but not including `stop` replaced. -/
def splice (xs : List α) (start stop : Int) (new : List α) : List α :=
  xs.take (clamp xs.length start) ++ new ++
    xs.drop (max (clamp xs.length start) (clamp xs.length stop))

/-- The element at a position, if the list reaches that far. -/
def at? (xs : List α) (i : Int) : Option α :=
  if i < 0 then (if 0 ≤ i + xs.length then xs[(i + xs.length).toNat]? else none) else xs[i.toNat]?

theorem clamp_of_nonneg {n : Nat} {i : Int} (h : 0 ≤ i) : clamp n i = min i.toNat n := by
  simp [clamp, Int.not_lt.2 h]

theorem clamp_natCast (n i : Nat) : clamp n (i : Int) = min i n := by
  simp [clamp_of_nonneg]

theorem at?_natCast (xs : List α) (i : Nat) : at? xs (i : Int) = xs[i]? := by
  have : ¬ (i : Int) < 0 := by omega
  simp only [at?, if_neg this, Int.toNat_natCast]

end Span

end ExMode
