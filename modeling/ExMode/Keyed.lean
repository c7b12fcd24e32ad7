/-!
# ExMode.Keyed

Tables from keys to values, in the order in which the keys first came.  Setting
a key that is there keeps its place.  The view of a table is `get?`, and each
operation says what it does to it.
-/

namespace ExMode

/-- A table from keys to values. -/
abbrev Keyed (κ ν : Type) := List (κ × ν)

namespace Keyed

variable {κ ν : Type} [DecidableEq κ]

/-- The value of a key. -/
def get? (k : κ) : Keyed κ ν → Option ν
  | [] => none
  | x :: xs => if x.1 = k then some x.2 else get? k xs

/-- Give a key a value. -/
def set (k : κ) (v : ν) : Keyed κ ν → Keyed κ ν
  | [] => [(k, v)]
  | x :: xs => if x.1 = k then (k, v) :: xs else x :: set k v xs

/-- Whether a key has a value. -/
def has (k : κ) (t : Keyed κ ν) : Bool := (get? k t).isSome

@[simp] theorem get?_nil (k : κ) : get? k ([] : Keyed κ ν) = none := rfl

/-- A key that was set has the value it was given. -/
@[simp] theorem get?_set_self (k : κ) (v : ν) (t : Keyed κ ν) : get? k (set k v t) = some v := by
  induction t with
  | nil => simp [set, get?]
  | cons x xs ih =>
    by_cases h : x.1 = k
    · simp [set, get?, h]
    · simp [set, get?, h, ih]

/-- Setting a key leaves every other key alone. -/
theorem get?_set_of_ne {k j : κ} (h : j ≠ k) (v : ν) (t : Keyed κ ν) :
    get? j (set k v t) = get? j t := by
  induction t with
  | nil => simp [set, get?, Ne.symm h]
  | cons x xs ih =>
    by_cases hx : x.1 = k
    · simp [set, get?, hx, Ne.symm h]
    · simp [set, get?, hx, ih]

/-- What a table says about a key after another was set. -/
theorem get?_set (k j : κ) (v : ν) (t : Keyed κ ν) :
    get? j (set k v t) = if j = k then some v else get? j t := by
  split
  · rename_i h
    subst h
    exact get?_set_self j v t
  · rename_i h
    exact get?_set_of_ne h v t

/-- The keys that have values are those of the entries. -/
theorem isSome_get? {k : κ} {t : Keyed κ ν} : (get? k t).isSome ↔ k ∈ t.map Prod.fst := by
  induction t with
  | nil => simp
  | cons x xs ih =>
    by_cases h : x.1 = k
    · simp [get?, h]
    · simp [get?, h, ih, Ne.symm h]

end Keyed

end ExMode
