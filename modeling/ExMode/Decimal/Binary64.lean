import ExMode.Text

/-!
# ExMode.Decimal.Binary64

Numbers in the 64-bit binary format, as exact values.  A finite number is
`mantissa · 2 ^ exponent`; the mantissa has at most 53 bits, and it has exactly
53 of them unless the exponent is the least possible one, so that every number
has one representation.

`ofRatio` takes a fraction to the nearest number of the format, a tie to the
even mantissa, and reading a decimal numeral is that function on an exact
fraction.
-/

namespace ExMode

/-- A power of two. -/
def twoTo (n : Nat) : Nat := Nat.pow 2 n

/-- A power of ten. -/
def tenTo (n : Nat) : Nat := Nat.pow 10 n

/-- A number of the 64-bit binary format. -/
inductive Binary64 where
  | nan
  | infinity (negative : Bool)
  | finite (negative : Bool) (mantissa : Nat) (exponent : Int)
  deriving DecidableEq, Repr

namespace Binary64

/-- The least exponent of the format. -/
def minExponent : Int := -1074

/-- The greatest exponent of the format. -/
def maxExponent : Int := 971

/-- The fraction `num / den`, both natural, for `2 ^ e` with an integer `e`. -/
def scale (num den : Nat) (e : Int) : Nat × Nat :=
  if 0 ≤ e then (num * twoTo e.toNat, den) else (num, den * twoTo (-e).toNat)

/-- The integer nearest to `num / den`, a tie to the even one. -/
def roundHalfEven (num den : Nat) : Nat :=
  let q := num / den
  let r := num % den
  if 2 * r < den then q
  else if den < 2 * r then q + 1
  else if q % 2 = 0 then q else q + 1

/-- The number nearest to `num / den`. -/
def ofRatio (negative : Bool) (num den : Nat) : Binary64 :=
  if num = 0 then .finite negative 0 minExponent
  else
    let magnitude : Int := (Nat.log2 num : Int) - Nat.log2 den
    let low := max (magnitude - 53) minExponent
    let s := scale num den (-low)
    let e := if twoTo 53 ≤ s.1 / s.2 then low + 1 else low
    let t := scale num den (-e)
    let m := roundHalfEven t.1 t.2
    let me := if m = twoTo 53 then (twoTo 52, e + 1) else (m, e)
    if maxExponent < me.2 then .infinity negative else .finite negative me.1 me.2

/-- The number nearest to `digits · 10 ^ exponent`.  Exponents far outside the format are settled
without computing the power. -/
def ofDecimal (negative : Bool) (digits : Nat) (exponent : Int) : Binary64 :=
  let size : Int := (Nat.toDigits 10 digits).length + exponent
  if digits = 0 then .finite negative 0 minExponent
  else if 400 < size then .infinity negative
  else if size < -400 then .finite negative 0 minExponent
  else if 0 ≤ exponent then ofRatio negative (digits * tenTo exponent.toNat) 1
  else ofRatio negative digits (tenTo (-exponent).toNat)

/-- The number nearest to an integer; `none` when it is beyond the finite numbers. -/
def ofInt? (n : Int) : Option Binary64 :=
  match ofDecimal (decide (n < 0)) n.natAbs 0 with
  | .finite s m e => some (.finite s m e)
  | _ => none

/-- The numerator and denominator of the absolute value of a finite number. -/
def magnitude (m : Nat) (e : Int) : Nat × Nat := scale m 1 e

/-- The number as an integer, when it is one. -/
def toInt? : Binary64 → Option Int
  | .finite negative m e =>
    let r := magnitude m e
    if r.1 % r.2 = 0 then
      some (if negative then -((r.1 / r.2 : Nat) : Int) else ((r.1 / r.2 : Nat) : Int))
    else none
  | _ => none

/-- Whether the number is at most `num / den`. -/
def atMost (x : Binary64) (num den : Nat) : Bool :=
  match x with
  | .nan => false
  | .infinity negative => negative
  | .finite negative m e => negative || (let r := magnitude m e; r.1 * den ≤ num * r.2)

/-- Five. -/
def five : Binary64 := ofRatio false 5 1

/-! ## sums and products -/

/-- The number of opposite sign. -/
def neg : Binary64 → Binary64
  | .nan => .nan
  | .infinity negative => .infinity (! negative)
  | .finite negative m e => .finite (! negative) m e

/-- The signed numerator and the denominator of a finite number. -/
def fraction (negative : Bool) (m : Nat) (e : Int) : Int × Nat :=
  let r := magnitude m e
  (if negative then -(r.1 : Int) else r.1, r.2)

/-- The number nearest to the sum of two.  A sum of zero is negative only if both numbers are. -/
def add : Binary64 → Binary64 → Binary64
  | .nan, _ => .nan
  | _, .nan => .nan
  | .infinity s, .infinity t => if s = t then .infinity s else .nan
  | .infinity s, _ => .infinity s
  | _, .infinity t => .infinity t
  | .finite s m e, .finite t n f =>
    let a := fraction s m e
    let b := fraction t n f
    let num := a.1 * b.2 + b.1 * a.2
    if num = 0 then .finite (s && t) 0 minExponent
    else ofRatio (decide (num < 0)) num.natAbs (a.2 * b.2)

/-- The number nearest to the product of two. -/
def mul : Binary64 → Binary64 → Binary64
  | .nan, _ => .nan
  | _, .nan => .nan
  | .infinity s, .infinity t => .infinity (s != t)
  | .infinity s, .finite t n _ => if n = 0 then .nan else .infinity (s != t)
  | .finite s m _, .infinity t => if m = 0 then .nan else .infinity (s != t)
  | .finite s m e, .finite t n f =>
    let r := magnitude (m * n) (e + f)
    ofRatio (s != t) r.1 r.2

example : ofDecimal false 1 (-1) = .finite false 7205759403792794 (-56) := by decide
example : ofDecimal false 5 (-324) = .finite false 1 (-1074) := by decide +kernel
example : ofDecimal false 17976931348623159 292 = .infinity false := by decide +kernel
example : add (ofDecimal false 1 (-1)) (ofDecimal false 2 (-1)) =
    .finite false 5404319552844596 (-54) := by decide +kernel
example : ofRatio false 9007199254740993 1 = .finite false 4503599627370496 1 := by decide

end Binary64

end ExMode
