import ExMode.Decimal.Binary64

/-!
# ExMode.Decimal.Shortest

Decimal texts of binary numbers.  `shortest` gives the fewest digits that read
back as the same number, and of those the ones nearest to it; `significant`
gives a fixed number of digits, correctly rounded.  How digits are laid out, in
positional or scientific notation, is a `Style`.
-/

namespace ExMode.Decimal

/-- The decimal `digits · 10 ^ exponent`. -/
structure Digits where
  digits : Nat
  exponent : Int
  deriving DecidableEq, Repr

/-! ## decimal grids -/

/-- The exponent of ten that puts `num / den` between `10 ^ (n - 1)` and `10 ^ n`. -/
def gridExponent (num den n : Nat) : Int :=
  let guess : Int :=
    ((Nat.toDigits 10 num).length : Int) - (Nat.toDigits 10 den).length - n
  -- the quotient has `guess + n` or one more digits before the point
  let (a, b) :=
    if 0 ≤ guess then (num, den * tenTo guess.toNat) else (num * tenTo (-guess).toNat, den)
  if b * tenTo n ≤ a then guess + 1
  else if a < b * tenTo (n - 1) then guess - 1
  else guess

/-- The fraction `num / den` in units of `10 ^ k`. -/
def inUnits (num den : Nat) (k : Int) : Nat × Nat :=
  if 0 ≤ k then (num, den * tenTo k.toNat) else (num * tenTo (-k).toNat, den)

/-! ## the fewest digits -/

/-- The bounds of the reals that round to `m · 2 ^ e`, and the number itself, as numerators over
one denominator.  Below a power of two the gap is half as wide. -/
def bounds (m : Nat) (e : Int) : Nat × Nat × Nat × Nat :=
  let narrow := m = twoTo 52 ∧ Binary64.minExponent < e
  let lo := if narrow then 4 * m - 1 else 4 * m - 2
  let s := Binary64.scale 1 1 (e - 2)
  (lo * s.1, 4 * m * s.1, (4 * m + 2) * s.1, s.2)

/-- Whether the decimal `d · 10 ^ k` rounds to the number with the given bounds. -/
def within (even : Bool) (lo hi den : Nat) (d : Nat) (k : Int) : Bool :=
  let (a, b) := if 0 ≤ k then (d * tenTo k.toNat, 1) else (d, tenTo (-k).toNat)
  -- compare a / b with lo / den and hi / den
  if even then lo * b ≤ a * den && a * den ≤ hi * b
  else lo * b < a * den && a * den < hi * b

/-- The number on the grid of `n` digits that rounds to `m · 2 ^ e`, if there is one: of the two
neighbours the nearer, of two equally near ones the even. -/
def onGrid? (m : Nat) (e : Int) (n : Nat) : Option Digits :=
  let (lo, v, hi, den) := bounds m e
  let k := gridExponent v den n
  let (a, b) := inUnits v den k
  let d := a / b
  let r := a % b
  let even := m % 2 = 0
  let down := within even lo hi den d k
  let up := within even lo hi den (d + 1) k
  let preferUp := decide (b < 2 * r) || (decide (b = 2 * r) && decide (d % 2 = 1))
  if down && up then some ⟨if preferUp then d + 1 else d, k⟩
  else if down then some ⟨d, k⟩
  else if up then some ⟨d + 1, k⟩
  else none

/-- The fewest digits that read back as `m · 2 ^ e`; seventeen always do. -/
def shortest (m : Nat) (e : Int) : Digits :=
  if m = 0 then ⟨0, 0⟩
  else ((List.range 17).findSome? fun n => onGrid? m e (n + 1)).getD ⟨m, e⟩

/-- `m · 2 ^ e` rounded to `n` significant digits, a tie to the even last digit. -/
def significant (n : Nat) (m : Nat) (e : Int) : Digits :=
  if m = 0 then ⟨0, 0⟩
  else
    let r := Binary64.magnitude m e
    let k := gridExponent r.1 r.2 n
    let (a, b) := inUnits r.1 r.2 k
    let d := Binary64.roundHalfEven a b
    if d = tenTo n then ⟨tenTo (n - 1), k + 1⟩ else ⟨d, k⟩

/-! ## laying out digits -/

/-- How digits are laid out: positional when the point falls after more than `least` and at most
`most` digits, scientific otherwise; whether an integer keeps a zero after its point. -/
structure Style where
  least : Int
  most : Int
  keepPoint : Bool

/-- Digits without trailing zeros, with the exponent that makes up for them. -/
def stripZeros : Nat → Digits → Digits
  | 0, d => d
  | fuel + 1, d =>
    if d.digits ≠ 0 ∧ d.digits % 10 = 0 then stripZeros fuel ⟨d.digits / 10, d.exponent + 1⟩ else d

/-- The text of a decimal in the given style. -/
def Digits.text (style : Style) (d : Digits) : Text :=
  let d := stripZeros (Nat.toDigits 10 d.digits).length d
  let ds := Nat.toDigits 10 d.digits
  let point : Int := if d.digits = 0 then 1 else ds.length + d.exponent
  if style.least < point ∧ point ≤ style.most then
    if point ≤ 0 then '0' :: '.' :: List.replicate (-point).toNat '0' ++ ds
    else if (ds.length : Int) ≤ point then
      ds ++ List.replicate (point.toNat - ds.length) '0' ++
        (if style.keepPoint then ['.', '0'] else [])
    else ds.take point.toNat ++ '.' :: ds.drop point.toNat
  else
    let x := point - 1
    let xs := Nat.toDigits 10 x.natAbs
    ds.take 1 ++ (if ds.length = 1 then [] else '.' :: ds.drop 1) ++
      'e' :: (if x < 0 then '-' else '+') :: List.replicate (2 - xs.length) '0' ++ xs

/-- The text of a number: the sign, and `nan` and `inf` for the values that are no decimals. -/
def text (style : Style) (digits : Nat → Int → Digits) : Binary64 → Text
  | .nan => "nan".toList
  | .infinity negative => (if negative then ['-'] else []) ++ "inf".toList
  | .finite negative m e => (if negative then ['-'] else []) ++ (digits m e).text style

/-- Exact text: the shortest digits, positional up to sixteen places before the point, and always
recognisable as a fraction. -/
def exact : Binary64 → Text := text ⟨-4, 16, true⟩ shortest

/-- Brief text: six significant digits, no trailing zeros, no point in an integer. -/
def brief : Binary64 → Text := text ⟨-4, 6, false⟩ (significant 6)

example : exact (.ofDecimal false 1 23) = "1e+23".toList := by decide +kernel
example : exact (.ofDecimal false 5 (-324)) = "5e-324".toList := by decide +kernel
example : exact (.ofDecimal false 1234567890125 (-4)) = "123456789.0125".toList := by decide +kernel
example : brief (.ofDecimal false 5 (-2)) = "0.05".toList := by decide +kernel
example : brief (.ofDecimal false 1234567 0) = "1.23457e+06".toList := by decide +kernel

end ExMode.Decimal
