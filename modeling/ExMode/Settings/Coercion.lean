import ExMode.Decimal.Numeral
import ExMode.Document

/-!
# ExMode.Settings.Coercion

What a document value is taken for when a setting of some type is wanted.  Where
nothing is lost a value of another type will do: a numeral in quotes is a
number, a whole fraction is an integer, and there are many words for yes and no.
Text is never made out of anything else.
-/

namespace ExMode.Settings

/-- The digits of a text in which single underscores may stand between digits. -/
def withoutUnderscores? (t : Text) : Option Text :=
  let parts := Text.splitOn '_' t
  if parts.length < 2 ∨ parts.any (·.isEmpty) then none else some parts.flatten

/-! ## truth values -/

/-- The words for no. -/
def noWords : List Text :=
  ["0", "off", "f", "false", "n", "no"].map String.toList

/-- The words for yes. -/
def yesWords : List Text :=
  ["1", "on", "t", "true", "y", "yes"].map String.toList

/-- The truth value that a value is taken for. -/
def asBool? : Document → Option Bool
  | .bool b => some b
  | .int n => if n = 0 then some false else if n = 1 then some true else none
  | .float x =>
    if x.toInt? = some 0 then some false else if x.toInt? = some 1 then some true else none
  | .string (.text t) =>
    let word := t.map lowerAscii
    if yesWords.contains word then some true else if noWords.contains word then some false else none
  | _ => none

/-! ## integers -/

/-- A numeral without leading zeros; underscores may stand among them. -/
def withoutZeros (t : Text) : Text :=
  match t with
  | '0' :: _ => t.dropWhile fun c => c == '0' || c == '_'
  | _ => t

/-- A numeral without a point and zeros after it. -/
def withoutPoint (t : Text) : Text :=
  match Text.cut '.' t with
  | (whole, some zeros) => if zeros.all (· == '0') then whole else t
  | (_, none) => t

/-- The positive integer that a numeral in quotes stands for. -/
def positive? (t : Text) : Option Nat :=
  let t := Decimal.trimmed t
  let unsigned : Text := match t with
    | '+' :: r => r
    | _ => t
  let core := withoutPoint (withoutZeros unsigned)
  let digits := (withoutUnderscores? core).getD core
  if digits ≠ [] ∧ digits.all isAsciiDigit ∧ digits.length ≤ Text.maxNumeralDigits then
    if digits.digitsValue = 0 then none else some digits.digitsValue
  else none

/-- The greatest integer that a fraction is taken for. -/
def maxWhole : Int := 9223372036854775808

/-- The integer, at least one, that a value is taken for. -/
def asPositive? (d : Document) : Option Int :=
  let n : Option Int := match d with
    | .bool b => some (if b then 1 else 0)
    | .int n => some n
    | .float x => x.toInt?.bind fun n =>
      if n < maxWhole then some n else if n = maxWhole then some (maxWhole - 1) else none
    | .string (.text t) => (positive? t).map fun n => (n : Int)
    | _ => none
  n.bind fun n => if 1 ≤ n then some n else none

/-! ## fractions -/

/-- The number that a value is taken for. -/
def asNumber? : Document → Option Binary64
  | .bool b => Binary64.ofInt? (if b then 1 else 0)
  | .int n => Binary64.ofInt? n
  | .float x => some x
  | .string (.text t) =>
    (Decimal.numberOf? (Decimal.trimmed t)).or ((withoutUnderscores? t).bind Decimal.numberOf?)
  | _ => none

/-- The number above zero that a value is taken for.  What is no number is not above zero. -/
def asPositiveNumber? (d : Document) : Option Binary64 :=
  (asNumber? d).bind fun x => if x = .nan ∨ x.atMost 0 1 then none else some x

end ExMode.Settings
