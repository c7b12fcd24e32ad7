import ExMode.Decimal.Binary64
import ExMode.Text.Blank
import ExMode.Text.Casing
import ExMode.Text.Numeral

/-!
# ExMode.Decimal.Numeral

Numbers in decimal notation: a sign, digits with at most one point among them,
and an exponent.  The digits on both sides of the point are one integer, and the
point only moves the exponent, so the number is read exactly and rounded once.
Infinity and what is no number are written as words.
-/

namespace ExMode.Decimal

/-- The text without the blanks around it, where the separators of files, groups, records and units
are no blanks. -/
def trimmed (t : Text) : Text :=
  let blank (c : Char) : Bool := isBlank c && ! (0x1C ≤ c.toNat && c.toNat < 0x20)
  ((t.dropWhile blank).reverse.dropWhile blank).reverse

/-- The sign of a numeral, whether it is a minus, and what follows it. -/
def signOf : Text → Bool × Text
  | '-' :: r => (true, r)
  | '+' :: r => (false, r)
  | t => (false, t)

/-- A signed integer. -/
def signed (negative : Bool) (n : Nat) : Int := if negative then -(n : Int) else n

/-- The exponent that ends a numeral; zero when the text is empty. -/
def exponentOf? : Text → Option Int
  | [] => some 0
  | c :: r =>
    let (negative, ds) := signOf r
    if (c == 'e' || c == 'E') && ! ds.isEmpty && ds.all isAsciiDigit then
      some (signed negative ds.digitsValue)
    else none

/-- The number that a decimal numeral without a sign stands for. -/
def decimalOf? (negative : Bool) (t : Text) : Option Binary64 :=
  let whole : Text := t.takeWhile isAsciiDigit
  let r := t.dropWhile isAsciiDigit
  let (part, r) : Text × Text := match r with
    | '.' :: r => (r.takeWhile isAsciiDigit, r.dropWhile isAsciiDigit)
    | _ => ([], r)
  let digits : Text := whole ++ part
  if digits = [] then none
  else (exponentOf? r).map fun e => .ofDecimal negative digits.digitsValue (e - part.length)

/-- The number that a text stands for. -/
def numberOf? (t : Text) : Option Binary64 :=
  let (negative, r) := signOf t
  let word := r.map lowerAscii
  if word = "inf".toList ∨ word = "infinity".toList then some (.infinity negative)
  else if word = "nan".toList then some .nan
  else decimalOf? negative r

example : exponentOf? ['e', '-', '0', '7'] = some (-7) := by decide
example : decimalOf? true ['2', '5', '.', '0'] = some (.ofRatio true 25 1) := by decide +kernel
example : decimalOf? false ['.'] = none := by decide

end ExMode.Decimal
