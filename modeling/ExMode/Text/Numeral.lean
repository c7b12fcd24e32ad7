import ExMode.Text

/-!
# ExMode.Text.Numeral

Numerals in any script.  The decimal digits (category Nd) come in runs of ten
consecutive characters, so a digit is told by the zero of its run and its value
is the distance from that zero.

Numerals are converted exactly, whatever their size, up to a fixed number of
digits; a longer numeral is refused before any arithmetic is done, and its
number of digits is the reason given.
-/

namespace ExMode

/-- The zeros of the runs of decimal digits. -/
def digitZeros : List Nat :=
  [
    0x30, 0x660, 0x6F0, 0x7C0, 0x966, 0x9E6, 0xA66, 0xAE6, 0xB66, 0xBE6, 0xC66, 0xCE6, 0xD66,
    0xDE6, 0xE50, 0xED0, 0xF20, 0x1040, 0x1090, 0x17E0, 0x1810, 0x1946, 0x19D0, 0x1A80, 0x1A90,
    0x1B50, 0x1BB0, 0x1C40, 0x1C50, 0xA620, 0xA8D0, 0xA900, 0xA9D0, 0xA9F0, 0xAA50, 0xABF0,
    0xFF10, 0x104A0, 0x10D30, 0x11066, 0x110F0, 0x11136, 0x111D0, 0x112F0, 0x11450, 0x114D0,
    0x11650, 0x116C0, 0x11730, 0x118E0, 0x11950, 0x11C50, 0x11D50, 0x11DA0, 0x16A60, 0x16AC0,
    0x16B50, 0x1D7CE, 0x1D7D8, 0x1D7E2, 0x1D7EC, 0x1D7F6, 0x1E140, 0x1E2F0, 0x1E950, 0x1FBF0
  ]

/-- The value of a decimal digit of any script. -/
def digitValue? (c : Char) : Option Nat :=
  if c.toNat < 128 then
    if '0' ≤ c && c ≤ '9' then some (c.toNat - 48) else none
  else
    (digitZeros.find? fun z => decide (z ≤ c.toNat) && decide (c.toNat < z + 10)).map
      fun z => c.toNat - z

/-- Whether a character is a decimal digit of some script. -/
def isDigit (c : Char) : Bool := (digitValue? c).isSome

/-- Whether a character is one of the ten digits of ASCII. -/
def isAsciiDigit (c : Char) : Bool := '0' ≤ c && c ≤ '9'

namespace Text

/-- The digits at the front of a text. -/
def leadingDigits (t : Text) : Text := t.takeWhile isDigit

/-- What follows the digits at the front of a text. -/
def afterDigits (t : Text) : Text := t.dropWhile isDigit

/-- The value of a run of digits, most significant first; other characters count as zero. -/
def digitsValue (t : Text) : Nat :=
  t.foldl (fun n c => 10 * n + (digitValue? c).getD 0) 0

/-- The longest numeral that is converted, in digits. -/
def maxNumeralDigits : Nat := 4300

/-- The value of a run of digits; the error is the number of digits when there are too many. -/
def numeral (t : Text) : Except Nat Nat :=
  if t.length > maxNumeralDigits then .error t.length else .ok (digitsValue t)

theorem leadingDigits_append_afterDigits (t : Text) :
    leadingDigits t ++ afterDigits t = t :=
  List.takeWhile_append_dropWhile

example : (digitValue? '\u0663', digitValue? '\uff14', digitValue? '\u00b2') =
    (some 3, some 4, none) := by
  decide

example : numeral ['0', '4', '\u0662'] = .ok 42 := rfl

end Text

end ExMode
