import ExMode.Document
import ExMode.Yaml.Date

/-!
# ExMode.Yaml.Scalar

What a plain scalar stands for.  Besides decimal numerals there are binary,
octal, hexadecimal and sexagesimal ones, underscores may stand between digits,
and a fraction needs a point: without one, digits and an exponent are text.
-/

namespace ExMode.Yaml.Scalar

open Document

/-- What a scalar is. -/
inductive Kind where
  | null
  | bool
  | int
  | float
  | timestamp
  /-- The key whose value is merged into the mapping. -/
  | merge
  /-- The key of the value of a mapping. -/
  | value
  | str
  deriving DecidableEq, Repr

/-! ## words -/

/-- The words for nothing. -/
def nullWords : List Text := ["", "~", "null", "Null", "NULL"].map String.toList

/-- The words for yes, in the spellings that are known. -/
def trueWords : List Text :=
  ["yes", "Yes", "YES", "true", "True", "TRUE", "on", "On", "ON"].map String.toList

/-- The words for no, in the spellings that are known. -/
def falseWords : List Text :=
  ["no", "No", "NO", "false", "False", "FALSE", "off", "Off", "OFF"].map String.toList

/-! ## numerals -/

/-- The text without underscores. -/
def plainDigits (t : Text) : Text := t.filter (· != '_')

/-- Whether a character is a digit or an underscore. -/
def isLooseDigit (c : Char) : Bool := isAsciiDigit c || c == '_'

/-- Whether a character is an octal digit or an underscore. -/
def isLooseOctal (c : Char) : Bool := ('0' ≤ c && c ≤ '7') || c == '_'

/-- The value of a hexadecimal digit. -/
def hexDigit? (c : Char) : Option Nat :=
  if '0' ≤ c ∧ c ≤ '9' then some (c.toNat - 48)
  else if 'a' ≤ c ∧ c ≤ 'f' then some (c.toNat - 87)
  else if 'A' ≤ c ∧ c ≤ 'F' then some (c.toNat - 55)
  else none

/-- Whether a text is a sexagesimal place: one digit, or two of which the first is less than six. -/
def isPlace : Text → Bool
  | [c] => isAsciiDigit c
  | [c, d] => '0' ≤ c && c ≤ '5' && isAsciiDigit d
  | _ => false

/-- Whether a text is digits and then sexagesimal places, a colon in front of each. -/
def hasPlaces (t : Text) : Bool :=
  match Text.splitOn ':' t with
  | first :: p :: ps => first.all isLooseDigit && (p :: ps).all isPlace
  | _ => false

/-- Whether a text looks like an integer. -/
def isInt (t : Text) : Bool :=
  match (Decimal.signOf t).2 with
  | [] => false
  | ['0'] => true
  | '0' :: 'b' :: ds => ! ds.isEmpty && ds.all fun c => c == '0' || c == '1' || c == '_'
  | '0' :: 'x' :: ds => ! ds.isEmpty && ds.all fun c => (hexDigit? c).isSome || c == '_'
  | '0' :: ds => ds.all isLooseOctal
  | c :: ds => isAsciiDigit c && (ds.all isLooseDigit || hasPlaces ds)

/-- Whether a text is an exponent with a sign, or nothing. -/
def isExponent : Text → Bool
  | [] => true
  | e :: s :: ds =>
    (e == 'e' || e == 'E') && (s == '+' || s == '-') && ! ds.isEmpty && ds.all isAsciiDigit
  | _ => false

/-- Whether a text looks like a fraction, or like infinity or no number. -/
def isFloat (t : Text) : Bool :=
  let r := (Decimal.signOf t).2
  if [".inf", ".Inf", ".INF"].any fun w => r = w.toList then true
  else if [".nan", ".NaN", ".NAN"].any fun w => t = w.toList then true
  else match Text.cut '.' r with
    | (_, none) => false
    | (whole, some r') =>
      let part : Text := r'.takeWhile isLooseDigit
      let tail := r'.dropWhile isLooseDigit
      match whole with
      | [] => t.head? == some '.' && part.head?.any isAsciiDigit && isExponent tail
      | c :: ds =>
        isAsciiDigit c &&
          ((ds.all isLooseDigit && isExponent tail) || (hasPlaces ds && tail.isEmpty))

/-- The value of a digit of any script, or a letter, in some base. -/
def digitIn? (base : Nat) (c : Char) : Option Nat :=
  ((digitValue? c).or (hexDigit? c)).bind fun d => if d < base then some d else none

/-- A numeral without the mark of its base. -/
def pastMark (base : Nat) : Text → Text
  | '0' :: c :: r =>
    let mark := lowerAscii c
    if (base = 2 ∧ mark = 'b') ∨ (base = 8 ∧ mark = 'o') ∨ (base = 16 ∧ mark = 'x') then r
    else '0' :: c :: r
  | r => r

/-- The integer that a numeral in some base is; blanks may stand around it. -/
def integerIn (base : Nat) (t : Text) : Except Fault Int :=
  let (negative, r) := Decimal.signOf (Decimal.trimmed t)
  match (pastMark base r).mapM (digitIn? base) with
  | some (d :: ds) =>
    if base = 10 ∧ Text.maxNumeralDigits < r.length then .error (.numeralTooLong r.length)
    else .ok (Decimal.signed negative ((d :: ds).foldl (fun n d => base * n + d) 0))
  | _ => .error (.notAnInteger base t)

/-- The integer that a text is when it is taken for one: binary, hexadecimal or octal by its first
characters, sexagesimal if there is a colon, and decimal otherwise. -/
def integer (t : Text) : Except Fault Int := do
  let (negative, r) := Decimal.signOf (plainDigits t)
  let n ← match r with
    | [] => .error .noDigits
    | '0' :: 'b' :: ds => integerIn 2 ds
    | '0' :: 'x' :: ds => integerIn 16 ds
    | '0' :: _ => integerIn 8 r
    | _ =>
      if r.contains ':' then do
        let places ← (Text.splitOn ':' r).mapM (integerIn 10)
        pure (places.foldl (fun n p => 60 * n + p) 0)
      else integerIn 10 r
  return if negative then -n else n

/-- The number that a numeral is; blanks may stand around it. -/
def numeral (t : Text) : Except Fault Binary64 :=
  match Decimal.numberOf? (Decimal.trimmed t) with
  | some x => .ok x
  | none => .error (.notANumber t)

/-- The number with the given sexagesimal places, the last first.  Each sum is rounded; `unit` is
what the first place counts, and must be among the finite numbers. -/
def ofPlaces (unit : Nat) (sum : Binary64) : List Binary64 → Except Fault Binary64
  | [] => .ok sum
  | p :: ps =>
    match Binary64.ofInt? unit with
    | some u => ofPlaces (60 * unit) (sum.add (p.mul u)) ps
    | none => .error .integerTooLarge

/-- The number that a text is when it is taken for one. -/
def number (t : Text) : Except Fault Binary64 := do
  let word := (plainDigits t).map lowerAscii
  let (negative, r) := Decimal.signOf word
  let x ← if word = [] then .error .noDigits
    else if r = ".inf".toList then .ok (.infinity false)
    else if r = ".nan".toList then .ok .nan
    else if r.contains ':' then do
      let places ← (Text.splitOn ':' r).mapM numeral
      ofPlaces 1 (.ofRatio false 0 1) places.reverse
    else numeral r
  return if negative then x.neg else x

/-! ## kinds -/

/-- What a plain scalar is. -/
def kindOf (t : Text) : Kind :=
  if nullWords.contains t then .null
  else if trueWords.contains t ∨ falseWords.contains t then .bool
  else if isFloat t then .float
  else if isInt t then .int
  else if t = ['<', '<'] then .merge
  else if Date.isWritten t then .timestamp
  else if t = ['='] then .value
  else .str

/-- The truth value that a text is when it is taken for one. -/
def truth (t : Text) : Except Fault Bool :=
  let word := t.map lowerAscii
  if trueWords.contains word then .ok true
  else if falseWords.contains word then .ok false
  else .error (.notAWord word)

/-- The date that a text is when it is taken for one. -/
def date (t : Text) : Except Fault Date :=
  match Date.ofText? t with
  | none => .error .notADate
  | some d =>
    match d.fault? with
    | some what => .error (.noSuchDate what)
    | none => .ok d

/-- The document that a scalar of some kind is.  The keys that only have a meaning inside mappings
are refused. -/
def read (kind : Kind) (s : Str) : Except Refusal Document :=
  match kind, s.text? with
  | .str, _ => .ok (.string s)
  | .null, _ => .ok .null
  | .bool, some t => ((truth t).map .bool).mapError .fault
  | .int, some t => ((integer t).map .int).mapError .fault
  | .float, some t => ((number t).map .float).mapError .fault
  | .timestamp, some t => ((date t).map fun d => .other d.shown).mapError .fault
  | _, _ => .error .malformed

end ExMode.Yaml.Scalar
