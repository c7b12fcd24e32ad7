import ExMode.Document
import ExMode.Text.Numeral

/-!
# ExMode.Json

Reading and writing documents in JSON.

Besides the standard grammar the reader knows the numbers `NaN`, `Infinity` and
`-Infinity`; it refuses control characters inside strings, leading zeros and
anything after the document.  Two escapes that make up a surrogate pair are one
character.  Of the writer only strings are needed: each quote, backslash and
control character of a string is escaped and everything else stands for itself.
-/

namespace ExMode.Json

open Document

/-- Whether a character may stand between the parts of a document. -/
def isLayout (c : Char) : Bool := c == ' ' || c == '\t' || c == '\n' || c == '\r'

/-- The text without leading layout. -/
def skipLayout (t : Text) : Text := t.dropWhile isLayout

/-! ## strings -/

/-- The value of a hexadecimal digit. -/
def hexValue? (c : Char) : Option Nat :=
  if '0' ≤ c ∧ c ≤ '9' then some (c.toNat - 48)
  else if 'a' ≤ c ∧ c ≤ 'f' then some (c.toNat - 87)
  else if 'A' ≤ c ∧ c ≤ 'F' then some (c.toNat - 55)
  else none

/-- The code point that four hexadecimal digits name. -/
def hexCode? (a b c d : Char) : Option Nat := do
  return (((← hexValue? a) * 16 + (← hexValue? b)) * 16 + (← hexValue? c)) * 16 + (← hexValue? d)

/-- What a character stands for after a backslash. -/
def escapeCode? : Char → Option Nat
  | '"' => some 34
  | '\\' => some 92
  | '/' => some 47
  | 'b' => some 8
  | 'f' => some 12
  | 'n' => some 10
  | 'r' => some 13
  | 't' => some 9
  | _ => none

/-- A code point in front of what was read. -/
def consCode (n : Nat) (r : Except Refusal (List Nat × Text)) : Except Refusal (List Nat × Text) :=
  r.map fun x => (n :: x.1, x.2)

/-- The code points of a string up to its closing quote. -/
def stringCodes : Text → Except Refusal (List Nat × Text)
  | [] => .error .malformed
  | '"' :: r => .ok ([], r)
  | '\\' :: 'u' :: a :: b :: c :: d :: r =>
    match hexCode? a b c d with
    | some n => consCode n (stringCodes r)
    | none => .error .malformed
  | '\\' :: c :: r =>
    match escapeCode? c with
    | some n => consCode n (stringCodes r)
    | none => .error .malformed
  | c :: r => if c.toNat < 32 then .error .malformed else consCode c.toNat (stringCodes r)

/-- Whether a code point can begin a surrogate pair. -/
def isHigh (n : Nat) : Bool := 0xD800 ≤ n && n < 0xDC00

/-- Whether a code point can end a surrogate pair. -/
def isLow (n : Nat) : Bool := 0xDC00 ≤ n && n < 0xE000

/-- Code points with each surrogate pair joined. -/
def joinPairs : List Nat → List Nat
  | [] => []
  | [m] => [m]
  | m :: n :: r =>
    if isHigh m && isLow n then (0x10000 + (m - 0xD800) * 0x400 + (n - 0xDC00)) :: joinPairs r
    else m :: joinPairs (n :: r)

/-- A string after its opening quote. -/
def stringRest (t : Text) : Except Refusal (Str × Text) := do
  let (codes, r) ← stringCodes t
  return (.ofCodes (joinPairs codes), r)

/-! ## numbers -/

/-- The ASCII digits at the front of a text. -/
def frontDigits (t : Text) : Text := t.takeWhile isAsciiDigit

/-- The fraction part at the front of a text, without its point; empty when there is none. -/
def fraction : Text → Text × Text
  | '.' :: r =>
    if frontDigits r = [] then ([], '.' :: r) else (frontDigits r, r.dropWhile isAsciiDigit)
  | t => ([], t)

/-- The exponent at the front of a text, if there is one. -/
def exponent? (t : Text) : Option (Int × Text) :=
  match t with
  | e :: r =>
    if e = 'e' ∨ e = 'E' then
      let (negative, ds) : Bool × Text := match r with
        | '-' :: r' => (true, r')
        | '+' :: r' => (false, r')
        | _ => (false, r)
      if frontDigits ds = [] then none
      else
        let n : Int := (frontDigits ds).digitsValue
        some (if negative then -n else n, ds.dropWhile isAsciiDigit)
    else none
  | [] => none

/-- The digits of an integer at the front of a text, without needless zeros. -/
def integerDigits (t : Text) : Text :=
  match t with
  | '0' :: _ => ['0']
  | _ => frontDigits t

/-- A number after its sign. -/
def numberRest (negative : Bool) (t : Text) : Except Refusal (Document × Text) :=
  let whole := integerDigits t
  if whole = [] then .error .malformed
  else
    let (part, r) := fraction (t.drop whole.length)
    match part, exponent? r with
    | [], none =>
      match whole.readNumeral with
      | .ok n => .ok (.int (if negative then -(n : Int) else n), r)
      | .error f => .error (.fault f)
    | _, e =>
      let digits : Text := whole ++ part
      let (exponent, r') := e.getD (0, r)
      .ok (.float (.ofDecimal negative digits.digitsValue (exponent - part.length)), r')

/-! ## documents -/

/-- Take a fixed word from the front of a text. -/
def word (w : String) (d : Document) (t : Text) : Except Refusal (Document × Text) :=
  if w.toList.isPrefixOf t then .ok (d, t.drop w.toList.length) else .error .malformed

/-- The most brackets that may be open at once.  What stands in a bracket is read by one more call
within that for the bracket, a thousand calls may be open inside one another, and about fifteen of
them are when the reading of a history or of settings begins. -/
def maxDepth : Nat := 985

/-- The refusal of a document that is nested too deeply. -/
def tooDeep (what : String) : Refusal :=
  .fault (.nestedTooDeeply ("maximum recursion depth exceeded while decoding a JSON " ++ what ++
    " from a unicode string"))

mutual

/-- A document at the front of a text.  The first number bounds the steps, the second the brackets
that may still be opened. -/
def value : Nat → Nat → Text → Except Refusal (Document × Text)
  | 0, _, _ => .error .malformed
  | fuel + 1, depth, t =>
    match t with
    | '"' :: r => do
      let (s, r') ← stringRest r
      return (.string s, r')
    | '[' :: r =>
      if depth = 0 then .error (tooDeep "array")
      else match skipLayout r with
        | ']' :: r' => .ok (.list [], r')
        | r' => do
          let (ds, r'') ← items fuel (depth - 1) r'
          return (.list ds, r'')
    | '\x7b' :: r =>
      if depth = 0 then .error (tooDeep "object")
      else match skipLayout r with
        | '\x7d' :: r' => .ok (.map [], r')
        | r' => do
          let (ms, r'') ← members fuel (depth - 1) [] r'
          return (.map ms, r'')
    | 'n' :: _ => word "null" .null t
    | 't' :: _ => word "true" (.bool true) t
    | 'f' :: _ => word "false" (.bool false) t
    | 'N' :: _ => word "NaN" (.float .nan) t
    | 'I' :: _ => word "Infinity" (.float (.infinity false)) t
    | '-' :: 'I' :: _ => word "-Infinity" (.float (.infinity true)) t
    | '-' :: r => numberRest true r
    | _ => numberRest false t

/-- The items of a list up to its closing bracket. -/
def items : Nat → Nat → Text → Except Refusal (List Document × Text)
  | 0, _, _ => .error .malformed
  | fuel + 1, depth, t => do
    let (d, r) ← value fuel depth t
    match skipLayout r with
    | ']' :: r' => return ([d], r')
    | ',' :: r' => do
      let (ds, r'') ← items fuel depth (skipLayout r')
      return (d :: ds, r'')
    | _ => .error .malformed

/-- The members of a mapping up to its closing bracket, added to those read before. -/
def members : Nat → Nat → List (Document × Document) → Text →
    Except Refusal (List (Document × Document) × Text)
  | 0, _, _, _ => .error .malformed
  | fuel + 1, depth, before, t =>
    match t with
    | '"' :: r => do
      let (k, r) ← stringRest r
      match skipLayout r with
      | ':' :: r => do
        let (v, r) ← value fuel depth (skipLayout r)
        let now := setMember (.string k) v before
        match skipLayout r with
        | '\x7d' :: r => return (now, r)
        | ',' :: r => members fuel depth now (skipLayout r)
        | _ => .error .malformed
      | _ => .error .malformed
    | _ => .error .malformed

end

/-- The document that a text spells, with nothing after it. -/
def read (t : Text) : Except Refusal Document := do
  let (d, r) ← value (2 * t.length + 2) maxDepth (skipLayout t)
  if skipLayout r = [] then return d else .error .malformed

/-! ## writing -/

/-- A character inside a written string. -/
def writtenChar (c : Char) : Text :=
  if c = '"' then ['\\', '"']
  else if c = '\\' then ['\\', '\\']
  else if c = '\x08' then ['\\', 'b']
  else if c = '\t' then ['\\', 't']
  else if c = '\n' then ['\\', 'n']
  else if c = '\x0c' then ['\\', 'f']
  else if c = '\r' then ['\\', 'r']
  else if c.toNat < 32 then '\\' :: 'u' :: Text.hexDigits 4 c.toNat
  else [c]

/-- A string in writing. -/
def writtenString (t : Text) : Text := '"' :: t.flatMap writtenChar ++ ['"']

end ExMode.Json
