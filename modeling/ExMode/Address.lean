import ExMode.Buffer
import ExMode.Text.Blank
import ExMode.Text.Letter

/-!
# ExMode.Address

Line addresses: an anchor (a line number, the cursor line, the last line, a
mark) and an offset from it.  In a command line the offset is written as any
number of signed terms after the anchor, a bare sign counting one, and a missing
anchor before such terms is the cursor line.

Reading takes the longest address from the front of a text and returns the
rest; it can only fail on a numeral that is too long to be converted.
-/

namespace ExMode

/-- What an address counts from. -/
inductive Anchor where
  | line (number : Int)
  | cursor
  | last
  | mark (name : Char)
  deriving DecidableEq, Repr

/-- An anchor and the number of lines from it. -/
structure Address where
  anchor : Anchor
  offset : Int
  deriving DecidableEq, Repr

namespace Address

/-- The cursor line. -/
def current : Address := ⟨.cursor, 0⟩

/-- The line with a given number. -/
def ofLine (n : Int) : Address := ⟨.line n, 0⟩

/-- The number of the line that an address means, which need not be in the buffer. -/
def resolve (b : Buffer) (a : Address) : Except Fault Int :=
  match a.anchor with
  | .line n => .ok (n + a.offset)
  | .cursor => .ok (b.cursor + 1 + a.offset)
  | .last => .ok (b.lineCount + a.offset)
  | .mark m =>
    match b.marks.get? m with
    | some i => .ok (i + 1 + a.offset)
    | none => .error (.command ⟨.markNotSet, ['\'', m]⟩)

/-! ## reading -/

/-- One signed term of an offset: whether it is added, and its digits. -/
abbrev Term := Bool × Text

/-- The digits at the front of a text, the signed terms after them, and the rest. -/
def scan : Text → Text × List Term × Text
  | [] => ([], [], [])
  | c :: r =>
    if isDigit c then (c :: (scan r).1, (scan r).2)
    else if c = '+' then ([], (true, (scan r).1) :: (scan r).2.1, (scan r).2.2)
    else if c = '-' then ([], (false, (scan r).1) :: (scan r).2.1, (scan r).2.2)
    else ([], [], c :: r)

/-- The signed terms at the front of a text, and the rest. -/
def scanTerms (t : Text) : List Term × Text :=
  if (scan t).1 = [] then (scan t).2 else ([], t)

/-- The value of one term; a bare sign counts one. -/
def termValue : Term → Except Fault Int
  | (added, ds) => do
    let n ← if ds = [] then .ok 1 else ds.readNumeral
    return if added then (n : Int) else -(n : Int)

/-- The sum of signed terms. -/
def sumTerms : List Term → Except Fault Int
  | [] => .ok 0
  | t :: ts => do
    let v ← termValue t
    let s ← sumTerms ts
    return v + s

/-- Whether a character names a mark. -/
def isMarkName (c : Char) : Bool := isAsciiLetter c || c == '<' || c == '>'

/-- Take one address from the front of a text.  The offset is converted before a line number. -/
def parse (t : Text) : Except Fault (Option Address × Text) :=
  match t with
  | [] => .ok (none, t)
  | c :: r =>
    if isDigit c then do
      let s := scan t
      let offset ← sumTerms s.2.1
      let n ← s.1.readNumeral
      return (some ⟨.line n, offset⟩, s.2.2)
    else if c = '.' then do
      let s := scanTerms r
      return (some ⟨.cursor, ← sumTerms s.1⟩, s.2)
    else if c = '$' then do
      let s := scanTerms r
      return (some ⟨.last, ← sumTerms s.1⟩, s.2)
    else if c = '+' ∨ c = '-' then do
      let s := scanTerms t
      return (some ⟨.cursor, ← sumTerms s.1⟩, s.2)
    else if c = '\'' then
      match r with
      | m :: r' =>
        if isMarkName m then do
          let s := scanTerms r'
          return (some ⟨.mark m, ← sumTerms s.1⟩, s.2)
        else .ok (none, t)
      | [] => .ok (none, t)
    else .ok (none, t)

/-! ## printing -/

/-- The canonical text of an anchor. -/
def anchorText : Anchor → Text
  | .line n => Text.ofInt n
  | .cursor => ['.']
  | .last => ['$']
  | .mark m => ['\'', m]

/-- The canonical text of an offset: nothing for zero, else one signed term. -/
def offsetText (n : Int) : Text :=
  if n = 0 then [] else if 0 < n then '+' :: Text.ofInt n else Text.ofInt n

/-- The canonical text of an address. -/
def text (a : Address) : Text := anchorText a.anchor ++ offsetText a.offset

end Address

end ExMode
