import ExMode.Address

/-!
# ExMode.LineRange

Ranges of lines in front of a command: the whole file, one address, or two
addresses with a separator.  After a comma both addresses count from the same
cursor; after a semicolon the second counts from the line the first one means.

Resolving a range gives the first and last line it spans, in order and counted
from zero, or refuses a range that leaves the buffer; with clamping it is
brought into the buffer instead.
-/

namespace ExMode

/-- What stands between the two addresses of a range. -/
inductive Separator where
  | comma
  | semicolon
  deriving DecidableEq, Repr

/-- A range of lines. -/
inductive LineRange where
  | wholeFile
  | single (address : Address)
  | pair (start : Address) (separator : Separator) (stop : Address)
  deriving DecidableEq, Repr

/-- The first and the last line of a span, counted from zero. -/
structure LineSpan where
  first : Int
  last : Int
  deriving DecidableEq, Repr

namespace Separator

/-- The separator that a character is, if it is one. -/
def ofChar? (c : Char) : Option Separator :=
  if c = ',' then some .comma else if c = ';' then some .semicolon else none

/-- The character of a separator. -/
def char : Separator → Char
  | .comma => ','
  | .semicolon => ';'

theorem ofChar?_char (s : Separator) : ofChar? s.char = some s := by cases s <;> rfl

end Separator

namespace LineRange

/-- A range over absolute line numbers. -/
def ofLines (start : Int) (stop : Option Int) : LineRange :=
  match stop with
  | none => .single (.ofLine start)
  | some n => .pair (.ofLine start) .comma (.ofLine n)

/-! ## resolving -/

/-- The line numbers that the two sides of a range mean. -/
def endpoints (b : Buffer) : LineRange → Except Fault (Int × Int)
  | .wholeFile => .ok (1, b.lineCount)
  | .single a => do
    let n ← a.resolve b
    return (n, n)
  | .pair a .comma c => do
    let m ← a.resolve b
    let n ← c.resolve b
    return (m, n)
  | .pair a .semicolon c => do
    let m ← a.resolve b
    let moved : Int := max 0 (min (m - 1) (b.lineCount - 1))
    let n ← c.resolve { b with cursor := moved }
    return (m, n)

/-- The span of a range; a range that leaves the buffer is refused. -/
def resolve (b : Buffer) (r : LineRange) : Except Fault LineSpan :=
  match r with
  | .wholeFile => .ok ⟨0, b.lineCount - 1⟩
  | _ => do
    let (m, n) ← r.endpoints b
    if min m n < 1 ∨ b.lineCount < max m n then .error (.command (.plain .invalidRange))
    else return ⟨min m n - 1, max m n - 1⟩

/-- The span of a range, each side brought into the buffer. -/
def resolveClamped (b : Buffer) (r : LineRange) : Except Fault LineSpan :=
  match r with
  | .wholeFile => .ok ⟨0, b.lineCount - 1⟩
  | _ => do
    let (m, n) ← r.endpoints b
    return ⟨max 1 (min (min m n) b.lineCount) - 1, max 1 (min (max m n) b.lineCount) - 1⟩

/-! ## reading -/

/-- Take an optional range from the front of a text, after its leading blanks.  A separator may
stand alone, then the cursor line is meant; but what follows it must not look like a botched
address. -/
def parse (t : Text) : Except Fault (Option LineRange × Text) :=
  match t.trimLeft with
  | '%' :: r => .ok (some .wholeFile, r)
  | s => do
    let (start, rest) ← Address.parse s
    match rest with
    | [] => return (start.map .single, rest)
    | c :: r =>
      match Separator.ofChar? c with
      | none => return (start.map .single, rest)
      | some sep =>
        let (stop, rest) ← Address.parse r
        match stop, rest with
        | none, d :: _ =>
          if ! isLetter d && ! isBlank d then
            throw (.command ⟨.invalidAddress, rest⟩)
          else return (some (.pair (start.getD .current) sep .current), rest)
        | _, _ =>
          return (some (.pair (start.getD .current) sep (stop.getD .current)), rest)

/-- Cut a command line behind its range: the range, the text up to its end, and the rest.  A line
whose range is refused is left whole, without its colons. -/
def splitFront (t : Text) : Except Fault (Option LineRange × Text × Text) :=
  let body := t.trimLeftOf ':'
  match parse body with
  | .ok (range, rest) => .ok (range, t.take (t.length - rest.length), rest)
  | .error fault =>
    match fault.asCommandError? with
    | some _ => .ok (none, [], body)
    | none => .error fault

/-! ## printing -/

/-- The canonical text of a range. -/
def text : LineRange → Text
  | .wholeFile => ['%']
  | .single a => a.text
  | .pair a s c => a.text ++ s.char :: c.text

end LineRange

end ExMode
