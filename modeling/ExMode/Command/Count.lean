import ExMode.LineRange

/-!
# ExMode.Command.Count

The `[x] [count]` tail of commands that move lines: an optional register name,
which is any one character that is neither a digit nor blank, and an optional
count of at least one.  With a count the command acts on that many lines from
the last line of its range on, as far as the buffer goes.
-/

namespace ExMode

/-- A register and a count, each as far as given. -/
structure LineTarget where
  register : Option Char
  count : Option Nat
  deriving DecidableEq, Repr

namespace LineTarget

/-- Read the register, if the text starts with one. -/
def takeRegister : Text → Option Char × Text
  | [] => (none, [])
  | c :: r => if isDigit c || isBlank c then (none, c :: r) else (some c, r)

/-- Read a register and a count that take up the whole text but for blanks. -/
def parse (args : Text) : Except Fault LineTarget :=
  let (register, rest) := takeRegister args.trimLeft
  let rest := rest.trimLeft
  let digits := rest.leadingDigits
  if rest.afterDigits.trimLeft ≠ [] then
    .error (.command ⟨.trailingCharacters, args.trim⟩)
  else if digits = [] then .ok ⟨register, none⟩
  else do
    let n ← digits.readNumeral
    if n < 1 then .error (.command ⟨.invalidArgument, digits⟩)
    else return ⟨register, some n⟩

end LineTarget

/-- The lines that a command acts on: its range or the cursor line, and with a count that many
lines from the last of them on. -/
def Buffer.span (b : Buffer) (range : Option LineRange) (count : Option Nat) :
    Except Fault LineSpan := do
  let s ← match range with
    | none => .ok ⟨b.cursor, b.cursor⟩
    | some r => r.resolve b
  match count with
  | none => return s
  | some n => return ⟨s.last, min (s.last + n - 1) (b.lineCount - 1)⟩

end ExMode
