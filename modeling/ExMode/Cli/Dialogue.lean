import ExMode.Session.InputBox
import ExMode.Decimal.Numeral
import ExMode.Workspace

/-!
# ExMode.Cli.Dialogue

Reading command lines from a terminal.  A dialogue waits for a line or for a
number of an entry of the history, and each answer takes it to what it waits for
next; the end of the input is an answer too.  So a dialogue is a function of the
answers, wherever they come from.
-/

namespace ExMode.Cli

/-- What a dialogue waits for. -/
inductive Waiting where
  | line
  /-- The number of one of these entries. -/
  | number (items : List Text)
  /-- Nothing: it is over. -/
  | nothing
  deriving DecidableEq, Repr

namespace Dialogue

/-- The words that end a dialogue. -/
def farewells : List Text := ["exit", "exit()", "quit()"].map String.toList

/-- Ask for a line, unless the editor was asked to quit. -/
def askLine (e : Engine) : Action Waiting := do
  if (← get).editor.buffer.quitRequested then return .nothing
  else
    Action.print (e.settings.commandLine.prompt ++ ": ".toList)
    return .line

/-- Ask for the number of an entry. -/
def askNumber (items : List Text) : Action Waiting := do
  Action.print "select: ".toList
  return .number items

/-- Open a dialogue. -/
def start (e : Engine) : Action Waiting := do
  modify InputBox.openBox
  askLine e

/-- Entries with their numbers, which start at one. -/
def numbered (items : List Text) : List (List Text) :=
  ((List.range items.length).zip items).map fun (i, t) => [Text.ofNat (i + 1), t]

/-- A table of entries of the history. -/
def historyTable (settings : Settings) (items : List Text) : Except Fault Text :=
  Console.table settings.commandLine.historyPlaceholder [['#'], "Command".toList] (numbered items)

/-- Offer the entries of the history. -/
def browse (e : Engine) : Action Waiting := do
  let items ← InputBox.offerHistory e []
  if items.isEmpty then askLine e
  else
    Action.print (← MonadExcept.ofExcept (historyTable e.settings items))
    askNumber items

/-- Go on after a line. -/
def takeLine (e : Engine) (raw : Text) : Action Waiting := do
  let word := raw.trim
  if farewells.contains (word.map lowerAscii) then
    Action.print "bye\n".toList
    return .nothing
  else if word = ['?'] then browse e
  else
    discard (InputBox.submit e raw)
    askLine e

/-- The integer that a text is: digits of any script with single underscores between them, a sign in
front, blanks around it. -/
def integer? (t : Text) : Option Int :=
  let (negative, digits) := Decimal.signOf t.trim
  let parts := Text.splitOn '_' digits
  let count := parts.flatten.length
  if (parts.all fun p => ! p.isEmpty && p.all isDigit) && count ≤ Text.maxNumeralDigits then
    let n : Int := Text.digitsValue parts.flatten
    some (if negative then -n else n)
  else none

/-- Go on after a number; nothing at all and zero choose no entry. -/
def takeNumber (e : Engine) (items : List Text) (answer : Text) : Action Waiting := do
  match (if answer = [] then some 0 else integer? answer) with
  | none =>
    Action.print ("Error: ".toList ++ answer.quoted ++ " is not a valid integer range.\n".toList)
    askNumber items
  | some n =>
    if n < 0 ∨ (items.length : Int) < n then
      Action.print ("Error: ".toList ++ Text.ofInt n ++ " is not in the range 0<=x<=".toList ++
        Text.ofNat items.length ++ ".\n".toList)
      askNumber items
    else
      match (if n = 0 then none else items[n.toNat - 1]?) with
      | some (c :: r) =>
        discard (InputBox.submit e (c :: r))
        askLine e
      | _ => askLine e

/-- Go on after an answer, or after the end of the input. -/
def answer (e : Engine) : Waiting → Option Text → Action Waiting
  | .line, some raw => takeLine e raw
  | .line, none => do
    Action.print "\nbye\n".toList
    return .nothing
  | .number items, some t => takeNumber e items t
  | .number _, none => askLine e
  | .nothing, _ => return .nothing

/-- Close a dialogue. -/
def finish : Action Unit := modify InputBox.closeBox

/-- A whole dialogue with the lines of an input, as a terminal shows it: each line can be seen where
it is typed. -/
def withLines (e : Engine) : Waiting → List Text → Action Unit
  | .nothing, _ => return ()
  | w, [] => do
    let w ← answer e w none
    if w ≠ .nothing then discard (answer e w none)
  | w, l :: ls => do
    Action.print (l ++ ['\n'])
    withLines e (← answer e w (some l)) ls

end Dialogue

end ExMode.Cli
