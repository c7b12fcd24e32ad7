import ExMode.Text

/-!
# ExMode.Shell.Glob

Name patterns of the shell: `*` stands for any text, `?` for any character, a
set in brackets for any of its characters.  A character that was quoted stands
for itself.
-/

namespace ExMode.Shell

/-- An item of a name pattern. -/
inductive GlobItem where
  | char (c : Char)
  | any
  | anyText
  | oneOf (negated : Bool) (ranges : List (Char × Char))
  deriving DecidableEq, Repr

namespace Glob

/-- The ranges of characters that the inside of a set names. -/
def rangesOf : Text → List (Char × Char)
  | a :: '-' :: b :: r => (a, b) :: rangesOf r
  | a :: r => (a, a) :: rangesOf r
  | [] => []

/-- The set that a text opens, after its bracket, and what follows it. -/
def set? (t : Text) : Option (GlobItem × Text) :=
  let (negated, t) : Bool × Text := match t with
    | '!' :: r => (true, r)
    | '^' :: r => (true, r)
    | _ => (false, t)
  match t with
  | first :: r =>
    match Text.cut ']' r with
    | (body, some rest) => some (.oneOf negated (rangesOf (first :: body)), rest)
    | (_, none) => none
  | [] => none

/-- The pattern that an unquoted text is. -/
def itemsFrom : Nat → Text → List GlobItem
  | 0, _ => []
  | fuel + 1, t =>
    match t with
    | [] => []
    | '*' :: r => .anyText :: itemsFrom fuel r
    | '?' :: r => .any :: itemsFrom fuel r
    | '[' :: r =>
      match set? r with
      | some (item, rest) => item :: itemsFrom fuel rest
      | none => .char '[' :: itemsFrom fuel r
    | c :: r => .char c :: itemsFrom fuel r

/-- The pattern that an unquoted text is. -/
def ofText (t : Text) : List GlobItem := itemsFrom (t.length + 1) t

/-- The pattern that stands for one text. -/
def literal (t : Text) : List GlobItem := t.map .char

/-- Whether an item that takes one character takes this one. -/
def GlobItem.takes (c : Char) : GlobItem → Bool
  | .char d => c == d
  | .any => true
  | .anyText => false
  | .oneOf negated ranges => ranges.any (fun r => decide (r.1 ≤ c) && decide (c ≤ r.2)) != negated

/-- Whether a condition holds of some part of a text that reaches to its end. -/
def anyEnd (holds : Text → Bool) : Text → Bool
  | [] => holds []
  | c :: r => holds (c :: r) || anyEnd holds r

/-- Whether a pattern covers a text. -/
def covers : List GlobItem → Text → Bool
  | [], t => t.isEmpty
  | .anyText :: items, t => anyEnd (covers items) t
  | item :: items, c :: r => GlobItem.takes c item && covers items r
  | _ :: _, [] => false

/-- A text without the shortest or the longest part at its front that a pattern covers. -/
def dropFront (longest : Bool) (items : List GlobItem) (t : Text) : Text :=
  let cuts := (List.range (t.length + 1)).filter fun n => covers items (t.take n)
  match (if longest then cuts.getLast? else cuts.head?) with
  | some n => t.drop n
  | none => t

/-- A text without the shortest or the longest part at its end that a pattern covers. -/
def dropBack (longest : Bool) (items : List GlobItem) (t : Text) : Text :=
  let cuts := (List.range (t.length + 1)).filter fun n => covers items (t.drop n)
  match (if longest then cuts.head? else cuts.getLast?) with
  | some n => t.take n
  | none => t

end Glob

end ExMode.Shell
