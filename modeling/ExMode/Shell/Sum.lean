import ExMode.Shell.Script

/-!
# ExMode.Shell.Sum

The integer sums that a script can compute: the four operations and the
remainder, comparisons, brackets, and the names of parameters.
-/

namespace ExMode.Shell.Sum

/-- The operators by how tightly they bind, loosest first. -/
def levels : List (List String) :=
  [["||"], ["&&"], ["==", "!="], ["<=", ">=", "<", ">"], ["+", "-"], ["*", "/", "%"]]

/-- The value of an operation; nothing for a division by zero. -/
def apply (o : String) (a b : Int) : Option Int :=
  let truth (p : Bool) : Option Int := some (if p then 1 else 0)
  match o with
  | "+" => some (a + b)
  | "-" => some (a - b)
  | "*" => some (a * b)
  | "/" => if b = 0 then none else some (a.tdiv b)
  | "%" => if b = 0 then none else some (a.tmod b)
  | "==" => truth (a == b)
  | "!=" => truth (a != b)
  | "<=" => truth (decide (a ≤ b))
  | ">=" => truth (decide (b ≤ a))
  | "<" => truth (decide (a < b))
  | ">" => truth (decide (b < a))
  | "&&" => truth (a != 0 && b != 0)
  | _ => truth (a != 0 || b != 0)

/-- A text without the blanks at its front. -/
def skip (t : Text) : Text := t.dropWhile fun c => c == ' ' || c == '\t' || c == '\n'

mutual

/-- A value: a number, a name, a bracket or a sign with a value. -/
def atom (value : Text → Int) : Nat → Text → Option (Int × Text)
  | 0, _ => none
  | fuel + 1, t =>
    match skip t with
    | '-' :: r => (atom value fuel r).map fun x => (-x.1, x.2)
    | '+' :: r => atom value fuel r
    | '!' :: r => (atom value fuel r).map fun x => (if x.1 = 0 then 1 else 0, x.2)
    | '(' :: r =>
      match level value fuel levels r with
      | some (v, rest) =>
        match skip rest with
        | ')' :: rest => some (v, rest)
        | _ => none
      | none => none
    | c :: r =>
      if isAsciiDigit c then
        some (Text.digitsValue ((c :: r).takeWhile isAsciiDigit), (c :: r).dropWhile isAsciiDigit)
      else if isNameChar c then
        some (value ((c :: r).takeWhile isNameChar), (c :: r).dropWhile isNameChar)
      else none
    | [] => none

/-- Values joined by the operators of these levels. -/
def level (value : Text → Int) : Nat → List (List String) → Text → Option (Int × Text)
  | 0, _, _ => none
  | fuel + 1, [], t => atom value fuel t
  | fuel + 1, operators :: tighter, t => do
    let (first, rest) ← level value fuel tighter t
    more value fuel operators tighter first rest

/-- The operations that follow a value. -/
def more (value : Text → Int) : Nat → List String → List (List String) → Int → Text →
    Option (Int × Text)
  | 0, _, _, _, _ => none
  | fuel + 1, operators, tighter, first, t =>
    match operators.find? fun o => o.toList.isPrefixOf (skip t) with
    | none => some (first, t)
    | some o => do
      let (second, rest) ← level value fuel tighter ((skip t).drop o.length)
      more value fuel operators tighter (← apply o first second) rest

end

/-- The value of a sum; nothing when it is none. -/
def value? (value : Text → Int) (t : Text) : Option Int :=
  if (skip t).isEmpty then some 0
  else match level value (10 * t.length + 20) levels t with
    | some (v, rest) => if (skip rest).isEmpty then some v else none
    | none => none

example : value? (fun _ => 7) "1 + 2 * (x - 3)".toList = some 9 := by decide +kernel

end ExMode.Shell.Sum
