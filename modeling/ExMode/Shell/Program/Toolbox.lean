import ExMode.Shell.Program.Edit
import ExMode.Shell.Program.File

/-!
# ExMode.Shell.Program.Toolbox

All programs by name, the small ones among them included: conditions, pauses and
numbers in order.
-/

namespace ExMode.Shell.Program

open Utf8 (Bytes)

/-! ## conditions and time -/

/-- Whether a condition on files, texts or numbers holds. -/
def holds (d : Disk) : List Text → Bool
  | [] => false
  | [t] => ! t.isEmpty
  | ['!'] :: r => ! holds d r
  | [['-', c], t] =>
    let found := (d.find? (pathOf t)).toOption.join
    match c with
    | 'n' => ! t.isEmpty
    | 'z' => t.isEmpty
    | 'e' => found.isSome
    | 'f' => found.any fun e => e != .directory
    | 'd' => found == some .directory
    | 's' => ! ((d.readBytes (pathOf t)).toOption.getD []).isEmpty
    | 'x' => found.any fun e => match e with
      | .directory => true
      | .file _ executable => executable
    | _ => found.isSome
  | [a, o, b] =>
    match String.ofList o with
    | "=" => a == b
    | "!=" => a != b
    | "-eq" => integerOf a == integerOf b
    | "-ne" => integerOf a != integerOf b
    | "-lt" => decide (integerOf a < integerOf b)
    | "-le" => decide (integerOf a ≤ integerOf b)
    | "-gt" => decide (integerOf b < integerOf a)
    | "-ge" => decide (integerOf b ≤ integerOf a)
    | _ => false
  | _ => false

/-- A condition as a program; in brackets the last argument closes them. -/
def test (bracketed : Bool) : Program := fun args _ d =>
  ending (if holds d (if bracketed then args.dropLast else args) then 0 else 1) d

/-- A pause of some seconds, which may have a fraction. -/
def sleep : Program := fun args _ d =>
  let (whole, part) := Text.cut '.' (args.head?.getD [])
  let decimals : Text := ((part.getD []) ++ List.replicate 6 '0').take 6
  ⟨0, [], [], d, Text.digitsValue whole * 1000000 + decimals.digitsValue, false⟩

/-- Numbers in order. -/
def seq : Program := fun args _ d =>
  let (a, b) : Int × Int := match args with
    | [n] => (1, integerOf n)
    | m :: n :: _ => (integerOf m, integerOf n)
    | [] => (1, 0)
  writing ((List.range (b + 1 - a).toNat).flatMap fun (i : Nat) =>
    Utf8.encode (Text.ofInt (a + i) ++ ['\n'])) d

/-! ## the programs by name -/

/-- The programs by name. -/
def byName : List (String × Program) :=
  [ ("echo", echo), ("printf", printf), ("cat", cat), ("sort", sort), ("cut", cut), ("head", head),
    ("tail", tail), ("wc", wc), ("uniq", uniq), ("tac", tac), ("rev", rev), ("tr", tr),
    ("tee", tee), ("grep", grep), ("sed", sed), ("basename", basename), ("dirname", dirname),
    ("ls", ls),
    ("rm", rm), ("cp", cp), ("mv", mv), ("touch", touch), ("mkdir", mkdir),
    ("test", test false), ("[", test true), ("sleep", sleep), ("seq", seq),
    ("true", fun _ _ d => ending 0 d), ("false", fun _ _ d => ending 1 d) ]

/-- The program of a name. -/
def find? (name : Text) : Option Program :=
  byName.findSome? fun x => if x.1.toList = name then some x.2 else none

end ExMode.Shell.Program
