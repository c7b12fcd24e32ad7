import ExMode.Console.Pictograph
import ExMode.Fault
import ExMode.Text.Blank
import ExMode.Text.Casing

/-!
# ExMode.Console.Markup

Texts with markup.  A tag in square brackets changes the looks of what follows,
a tag with a slash ends that, and a backslash in front of a bracket makes it no
tag.  A console without colours shows the text alone, so all that markup comes to
here is what it leaves out and which texts it refuses: those that close what is
not open.  What looks a tag may ask for is not told here (`Runtime.unshown`).

A name between colons stands for a pictograph, with markup and without.
-/

namespace ExMode.Console

/-! ## pictographs -/

/-- The characters that ask for the plain or the coloured form of a pictograph. -/
def variant? (t : Text) : Option Text :=
  if t = "text".toList then some ['\uFE0E']
  else if t = "emoji".toList then some ['\uFE0F']
  else none

/-- The parts of a name before a variant: the shortest one that leaves a variant, or all of it. -/
def nameAndVariant : Text → Text × Text
  | [] => ([], [])
  | '-' :: r =>
    match variant? r with
    | some v => ([], v)
    | none => ('-' :: (nameAndVariant r).1, (nameAndVariant r).2)
  | c :: r => (c :: (nameAndVariant r).1, (nameAndVariant r).2)

/-- What a name between colons shows, if it names a pictograph. -/
def shownName? (t : Text) : Option Text :=
  let (name, v) := nameAndVariant t
  (pictograph? (name.map fun c => Char.ofNat (lowerCode c.toNat))).map fun p => p ++ v

/-- What stands between a colon and the next one, when no blank does, and what follows that. -/
def colonName? : Text → Option (Text × Text)
  | [] => none
  | ':' :: r => some ([], r)
  | c :: r => if isBlank c then none else (colonName? r).map fun x => (c :: x.1, x.2)

/-- A text with its named pictographs shown. -/
def showPictographsFrom : Nat → Text → Text
  | 0, t => t
  | fuel + 1, t =>
    match t with
    | [] => []
    | ':' :: r =>
      match colonName? r with
      | some (name, rest) =>
        (shownName? name).getD (':' :: name ++ [':']) ++ showPictographsFrom fuel rest
      | none => ':' :: showPictographsFrom fuel r
    | c :: r => c :: showPictographsFrom fuel r

/-- A text with its named pictographs shown. -/
def showPictographs (t : Text) : Text := showPictographsFrom (t.length + 1) t

/-! ## tags -/

/-- A part of a text with markup, with the place at which it starts. -/
inductive Piece where
  | plain (t : Text)
  | tag (inside : Text) (position : Nat)
  deriving DecidableEq, Repr

/-- Whether a character can be the first one of a tag. -/
def startsTag (c : Char) : Bool := ('a' ≤ c && c ≤ 'z') || c == '#' || c == '/' || c == '@'

/-- What a bracket that was opened holds, when it is a tag, and what follows it. -/
def tag? (t : Text) : Option (Text × Text) :=
  match t with
  | c :: r =>
    if startsTag c then
      match Text.cut ']' r with
      | (inside, some rest) => if inside.contains '[' then none else some (c :: inside, rest)
      | (_, none) => none
    else none
  | [] => none

/-- The parts of a text with markup, the characters `seen` of a plain part given in reverse. -/
def piecesFrom : Nat → Nat → Text → Text → List Piece
  | 0, _, seen, t => [.plain (seen.reverse ++ t)]
  | fuel + 1, position, seen, t =>
    let slashes : Text := t.takeWhile (· == '\\')
    let rest : Text := t.dropWhile (· == '\\')
    let n := slashes.length
    match rest with
    | [] => [.plain (seen.reverse ++ slashes)]
    | '[' :: r =>
      match tag? r with
      | some (inside, rest) =>
        let next := position + n + inside.length + 2
        let literal := List.replicate (n / 2) '\\'
        let here : List Piece :=
          if n % 2 = 1 then [.plain ('[' :: inside ++ [']'])]
          else [.tag inside (position + n)]
        .plain seen.reverse :: .plain literal :: here ++ piecesFrom fuel next [] rest
      | none => piecesFrom fuel (position + n + 1) ('[' :: slashes.reverse ++ seen) r
    | c :: r => piecesFrom fuel (position + n + 1) (c :: slashes.reverse ++ seen) r

/-- The parts of a text with markup. -/
def pieces (t : Text) : List Piece := piecesFrom (t.length + 1) 0 [] t

/-- The short names of looks. -/
def shortNames : List (String × String) :=
  [("b", "bold"), ("c", "conceal"), ("d", "dim"), ("i", "italic"), ("o", "overline"),
    ("r", "reverse"), ("s", "strike"), ("u", "underline"), ("uu", "underline2")]

/-- The name of the looks that a tag is for. -/
def looksOf (t : Text) : Text :=
  let name := (Text.trim t).map lowerAscii
  match shortNames.find? fun x => x.1.toList == name with
  | some (_, full) => full.toList
  | none => name

/-- A bracket after a backslash, without it. -/
def withoutEscapes : Text → Text
  | '\\' :: '[' :: r => '[' :: withoutEscapes r
  | c :: r => c :: withoutEscapes r
  | [] => []

/-- The shown text of parts, given the looks that are open, innermost first. -/
def shownPieces (opened : List Text) : List Piece → Except Fault Text
  | [] => .ok []
  | .plain t :: r => do return showPictographs (withoutEscapes t) ++ (← shownPieces opened r)
  | .tag inside position :: r =>
    match (Text.cut '=' inside).1 with
    | '/' :: name =>
      let name := Text.trim name
      if name = [] then
        match opened with
        | [] => .error (.unopenedTag ['/'] position)
        | _ :: outer => shownPieces outer r
      else if opened.contains (looksOf name) then shownPieces (opened.erase (looksOf name)) r
      else .error (.unopenedTag inside position)
    | name => shownPieces (looksOf name :: opened) r

/-- The text that markup shows. -/
def shownMarkup (t : Text) : Except Fault Text :=
  if t.contains '[' then shownPieces [] (pieces t) else .ok (showPictographs t)

/-- A text between two tags. -/
def marked (tag : String) (t : Text) : Text :=
  ('[' :: tag.toList ++ [']']) ++ t ++ ("[/".toList ++ tag.toList ++ [']'])

example : (shownMarkup "[yellow]a [b]c\\[d] [1][/yellow]".toList).toOption =
    some "a c[d] [1]".toList := by decide +kernel
example : (shownMarkup "ab[/c]".toList).toOption = none := by decide +kernel

end ExMode.Console
