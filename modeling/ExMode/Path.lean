import ExMode.Text

/-!
# ExMode.Path

File paths as the command line sees them.  A path is its root and its parts:
empty parts and single dots carry no information and are dropped when the text
is read, but a double dot is kept, because what it names depends on the disk.
Exactly two leading slashes are a root of their own; any other positive number
is one slash.

The parts of a path hold no slash, so a path has one text, and reading that
text gives the path back.
-/

namespace ExMode

/-- Where a path starts. -/
inductive Path.Root where
  /-- At the working directory. -/
  | here
  /-- At the root directory. -/
  | slash
  /-- At the second root that two slashes name. -/
  | doubleSlash
  deriving DecidableEq, Repr

/-- A path: where it starts and the names it follows. -/
structure Path where
  root : Path.Root
  parts : List Text
  deriving DecidableEq, Repr

namespace Path

/-- The path of the working directory. -/
def current : Path := ⟨.here, []⟩

/-- The parts that a text between slashes contributes. -/
def isPart (t : Text) : Bool := ! (t == [] || t == ['.'])

/-- The root that the front of a text names. -/
def rootOf : Text → Root
  | '/' :: '/' :: '/' :: _ => .slash
  | '/' :: '/' :: _ => .doubleSlash
  | '/' :: _ => .slash
  | _ => .here

/-- The path that a text names. -/
def ofText (t : Text) : Path := ⟨rootOf t, (Text.splitOn '/' t).filter isPart⟩

/-- The text of a root. -/
def Root.text : Root → Text
  | .here => []
  | .slash => ['/']
  | .doubleSlash => ['/', '/']

/-- The text of a path; a single dot stands for the working directory. -/
def text (p : Path) : Text :=
  if p.root = .here ∧ p.parts = [] then ['.']
  else p.root.text ++ Text.joinWith ['/'] p.parts

/-- Whether the path starts at a root directory. -/
def isAbsolute (p : Path) : Bool := p.root ≠ .here

/-- The path `q` seen from `p`; an absolute `q` is kept. -/
def join (p q : Path) : Path :=
  if q.isAbsolute then q else ⟨p.root, p.parts ++ q.parts⟩

/-- The path without its last part; a path without parts is its own parent. -/
def parent (p : Path) : Path := ⟨p.root, p.parts.dropLast⟩

/-- The last part, empty when there is none. -/
def name (p : Path) : Text := p.parts.getLast?.getD []

/-- The path with another last part, if it has one. -/
def withName? (p : Path) (n : Text) : Option Path :=
  if p.parts = [] then none else some ⟨p.root, p.parts.dropLast ++ [n]⟩

/-- The last part from its last dot on, when something stands before and after that dot. -/
def suffix (p : Path) : Text :=
  match Text.cutLast '.' p.name with
  | (some (_ :: _), c :: t) => '.' :: c :: t
  | _ => []

/-- Whether a character that no file name can hold occurs in the path. -/
def hasNul (p : Path) : Bool := p.parts.any (·.contains '\x00')

/-- The path with a leading `~` or `~user` replaced by a home directory: `none` when nobody of
that name has one. -/
def expandHome? (homes : List (Text × Text)) (p : Path) : Option Path :=
  match p.root, p.parts with
  | .here, ('~' :: user) :: rest =>
    (homes.lookup user).map fun home =>
      let h := ofText home
      ⟨h.root, h.parts ++ rest⟩
  | _, _ => some p

example : (ofText "./a//b/".toList).text = "a/b".toList := by decide
example : (ofText "a/../b".toList).text = "a/../b".toList := by decide
example : ((ofText "//x".toList).text, (ofText "///x".toList).text, (ofText []).text) =
    ("//x".toList, "/x".toList, ".".toList) := by decide
example : ((ofText "a.b.JSON".toList).suffix, (ofText ".json".toList).suffix,
    (ofText "a.".toList).suffix) = (".JSON".toList, [], []) := by decide

end Path

end ExMode
