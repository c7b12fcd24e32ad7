import ExMode.Decimal.Shortest
import ExMode.Fault

/-!
# ExMode.Document

Documents: the values that a history file or a settings file spells out.  A
mapping keeps its keys in the order in which they first came, and a key that
comes again replaces the value.

An escape in a document can name one half of a surrogate pair.  A string with
such a half is not text; its code points are kept, because a message may have to
show it, but no setting and no history entry can be made of it.
-/

namespace ExMode

namespace Document

/-- A string in a document. -/
inductive Str where
  | text (t : Text)
  /-- Code points among which there is a surrogate. -/
  | broken (codes : List Nat)
  deriving DecidableEq, Repr

/-- Whether a code point is half of a surrogate pair. -/
def isSurrogate (n : Nat) : Bool := 0xD800 ≤ n && n < 0xE000

/-- The string of some code points. -/
def Str.ofCodes (codes : List Nat) : Str :=
  if codes.any isSurrogate then .broken codes else .text (codes.map Char.ofNat)

/-- The string if it is text. -/
def Str.text? : Str → Option Text
  | .text t => some t
  | .broken _ => none

/-- One code point of a broken string, between quotes `q`. -/
def shownCode (q : Char) (n : Nat) : Text :=
  if isSurrogate n then '\\' :: 'u' :: Text.hexDigits 4 n else Text.quoteChar q (Char.ofNat n)

/-- A broken string in quotes. -/
def shownCodes (codes : List Nat) : Text :=
  let q := Text.quoteFor (codes.map Char.ofNat)
  q :: codes.flatMap (shownCode q) ++ [q]

/-- A string in quotes. -/
def Str.shown : Str → Text
  | .text t => t.quoted
  | .broken codes => shownCodes codes

end Document

/-- A value that a document can hold. -/
inductive Document where
  | null
  | bool (b : Bool)
  | int (n : Int)
  | float (x : Binary64)
  | string (s : Document.Str)
  | list (items : List Document)
  | map (members : List (Document × Document))
  /-- A value of some other kind, of which no setting is made, and how it is shown. -/
  | other (shown : Text)

namespace Document

/-- The text that a document is, if it is one. -/
def text? : Document → Option Text
  | .string s => s.text?
  | _ => none

/-- The number that a scalar is as a key: an integer, or a fraction.  The truth values are the
numbers one and zero. -/
def keyNumber? : Document → Option (Int ⊕ Binary64)
  | .bool b => some (.inl (if b then 1 else 0))
  | .int n => some (.inl n)
  | .float x => some (match x.toInt? with
    | some n => .inl n
    | none => .inr x)
  | _ => none

/-- Whether two documents are the same key of a mapping.  Keys are told apart by value, so a number
that is written in two ways is one key. -/
def isSameKey : Document → Document → Bool
  | .null, .null => true
  | .string a, .string b => decide (a = b)
  | .other a, .other b => decide (a = b)
  | a, b =>
    match keyNumber? a, keyNumber? b with
    | some x, some y => decide (x = y)
    | _, _ => false

/-- Give a key of a mapping a value. -/
def setMember (k v : Document) : List (Document × Document) → List (Document × Document)
  | [] => [(k, v)]
  | (j, w) :: ms => if k.isSameKey j then (j, v) :: ms else (j, w) :: setMember k v ms

/-- The value of a text key. -/
def member? (name : Text) : List (Document × Document) → Option Document
  | [] => none
  | (k, v) :: ms => if k.text? = some name then some v else member? name ms

/-! ## showing -/

mutual

/-- A document on one line, as messages show it. -/
def shown : Document → Text
  | .null => "None".toList
  | .bool b => (if b then "True" else "False").toList
  | .int n => Text.ofInt n
  | .float x => Decimal.exact x
  | .string s => s.shown
  | .list items => '[' :: Text.joinWith [',', ' '] (shownItems items) ++ [']']
  | .map members => '\x7b' :: Text.joinWith [',', ' '] (shownMembers members) ++ ['\x7d']
  | .other t => t

/-- The items of a list, each shown. -/
def shownItems : List Document → List Text
  | [] => []
  | d :: ds => d.shown :: shownItems ds

/-- The members of a mapping, each shown. -/
def shownMembers : List (Document × Document) → List Text
  | [] => []
  | (k, v) :: ms => (k.shown ++ ':' :: ' ' :: v.shown) :: shownMembers ms

end

/-! ## reading -/

/-- Why a text gives no document. -/
inductive Refusal where
  /-- The text is not of the format. -/
  | malformed
  /-- The text is of the format, but a value in it cannot be made. -/
  | fault (fault : Fault)
  deriving DecidableEq, Repr

/-- A refusal as a fault, given the fault that a malformed text is. -/
def Refusal.toFault (malformed : Fault) : Refusal → Fault
  | .malformed => malformed
  | .fault f => f

theorem ofCodes_toNat (t : Text) : Str.ofCodes (t.map Char.toNat) = .text t := by
  have h : (t.map Char.toNat).any isSurrogate = false := by
    rw [List.any_eq_false]
    intro n hn
    obtain ⟨c, -, rfl⟩ := List.mem_map.1 hn
    have hc := c.valid
    simp only [isSurrogate, Char.toNat, Bool.and_eq_true, decide_eq_true_eq]
    rcases hc with hc | hc <;> grind
  simp [Str.ofCodes, h, List.map_map, Function.comp_def]

end Document

end ExMode
