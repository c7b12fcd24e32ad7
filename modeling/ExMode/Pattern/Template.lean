import ExMode.Pattern.Matcher
import ExMode.Pattern.Reader

/-!
# ExMode.Pattern.Template

Replacement templates: characters to be inserted as they are, and references to
the groups of a match.  In the text of a template a backslash starts an escape:
`\g<n>` is a group, `\\` a backslash, and no other escape exists.

A template is read against a number of groups, since a reference to a group
that the pattern does not have is refused, whether or not anything matches.
-/

namespace ExMode.Pattern

/-- A piece of a template. -/
inductive Piece where
  | char (c : Char)
  | group (index : Nat)
  deriving DecidableEq, Repr

/-- Pieces to be put in the place of a match. -/
abbrev Template := List Piece

namespace Template

/-- The pieces from position `at` on, at most `fuel` of them. -/
def readFrom (groups : Nat) : Nat → Nat → Text → Except Refusal Template
  | 0, _, _ => .ok []
  | _, _, [] => .ok []
  | fuel + 1, place, c :: r =>
    if c ≠ '\\' then (readFrom groups fuel (place + 1) r).map (.char c :: ·)
    else match r with
      | 'g' :: '<' :: r' =>
        let name : Text := r'.takeWhile (· ≠ '>')
        match r'.drop name.length with
        | _ :: r'' =>
          if name = [] ∨ ! name.all isAsciiDigit then
            .error (.malformed ("bad character in group name ".toList ++ name.quoted)
              (some (place + 3)))
          else if groups < name.digitsValue then
            .error (.malformed ("invalid group reference ".toList ++ Text.ofNat name.digitsValue)
              (some (place + 3)))
          else
            (readFrom groups fuel (place + name.length + 4) r'').map
              (.group name.digitsValue :: ·)
        | [] => .error (.malformed "missing >, unterminated name".toList (some (place + 3)))
      | '\\' :: r' => (readFrom groups fuel (place + 2) r').map (.char '\\' :: ·)
      | d :: _ => .error (.malformed ("bad escape ".toList ++ ['\\', d]) (some place))
      | [] => .error (.malformed "bad escape (end of pattern)".toList (some place))

/-- Read a template for a pattern with the given number of groups. -/
def ofText (groups : Nat) (t : Text) : Except Refusal Template := readFrom groups t.length 0 t

/-- What one piece contributes for a match. -/
def pieceText (m : Match) : Piece → Text
  | .char c => [c]
  | .group i => m.groupText i

/-- The text that a template stands for, given a match. -/
def expand (t : Template) (m : Match) : Text := t.flatMap (pieceText m)

end Template

end ExMode.Pattern
