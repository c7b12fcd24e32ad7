import ExMode.Text.Numeral

/-!
# ExMode.Pattern.Magic

The two spellings of a substitution.  On the command line, patterns are
"magic": parentheses, bars, plus signs, question marks and braces are ordinary
characters and get their special meaning from a backslash, while `.`, `*`,
brackets, `^` and `$` are special as they stand.  The pattern reader has it the
other way round for the first group of characters, so each of them swaps its
backslash (`searchText`).  An escape `\c` anywhere asks for case to be ignored.

In the replacement `&` and `\0` stand for the match, `\1` to `\9` for groups,
`\r` and `\n` for a line break; `templateText` writes these in the template
notation, in which a group is `\g<n>`.
-/

namespace ExMode.Magic

/-- The characters that are ordinary as they stand and special behind a backslash. -/
def isSwapped (c : Char) : Bool :=
  c == '(' || c == ')' || c == '|' || c == '+' || c == '?' || c == '{' || c == '}'

/-- How a backslash and a character are spelt for the pattern reader. -/
def escapeText (c : Char) : Text :=
  if c = '<' || c = '>' then ['\\', 'b']
  else if c = '=' then ['?']
  else if isSwapped c then [c]
  else ['\\', c]

/-- How a character by itself is spelt for the pattern reader. -/
def plainText (c : Char) : Text := if isSwapped c then ['\\', c] else [c]

/-- The pattern as its reader spells it, and whether `\c` asked for case to be ignored. -/
def searchText : Text → Text × Bool
  | [] => ([], false)
  | [c] => (plainText c, false)
  | c :: d :: r =>
    if c = '\\' then
      if d = 'c' then ((searchText r).1, true)
      else (escapeText d ++ (searchText r).1, (searchText r).2)
    else (plainText c ++ (searchText (d :: r)).1, (searchText (d :: r)).2)

/-- The template text of the group with a given digit. -/
def groupText (digit : Char) : Text := ['\\', 'g', '<', digit, '>']

/-- How a backslash and a character of a replacement are spelt in a template. -/
def replacementEscape (c : Char) : Text :=
  if isAsciiDigit c then groupText c
  else if c = 'r' || c = 'n' then ['\n']
  else if c = '\\' then ['\\', '\\']
  else [c]

/-- How a character of a replacement is spelt in a template. -/
def replacementPlain (c : Char) : Text :=
  if c = '&' then groupText '0' else if c = '\\' then ['\\', '\\'] else [c]

/-- The replacement in template notation. -/
def templateText : Text → Text
  | [] => []
  | [c] => replacementPlain c
  | c :: d :: r =>
    if c = '\\' then replacementEscape d ++ templateText r
    else replacementPlain c ++ templateText (d :: r)

/-- Put a character in front of the first field. -/
def consField (cs : Text) : List Text → List Text
  | [] => [cs]
  | f :: fs => (cs ++ f) :: fs

/-- The fields between unescaped delimiters, at most `splits + 1` of them; an escaped delimiter
loses its backslash, any other escape is kept for later. -/
def fieldsFrom (delimiter : Char) : Nat → Text → List Text
  | _, [] => [[]]
  | splits, [c] =>
    if c = delimiter && 0 < splits then [[], []] else [[c]]
  | splits, c :: d :: r =>
    if c = '\\' then
      consField (if d = delimiter then [d] else [c, d]) (fieldsFrom delimiter splits r)
    else if c = delimiter && 0 < splits then [] :: fieldsFrom delimiter (splits - 1) (d :: r)
    else consField [c] (fieldsFrom delimiter splits (d :: r))

/-- Pattern, replacement and what follows them, as far as they are there. -/
def splitFields (body : Text) (delimiter : Char) : List Text := fieldsFrom delimiter 2 body

example : searchText "a\\+(\\c\\|".toList = ("a+\\(|".toList, true) := by decide
example : templateText "&\\1\\r\\".toList = "\\g<0>\\g<1>\n\\\\".toList := by decide
example : splitFields "a\\/b/c/d/e".toList '/' =
    ["a/b".toList, "c".toList, "d/e".toList] := by decide

end ExMode.Magic
