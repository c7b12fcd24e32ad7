import ExMode.Text.Blank
import ExMode.Text.Letter
import ExMode.Text.Numeral

/-!
# ExMode.Shell.Script

Shell scripts: what they consist of and how they are read.  A script is read to
a tree before it is run.  A word keeps its quoting until then, since only what
was not quoted is split into fields; the text of a command substitution is kept
as it is and read when it is run.
-/

namespace ExMode.Shell

/-! ## the tree -/

/-- What is done with a parameter before its value is used. -/
inductive Adjustment where
  | plain
  | length
  /-- Another text where the parameter has no value, or an empty one if `orEmpty`. -/
  | fallback (orEmpty : Bool) (text : Text)
  /-- Another text where the parameter has a value, and not an empty one if `orEmpty`. -/
  | instead (orEmpty : Bool) (text : Text)
  /-- Without the part at the front or at the back that a name pattern covers. -/
  | without (front longest : Bool) (pattern : Text)
  deriving DecidableEq, Repr

/-- A piece of a word. -/
inductive Piece where
  | literal (quoted : Bool) (t : Text)
  | parameter (quoted : Bool) (name : Text) (adjustment : Adjustment)
  /-- What a script writes. -/
  | output (quoted : Bool) (source : Text)
  /-- The value of a sum. -/
  | arithmetic (source : Text)
  deriving DecidableEq, Repr

/-- A word: its pieces in order. -/
abbrev Word := List Piece

/-- How a file descriptor is redirected. -/
inductive Redirection where
  | fromFile (word : Word)
  /-- From a text in the script. -/
  | fromText (word : Word)
  | toFile (append : Bool) (word : Word)
  /-- To where another descriptor leads. -/
  | copy (word : Word)
  deriving DecidableEq, Repr

/-- A descriptor and where it is to lead. -/
structure Redirect where
  descriptor : Nat
  redirection : Redirection
  deriving DecidableEq, Repr

/-- A script. -/
inductive Script where
  | nothing
  | simple (line : Nat) (assignments : List (Text × Word)) (words : List Word)
      (redirects : List Redirect)
  | pipe (first second : Script)
  | negated (body : Script)
  | both (first second : Script)
  | either (first second : Script)
  | sequence (first second : Script)
  | condition (test thenBody elseBody : Script)
  | loop (wanted : Bool) (test body : Script)
  | each (name : Text) (words : Option (List Word)) (body : Script)
  | choice (word : Word) (branches : List (List Word × Script))
  | grouped (subshell : Bool) (body : Script) (redirects : List Redirect)
  | function (name : Text) (body : Script)

/-! ## tokens -/

/-- A token, with the line it stands on. -/
inductive Token where
  | word (line : Nat) (pieces : Word)
  | operator (line : Nat) (t : Text)
  | descriptor (n : Nat)
  deriving DecidableEq, Repr

/-- The operators, longer ones first. -/
def operators : List Text :=
  ["&&", "||", ";;", ">>", "<<", "<&", ">&", ">|", "&", ";", "|", "<", ">", "(", ")", "\n"].map
    String.toList

/-- The operator at the front of a text. -/
def operatorAt? (t : Text) : Option Text := operators.find? fun o => o.isPrefixOf t

/-- Whether a character ends an unquoted part of a word. -/
def endsWord (c : Char) : Bool := " \t\n&|;<>()".toList.contains c

/-- Whether a character can occur in the name of a parameter. -/
def isNameChar (c : Char) : Bool := isAsciiLetter c || ('0' ≤ c && c ≤ '9') || c == '_'

/-- Whether a character is a parameter by itself. -/
def isSpecial (c : Char) : Bool := "@*#?-$!0123456789".toList.contains c

/-- What stands before the bracket that closes one that was opened, and what follows it. -/
def upToClose (opening closing : Char) : Nat → Text → Option (Text × Text)
  | _, [] => none
  | depth, c :: r =>
    if c = closing then
      match depth with
      | 0 => some ([], r)
      | n + 1 => (upToClose opening closing n r).map fun x => (c :: x.1, x.2)
    else if c = opening then (upToClose opening closing (depth + 1) r).map fun x => (c :: x.1, x.2)
    else if c = '\\' then
      match r with
      | d :: r' => (upToClose opening closing depth r').map fun x => (c :: d :: x.1, x.2)
      | [] => none
    else (upToClose opening closing depth r).map fun x => (c :: x.1, x.2)

/-- What an expansion in braces means. -/
def bracedParameter (quoted : Bool) (t : Text) : Piece :=
  match t with
  | '#' :: c :: r => .parameter quoted (c :: r) .length
  | c :: r =>
    let name : Text := if isSpecial c then [c] else (c :: r).takeWhile isNameChar
    let adjustment : Adjustment := match (c :: r).drop name.length with
      | ':' :: '-' :: w => .fallback true w
      | '-' :: w => .fallback false w
      | ':' :: '+' :: w => .instead true w
      | '+' :: w => .instead false w
      | '#' :: '#' :: w => .without true true w
      | '#' :: w => .without true false w
      | '%' :: '%' :: w => .without false true w
      | '%' :: w => .without false false w
      | _ => .plain
    .parameter quoted name adjustment
  | [] => .literal quoted []

/-- The expansion after a dollar sign, and what follows it. -/
def expansion (quoted : Bool) (t : Text) : Option (Piece × Text) :=
  match t with
  | '(' :: '(' :: r =>
    match upToClose '(' ')' 1 r with
    | some (body, rest) => some (.arithmetic body.dropLast, rest)
    | none => none
  | '(' :: r => (upToClose '(' ')' 0 r).map fun x => (.output quoted x.1, x.2)
  | '\x7b' :: r => (upToClose '\x7b' '\x7d' 0 r).map fun x => (bracedParameter quoted x.1, x.2)
  | c :: r =>
    if isSpecial c then some (.parameter quoted [c] .plain, r)
    else if isNameChar c then
      some (.parameter quoted ((c :: r).takeWhile isNameChar) .plain, (c :: r).dropWhile isNameChar)
    else some (.literal quoted ['$'], c :: r)
  | [] => some (.literal quoted ['$'], [])

/-- The pieces of a double-quoted part of a word, and what follows it. -/
def quotedPieces : Nat → Text → Option (Word × Text)
  | 0, _ => none
  | fuel + 1, t =>
    match t with
    | [] => none
    | '"' :: r => some ([], r)
    | '\\' :: '\n' :: r => quotedPieces fuel r
    | '\\' :: c :: r =>
      let kept : Text := if "$\x60\"\\".toList.contains c then [c] else ['\\', c]
      (quotedPieces fuel r).map fun x => (.literal true kept :: x.1, x.2)
    | '$' :: r => do
      let (piece, r) ← expansion true r
      let (pieces, r) ← quotedPieces fuel r
      return (piece :: pieces, r)
    | '\x60' :: r => do
      let (source, r) ← upToClose '\x60' '\x60' 0 r
      let (pieces, r) ← quotedPieces fuel r
      return (.output true source :: pieces, r)
    | c :: r => (quotedPieces fuel r).map fun x => (.literal true [c] :: x.1, x.2)

/-- The pieces of a word, and what follows it.  If `whole`, blanks and operators belong to it. -/
def wordPieces (whole : Bool) : Nat → Text → Option (Word × Text)
  | 0, _ => none
  | fuel + 1, t =>
    match t with
    | [] => some ([], [])
    | '\\' :: '\n' :: r => wordPieces whole fuel r
    | '\\' :: c :: r => (wordPieces whole fuel r).map fun x => (.literal true [c] :: x.1, x.2)
    | '\'' :: r =>
      match Text.cut '\'' r with
      | (_, none) => none
      | (body, some r) => (wordPieces whole fuel r).map fun x => (.literal true body :: x.1, x.2)
    | '"' :: r => do
      let (inner, r) ← quotedPieces fuel r
      let (pieces, r) ← wordPieces whole fuel r
      return (.literal true [] :: inner ++ pieces, r)
    | '$' :: r => do
      let (piece, r) ← expansion false r
      let (pieces, r) ← wordPieces whole fuel r
      return (piece :: pieces, r)
    | '\x60' :: r => do
      let (source, r) ← upToClose '\x60' '\x60' 0 r
      let (pieces, r) ← wordPieces whole fuel r
      return (.output false source :: pieces, r)
    | c :: r =>
      if ! whole && endsWord c then some ([], c :: r)
      else (wordPieces whole fuel r).map fun x => (.literal false [c] :: x.1, x.2)

/-- The pieces of a text that is a word as a whole. -/
def piecesOf (t : Text) : Word := (wordPieces true (t.length + 1) t).elim [] (·.1)

/-- The pieces of a text that stands between double quotes. -/
def quotedPiecesOf (t : Text) : Word := (quotedPieces (t.length + 2) (t ++ ['"'])).elim [] (·.1)

/-- Whether a word was quoted in some part. -/
def isQuoted (w : Word) : Bool := w.any fun p => match p with
  | .literal quoted _ => quoted
  | _ => false

/-- The text that the pieces of a word were written as, if they are all literal. -/
def literalText : Word → Text
  | .literal _ t :: r => t ++ literalText r
  | _ => []

/-- A text with a backslash in front of each double quote. -/
def protectQuotes (t : Text) : Text := t.flatMap fun c => if c = '"' then ['\\', c] else [c]

/-- The lines before the one that equals a delimiter, and the lines after it. -/
def hereLines (delimiter : Text) : List Text → List Text × List Text
  | [] => ([], [])
  | l :: ls =>
    if l = delimiter then ([], ls)
    else ((l :: (hereLines delimiter ls).1), (hereLines delimiter ls).2)

/-- A text that is written below the line on which it is used, as one word, and what is left of the
script. -/
def hereText (delimiter : Word) (rest : Text) : Word × Text :=
  match Text.cut '\n' rest with
  | (line, none) => ([], line)
  | (line, some below) =>
    let (body, after) := hereLines (literalText delimiter) (Text.splitOn '\n' below)
    let t := body.flatMap (· ++ ['\n'])
    let pieces := if isQuoted delimiter then [.literal true t] else quotedPiecesOf (protectQuotes t)
    (.literal true [] :: pieces, line ++ '\n' :: Text.joinWith ['\n'] after)

/-- The number of line feeds in a text. -/
def lineFeeds (t : Text) : Nat := t.count '\n'

/-- The tokens of a text; nothing when a quote or a bracket is not closed. -/
def tokensFrom : Nat → Nat → Text → Option (List Token)
  | 0, _, _ => none
  | fuel + 1, line, t =>
    match t with
    | [] => some []
    | c :: r =>
      if c = ' ' ∨ c = '\t' then tokensFrom fuel line r
      else if c = '#' then tokensFrom fuel line (r.dropWhile (· != '\n'))
      else if c = '\\' ∧ r.head? = some '\n' then tokensFrom fuel (line + 1) (r.drop 1)
      else match operatorAt? t with
        | some o => do
          if o = ['<', '<'] then
            let after : Text := (t.drop 2).dropWhile fun c => c == '-' || c == ' '
            let (delimiter, rest) ← wordPieces false (after.length + 1) after
            let (body, rest) := hereText delimiter rest
            return .operator line o :: .word line body :: (← tokensFrom fuel line rest)
          let next := if o = ['\n'] then line + 1 else line
          return .operator line o :: (← tokensFrom fuel next (t.drop o.length))
        | none => do
          let (pieces, rest) ← wordPieces false (t.length + 1) t
          let raw : Text := t.take (t.length - rest.length)
          let token : Token :=
            if raw.all isAsciiDigit ∧ (rest.head? = some '<' ∨ rest.head? = some '>') then
              .descriptor (Text.digitsValue raw)
            else .word line pieces
          return token :: (← tokensFrom fuel (line + lineFeeds raw) rest)

/-- The tokens of a text. -/
def tokens? (t : Text) : Option (List Token) := tokensFrom (t.length + 1) 1 t

/-! ## reading -/

/-- The text of a word that is not quoted at all. -/
def plainText : Word → Option Text
  | [] => some []
  | .literal false t :: r => (plainText r).map fun u => t ++ u
  | _ => none

/-- The words that end or divide the parts of a script. -/
def closers : List Text :=
  ["then", "else", "elif", "fi", "do", "done", "esac", "\x7d"].map String.toList

/-- Whether a token is an operator. -/
def isOperator (o : String) : Token → Bool
  | .operator _ t => t = o.toList
  | _ => false

/-- The reserved word that comes next, if one does. -/
def nextName : List Token → Option Text
  | .word _ w :: _ => plainText w
  | _ => none

/-- Skip line ends. -/
def skipLines (ts : List Token) : List Token := ts.dropWhile (isOperator "\n")

/-- Go past a reserved word. -/
def expectName (name : String) (ts : List Token) : Option (List Token) :=
  let ts := skipLines ts
  if nextName ts = some name.toList then some ts.tail else none

/-- Go past an operator. -/
def expectOperator (o : String) : List Token → Option (List Token)
  | t :: ts => if isOperator o t then some ts else none
  | [] => none

/-- A redirection, if one comes next. -/
def redirect? (ts : List Token) : Option (Redirect × List Token) :=
  let (given, ts) : Option Nat × List Token := match ts with
    | .descriptor n :: r => (some n, r)
    | _ => (none, ts)
  match ts with
  | .operator _ o :: .word _ w :: r =>
    if o = ['<'] then some (⟨given.getD 0, .fromFile w⟩, r)
    else if o = ['<', '<'] then some (⟨given.getD 0, .fromText w⟩, r)
    else if o = ['>'] ∨ o = ['>', '|'] then some (⟨given.getD 1, .toFile false w⟩, r)
    else if o = ['>', '>'] then some (⟨given.getD 1, .toFile true w⟩, r)
    else if o = ['>', '&'] then some (⟨given.getD 1, .copy w⟩, r)
    else if o = ['<', '&'] then some (⟨given.getD 0, .copy w⟩, r)
    else none
  | _ => none

/-- The redirections that come next. -/
def redirects : Nat → List Token → List Redirect × List Token
  | 0, ts => ([], ts)
  | fuel + 1, ts =>
    match redirect? ts with
    | some (r, ts) =>
      let (rs, ts) := redirects fuel ts
      (r :: rs, ts)
    | none => ([], ts)

/-- The name and the value of an assignment, if a word is one. -/
def assignment? (w : Word) : Option (Text × Word) :=
  let name : Text := (w.takeWhile fun p => match p with
    | .literal false [c] => isNameChar c
    | _ => false).flatMap fun p => match p with
      | .literal _ t => t
      | _ => []
  match name, w.drop name.length with
  | c :: _, .literal false ['='] :: value =>
    if '0' ≤ c ∧ c ≤ '9' then none else some (name, value)
  | _, _ => none

/-- The parts of a simple command.  Only in front of its name are words assignments. -/
def simpleParts : Nat → (named : Bool) → List Token →
    List (Text × Word) × List Word × List Redirect × List Token
  | 0, _, ts => ([], [], [], ts)
  | fuel + 1, named, ts =>
    match redirect? ts with
    | some (r, ts) =>
      let (as, ws, rs, ts) := simpleParts fuel named ts
      (as, ws, r :: rs, ts)
    | none =>
      match ts with
      | .word _ w :: r =>
        match (if named then none else assignment? w) with
        | some a =>
          let (as, ws, rs, ts) := simpleParts fuel false r
          (a :: as, ws, rs, ts)
        | none =>
          let (as, ws, rs, ts) := simpleParts fuel true r
          (as, w :: ws, rs, ts)
      | _ => ([], [], [], ts)

/-- The words up to the next operator. -/
def plainWords : List Token → List Word × List Token
  | .word _ w :: ts => (w :: (plainWords ts).1, (plainWords ts).2)
  | ts => ([], ts)

/-- The patterns of a branch up to its bracket. -/
def patterns : Nat → List Token → Option ((List Word) × List Token)
  | 0, _ => none
  | fuel + 1, ts =>
    match ts with
    | .word _ w :: .operator _ o :: r =>
      if o = [')'] then some ([w], r)
      else if o = ['|'] then (patterns fuel r).map fun x => (w :: x.1, x.2)
      else none
    | _ => none

/-- The line a token stands on. -/
def lineOf : List Token → Nat
  | .word n _ :: _ => n
  | .operator n _ :: _ => n
  | _ => 1

mutual

/-- Commands up to a word or a bracket that closes them, or to the end. -/
def commands : Nat → List Token → Option (Script × List Token)
  | 0, _ => none
  | fuel + 1, ts =>
    let ts := skipLines ts
    match ts with
    | [] => some (.nothing, [])
    | t :: _ =>
      if isOperator ")" t || isOperator ";;" t then some (.nothing, ts)
      else if (nextName ts).any fun n => closers.contains n then some (.nothing, ts)
      else do
        let (first, ts) ← andOr fuel ts
        match ts with
        | [] => return (first, [])
        | t :: r =>
          if isOperator ";" t || isOperator "&" t || isOperator "\n" t then
            let (rest, ts) ← commands fuel r
            return (.sequence first rest, ts)
          else if isOperator ")" t || isOperator ";;" t then return (first, ts)
          else none

/-- Pipelines joined by conditions. -/
def andOr : Nat → List Token → Option (Script × List Token)
  | 0, _ => none
  | fuel + 1, ts => do
    let (first, ts) ← pipeline fuel ts
    andOrRest fuel first ts

/-- What follows a pipeline and depends on how it ended. -/
def andOrRest : Nat → Script → List Token → Option (Script × List Token)
  | 0, _, _ => none
  | fuel + 1, first, ts =>
    match ts with
    | t :: r =>
      if isOperator "&&" t then do
        let (second, ts) ← pipeline fuel (skipLines r)
        andOrRest fuel (.both first second) ts
      else if isOperator "||" t then do
        let (second, ts) ← pipeline fuel (skipLines r)
        andOrRest fuel (.either first second) ts
      else some (first, ts)
    | [] => some (first, [])

/-- Commands that feed each other. -/
def pipeline : Nat → List Token → Option (Script × List Token)
  | 0, _ => none
  | fuel + 1, ts =>
    if nextName ts = some ['!'] then do
      let (body, ts) ← pipeline fuel ts.tail
      return (.negated body, ts)
    else do
      let (first, ts) ← command fuel ts
      match ts with
      | t :: r =>
        if isOperator "|" t then
          let (second, ts) ← pipeline fuel (skipLines r)
          return (.pipe first second, ts)
        else return (first, ts)
      | [] => return (first, [])

/-- One command with its redirections. -/
def command : Nat → List Token → Option (Script × List Token)
  | 0, _ => none
  | fuel + 1, ts =>
    match compound fuel ts with
    | some (body, ts) =>
      match redirects (ts.length + 1) ts with
      | ([], ts) => some (body, ts)
      | (rs, ts) => some (.grouped false body rs, ts)
    | none =>
      match ts with
      | .word _ w :: .operator _ ['('] :: .operator _ [')'] :: r => do
        let name ← plainText w
        let (body, ts) ← command fuel (skipLines r)
        return (.function name body, ts)
      | _ =>
        if (nextName ts).any fun n => closers.contains n then none
        else
          let (as, ws, rs, rest) := simpleParts (ts.length + 1) false ts
          if as.isEmpty && ws.isEmpty && rs.isEmpty then none
          else some (.simple (lineOf ts) as ws rs, rest)

/-- A command made of commands; nothing when the next word does not begin one. -/
def compound : Nat → List Token → Option (Script × List Token)
  | 0, _ => none
  | fuel + 1, ts =>
    match ts with
    | .operator _ ['('] :: r => do
      let (body, ts) ← commands fuel r
      let ts ← expectOperator ")" (skipLines ts)
      return (.grouped true body [], ts)
    | _ => do
      let name ← nextName ts
      let r := ts.tail
      if name = ['\x7b'] then
        let (body, ts) ← commands fuel r
        return (.grouped false body [], ← expectName "\x7d" ts)
      else if name = "if".toList then conditionRest fuel r
      else if name = "while".toList ∨ name = "until".toList then
        let (test, ts) ← commands fuel r
        let (body, ts) ← commands fuel (← expectName "do" ts)
        return (.loop (name = "while".toList) test body, ← expectName "done" ts)
      else if name = "for".toList then
        let item ← nextName r
        let ts := skipLines r.tail
        let (words, ts) : Option (List Word) × List Token :=
          if nextName ts = some "in".toList then
            (some (plainWords ts.tail).1, (plainWords ts.tail).2)
          else (none, ts)
        let ts := ts.dropWhile fun t => isOperator ";" t || isOperator "\n" t
        let (body, ts) ← commands fuel (← expectName "do" ts)
        return (.each item words body, ← expectName "done" ts)
      else if name = "case".toList then
        match r with
        | .word _ w :: r => do
          let ts ← expectName "in" r
          let (branches, ts) ← branchList fuel ts
          return (.choice w branches, ts)
        | _ => none
      else none

/-- The rest of a condition, after its first word. -/
def conditionRest : Nat → List Token → Option (Script × List Token)
  | 0, _ => none
  | fuel + 1, ts => do
    let (test, ts) ← commands fuel ts
    let (yes, ts) ← commands fuel (← expectName "then" ts)
    let ts := skipLines ts
    match nextName ts with
    | some n =>
      if n = "elif".toList then
        let (no, ts) ← conditionRest fuel ts.tail
        return (.condition test yes no, ts)
      else if n = "else".toList then
        let (no, ts) ← commands fuel ts.tail
        return (.condition test yes no, ← expectName "fi" ts)
      else return (.condition test yes .nothing, ← expectName "fi" ts)
    | none => none

/-- The branches of a choice. -/
def branchList : Nat → List Token → Option ((List (List Word × Script)) × List Token)
  | 0, _ => none
  | fuel + 1, ts =>
    let ts := skipLines ts
    if nextName ts = some "esac".toList then some ([], ts.tail)
    else do
      let ts := if ts.head?.any (isOperator "(") then ts.tail else ts
      let (ps, ts) ← patterns (ts.length + 1) ts
      let (body, ts) ← commands fuel ts
      let ts := skipLines ts
      if ts.head?.any (isOperator ";;") then
        let (branches, ts) ← branchList fuel ts.tail
        return ((ps, body) :: branches, ts)
      else return ([(ps, body)], ← expectName "esac" ts)

end

/-- The script that a text is; nothing when it is none. -/
def Script.ofText? (t : Text) : Option Script := do
  let ts ← tokens? t
  let (script, rest) ← commands (10 * ts.length + 10) ts
  if rest.isEmpty then return script else none

end ExMode.Shell
