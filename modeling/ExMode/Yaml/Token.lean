import ExMode.Document
import ExMode.Text.Numeral

/-!
# ExMode.Yaml.Token

The tokens of a YAML text: what its structure is written with.  Indentation
becomes tokens that open and close blocks.  A key that is not marked as one is
only known to be a key when its colon comes, so each place where a key may start
is remembered, and the tokens that make it a key are put there afterwards.
-/

namespace ExMode.Yaml

open Document

/-- A tag as written: the handle in front and the rest. -/
structure TagName where
  handle : Option Text
  suffix : Text
  deriving DecidableEq, Repr

/-- A directive in front of a document. -/
inductive Directive where
  | version (major : Nat)
  | tagHandle (handle : Text) (expansion : Text)
  | unknown
  deriving DecidableEq, Repr

/-- A token. -/
inductive Token where
  | streamEnd
  | directive (d : Directive)
  | documentStart
  | documentEnd
  | blockSequenceStart
  | blockMappingStart
  | blockEnd
  | flowSequenceStart
  | flowSequenceEnd
  | flowMappingStart
  | flowMappingEnd
  | blockEntry
  | flowEntry
  | key
  | value
  | alias (name : Text)
  | anchor (name : Text)
  | tag (name : TagName)
  | scalar (value : Str) (plain : Bool)
  deriving DecidableEq, Repr

/-! ## characters -/

/-- Whether a character ends a line. -/
def isBreak (c : Char) : Bool :=
  c == '\n' || c == '\r' || c == '\u0085' || c == '\u2028' || c == '\u2029'

/-- Whether a text is at its end or at the end of a line. -/
def atBreak : Text → Bool
  | [] => true
  | c :: _ => isBreak c

/-- Whether a text is at its end, at the end of a line or at a blank. -/
def atGap : Text → Bool
  | [] => true
  | c :: _ => isBreak c || c == ' ' || c == '\t'

/-- Whether a text is at its end, at the end of a line or at a space. -/
def atSpace : Text → Bool
  | [] => true
  | c :: _ => isBreak c || c == ' '

/-- Whether a character can occur in a YAML text. -/
def isAllowed (c : Char) : Bool :=
  c == '\t' || c == '\n' || c == '\r' || c == '\u0085' ||
    (0x20 ≤ c.toNat && c.toNat ≤ 0x7E) || (0xA0 ≤ c.toNat && c.toNat ≤ 0xFFFD) ||
    0x10000 ≤ c.toNat

/-- Whether a character can occur in the name of an anchor or of a directive. -/
def isNameChar (c : Char) : Bool :=
  ('0' ≤ c && c ≤ '9') || ('A' ≤ c && c ≤ 'Z') || ('a' ≤ c && c ≤ 'z') || c == '-' || c == '_'

/-- Whether a character can occur in a tag. -/
def isTagChar (c : Char) : Bool := isNameChar c || ";/?:@&=+$,.!~*'()[]%".toList.contains c

/-- Whether a text starts with a marker of documents: three of the same character and a gap. -/
def atMarker (c : Char) (t : Text) : Bool := [c, c, c].isPrefixOf t && atGap (t.drop 3)

/-- Whether a text starts with either marker of documents. -/
def atDocumentMarker (t : Text) : Bool := atMarker '-' t || atMarker '.' t

/-! ## the state of scanning -/

/-- A place where a key may have started. -/
structure PossibleKey where
  /-- The number of tokens in front of it. -/
  token : Nat
  required : Bool
  index : Nat
  line : Nat
  column : Nat
  deriving DecidableEq, Repr

/-- What scanning knows. -/
structure Scanner where
  rest : Text
  index : Nat
  line : Nat
  column : Nat
  indent : Int
  indents : List Int
  flowLevel : Nat
  /-- Whether a key may start here. -/
  allowKey : Bool
  /-- The possible keys by flow level. -/
  keys : List (Nat × PossibleKey)
  tokens : List Token

/-- A step of scanning. -/
abbrev Scan := StateT Scanner (Except Refusal)

namespace Scan

/-- Give up. -/
def refuse {α : Type} : Scan α := throw .malformed

/-- The text that is left. -/
def rest : Scan Text := do return (← get).rest

/-- The scanner past one character. -/
def Scanner.advance (s : Scanner) : Scanner :=
  match s.rest with
  | [] => s
  | c :: r =>
    let s := { s with rest := r, index := s.index + 1 }
    if isBreak c && ! (c == '\r' && r.head? == some '\n') then
      { s with line := s.line + 1, column := 0 }
    else if c == '\uFEFF' then s else { s with column := s.column + 1 }

/-- Go past some characters. -/
def forward : Nat → Scan Unit
  | 0 => pure ()
  | n + 1 => do
    modify Scanner.advance
    forward n

/-- Go past the longest run of characters that satisfy `p`, and give it. -/
def takeRun (p : Char → Bool) : Scan Text := do
  let run : Text := (← rest).takeWhile p
  forward run.length
  return run

/-- Go past the end of a line, and give the character it stands for; nothing elsewhere. -/
def lineBreak : Scan Text := do
  match ← rest with
  | '\r' :: '\n' :: _ => do
    forward 2
    return ['\n']
  | c :: _ =>
    if c == '\n' || c == '\r' || c == '\u0085' then do
      forward 1
      return ['\n']
    else if c == '\u2028' || c == '\u2029' then do
      forward 1
      return [c]
    else return []
  | [] => return []

/-- Skip the rest of a line, which may only hold blanks and a comment. -/
def finishLine : Scan Unit := do
  discard <| takeRun (· == ' ')
  if (← rest).head? == some '#' then discard <| takeRun fun c => ! isBreak c
  if ! atBreak (← rest) then refuse
  discard lineBreak

/-- Add a token. -/
def emit (t : Token) : Scan Unit := modify fun s => { s with tokens := s.tokens ++ [t] }

/-- Put a token at a place among those there are. -/
def insertAt (i : Nat) (t : Token) : Scan Unit :=
  modify fun s => { s with tokens := s.tokens.take i ++ t :: s.tokens.drop i }

/-! ## possible keys -/

/-- Whether a possible key is too far back for its colon to come here. -/
def isStale (s : Scanner) (k : PossibleKey) : Bool := k.line != s.line || s.index - k.index > 1024

/-- Forget the possible keys that are too far back. -/
def dropStaleKeys : Scan Unit := do
  let s ← get
  if s.keys.any fun x => isStale s x.2 && x.2.required then refuse
  set { s with keys := s.keys.filter fun x => ! isStale s x.2 }

/-- Forget the possible key of this flow level. -/
def dropKey : Scan Unit := do
  let s ← get
  match s.keys.lookup s.flowLevel with
  | none => pure ()
  | some k =>
    if k.required then refuse
    set { s with keys := s.keys.filter fun x => x.1 != s.flowLevel }

/-- Remember that a key may start here. -/
def saveKey : Scan Unit := do
  let s ← get
  if s.allowKey then
    dropKey
    let required := s.flowLevel == 0 && s.indent == s.column
    modify fun s' => { s' with
      keys := (s.flowLevel, ⟨s.tokens.length, required, s.index, s.line, s.column⟩) :: s'.keys }

/-- Say whether a key may start here. -/
def allowKey (b : Bool) : Scan Unit := modify fun s => { s with allowKey := b }

/-! ## indentation -/

/-- Close the blocks indented more than `column`. -/
def closeBlocks (column : Int) : Nat → Scan Unit
  | 0 => pure ()
  | fuel + 1 => do
    let s ← get
    if s.flowLevel = 0 ∧ column < s.indent then
      set { s with
        indent := s.indents.head?.getD (-1)
        indents := s.indents.tail
        tokens := s.tokens ++ [Token.blockEnd] }
      closeBlocks column fuel

/-- Close the blocks indented more than `column`. -/
def unwind (column : Int) : Scan Unit := do closeBlocks column ((← get).indents.length + 1)

/-- Open a block at a column unless one is open there; tell whether one was opened. -/
def addIndent (column : Nat) : Scan Bool := do
  let s ← get
  if s.indent < column then
    set { s with indent := (column : Int), indents := s.indent :: s.indents }
    return true
  else return false

/-! ## directives, anchors and tags -/

/-- A nonempty name. -/
def name : Scan Text := do
  let n ← takeRun isNameChar
  if n = [] then refuse
  return n

/-- A number in a version. -/
def versionNumber : Scan Nat := do
  let ds ← takeRun isAsciiDigit
  if ds = [] then refuse
  match ds.readNumeral with
  | .ok n => return n
  | .error f => throw (.fault f)

/-- The value of a hexadecimal digit. -/
def hexDigit? (c : Char) : Option Nat :=
  if '0' ≤ c ∧ c ≤ '9' then some (c.toNat - 48)
  else if 'a' ≤ c ∧ c ≤ 'f' then some (c.toNat - 87)
  else if 'A' ≤ c ∧ c ≤ 'F' then some (c.toNat - 55)
  else none

/-- The value of `n` hexadecimal digits. -/
def hexNumber (n : Nat) : Scan Nat := do
  let ds := (← rest).take n
  let values := ds.filterMap hexDigit?
  if values.length < n then refuse
  forward n
  return values.foldl (fun a v => a * 16 + v) 0

/-- Tags are compared after their escapes are replaced by bytes; an escaped byte that is no
character of ASCII gives no tag that is known. -/
def unescapeTag : Text → Option Text
  | [] => some []
  | '%' :: a :: b :: r => do
    let n := (← hexDigit? a) * 16 + (← hexDigit? b)
    if n < 128 then return Char.ofNat n :: (← unescapeTag r) else none
  | '%' :: _ => none
  | c :: r => return c :: (← unescapeTag r)

/-- The part of a tag after its handle. -/
def tagSuffix : Scan Text := do
  let raw ← takeRun isTagChar
  if raw = [] then refuse
  match unescapeTag raw with
  | some t => return t
  | none => refuse

/-- The handle of a tag. -/
def tagHandle : Scan Text := do
  match ← rest with
  | '!' :: ' ' :: _ => do
    forward 1
    return ['!']
  | '!' :: r =>
    let n := r.takeWhile isNameChar
    match r.drop n.length with
    | '!' :: _ => do
      forward (n.length + 2)
      return '!' :: n ++ ['!']
    | _ => refuse
  | _ => refuse

/-- A directive, from its percent sign on. -/
def directive : Scan Directive := do
  forward 1
  let n ← name
  if ! atSpace (← rest) then refuse
  let d ← if n = "YAML".toList then do
      discard <| takeRun (· == ' ')
      let major ← versionNumber
      if (← rest).head? != some '.' then refuse
      forward 1
      discard versionNumber
      if ! atSpace (← rest) then refuse
      pure (Directive.version major)
    else if n = "TAG".toList then do
      discard <| takeRun (· == ' ')
      let handle ← tagHandle
      if (← rest).head? != some ' ' then refuse
      discard <| takeRun (· == ' ')
      let expansion ← tagSuffix
      if ! atSpace (← rest) then refuse
      pure (Directive.tagHandle handle expansion)
    else do
      discard <| takeRun fun c => ! isBreak c
      pure Directive.unknown
  finishLine
  return d

/-- Whether a text is where the name of an anchor may end. -/
def atNameEnd : Text → Bool
  | [] => true
  | c :: _ => isBreak c || " \t?:,]\x7d%@\x60".toList.contains c

/-- The name of an anchor or an alias, after its sign. -/
def anchorName : Scan Text := do
  forward 1
  let n ← name
  if ! atNameEnd (← rest) then refuse
  return n

/-- Whether a tag has a handle: whether another mark comes before the next space. -/
def hasHandle (t : Text) : Bool := (t.takeWhile fun c => ! (c == ' ' || isBreak c)).contains '!'

/-- A tag, from its mark on. -/
def tag : Scan TagName := do
  let after := (← rest).drop 1
  let n ← if after.head? == some '<' then do
      forward 2
      let suffix ← tagSuffix
      if (← rest).head? != some '>' then refuse
      forward 1
      pure (TagName.mk none suffix)
    else if atGap after then do
      forward 1
      pure (TagName.mk none ['!'])
    else if hasHandle after then do
      let handle ← tagHandle
      pure (TagName.mk (some handle) (← tagSuffix))
    else do
      forward 1
      pure (TagName.mk (some ['!']) (← tagSuffix))
  if ! atSpace (← rest) then refuse
  return n

/-! ## block scalars -/

/-- Which line breaks at the end of a block scalar are kept. -/
inductive Chomping where
  | strip
  | clip
  | keep
  deriving DecidableEq

/-- What a sign says about the end of a block scalar. -/
def chompingOf? : Option Char → Option Chomping
  | some '+' => some .keep
  | some '-' => some .strip
  | _ => none

/-- The indentation that a digit says a block scalar has. -/
def incrementOf? (c : Option Char) : Scan (Option Nat) := do
  match c with
  | none => return none
  | some c =>
    if isAsciiDigit c then
      if c = '0' then refuse
      forward 1
      return some (c.toNat - 48)
    else return none

/-- The signs after the mark of a block scalar. -/
def blockHeader : Scan (Chomping × Option Nat) := do
  let result ← match chompingOf? (← rest).head? with
    | some chomping => do
      forward 1
      pure (chomping, ← incrementOf? (← rest).head?)
    | none => do
      match ← incrementOf? (← rest).head? with
      | none => pure (.clip, none)
      | some n =>
        match chompingOf? (← rest).head? with
        | some chomping => do
          forward 1
          pure (chomping, some n)
        | none => pure (.clip, some n)
  if ! atSpace (← rest) then refuse
  return result

/-- Go past leading empty lines; give their breaks and the greatest column reached. -/
def findIndentation : Nat → Text → Nat → Scan (Text × Nat)
  | 0, breaks, column => return (breaks, column)
  | fuel + 1, breaks, column => do
    match ← rest with
    | [] => return (breaks, column)
    | c :: _ =>
      if c == ' ' then
        forward 1
        findIndentation fuel breaks (max column (← get).column)
      else if isBreak c then
        let b ← lineBreak
        findIndentation fuel (breaks ++ b) column
      else return (breaks, column)

/-- Go past spaces up to a column. -/
def skipIndent (indent : Nat) : Scan Unit := do
  let s ← get
  let spaces : Text := (s.rest.takeWhile (· == ' ')).take (indent - s.column)
  forward spaces.length

/-- Go past empty lines and the indentation after them; give the breaks. -/
def emptyLines (indent : Nat) : Nat → Text → Scan Text
  | 0, breaks => return breaks
  | fuel + 1, breaks => do
    skipIndent indent
    match ← rest with
    | [] => return breaks
    | c :: _ =>
      if isBreak c then
        let b ← lineBreak
        emptyLines indent fuel (breaks ++ b)
      else return breaks

/-- Whether a text is at a blank. -/
def atBlank (t : Text) : Bool := t.head? == some ' ' || t.head? == some '\t'

/-- The lines of a block scalar: its text, the last line break, and the empty lines after it. -/
def blockLines (folded : Bool) (indent : Nat) : Nat → Text → Text → Scan (Text × Text × Text)
  | 0, _, _ => refuse
  | fuel + 1, done, breaks => do
    let s ← get
    if s.column = indent ∧ ! s.rest.isEmpty then
      let more := ! atBlank s.rest
      let line ← takeRun fun c => ! isBreak c
      let b ← lineBreak
      let empties ← emptyLines indent (s.rest.length + 1) []
      let s' ← get
      if s'.column = indent ∧ ! s'.rest.isEmpty then
        let joint : Text :=
          if folded && b == ['\n'] && more && ! atBlank s'.rest then
            (if empties.isEmpty then [' '] else [])
          else b
        blockLines folded indent fuel (done ++ breaks ++ line ++ joint) empties
      else return (done ++ breaks ++ line, b, empties)
    else return (done, [], breaks)

/-- A block scalar, from its mark on. -/
def blockScalar (folded : Bool) : Scan Text := do
  forward 1
  let (chomping, increment) ← blockHeader
  finishLine
  let s ← get
  let least := (max 1 (s.indent + 1)).toNat
  let fuel := s.rest.length + 1
  let (indent, breaks) ← match increment with
    | none => do
      let (breaks, column) ← findIndentation fuel [] 0
      pure (max least column, breaks)
    | some n => do
      let indent := least + n - 1
      pure (indent, ← emptyLines indent fuel [])
  let (t, last, empties) ← blockLines folded indent fuel [] breaks
  return t ++ (if chomping = .strip then [] else last) ++ (if chomping = .keep then empties else [])

/-! ## quoted scalars -/

/-- Go past the line breaks inside a quoted scalar, with the blanks around them; give the breaks. -/
def quotedBreaks : Nat → Text → Scan Text
  | 0, breaks => return breaks
  | fuel + 1, breaks => do
    if atDocumentMarker (← rest) then refuse
    discard <| takeRun fun c => c == ' ' || c == '\t'
    if ! atBreak (← rest) || (← rest).isEmpty then return breaks
    let b ← lineBreak
    quotedBreaks fuel (breaks ++ b)

/-- The blanks inside a quoted scalar: kept within a line, folded at its end. -/
def quotedSpaces : Scan Text := do
  let blanks ← takeRun fun c => c == ' ' || c == '\t'
  match ← rest with
  | [] => refuse
  | c :: r =>
    if isBreak c then
      let b ← lineBreak
      let breaks ← quotedBreaks (r.length + 1) []
      return (if b != ['\n'] then b else if breaks.isEmpty then [' '] else []) ++ breaks
    else return blanks

/-- What a character stands for after a backslash in double quotes. -/
def escaped? : Char → Option Nat
  | '0' => some 0
  | 'a' => some 7
  | 'b' => some 8
  | 't' => some 9
  | '\t' => some 9
  | 'n' => some 10
  | 'v' => some 11
  | 'f' => some 12
  | 'r' => some 13
  | 'e' => some 27
  | ' ' => some 32
  | '"' => some 34
  | '\\' => some 92
  | '/' => some 47
  | 'N' => some 0x85
  | '_' => some 0xA0
  | 'L' => some 0x2028
  | 'P' => some 0x2029
  | _ => none

/-- The number of hexadecimal digits that follow a letter after a backslash. -/
def escapeWidth? : Char → Option Nat
  | 'x' => some 2
  | 'u' => some 4
  | 'U' => some 8
  | _ => none

/-- What a backslash and what follows it stand for in double quotes. -/
def escape : Scan (List Nat) := do
  forward 1
  match ← rest with
  | [] => refuse
  | c :: r =>
    match escaped? c, escapeWidth? c with
    | some n, _ => do
      forward 1
      return [n]
    | none, some width => do
      forward 1
      let n ← hexNumber width
      if n < 0x110000 then return [n] else refuse
    | none, none =>
      if isBreak c then
        discard lineBreak
        let breaks ← quotedBreaks (r.length + 1) []
        return breaks.map Char.toNat
      else refuse

/-- The code points of a quoted scalar up to its closing quote. -/
def quotedCodes (quote : Char) : Nat → List Nat → Scan (List Nat)
  | 0, _ => refuse
  | fuel + 1, done => do
    match ← rest with
    | [] => refuse
    | c :: r =>
      if c = quote then
        if quote = '\'' ∧ r.head? = some '\'' then
          forward 2
          quotedCodes quote fuel (done ++ [39])
        else
          forward 1
          return done
      else if c = '\\' ∧ quote = '"' then
        let codes ← escape
        quotedCodes quote fuel (done ++ codes)
      else if c = ' ' ∨ c = '\t' ∨ isBreak c then
        let spaces ← quotedSpaces
        quotedCodes quote fuel (done ++ spaces.map Char.toNat)
      else
        forward 1
        quotedCodes quote fuel (done ++ [c.toNat])

/-- A quoted scalar, from its opening quote on. -/
def quotedScalar (quote : Char) : Scan Str := do
  forward 1
  let codes ← quotedCodes quote ((← rest).length + 1) []
  return .ofCodes codes

/-! ## plain scalars -/

/-- Whether a colon in front of a text ends a plain scalar. -/
def endsPlain (inFlow : Bool) (after : Text) : Bool :=
  atGap after || (inFlow && ",[]\x7b\x7d".toList.contains (after.head?.getD ' '))

/-- The number of characters of a plain scalar up to the next blank. -/
def plainLength (inFlow : Bool) : Text → Nat
  | [] => 0
  | c :: r =>
    if isBreak c || c == ' ' || c == '\t' then 0
    else if c == ':' && endsPlain inFlow r then 0
    else if inFlow && ",?[]\x7b\x7d".toList.contains c then 0
    else plainLength inFlow r + 1

/-- The empty lines after a line of a plain scalar; nothing when a document ends there. -/
def plainBreaks : Nat → Text → Scan (Option Text)
  | 0, breaks => return some breaks
  | fuel + 1, breaks => do
    match ← rest with
    | [] => return some breaks
    | c :: _ =>
      if c == ' ' then
        forward 1
        plainBreaks fuel breaks
      else if isBreak c then
        let b ← lineBreak
        if atDocumentMarker (← rest) then return none
        plainBreaks fuel (breaks ++ b)
      else return some breaks

/-- What stands between two parts of a plain scalar; nothing when it ends here. -/
def plainSpaces : Scan Text := do
  let blanks ← takeRun (· == ' ')
  match ← rest with
  | [] => return blanks
  | c :: r =>
    if isBreak c then
      let b ← lineBreak
      allowKey true
      if atDocumentMarker (← rest) then return []
      match ← plainBreaks (r.length + 1) [] with
      | none => return []
      | some breaks =>
        return (if b != ['\n'] then b else if breaks.isEmpty then [' '] else []) ++ breaks
    else return blanks

/-- The parts of a plain scalar, with what stands between them. -/
def plainParts (indent : Int) : Nat → Text → Text → Scan Text
  | 0, done, _ => return done
  | fuel + 1, done, spaces => do
    let s ← get
    if s.rest.head? == some '#' then return done
    let n := plainLength (s.flowLevel != 0) s.rest
    if n = 0 then return done
    allowKey false
    let done := done ++ spaces ++ s.rest.take n
    forward n
    let spaces ← plainSpaces
    let s ← get
    if spaces.isEmpty || s.rest.head? == some '#' ||
        (s.flowLevel == 0 && decide ((s.column : Int) < indent)) then return done
    plainParts indent fuel done spaces

/-- A plain scalar. -/
def plainScalar : Scan Text := do
  let s ← get
  plainParts (s.indent + 1) (s.rest.length + 1) [] []

/-! ## the next tokens -/

/-- Skip blanks, comments and line ends up to the next token. -/
def skipToToken : Nat → Scan Unit
  | 0 => pure ()
  | fuel + 1 => do
    discard <| takeRun (· == ' ')
    if (← rest).head? == some '#' then discard <| takeRun fun c => ! isBreak c
    let b ← lineBreak
    if ! b.isEmpty then
      if (← get).flowLevel = 0 then allowKey true
      skipToToken fuel

/-- Whether a plain scalar can start here. -/
def startsPlain (inFlow : Bool) : Text → Bool
  | [] => false
  | c :: r =>
    ! (isBreak c || " \t-?:,[]\x7b\x7d#&*!|>'\"%@\x60".toList.contains c) ||
      (! atGap r && (c == '-' || (! inFlow && (c == '?' || c == ':'))))

/-- Open a collection in brackets. -/
def openFlow (t : Token) : Scan Unit := do
  saveKey
  modify fun s => { s with flowLevel := s.flowLevel + 1, allowKey := true }
  forward 1
  emit t

/-- Close a collection in brackets. -/
def closeFlow (t : Token) : Scan Unit := do
  dropKey
  if (← get).flowLevel = 0 then refuse
  modify fun s => { s with flowLevel := s.flowLevel - 1, allowKey := false }
  forward 1
  emit t

/-- Open a block here, outside brackets, where one may start. -/
def openBlock (t : Token) : Scan Unit := do
  let s ← get
  if s.flowLevel = 0 then
    if ! s.allowKey then refuse
    let opened ← addIndent s.column
    if opened then emit t

/-- The item mark of a block sequence. -/
def blockEntry : Scan Unit := do
  openBlock .blockSequenceStart
  allowKey true
  dropKey
  forward 1
  emit .blockEntry

/-- The mark of a key. -/
def keyMark : Scan Unit := do
  openBlock .blockMappingStart
  allowKey ((← get).flowLevel = 0)
  dropKey
  forward 1
  emit .key

/-- The mark of a value, which may make a key of what came before. -/
def valueMark : Scan Unit := do
  let s ← get
  match s.keys.lookup s.flowLevel with
  | some k =>
    set { s with keys := s.keys.filter fun x => x.1 != s.flowLevel }
    insertAt k.token .key
    if s.flowLevel = 0 then
      let opened ← addIndent k.column
      if opened then insertAt k.token .blockMappingStart
    allowKey false
  | none =>
    openBlock .blockMappingStart
    allowKey (s.flowLevel = 0)
    dropKey
  forward 1
  emit .value

/-- A token that a key may start with. -/
def keyToken (scan : Scan Token) : Scan Unit := do
  saveKey
  allowKey false
  let t ← scan
  emit t

/-- A token that ends everything that is open. -/
def outermost (scan : Scan Token) : Scan Unit := do
  unwind (-1)
  dropKey
  allowKey false
  let t ← scan
  emit t

/-- A block scalar. -/
def blockToken (folded : Bool) : Scan Unit := do
  allowKey true
  dropKey
  let t ← blockScalar folded
  emit (.scalar (.text t) false)

/-- A plain scalar. -/
def plainToken : Scan Unit := do
  saveKey
  allowKey false
  let t ← plainScalar
  emit (.scalar (.text t) true)

/-- Scan the next tokens; tell whether the text is used up. -/
def step : Scan Bool := do
  skipToToken ((← rest).length + 1)
  dropStaleKeys
  unwind (← get).column
  let s ← get
  let inFlow := s.flowLevel != 0
  let go (act : Scan Unit) : Scan Bool := do
    act
    return false
  match s.rest with
  | [] => do
    unwind (-1)
    dropKey
    emit .streamEnd
    return true
  | c :: r =>
    if c = '%' ∧ s.column = 0 then go (outermost (.directive <$> directive))
    else if s.column = 0 ∧ atMarker '-' s.rest then
      go (outermost (do forward 3; pure .documentStart))
    else if s.column = 0 ∧ atMarker '.' s.rest then
      go (outermost (do forward 3; pure .documentEnd))
    else if c = '[' then go (openFlow .flowSequenceStart)
    else if c = '\x7b' then go (openFlow .flowMappingStart)
    else if c = ']' then go (closeFlow .flowSequenceEnd)
    else if c = '\x7d' then go (closeFlow .flowMappingEnd)
    else if c = ',' then go (do allowKey true; dropKey; forward 1; emit .flowEntry)
    else if c = '-' ∧ atGap r then go blockEntry
    else if c = '?' ∧ (inFlow ∨ atGap r) then go keyMark
    else if c = ':' ∧ (inFlow ∨ atGap r) then go valueMark
    else if c = '*' then go (keyToken (.alias <$> anchorName))
    else if c = '&' then go (keyToken (.anchor <$> anchorName))
    else if c = '!' then go (keyToken (.tag <$> tag))
    else if c = '|' ∧ ¬ inFlow then go (blockToken false)
    else if c = '>' ∧ ¬ inFlow then go (blockToken true)
    else if c = '\'' ∨ c = '"' then go (keyToken ((.scalar · false) <$> quotedScalar c))
    else if startsPlain inFlow s.rest then go plainToken
    else refuse

/-- Scan to the end. -/
def toEnd : Nat → Scan Unit
  | 0 => refuse
  | fuel + 1 => do
    let finished ← step
    if finished then pure () else toEnd fuel

end Scan

/-- The tokens of a text. -/
def Token.ofText (t : Text) : Except Refusal (List Token) := do
  if ! t.all isAllowed then throw .malformed
  let t : Text := match t with
    | '\uFEFF' :: r => r
    | _ => t
  let ((), s) ← StateT.run (Scan.toEnd (t.length + 2)) ⟨t, 0, 0, 0, -1, [], 0, true, [], []⟩
  return s.tokens

end ExMode.Yaml
