import ExMode.Decimal.Numeral
import ExMode.Fault
import ExMode.Pattern

/-!
# ExMode.Pattern.Reader

Reading a pattern from its text.  The text is taken token by token, a token
being one character or a backslash with the character after it; a token is
looked at before it is taken, so a lone backslash at the end of the text is
refused as soon as it comes into view.

A refusal says what is wrong and at which character; when the text has several
lines, also at which line and column.

Choices and sequences call each other with less fuel, and each round takes at
least one token, so the length of the text bounds the depth.  How many groups may
be open inside one another is another matter: a reader whose calls are bounded has
no room for more, and refuses the next one.
-/

namespace ExMode.Pattern

/-! ## tokens -/

/-- One token of a pattern. -/
inductive Token where
  | plain (c : Char)
  | escaped (c : Char)
  deriving DecidableEq, Repr

/-- The text of a token. -/
def Token.text : Token → Text
  | .plain c => [c]
  | .escaped c => ['\\', c]

/-- Why a pattern is refused. -/
inductive Refusal where
  /-- The text is no pattern; `position` is the character at fault. -/
  | malformed (what : Text) (position : Option Nat)
  /-- A number in it cannot be dealt with. -/
  | fault (fault : Fault)
  deriving DecidableEq, Repr

/-- The wording of a refusal of `source` at a position. -/
def placedMessage (what : Text) (position : Option Nat) (source : Text) : Text :=
  match position with
  | none => what
  | some n =>
    let earlier := source.take n
    what ++ " at position ".toList ++ Text.ofNat n ++
      if source.contains '\n' then
        " (line ".toList ++ Text.ofNat (earlier.count '\n' + 1) ++ ", column ".toList ++
          Text.ofNat ((earlier.reverse.takeWhile (· != '\n')).length + 1) ++ ")".toList
      else []

/-- What is left of the pattern, where it stands in the whole, and what was learnt on the way. -/
structure Reading where
  rest : Text
  position : Nat
  /-- The options set for the whole pattern. -/
  options : PatternOptions
  /-- The number of the next group. -/
  nextGroup : Nat
  /-- The widths of the groups that are complete. -/
  widths : List (Nat × Nat × Nat)
  /-- The named groups. -/
  names : List (Text × Nat)
  /-- Inside a look behind, the number of the first group that belongs to it. -/
  behindFrom : Option Nat
  /-- The groups that conditions ask about, and where. -/
  asked : List (Nat × Nat)
  /-- The letters of the options set for the whole pattern. -/
  letters : Text

/-- A step of reading. -/
abbrev Read := StateT Reading (Except Refusal)

namespace Read

/-- Refuse the pattern `back` characters before the next token. -/
def refuse {α : Type} (what : Text) (back : Nat) : Read α := do
  throw (.malformed what (some ((← get).position - back)))

/-- Refuse the pattern at a given position. -/
def refuseAt {α : Type} (what : Text) (position : Nat) : Read α :=
  throw (.malformed what (some position))

/-- The next token, not taken yet. -/
def peek : Read (Option Token) := do
  match (← get).rest with
  | [] => return none
  | '\\' :: c :: _ => return some (.escaped c)
  | c :: _ => return some (.plain c)

/-- Refuse a lone backslash in view. -/
def checkEnd : Read Unit := do
  if (← get).rest = ['\\'] then refuse "bad escape (end of pattern)".toList 0

/-- Take the next token, if there is one. -/
def next : Read (Option Token) := do
  let t ← peek
  match t with
  | none => return none
  | some t =>
    let n := t.text.length
    modify fun s => { s with rest := s.rest.drop n, position := s.position + n }
    checkEnd
    return some t

/-- Take the next token if it is the character `c`. -/
def accept (c : Char) : Read Bool := do
  if (← peek) = some (.plain c) then
    let _ ← next
    return true
  else return false

/-- Take at most `n` characters that satisfy `p`. -/
def takeWhile (p : Char → Bool) : Nat → Read Text
  | 0 => return []
  | n + 1 => do
    match ← peek with
    | some (.plain c) =>
      if p c then
        let _ ← next
        return c :: (← takeWhile p n)
      else return []
    | _ => return []

/-- Take the text before a closing character, and that character. -/
def takeUntil (close : Char) (what : String) : Nat → Text → Read Text
  | 0, t => return t
  | fuel + 1, t => do
    match ← next with
    | none =>
      if t = [] then refuse ("missing " ++ what).toList 0
      else refuse ("missing ".toList ++ [close] ++ ", unterminated name".toList) t.length
    | some tok =>
      if tok = .plain close then
        if t = [] then refuse ("missing " ++ what).toList 1 else return t
      else takeUntil close what fuel (t ++ tok.text)

/-- How much text is left. -/
def fuel : Read Nat := do return (← get).rest.length + 1

end Read

open Read

/-! ## escapes -/

/-- Whether a character is a hexadecimal digit. -/
def isHexDigit (c : Char) : Bool :=
  isAsciiDigit c || ('a' ≤ c && c ≤ 'f') || ('A' ≤ c && c ≤ 'F')

/-- Whether a character is an octal digit. -/
def isOctalDigit (c : Char) : Bool := '0' ≤ c && c ≤ '7'

/-- The value of digits in base `base`. -/
def valueIn (base : Nat) (t : Text) : Nat :=
  t.foldl (fun n c =>
    let d := if isAsciiDigit c then c.toNat - 48 else (lowerAscii c).toNat - 87
    base * n + d) 0

/-- The code point that a single letter after a backslash stands for everywhere. -/
def controlEscape? : Char → Option Nat
  | 'a' => some 7
  | 'f' => some 12
  | 'n' => some 10
  | 'r' => some 13
  | 't' => some 9
  | 'v' => some 11
  | '\\' => some 92
  | _ => none

/-- The named class that a letter after a backslash stands for. -/
def classEscape? : Char → Option SetItem
  | 'd' => some (.named .digit false)
  | 'D' => some (.named .digit true)
  | 's' => some (.named .blank false)
  | 'S' => some (.named .blank true)
  | 'w' => some (.named .word false)
  | 'W' => some (.named .word true)
  | _ => none

/-- The anchor that a letter after a backslash stands for. -/
def anchorEscape? : Char → Option PatternAnchor
  | 'A' => some .textStart
  | 'Z' => some .textEnd
  | 'b' => some .wordBoundary
  | 'B' => some .noWordBoundary
  | _ => none

/-- Refuse an escape, at the backslash. -/
def badEscape {α : Type} (escape : Text) : Read α :=
  refuse ("bad escape ".toList ++ escape) escape.length

/-- The code point given by exactly `n` hexadecimal digits after a letter. -/
def hexEscape (letter : Char) (n : Nat) : Read Nat := do
  let ds ← Read.takeWhile isHexDigit n
  let escape := '\\' :: letter :: ds
  if ds.length = n then
    let v := valueIn 16 ds
    if 0x10FFFF < v then badEscape escape else return v
  else refuse ("incomplete escape ".toList ++ escape) escape.length

/-- The code point of a character given by its name; no name is known. -/
def namedEscape : Read Nat := do
  if ← accept '{' then
    let name ← takeUntil '}' "character name" (← fuel) []
    refuse ("undefined character name ".toList ++ name.quoted) (name.length + 4)
  else refuse "missing \x7b".toList 0

/-- A code point of three octal digits has to fit in eight bits. -/
def octalTooLarge {α : Type} (escape : Text) : Read α :=
  let message := "octal escape value ".toList ++ escape ++ " outside of range 0-0o377".toList
  refuse message escape.length

/-- An escape inside a bracketed set. -/
def setEscape (c : Char) : Read SetItem := do
  match controlEscape? c, classEscape? c with
  | some n, _ => return .code n
  | _, some i => return i
  | none, none =>
    if c = 'b' then return .code 8
    else if c = 'x' then return .code (← hexEscape c 2)
    else if c = 'u' then return .code (← hexEscape c 4)
    else if c = 'U' then return .code (← hexEscape c 8)
    else if c = 'N' then return .code (← namedEscape)
    else if isOctalDigit c then
      let ds ← Read.takeWhile isOctalDigit 2
      let v := valueIn 8 (c :: ds)
      if 0o377 < v then octalTooLarge ('\\' :: c :: ds) else return .code v
    else if isAsciiDigit c || isAsciiLetter c then badEscape ['\\', c]
    else return .code c.toNat

/-- Refuse a reference to a group that is not complete yet, or that belongs to the same look
behind. -/
def checkReference (i : Nat) : Read Unit := do
  let s ← get
  match s.behindFrom with
  | none => pure ()
  | some first =>
    if (s.widths.lookup i).isNone then refuse "cannot refer to an open group".toList 0
    if first ≤ i then
      refuse "cannot refer to group defined in the same lookbehind subpattern".toList 0

/-- A reference to a group by number, the escape being `width` characters long. -/
def groupReference (o : PatternOptions) (i width : Nat) : Read Pattern := do
  let s ← get
  if i < s.nextGroup then
    if (s.widths.lookup i).isNone then refuse "cannot refer to an open group".toList width
    checkReference i
    return .reference o i
  else refuse ("invalid group reference ".toList ++ Text.ofNat i) (width - 1)

/-- An escape outside sets. -/
def escape (o : PatternOptions) (c : Char) : Read Pattern := do
  let code (n : Nat) : Pattern := .test o (.code n false)
  match anchorEscape? c, classEscape? c, controlEscape? c with
  | some a, _, _ => return .anchor o a
  | _, some i, _ => return .test o (.set [i] false)
  | _, _, some n => return code n
  | none, none, none =>
    if c = 'x' then return code (← hexEscape c 2)
    else if c = 'u' then return code (← hexEscape c 4)
    else if c = 'U' then return code (← hexEscape c 8)
    else if c = 'N' then return code (← namedEscape)
    else if c = '0' then
      let ds ← Read.takeWhile isOctalDigit 2
      return code (valueIn 8 ds)
    else if isAsciiDigit c then
      let ds ← Read.takeWhile isAsciiDigit 1
      match ds with
      | [d] =>
        let es ← if isOctalDigit c && isOctalDigit d then Read.takeWhile isOctalDigit 1 else pure []
        match es with
        | [e] =>
          let v := valueIn 8 [c, d, e]
          if 0o377 < v then octalTooLarge ['\\', c, d, e] else return code v
        | _ => groupReference o (valueIn 10 [c, d]) 3
      | _ => groupReference o (valueIn 10 [c]) 2
    else if isAsciiLetter c then badEscape ['\\', c]
    else return code c.toNat

/-! ## bracketed sets -/

/-- One end of a range in a set: a token as an item. -/
def setItem : Token → Read SetItem
  | .plain c => return .code c.toNat
  | .escaped c => setEscape c

/-- The items of a set whose bracket opened at `opened`. -/
def setItems (opened : Nat) : Nat → List SetItem → Read (List SetItem)
  | 0, items => return items
  | fuel + 1, items => do
    match ← next with
    | none => refuseAt "unterminated character set".toList opened
    | some this =>
      if this = .plain ']' && ! items.isEmpty then return items
      else
        let low ← setItem this
        if ← accept '-' then
          match ← next with
          | none => refuseAt "unterminated character set".toList opened
          | some that =>
            if that = .plain ']' then return items ++ [low, .code '-'.toNat]
            else
              let high ← setItem that
              let bad : Read (List SetItem) :=
                refuse ("bad character range ".toList ++ this.text ++ '-' :: that.text)
                  (this.text.length + 1 + that.text.length)
              match low, high with
              | .code m, .code n =>
                if n < m then bad else setItems opened fuel (items ++ [.range m n])
              | _, _ => bad
        else setItems opened fuel (items ++ [low])

/-! ## repetitions -/

/-- A repetition count this large or larger is refused. -/
def countLimit : Nat := 4294967295

/-- The value of a repetition count. -/
def readCount (ds : Text) : Read Nat := do
  match ds.readNumeral with
  | .error f => throw (.fault f)
  | .ok n => if countLimit ≤ n then throw (.fault .repetitionTooLarge) else return n

/-- The bounds in braces after an opening brace: `none` when the brace is an ordinary character. -/
def bracedBounds : Read (Option (Nat × Option Nat)) := do
  let s ← get
  if (← peek) = some (.plain '}') then return none
  let los ← Read.takeWhile isAsciiDigit (← fuel)
  let his ← if ← accept ',' then Read.takeWhile isAsciiDigit (← fuel) else pure los
  if ← accept '}' then
    let least ← if los = [] then pure 0 else readCount los
    if his = [] then return some (least, none)
    else
      let most ← readCount his
      if most < least then refuseAt "min repeat greater than max repeat".toList s.position
      else return some (least, some most)
  else
    set s
    return none

/-- Repeat the last of the parts read so far; `opened` is where the repetition starts. -/
def repeatLast (opened least : Nat) (most : Option Nat) : List Pattern → Read (List Pattern)
  | [] => refuseAt "nothing to repeat".toList opened
  | p :: ps => do
    if p.isAnchor then refuseAt "nothing to repeat".toList opened
    if p.isRepetition then refuseAt "multiple repeat".toList opened
    if ← accept '?' then return .repeated .lazy least most p :: ps
    if ← accept '+' then return .repeated .possessive least most p :: ps
    return .repeated .greedy least most p :: ps

/-! ## groups -/

/-- Whether a text can name a group. -/
def isGroupName : Text → Bool
  | [] => false
  | c :: r => (isLetter c || c == '_') && r.all isWordChar

/-- Refuse a text that cannot name a group. -/
def checkGroupName (name : Text) : Read Unit := do
  if ! isGroupName name then
    refuse ("bad character in group name ".toList ++ name.quoted) (name.length + 1)

/-- The options that a letter in a group sets. -/
def optionOf? (o : PatternOptions) (on : Bool) : Char → Option PatternOptions
  | 'i' => some { o with ignoreCase := on }
  | 'm' => some { o with multiline := on }
  | 's' => some { o with dotAll := on }
  | 'x' => some { o with verbose := on }
  | 'a' => some { o with asciiOnly := on }
  | 'u' => some { o with asciiOnly := ! on }
  | 't' => some o
  | 'L' => some o
  | _ => none

/-- Whether a token is a letter that sets an option. -/
def isOptionToken : Token → Bool
  | .plain c => (optionOf? .plain true c).isSome
  | .escaped _ => false

/-- Refuse a token where options or their end should stand. -/
def refuseOption {α : Type} (missing : String) (t : Token) : Read α :=
  let unknown := match t with
    | .plain c => isLetter c
    | .escaped _ => false
  refuse (if unknown then "unknown flag" else missing).toList t.text.length

/-- The options that are turned off, up to the colon, and the letters of those turned off before. -/
def optionsOff : Nat → Token → (off : Text) → PatternOptions → Read (Text × PatternOptions)
  | 0, _, off, o => return (off, o)
  | fuel + 1, t, off, o => do
    match t with
    | .plain c =>
      if c = 'a' || c = 'u' || c = 'L' then
        refuse "bad inline flags: cannot turn off flags 'a', 'u' and 'L'".toList 0
      match optionOf? o false c with
      | none => return (off, o)
      | some o =>
        match ← next with
        | none => refuse "missing :".toList 0
        | some t =>
          if t = .plain ':' then return (c :: off, o)
          else if isOptionToken t then optionsOff fuel t (c :: off) o
          else refuseOption "missing :" t
    | .escaped _ => return (off, o)

/-- What options in parentheses apply to. -/
inductive OptionScope where
  /-- The whole pattern; the letters say which options are turned on. -/
  | global (letters : Text) (options : PatternOptions)
  /-- The group that follows. -/
  | inside (options : PatternOptions)

/-- What follows the letters `on` of options that are turned on: token `t` is a closing parenthesis,
a colon, or the sign in front of options that are turned off. -/
def endOptions (fuel : Nat) (t : Token) (on : Text) (o : PatternOptions) : Read OptionScope := do
  if t = .plain ')' then return .global on o
  if on.contains 't' then refuse "bad inline flags: cannot turn on global flag".toList 1
  if t = .plain ':' then return .inside o
  match ← next with
  | none => refuse "missing flag".toList 0
  | some t =>
    if isOptionToken t then
      let (off, o) ← optionsOff fuel t [] o
      if off.contains 't' then refuse "bad inline flags: cannot turn off global flag".toList 1
      if on.any off.contains then refuse "bad inline flags: flag turned on and off".toList 1
      return .inside o
    else refuseOption "missing flag" t

/-- Whether the two kinds of letters are both asked for. -/
def mixesKinds (letters : Text) : Bool := letters.contains 'a' && letters.contains 'u'

/-- The options after a question mark, starting with token `t`, and the letters of those turned on
before. -/
def optionsOn : Nat → Token → (on : Text) → PatternOptions → Read OptionScope
  | 0, _, _, o => return .inside o
  | fuel + 1, t, on, o => do
    if t = .plain '-' then endOptions fuel t on o
    else
      match t with
      | .escaped _ => return .inside o
      | .plain c =>
        if c = 'L' then
          refuse "bad inline flags: cannot use 'L' flag with a str pattern".toList 0
        if mixesKinds (c :: on) then
          refuse "bad inline flags: flags 'a', 'u' and 'L' are incompatible".toList 0
        match optionOf? o true c with
        | none => return .inside o
        | some o =>
          match ← next with
          | none => refuse "missing -, : or )".toList 0
          | some t =>
            if t = .plain ')' || t = .plain '-' || t = .plain ':' then endOptions fuel t (c :: on) o
            else if isOptionToken t then optionsOn fuel t (c :: on) o
            else refuseOption "missing -, : or )" t

/-- Skip a comment up to its closing parenthesis. -/
def skipComment (opened : Nat) : Nat → Read Unit
  | 0 => return
  | fuel + 1 => do
    match ← peek with
    | none => refuseAt "missing ), unterminated comment".toList opened
    | some _ =>
      if (← next) = some (.plain ')') then return
      else skipComment opened fuel

/-- Skip the rest of a line. -/
def skipLine : Nat → Read Unit
  | 0 => return
  | fuel + 1 => do
    match ← next with
    | none => return
    | some (.plain '\n') => return
    | some _ => skipLine fuel

/-- What a parenthesis opens. -/
inductive Opening where
  | capture (name : Option Text)
  | plain (options : PatternOptions)
  | atomic
  | ahead (negated : Bool)
  | behind (negated : Bool)
  | condition (index : Nat)
  /-- A part that is complete already, or nothing at all. -/
  | whole (part : Option Pattern)

/-- No pattern has as many groups as this. -/
def groupLimit : Nat := 1073741823

/-- The number that a name in a condition spells: digits, among which single underscores may stand,
a sign in front and blanks around. -/
def groupNumber? (name : Text) : Option Nat :=
  let (negative, r) := Decimal.signOf (Decimal.trimmed name)
  let parts := Text.splitOn '_' r
  let digits : Text := parts.flatten
  if parts.any (·.isEmpty) || ! digits.all isDigit ||
      Text.maxNumeralDigits < digits.length then none
  else if negative && 0 < digits.digitsValue then none
  else some digits.digitsValue

/-- The number of the group that a condition asks about. -/
def conditionIndex : Read Nat := do
  let name ← takeUntil ')' "group name" (← fuel) []
  let place := (← get).position - (name.length + 1)
  if isGroupName name then
    match (← get).names.lookup name with
    | none => refuseAt ("unknown group name ".toList ++ name.quoted) place
    | some i => return i
  else
    match groupNumber? name with
    | none => refuseAt ("bad character in group name ".toList ++ name.quoted) place
    | some i =>
      if i = 0 then refuseAt "bad group number".toList place
      if groupLimit ≤ i then
        refuseAt ("invalid group reference ".toList ++ Text.ofNat i) place
      modify fun s =>
        if (s.asked.lookup i).isSome then s else { s with asked := s.asked ++ [(i, place)] }
      return i

/-- What follows an opening parenthesis at `opened`; `atStart` says that nothing stands before
it. -/
def opening (o : PatternOptions) (opened : Nat) (atStart : Bool) : Read Opening := do
  if ← accept '?' then
    match ← next with
    | none => refuse "unexpected end of pattern".toList 0
    | some t =>
      match t with
      | .plain 'P' =>
        if ← accept '<' then
          let name ← takeUntil '>' "group name" (← fuel) []
          checkGroupName name
          return .capture (some name)
        if ← accept '=' then
          let name ← takeUntil ')' "group name" (← fuel) []
          checkGroupName name
          let s ← get
          match s.names.lookup name with
          | none => refuse ("unknown group name ".toList ++ name.quoted) (name.length + 1)
          | some i =>
            if (s.widths.lookup i).isNone then
              refuse "cannot refer to an open group".toList (name.length + 1)
            checkReference i
            return .whole (some (.reference o i))
        match ← next with
        | none => refuse "unexpected end of pattern".toList 0
        | some t => refuse ("unknown extension ?P".toList ++ t.text) (t.text.length + 2)
      | .plain ':' => return .plain o
      | .plain '#' =>
        skipComment opened (← fuel)
        return .whole none
      | .plain '=' => return .ahead false
      | .plain '!' => return .ahead true
      | .plain '<' =>
        match ← next with
        | none => refuse "unexpected end of pattern".toList 0
        | some (.plain '=') => return .behind false
        | some (.plain '!') => return .behind true
        | some t => refuse ("unknown extension ?<".toList ++ t.text) (t.text.length + 2)
      | .plain '(' => return .condition (← conditionIndex)
      | .plain '>' => return .atomic
      | t =>
        if isOptionToken t || t = .plain '-' then
          match ← optionsOn (← fuel) t [] o with
          | .inside o => return .plain o
          | .global letters options =>
            if ! atStart then
              refuseAt "global flags not at the start of the expression".toList opened
            modify fun s => { s with options := options, letters := letters ++ s.letters }
            return .whole none
        else refuse ("unknown extension ?".toList ++ t.text) (t.text.length + 1)
  else return .capture none

/-- Expect the parenthesis that closes the one at `opened`. -/
def close (opened : Nat) : Read Unit := do
  if ! (← accept ')') then refuseAt "missing ), unterminated subpattern".toList opened

/-- Start a group: its number. -/
def openGroup (name : Option Text) : Read Nat := do
  let s ← get
  match name with
  | none => pure ()
  | some n =>
    match s.names.lookup n with
    | none => pure ()
    | some i =>
      refuse ("redefinition of group name ".toList ++ n.quoted ++ " as group ".toList ++
        Text.ofNat s.nextGroup ++ "; was group ".toList ++ Text.ofNat i) (n.length + 1)
  set { s with
    nextGroup := s.nextGroup + 1
    names := match name with
      | none => s.names
      | some n => s.names ++ [(n, s.nextGroup)] }
  return s.nextGroup

/-- Blanks that a verbose pattern does not count. -/
def isLayout (c : Char) : Bool :=
  c == ' ' || c == '\t' || c == '\n' || c == '\r' || c == '\x0b' || c == '\x0c'

/-- The room for more groups that is left inside a group. -/
def enter : Option Nat → Read (Option Nat)
  | none => return none
  | some 0 => throw (.fault .tooManyCalls)
  | some (room + 1) => return some room

/-- Read what a parenthesis opened, up to the one that closes it: a part, or nothing where options
for the whole pattern stand.  What is inside is read by `alternatives`, and each side of a condition
by `side`, with the room for groups that is left there. -/
def readOpened (room : Option Nat) (alternatives : Option Nat → PatternOptions → Read Pattern)
    (side : Option Nat → Read Pattern) (o : PatternOptions) (opened : Nat) :
    Opening → Read (Option Pattern)
  | .whole part => return part
  | .plain inner => do
    let p ← alternatives (← enter room) inner
    close opened
    return some (.group p)
  | .atomic => do
    let p ← alternatives (← enter room) o
    close opened
    return some (.atomic p)
  | .capture name => do
    let i ← openGroup name
    let p ← alternatives (← enter room) o
    close opened
    modify fun s => { s with widths := (i, p.width s.widths) :: s.widths }
    return some (.capture i p)
  | .ahead negated => do
    let p ← alternatives (← enter room) o
    close opened
    return some (.lookAhead negated p)
  | .behind negated => do
    let outer := (← get).behindFrom
    modify fun s => { s with behindFrom := some (outer.getD s.nextGroup) }
    let p ← alternatives (← enter room) o
    modify fun s => { s with behindFrom := outer }
    close opened
    let w := p.width (← get).widths
    return some (.lookBehind negated w.1 w.2 p)
  | .condition i => do
    checkReference i
    let inner ← enter room
    let yes ← side inner
    let no ← if ← accept '|' then
        let no ← side inner
        if (← peek) = some (.plain '|') then
          refuse "conditional backref with more than two branches".toList 0
        pure no
      else pure .empty
    close opened
    return some (.conditional i yes no)

/-! ## the grammar -/

mutual

/-- Alternatives, up to a closing parenthesis or the end. -/
def readChoice : (room : Option Nat) → Nat → PatternOptions → (outermost : Bool) → List Pattern →
    Read Pattern
  | _, 0, _, _, ps => return choice ps.reverse
  | room, fuel + 1, o, outermost, ps => do
    let p ← readSequence room fuel o (outermost && ps.isEmpty) []
    if ← accept '|' then
      let s ← get
      readChoice room fuel (if outermost then s.options else o) outermost (p :: ps)
    else return choice (p :: ps).reverse

/-- Parts one after the other, up to a bar, a closing parenthesis or the end; the parts read so
far come last first.  `first` says that nothing at all stands before them. -/
def readSequence : (room : Option Nat) → Nat → PatternOptions → (first : Bool) → List Pattern →
    Read Pattern
  | _, 0, _, _, ps => return sequence ps.reverse
  | room, fuel + 1, o, first, ps => do
    match ← peek with
    | none => return sequence ps.reverse
    | some (.plain '|') => return sequence ps.reverse
    | some (.plain ')') => return sequence ps.reverse
    | some t =>
      let opened := (← get).position
      let _ ← next
      match t with
      | .escaped c => readSequence room fuel o first ((← escape o c) :: ps)
      | .plain c =>
        if o.verbose && isLayout c then readSequence room fuel o first ps
        else if o.verbose && c = '#' then
          skipLine (← Read.fuel)
          readSequence room fuel o first ps
        else if c = '[' then
          let negated ← accept '^'
          let items ← setItems opened (← Read.fuel) []
          let test := match items with
            | [.code n] => .code n negated
            | items => .set items negated
          readSequence room fuel o first (.test o test :: ps)
        else if c = '*' then readSequence room fuel o first (← repeatLast opened 0 none ps)
        else if c = '+' then readSequence room fuel o first (← repeatLast opened 1 none ps)
        else if c = '?' then readSequence room fuel o first (← repeatLast opened 0 (some 1) ps)
        else if c = '{' then
          match ← bracedBounds with
          | none => readSequence room fuel o first (.test o (.code c.toNat false) :: ps)
          | some (least, most) =>
            readSequence room fuel o first (← repeatLast opened least most ps)
        else if c = '.' then readSequence room fuel o first (.test o .any :: ps)
        else if c = '^' then readSequence room fuel o first (.anchor o .lineStart :: ps)
        else if c = '$' then readSequence room fuel o first (.anchor o .lineEnd :: ps)
        else if c = '(' then
          let what ← opening o opened (first && ps.isEmpty)
          let part ← readOpened room (fun room inner => readChoice room fuel inner false [])
            (fun room => readSequence room fuel o false []) o opened what
          match part with
          | some p => readSequence room fuel o first (p :: ps)
          | none =>
            let s ← get
            readSequence room fuel (if first && ps.isEmpty then s.options else o) first ps
        else readSequence room fuel o first (.test o (.code c.toNat false) :: ps)

end

/-- The end of a whole pattern: all of the text was read, the groups that are asked for are there,
and nothing keeps the pattern from being carried out. -/
def finish (p : Pattern) : Read Pattern := do
  match ← peek with
  | some _ => refuse "unbalanced parenthesis".toList 0
  | none => pure ()
  let s ← get
  match s.asked.find? fun a => decide (s.nextGroup ≤ a.1) with
  | some a => refuseAt ("invalid group reference ".toList ++ Text.ofNat a.1) a.2
  | none => pure ()
  match p.refusal? (s.letters.contains 't') with
  | some what => throw (.malformed what none)
  | none => return p

/-- A whole pattern, with room for so many groups inside one another. -/
def readAll (room : Option Nat) : Read Pattern := do
  checkEnd
  let s ← get
  let p ← readChoice room (4 * s.rest.length + 8) s.options true []
  if mixesKinds (← get).letters then throw (.fault .incompatibleOptions)
  finish p

/-- A pattern that was read, and the number of its groups. -/
structure Compiled where
  pattern : Pattern
  groups : Nat
  deriving DecidableEq, Repr

/-- Nothing of a text is read yet. -/
def Reading.start (o : PatternOptions) (t : Text) : Reading := ⟨t, 0, o, 1, [], [], none, [], []⟩

/-- Read a pattern from its text; if `room` says so, groups may only be that many deep. -/
def ofTextIn (room : Option Nat) (o : PatternOptions) (t : Text) : Except Refusal Compiled :=
  match (readAll room).run (.start o t) with
  | .ok (p, s) => .ok ⟨p, s.nextGroup - 1⟩
  | .error e => .error e

/-- Read a pattern from its text, however deep its groups are. -/
def ofText (o : PatternOptions) (t : Text) : Except Refusal Compiled := ofTextIn none o t

/-- How deep the groups of a pattern may be that is part of a command.  A group is read by two calls
within those for the group around it, a thousand calls may be open inside one another, and about
twenty of them are when the reading of a pattern begins. -/
def maxNesting : Nat := 489

end ExMode.Pattern
