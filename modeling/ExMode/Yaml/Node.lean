import ExMode.Yaml.Token

/-!
# ExMode.Yaml.Node

The tree of nodes that tokens describe.  Anchors are resolved while the tree is
built: an alias is a copy of the node it names, which must be complete by then.
A text is one document or none at all; a missing node is an empty plain scalar.
-/

namespace ExMode.Yaml

open Document

/-- A node: a scalar, a sequence or a mapping, with its tag as far as one is written. -/
inductive Node where
  | scalar (tag : Option Text) (plain : Bool) (value : Str)
  | sequence (tag : Option Text) (items : List Node)
  | mapping (tag : Option Text) (members : List (Node × Node))

namespace Node

/-- The node that is not written. -/
def absent : Node := .scalar none true (.text [])

/-- What building knows: the tokens left, the nodes that have names (none for a node that is not
complete yet), and what the handles of tags stand for. -/
structure Builder where
  tokens : List Token
  anchors : List (Text × Option Node)
  handles : List (Text × Text)

/-- A step of building. -/
abbrev Build := StateT Builder (Except Refusal)

namespace Build

/-- Give up. -/
def refuse {α : Type} : Build α := throw .malformed

/-- The next token. -/
def peek : Build (Option Token) := do return (← get).tokens.head?

/-- Go past a token. -/
def skip : Build Unit := modify fun s => { s with tokens := s.tokens.tail }

/-- Whether the next token is one of some tokens. -/
def isAt (ts : List Token) : Build Bool := do
  match ← peek with
  | some t => return ts.contains t
  | none => return false

/-- Go past the next token if it is `t`; tell whether it was. -/
def accept (t : Token) : Build Bool := do
  let found ← isAt [t]
  if found then skip
  return found

/-- Go past the next token, which must be `t`. -/
def expect (t : Token) : Build Unit := do
  let found ← accept t
  if ! found then refuse

/-- The full tag that a written one stands for. -/
def fullTag (n : TagName) : Build Text := do
  match n.handle with
  | none => return n.suffix
  | some handle =>
    match (← get).handles.lookup handle with
    | some expansion => return expansion ++ n.suffix
    | none => refuse

/-- The anchor of a node, if it has one. -/
def takeAnchor : Build (Option Text) := do
  match ← peek with
  | some (.anchor n) => do
    skip
    return some n
  | _ => return none

/-- The tag of a node, if it has one. -/
def takeTag : Build (Option Text) := do
  match ← peek with
  | some (.tag n) => do
    skip
    return some (← fullTag n)
  | _ => return none

/-- The anchor and the tag of a node, in either order. -/
def properties : Build (Option Text × Option Text) := do
  let anchor ← takeAnchor
  let tag ← takeTag
  if anchor.isSome then return (anchor, tag)
  return (← takeAnchor, tag)

/-- Give a node that is about to be built a name. -/
def openAnchor : Option Text → Build Unit
  | none => pure ()
  | some n => do
    let s ← get
    if (s.anchors.lookup n).isSome then refuse
    set { s with anchors := (n, none) :: s.anchors }

/-- Let the name of a node stand for it. -/
def closeAnchor (anchor : Option Text) (node : Node) : Build Node := do
  match anchor with
  | none => return node
  | some n =>
    modify fun s => { s with anchors := (n, some node) :: s.anchors }
    return node

mutual

/-- A node.  In a block position it may be a block; as the value of a mapping it may be a sequence
that is not indented. -/
def node : Nat → (block : Bool) → (indentless : Bool) → Build Node
  | 0, _, _ => refuse
  | fuel + 1, block, indentless => do
    match ← peek with
    | some (.alias n) => do
      skip
      match (← get).anchors.lookup n with
      | some (some a) => return a
      | _ => refuse
    | _ => do
      let (anchor, tag) ← properties
      openAnchor anchor
      let built ← match ← peek with
        | some (.scalar v plain) => do
          skip
          pure (Node.scalar tag plain v)
        | some .flowSequenceStart => do
          skip
          pure (Node.sequence tag (← flowItems fuel true))
        | some .flowMappingStart => do
          skip
          pure (Node.mapping tag (← flowMembers fuel true))
        | some .blockEntry =>
          if indentless then pure (Node.sequence tag (← plainItems fuel))
          else if anchor.isSome || tag.isSome then pure (Node.scalar tag true (.text []))
          else refuse
        | some .blockSequenceStart =>
          if block then
            skip
            pure (Node.sequence tag (← blockItems fuel))
          else if anchor.isSome || tag.isSome then pure (Node.scalar tag true (.text []))
          else refuse
        | some .blockMappingStart =>
          if block then
            skip
            pure (Node.mapping tag (← blockMembers fuel))
          else if anchor.isSome || tag.isSome then pure (Node.scalar tag true (.text []))
          else refuse
        | _ =>
          if anchor.isSome || tag.isSome then pure (Node.scalar tag true (.text []))
          else refuse
      closeAnchor anchor built

/-- The node here, or the absent one when one of some tokens comes next. -/
def nodeUnless : Nat → (block : Bool) → (indentless : Bool) → List Token → Build Node
  | 0, _, _, _ => refuse
  | fuel + 1, block, indentless, ends => do
    let ended ← isAt ends
    if ended then return absent else node fuel block indentless

/-- The items of an indented sequence. -/
def blockItems : Nat → Build (List Node)
  | 0 => refuse
  | fuel + 1 => do
    let more ← accept .blockEntry
    if more then
      let item ← nodeUnless fuel true false [.blockEntry, .blockEnd]
      return item :: (← blockItems fuel)
    else
      expect .blockEnd
      return []

/-- The items of a sequence that is not indented. -/
def plainItems : Nat → Build (List Node)
  | 0 => refuse
  | fuel + 1 => do
    let more ← accept .blockEntry
    if more then
      let item ← nodeUnless fuel true false [.blockEntry, .key, .value, .blockEnd]
      return item :: (← plainItems fuel)
    else return []

/-- The members of an indented mapping. -/
def blockMembers : Nat → Build (List (Node × Node))
  | 0 => refuse
  | fuel + 1 => do
    let keyed ← accept .key
    if keyed then
      let key ← nodeUnless fuel true true [.key, .value, .blockEnd]
      let valued ← accept .value
      let value ← if valued then nodeUnless fuel true true [.key, .value, .blockEnd]
        else pure absent
      return (key, value) :: (← blockMembers fuel)
    else
      expect .blockEnd
      return []

/-- The items of a sequence in brackets. -/
def flowItems : Nat → (first : Bool) → Build (List Node)
  | 0, _ => refuse
  | fuel + 1, first => do
    let ended ← accept .flowSequenceEnd
    if ended then return []
    if ! first then expect .flowEntry
    let keyed ← accept .key
    if keyed then
      let key ← nodeUnless fuel false false [.value, .flowEntry, .flowSequenceEnd]
      let valued ← accept .value
      let value ← if valued then nodeUnless fuel false false [.flowEntry, .flowSequenceEnd]
        else pure absent
      return .mapping none [(key, value)] :: (← flowItems fuel false)
    else
      let ended ← accept .flowSequenceEnd
      if ended then return []
      let item ← node fuel false false
      return item :: (← flowItems fuel false)

/-- The members of a mapping in brackets. -/
def flowMembers : Nat → (first : Bool) → Build (List (Node × Node))
  | 0, _ => refuse
  | fuel + 1, first => do
    let ended ← accept .flowMappingEnd
    if ended then return []
    if ! first then expect .flowEntry
    let keyed ← accept .key
    if keyed then
      let key ← nodeUnless fuel false false [.value, .flowEntry, .flowMappingEnd]
      let valued ← accept .value
      let value ← if valued then nodeUnless fuel false false [.flowEntry, .flowMappingEnd]
        else pure absent
      return (key, value) :: (← flowMembers fuel false)
    else
      let ended ← accept .flowMappingEnd
      if ended then return []
      let key ← node fuel false false
      return (key, absent) :: (← flowMembers fuel false)

end

/-! ## documents -/

/-- What the handles of tags stand for when nothing else is said. -/
def standardHandles : List (Text × Text) :=
  [(['!'], ['!']), (['!', '!'], "tag:yaml.org,2002:".toList)]

/-- The directives in front of a document. -/
def directives : Nat → (versioned : Bool) → List (Text × Text) → Build Unit
  | 0, _, _ => refuse
  | fuel + 1, versioned, handles => do
    match ← peek with
    | some (.directive d) => do
      skip
      match d with
      | .version major =>
        if versioned || major != 1 then refuse
        directives fuel true handles
      | .tagHandle h e =>
        if (handles.lookup h).isSome then refuse
        directives fuel versioned (handles ++ [(h, e)])
      | .unknown => directives fuel versioned handles
    | _ => modify fun s => { s with handles := handles ++ standardHandles }

/-- Go past the marks that end a document. -/
def skipEnds : Nat → Build Unit
  | 0 => pure ()
  | fuel + 1 => do
    let found ← accept .documentEnd
    if found then skipEnds fuel

/-- Whether a directive comes next. -/
def atDirective : Build Bool := do
  match ← peek with
  | some (.directive _) => return true
  | _ => return false

/-- The document, if there is one, and nothing after it. -/
def document (fuel : Nat) : Build (Option Node) := do
  let marked ← isAt [.documentStart, .streamEnd]
  let directed ← atDirective
  let root ← if marked || directed then do
      let ended ← isAt [.streamEnd]
      if ended then return none
      directives fuel false []
      expect .documentStart
      let empty ← isAt [.documentStart, .documentEnd, .streamEnd]
      let directed ← atDirective
      if empty || directed then pure absent else node fuel true false
    else do
      modify fun s => { s with handles := standardHandles }
      node fuel true false
  skipEnds fuel
  expect .streamEnd
  return some root

end Build

/-- The root node that tokens describe, if they describe any. -/
def ofTokens? (ts : List Token) : Except Refusal (Option Node) := do
  let (root, _) ← StateT.run (Build.document (4 * ts.length + 4)) ⟨ts, [], []⟩
  return root

end Node

end ExMode.Yaml
