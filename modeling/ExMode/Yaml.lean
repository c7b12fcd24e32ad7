import ExMode.Yaml.Node
import ExMode.Yaml.Scalar

/-!
# ExMode.Yaml

Reading documents in YAML 1.1: scanned to tokens, built to a tree of nodes, and
made into a document.  A node is what its tag says, and without one it is what
its text looks like if it is plain, and text if it is quoted.  The members of a
mapping that are merged into another come before its own, which replace them.
-/

namespace ExMode.Yaml

open Document

/-- What stands in front of the names of the standard tags. -/
def tagStem : Text := "tag:yaml.org,2002:".toList

/-- The name of a standard tag. -/
def standardTag? (tag : Text) : Option Text :=
  if tagStem.isPrefixOf tag then some (tag.drop tagStem.length) else none

/-- The kind of scalar that a tag says. -/
def kindOfTag? (tag : Text) : Option Scalar.Kind :=
  (standardTag? tag).bind fun name =>
    [("null", Scalar.Kind.null), ("bool", .bool), ("int", .int), ("float", .float),
      ("timestamp", .timestamp), ("str", .str), ("merge", .merge), ("value", .value)].findSome?
      fun x => if x.1.toList = name then some x.2 else none

/-- The kind of a scalar with the given tag, if there is such a kind. -/
def scalarKind? (tag : Option Text) (plain : Bool) (s : Str) : Option Scalar.Kind :=
  let seen : Scalar.Kind := match s with
    | .text t => Scalar.kindOf t
    | .broken _ => .str
  match tag with
  | none => some (if plain then seen else .str)
  | some tag => if tag = ['!'] then some seen else kindOfTag? tag

/-- Whether a tag allows a collection of the given name. -/
def allows (name : String) : Option Text → Bool
  | none => true
  | some tag => tag = ['!'] || standardTag? tag == some name.toList

/-- Whether a node is the key that asks for a merge. -/
def isMergeKey : Node → Bool
  | .scalar tag plain s => scalarKind? tag plain s == some .merge
  | _ => false

/-- Whether a value can be the key of a mapping. -/
def canBeKey : Document → Bool
  | .list _ => false
  | .map _ => false
  | _ => true

/-- Add members to a mapping, in order. -/
def addMembers (more members : List (Document × Document)) : List (Document × Document) :=
  more.foldl (fun ms x => setMember x.1 x.2 ms) members

/-- The members that a value merges into a mapping: its own, or those of the mappings in a list, the
first of which win. -/
def mergedMembers : Document → Except Refusal (List (Document × Document))
  | .map ms => .ok ms
  | .list ds => do
    let parts ← ds.mapM fun d => match d with
      | .map ms => .ok ms
      | _ => .error .malformed
    return parts.reverse.flatten
  | _ => .error .malformed

mutual

/-- The document that a node is. -/
def documentOf : Node → Except Refusal Document
  | .scalar tag plain s =>
    match scalarKind? tag plain s with
    | some kind => Scalar.read kind s
    | none => .error .malformed
  | .sequence tag ns => do
    let ds ← itemsOf ns
    if allows "seq" tag then return .list ds else .error .malformed
  | .mapping tag ms => do
    let (merged, own) ← membersOf ms
    if allows "map" tag then return .map (addMembers own (addMembers merged []))
    else .error .malformed

/-- The documents that nodes are. -/
def itemsOf : List Node → Except Refusal (List Document)
  | [] => .ok []
  | n :: ns => do
    let d ← documentOf n
    return d :: (← itemsOf ns)

/-- The members of a mapping: those merged into it, and its own. -/
def membersOf : List (Node × Node) →
    Except Refusal (List (Document × Document) × List (Document × Document))
  | [] => .ok ([], [])
  | (k, v) :: ms => do
    if isMergeKey k then
      let d ← documentOf v
      let more ← mergedMembers d
      let (merged, own) ← membersOf ms
      return (more ++ merged, own)
    else
      let key ← match k with
        | .scalar tag plain s =>
          if scalarKind? tag plain s = some .value then pure (.string s)
          else documentOf (.scalar tag plain s)
        | n => documentOf n
      if ! canBeKey key then .error .malformed
      else
        let value ← documentOf v
        let (merged, own) ← membersOf ms
        return (merged, (key, value) :: own)

end

/-- The document that a text spells; the empty one when it spells none. -/
def read (t : Text) : Except Refusal Document := do
  match ← Node.ofTokens? (← Token.ofText t) with
  | some n => documentOf n
  | none => return .null

end ExMode.Yaml
