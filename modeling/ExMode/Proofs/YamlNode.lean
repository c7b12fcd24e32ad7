import ExMode.Proofs.Effect
import ExMode.Yaml.Node

/-!
# ExMode.Proofs.YamlNode

The tree of nodes that tokens describe.  Tokens that describe none are refused as not
of the format and for no other reason, and the scalars of a tree are scalars of the
tokens or scalars that are not written, which are empty (`Node.all_of_ofTokens?`).

What building knows is made of such scalars, and stays so (`Node.Builds`).  The parts
of the builder call each other, and all are reached by one induction on their fuel.
-/

namespace ExMode.Yaml

open Document

variable {P : Str → Prop}

namespace Node

mutual

/-- All scalars of a node have `P`. -/
def All (P : Str → Prop) : Node → Prop
  | .scalar _ _ v => P v
  | .sequence _ ns => AllItems P ns
  | .mapping _ ms => AllMembers P ms

/-- All scalars of some nodes have `P`. -/
def AllItems (P : Str → Prop) : List Node → Prop
  | [] => True
  | n :: ns => n.All P ∧ AllItems P ns

/-- All scalars of the members of a mapping have `P`. -/
def AllMembers (P : Str → Prop) : List (Node × Node) → Prop
  | [] => True
  | (k, v) :: ms => k.All P ∧ v.All P ∧ AllMembers P ms

end

/-- What building knows is made of scalars with `P`. -/
structure Builder.All (P : Str → Prop) (s : Builder) : Prop where
  tokens : ∀ v plain, Token.scalar v plain ∈ s.tokens → P v
  anchors : ∀ n a, (n, some a) ∈ s.anchors → a.All P

/-- A step of building that keeps to scalars with `P`; what it gives has `Q`. -/
abbrev Builds {α : Type} (P : Str → Prop) (Q : α → Prop) (act : Build α) : Prop :=
  Maintains (Builder.All P) (· = .malformed) Q act

/-- A step of building that keeps to scalars with `P`. -/
abbrev Keeps {α : Type} (P : Str → Prop) (act : Build α) : Prop := Builds P (fun _ => True) act

namespace Build

variable {α β : Type} {Q : α → Prop} {S : β → Prop}

theorem keeps_pure (a : α) : Keeps P (pure a) := maintains_pure trivial

theorem builds_refuse : Builds P Q (refuse : Build α) := maintains_throw rfl

/-- A check that refuses, in front of the rest of a step. -/
theorem builds_guard {p : Prop} [Decidable p] {f : PUnit → Build β} (hf : Builds P S (f ())) :
    Builds P S (if p then refuse >>= f else f ()) := maintains_guard rfl hf

theorem builds_get_bind {f : Builder → Build β} (hf : ∀ s : Builder, s.All P → Builds P S (f s)) :
    Builds P S (get >>= f) := maintains_get_bind hf

/-! ## tokens -/

theorem builds_peek : Builds P (fun k => ∀ v plain, k = some (.scalar v plain) → P v) peek :=
  builds_get_bind fun _ hs =>
    maintains_pure fun v plain hk => hs.tokens v plain (List.mem_of_head? hk)

theorem keeps_peek : Keeps P peek := builds_peek.mono fun _ _ => trivial

theorem keeps_skip : Keeps P skip :=
  maintains_modify fun _ hs =>
    ⟨fun v plain h => hs.tokens v plain (List.mem_of_mem_tail h), hs.anchors⟩

theorem keeps_isAt (ts : List Token) : Keeps P (isAt ts) := by
  refine keeps_peek.next fun k => ?_
  split <;> exact keeps_pure _

theorem keeps_accept (k : Token) : Keeps P (accept k) :=
  (keeps_isAt _).next fun _ => Maintains.optional keeps_skip (keeps_pure _)

theorem keeps_expect (k : Token) : Keeps P (expect k) :=
  (keeps_accept k).next fun _ => maintains_ite builds_refuse (keeps_pure _)

/-! ## tags and anchors -/

theorem keeps_fullTag (n : TagName) : Keeps P (fullTag n) := by
  unfold fullTag
  split
  · exact keeps_pure _
  · refine builds_get_bind fun s _ => ?_
    split
    · exact keeps_pure _
    · exact builds_refuse

theorem keeps_takeAnchor : Keeps P takeAnchor := by
  refine keeps_peek.next fun k => ?_
  split
  · exact keeps_skip.next fun _ => keeps_pure _
  · exact keeps_pure _

theorem keeps_takeTag : Keeps P takeTag := by
  refine keeps_peek.next fun k => ?_
  split
  · exact keeps_skip.next fun _ => (keeps_fullTag _).next fun _ => keeps_pure _
  · exact keeps_pure _

theorem keeps_properties : Keeps P properties :=
  keeps_takeAnchor.next fun _ => keeps_takeTag.next fun _ =>
    maintains_ite (keeps_pure _) (keeps_takeAnchor.next fun _ => keeps_pure _)

theorem keeps_openAnchor (anchor : Option Text) : Keeps P (openAnchor anchor) := by
  unfold openAnchor
  split
  · exact keeps_pure _
  · refine builds_get_bind fun s hs => builds_guard (maintains_set ⟨hs.tokens, fun n a h => ?_⟩)
    cases h with
    | tail _ h => exact hs.anchors n a h

theorem builds_closeAnchor (anchor : Option Text) {n : Node} (hn : n.All P) :
    Builds P (All P) (closeAnchor anchor n) := by
  unfold closeAnchor
  split
  · exact maintains_pure hn
  · refine Maintains.next (maintains_modify fun s hs => ⟨hs.tokens, fun name a h => ?_⟩)
      fun _ => maintains_pure hn
    cases h with
    | head => exact hn
    | tail _ h => exact hs.anchors name a h

/-! ## nodes -/

/-- What the parts of the builder give with some fuel. -/
structure BuildsAll (P : Str → Prop) (fuel : Nat) : Prop where
  node : ∀ block indentless, Builds P (All P) (node fuel block indentless)
  nodeUnless : ∀ block indentless ends, Builds P (All P) (nodeUnless fuel block indentless ends)
  blockItems : Builds P (AllItems P) (blockItems fuel)
  plainItems : Builds P (AllItems P) (plainItems fuel)
  blockMembers : Builds P (AllMembers P) (blockMembers fuel)
  flowItems : ∀ first, Builds P (AllItems P) (flowItems fuel first)
  flowMembers : ∀ first, Builds P (AllMembers P) (flowMembers fuel first)

section

variable {fuel : Nat} (hempty : P (.text [])) (h : BuildsAll P fuel)

include hempty h

theorem builds_node_succ (block indentless : Bool) :
    Builds P (All P) (node (fuel + 1) block indentless) := by
  unfold node
  refine keeps_peek.next fun k => ?_
  split
  · rename_i name
    refine keeps_skip.next fun _ => builds_get_bind fun s hs => ?_
    split
    · rename_i a ha
      obtain ⟨l, r, hanchors, -⟩ := List.lookup_eq_some_iff.1 ha
      have hmem : (name, some a) ∈ s.anchors :=
        hanchors ▸ List.mem_append_right l List.mem_cons_self
      exact maintains_pure (hs.anchors name a hmem)
    · exact builds_refuse
  refine keeps_properties.next fun (anchor, tag) => ?_
  have hclose {act : Build Node} (hact : Builds P (All P) act) :
      Builds P (All P) (act >>= closeAnchor anchor) :=
    hact.bind fun n hn => builds_closeAnchor anchor hn
  -- a node of which only an anchor or a tag is written
  have hbare : Builds P (All P) (if anchor.isSome || tag.isSome then
      pure (Node.scalar tag true (.text [])) >>= closeAnchor anchor
      else refuse >>= closeAnchor anchor) :=
    maintains_ite (hclose (maintains_pure hempty)) (hclose builds_refuse)
  refine (keeps_openAnchor _).next fun _ => builds_peek.bind fun k hk => ?_
  dsimp only
  split
  · exact keeps_skip.next fun _ => hclose (maintains_pure (hk _ _ rfl))
  · exact keeps_skip.next fun _ => (h.flowItems true).bind fun _ hns => hclose (maintains_pure hns)
  · exact keeps_skip.next fun _ =>
      (h.flowMembers true).bind fun _ hms => hclose (maintains_pure hms)
  · refine maintains_ite ?_ hbare
    exact h.plainItems.bind fun _ hns => hclose (maintains_pure hns)
  · refine maintains_ite ?_ hbare
    exact keeps_skip.next fun _ => h.blockItems.bind fun _ hns => hclose (maintains_pure hns)
  · refine maintains_ite ?_ hbare
    exact keeps_skip.next fun _ => h.blockMembers.bind fun _ hms => hclose (maintains_pure hms)
  · exact hbare

theorem builds_nodeUnless_succ (block indentless : Bool) (ends : List Token) :
    Builds P (All P) (nodeUnless (fuel + 1) block indentless ends) :=
  (keeps_isAt ends).next fun _ => maintains_ite (maintains_pure hempty) (h.node _ _)

omit hempty in
theorem builds_blockItems_succ : Builds P (AllItems P) (blockItems (fuel + 1)) := by
  refine (keeps_accept _).next fun _ => maintains_ite ?_ ?_
  · exact (h.nodeUnless _ _ _).bind fun _ hn => h.blockItems.bind fun _ hns =>
      maintains_pure ⟨hn, hns⟩
  · exact (keeps_expect _).next fun _ => maintains_pure trivial

omit hempty in
theorem builds_plainItems_succ : Builds P (AllItems P) (plainItems (fuel + 1)) := by
  refine (keeps_accept _).next fun _ => maintains_ite ?_ (maintains_pure trivial)
  exact (h.nodeUnless _ _ _).bind fun _ hn => h.plainItems.bind fun _ hns =>
    maintains_pure ⟨hn, hns⟩

/-- The value of a key, which is absent where there is no mark of a value. -/
theorem builds_value {γ : Type} {T : γ → Prop} (block indentless valued : Bool)
    (ends : List Token) {f : Node → Build γ} (hf : ∀ v, v.All P → Builds P T (f v)) :
    Builds P T (if valued then nodeUnless fuel block indentless ends >>= f
      else pure absent >>= f) :=
  have habsent : absent.All P := hempty
  maintains_ite ((h.nodeUnless _ _ _).bind hf) ((maintains_pure habsent).bind hf)

theorem builds_blockMembers_succ : Builds P (AllMembers P) (blockMembers (fuel + 1)) := by
  refine (keeps_accept _).next fun _ => maintains_ite ?_ ?_
  · refine (h.nodeUnless _ _ _).bind fun k hk => (keeps_accept _).next fun _ => ?_
    refine builds_value hempty h _ _ _ _ fun v hv => h.blockMembers.bind fun _ hms => ?_
    exact maintains_pure ⟨hk, hv, hms⟩
  · exact (keeps_expect _).next fun _ => maintains_pure trivial

theorem builds_flowItems_succ (first : Bool) :
    Builds P (AllItems P) (flowItems (fuel + 1) first) := by
  refine (keeps_accept _).next fun _ => maintains_ite (maintains_pure trivial) ?_
  refine Maintains.optional (keeps_expect _) ((keeps_accept _).next fun _ => maintains_ite ?_ ?_)
  · refine (h.nodeUnless _ _ _).bind fun k hk => (keeps_accept _).next fun _ => ?_
    refine builds_value hempty h _ _ _ _ fun v hv => (h.flowItems false).bind fun _ hns => ?_
    exact maintains_pure ⟨⟨hk, hv, trivial⟩, hns⟩
  · refine (keeps_accept _).next fun _ => maintains_ite (maintains_pure trivial) ?_
    exact (h.node _ _).bind fun _ hn => (h.flowItems false).bind fun _ hns =>
      maintains_pure ⟨hn, hns⟩

theorem builds_flowMembers_succ (first : Bool) :
    Builds P (AllMembers P) (flowMembers (fuel + 1) first) := by
  refine (keeps_accept _).next fun _ => maintains_ite (maintains_pure trivial) ?_
  refine Maintains.optional (keeps_expect _) ((keeps_accept _).next fun _ => maintains_ite ?_ ?_)
  · refine (h.nodeUnless _ _ _).bind fun k hk => (keeps_accept _).next fun _ => ?_
    refine builds_value hempty h _ _ _ _ fun v hv => (h.flowMembers false).bind fun _ hms => ?_
    exact maintains_pure ⟨hk, hv, hms⟩
  · refine (keeps_accept _).next fun _ => maintains_ite (maintains_pure trivial) ?_
    exact (h.node _ _).bind fun _ hn => (h.flowMembers false).bind fun _ hms =>
      maintains_pure ⟨hn, hempty, hms⟩

end

theorem buildsAll (hempty : P (.text [])) (fuel : Nat) : BuildsAll P fuel := by
  induction fuel with
  | zero => exact ⟨fun _ _ => builds_refuse, fun _ _ _ => builds_refuse, builds_refuse,
      builds_refuse, builds_refuse, fun _ => builds_refuse, fun _ => builds_refuse⟩
  | succ fuel ih => exact
      { node := builds_node_succ hempty ih
        nodeUnless := builds_nodeUnless_succ hempty ih
        blockItems := builds_blockItems_succ ih
        plainItems := builds_plainItems_succ ih
        blockMembers := builds_blockMembers_succ hempty ih
        flowItems := builds_flowItems_succ hempty ih
        flowMembers := builds_flowMembers_succ hempty ih }

/-! ## documents -/

theorem keeps_directives (fuel : Nat) (versioned : Bool) (handles : List (Text × Text)) :
    Keeps P (directives fuel versioned handles) := by
  induction fuel generalizing versioned handles with
  | zero => exact builds_refuse
  | succ fuel ih =>
    refine keeps_peek.next fun k => ?_
    split
    · refine keeps_skip.next fun _ => ?_
      split
      · exact builds_guard (ih _ _)
      · exact builds_guard (ih _ _)
      · exact ih _ _
    · exact maintains_modify fun _ hs => ⟨hs.tokens, hs.anchors⟩

theorem keeps_skipEnds (fuel : Nat) : Keeps P (skipEnds fuel) := by
  induction fuel with
  | zero => exact keeps_pure _
  | succ fuel ih => exact (keeps_accept _).next fun _ => maintains_ite ih (keeps_pure _)

theorem keeps_atDirective : Keeps P atDirective := by
  refine keeps_peek.next fun k => ?_
  split <;> exact keeps_pure _

theorem builds_document (hempty : P (.text [])) (fuel : Nat) :
    Builds P (fun root => ∀ n, root = some n → n.All P) (document fuel) := by
  have hnode := (buildsAll hempty fuel).node true false
  have hend {act : Build Node} (hact : Builds P (All P) act) :
      Builds P (fun root => ∀ n, root = some n → n.All P) (do
        let root ← act
        skipEnds fuel
        expect .streamEnd
        return some root) := by
    refine hact.bind fun n hn => (keeps_skipEnds fuel).next fun _ => ?_
    refine (keeps_expect _).next fun _ => maintains_pure ?_
    rintro _ ⟨⟩
    exact hn
  refine (keeps_isAt _).next fun _ => keeps_atDirective.next fun _ => maintains_ite ?_ ?_
  · refine (keeps_isAt _).next fun _ => maintains_ite (maintains_pure nofun) ?_
    refine (keeps_directives _ _ _).next fun _ => (keeps_expect _).next fun _ => ?_
    refine (keeps_isAt _).next fun _ => keeps_atDirective.next fun _ => ?_
    exact maintains_ite (hend (maintains_pure hempty)) (hend hnode)
  · refine Maintains.next (maintains_modify fun _ hs => ⟨hs.tokens, hs.anchors⟩) fun _ => ?_
    exact hend hnode

end Build

/-- Tokens that describe no tree are not of the format, and the scalars of a tree that they do
describe are among theirs, or empty. -/
theorem all_of_ofTokens? {ts : List Token} (hempty : P (.text []))
    (hts : ∀ v plain, Token.scalar v plain ∈ ts → P v) :
    Yields (fun root => ∀ n, root = some n → n.All P) (· = .malformed) (ofTokens? ts) :=
  Yields.bind (Build.builds_document hempty _ ⟨ts, [], []⟩ ⟨hts, nofun⟩) fun _ h => h.2

end Node

end ExMode.Yaml
