import ExMode.Proofs.HistoryRefusal
import Mathlib.Algebra.Order.Field.Rat
import Mathlib.Data.Nat.Cast.Field
import Mathlib.Tactic.FieldSimp

/-!
# ExMode.Proofs.HistoryDocument

Which documents are a history.  `IsHistory` lists them: a list of texts, and a mapping with a
version that counts as one and with nothing else, or with such a list as its entries.  Versions are
compared as numbers, so that a fraction may stand for one, and so may a truth value
(`Document.number?`).

The list is complete for the documents that the reader can give.  In these the keys of a mapping are
distinct strings (`Document.IsJson`), since a key that comes again replaces the value; so a mapping
with two known keys has two members at most, and it does not matter which one comes first.

* `Binary64.toInt?_eq_some_iff` — which numbers are integers;
* `Json.isJson_of_read` — what is read is made of JSON values, by one induction on the fuel that the
  three parts of the reader share;
* `History.isHistory_map_iff` — when a mapping is a history;
* `History.payload_classified` — the whole account.
-/

namespace ExMode

/-! ## numbers -/

namespace Binary64

/-- The number that is stood for; infinities and what is no number stand for none. -/
def value? : Binary64 → Option ℚ
  | .finite negative m e => some ((if negative then -1 else 1) * (m * 2 ^ e))
  | _ => none

theorem magnitude_pos (m : Nat) (e : Int) : 0 < (magnitude m e).2 := by
  unfold magnitude scale twoTo
  split
  · exact Nat.one_pos
  · simp

theorem magnitude_div (m : Nat) (e : Int) :
    ((magnitude m e).1 / (magnitude m e).2 : ℚ) = m * 2 ^ e := by
  unfold magnitude scale twoTo
  split
  · rename_i he
    obtain ⟨n, rfl⟩ := Int.eq_ofNat_of_zero_le he
    simp
  · rename_i he
    obtain ⟨n, rfl⟩ : ∃ n : Nat, e = -n := ⟨(-e).toNat, by omega⟩
    simp [div_eq_mul_inv]

/-- A number is found to be an integer if it is one. -/
theorem toInt?_eq_some_iff {x : Binary64} {n : Int} :
    x.toInt? = some n ↔ x.value? = some (n : ℚ) := by
  cases x with
  | nan => simp [toInt?, value?]
  | infinity negative => simp [toInt?, value?]
  | finite negative m e =>
    have hpos := magnitude_pos m e
    rw [value?, ← magnitude_div, toInt?]
    generalize (magnitude m e).1 = a at hpos ⊢
    generalize (magnitude m e).2 = b at hpos ⊢
    have hb : (b : ℚ) ≠ 0 := Nat.cast_ne_zero.2 hpos.ne'
    by_cases hdvd : b ∣ a
    · -- a whole quotient is the same in the integers and in the fractions
      rw [if_pos (Nat.mod_eq_zero_of_dvd hdvd), Option.some.injEq, Option.some.injEq,
        ← Nat.cast_div hdvd hb]
      generalize a / b = q
      cases negative <;> simp <;> norm_cast
    · rw [if_neg fun h => hdvd (Nat.dvd_of_mod_eq_zero h)]
      simp only [reduceCtorEq, Option.some.injEq, false_iff]
      intro h
      refine hdvd (Int.natCast_dvd_natCast.1 ⟨(if negative then -1 else 1) * n, ?_⟩)
      have hmul : (a : ℚ) = b * ((if negative then -1 else 1) * n) := by
        rw [← h]
        cases negative <;> simp <;> field_simp
      cases negative <;> simp at hmul ⊢ <;> exact_mod_cast hmul

end Binary64

/-! ## documents that can be read -/

namespace Document

/-- The number that a document counts as.  The truth values count as the numbers one and zero. -/
def number? : Document → Option ℚ
  | .bool b => some (if b then 1 else 0)
  | .int n => some n
  | .float x => x.value?
  | _ => none

/-- The keys of a mapping are strings, and no two are the same. -/
structure Distinct (members : List (Document × Document)) : Prop where
  strings : ∀ x ∈ members, ∃ s, x.1 = .string s
  nodup : (members.map Prod.fst).Nodup

/-- A document that can be spelled in JSON: there are no values of other kinds, and the keys of
every mapping are distinct strings. -/
inductive IsJson : Document → Prop
  | null : IsJson .null
  | bool (b : Bool) : IsJson (.bool b)
  | int (n : Int) : IsJson (.int n)
  | float (x : Binary64) : IsJson (.float x)
  | string (s : Str) : IsJson (.string s)
  | list {items : List Document} : (∀ d ∈ items, IsJson d) → IsJson (.list items)
  | map {members : List (Document × Document)} : Distinct members → (∀ x ∈ members, IsJson x.2) →
      IsJson (.map members)

/-- The members of a mapping that can be spelled in JSON. -/
structure AreJson (members : List (Document × Document)) : Prop where
  distinct : Distinct members
  values : ∀ x ∈ members, IsJson x.2

theorem areJson_nil : AreJson [] := ⟨⟨by simp, by simp⟩, by simp⟩

theorem areJson_cons_iff {s : Str} {v : Document} {members : List (Document × Document)} :
    AreJson ((.string s, v) :: members) ↔
      .string s ∉ members.map Prod.fst ∧ v.IsJson ∧ AreJson members := by
  constructor
  · rintro ⟨⟨hstrings, hnodup⟩, hvalues⟩
    obtain ⟨hnew, hnodup⟩ := List.nodup_cons.1 hnodup
    simp only [List.forall_mem_cons] at hstrings hvalues
    exact ⟨hnew, hvalues.1, ⟨hstrings.2, hnodup⟩, hvalues.2⟩
  · rintro ⟨hnew, hv, ⟨hstrings, hnodup⟩, hvalues⟩
    refine ⟨⟨?_, List.nodup_cons.2 ⟨hnew, hnodup⟩⟩, ?_⟩
    · exact List.forall_mem_cons.2 ⟨⟨s, rfl⟩, hstrings⟩
    · exact List.forall_mem_cons.2 ⟨hv, hvalues⟩

/-- Setting a key brings in no other key. -/
theorem mem_keys_of_setMember {j k v : Document} {members : List (Document × Document)}
    (h : j ∈ (setMember k v members).map Prod.fst) : j = k ∨ j ∈ members.map Prod.fst := by
  induction members with
  | nil => exact Or.inl (by simpa [setMember] using h)
  | cons x xs ih =>
    obtain ⟨i, w⟩ := x
    rw [setMember] at h
    split at h
    · exact Or.inr h
    · simp only [List.map_cons, List.mem_cons] at h ⊢
      grind

/-- A key that is set once more stays one key. -/
theorem AreJson.setMember {members : List (Document × Document)} (h : AreJson members) (s : Str)
    {v : Document} (hv : v.IsJson) : AreJson (setMember (.string s) v members) := by
  induction members with
  | nil => exact areJson_cons_iff.2 ⟨by simp, hv, areJson_nil⟩
  | cons x xs ih =>
    obtain ⟨k, w⟩ := x
    obtain ⟨t, rfl⟩ := h.distinct.strings (k, w) List.mem_cons_self
    obtain ⟨hnew, hw, hxs⟩ := areJson_cons_iff.1 h
    have hsame : isSameKey (.string s) (.string t) = true ↔ s = t := decide_eq_true_iff
    rw [Document.setMember]
    split
    · exact areJson_cons_iff.2 ⟨hnew, hv, hxs⟩
    · rename_i hother
      refine areJson_cons_iff.2 ⟨fun hmem => ?_, hw, ih hxs⟩
      obtain heq | hmem := mem_keys_of_setMember hmem
      · exact hother (hsame.2 (string.inj heq).symm)
      · exact hnew hmem

end Document

namespace Json

open Document

/-- What is read, if something is, has a property. -/
def Spells {α : Type} (P : α → Prop) : Except Refusal (α × Text) → Prop :=
  Yields (fun x => P x.1) fun _ => True

section

variable {α β : Type} {P : α → Prop} {Q : β → Prop}

theorem spells_error (e : Refusal) : Spells P (.error e : Except Refusal (α × Text)) := trivial

theorem spells_ok {a : α} (h : P a) (r : Text) : Spells P (.ok (a, r)) := h

theorem Spells.bind {x : Except Refusal (α × Text)} {f : α × Text → Except Refusal (β × Text)}
    (hx : Spells P x) (hf : ∀ a r, P a → Spells Q (f (a, r))) : Spells Q (x >>= f) :=
  Yields.bind hx fun a ha => hf a.1 a.2 ha

theorem spells_word (w : String) {d : Document} (hd : d.IsJson) (t : Text) :
    Spells IsJson (word w d t) := by
  unfold word
  split
  · exact spells_ok hd _
  · exact spells_error _

theorem spells_numberRest (negative : Bool) (t : Text) :
    Spells IsJson (numberRest negative t) := by
  unfold numberRest
  dsimp only
  split
  · exact spells_error _
  · split
    · split
      · exact spells_ok (.int _) _
      · exact spells_error _
    · exact spells_ok (.float _) _

theorem spells_stringRest (t : Text) : Spells (fun _ => True) (stringRest t) := by
  unfold stringRest
  cases stringCodes t <;> trivial

end

/-- What the three parts of the reader give with some fuel. -/
structure SpellsAll (fuel : Nat) : Prop where
  value : ∀ n t, Spells IsJson (value fuel n t)
  items : ∀ n t, Spells (fun ds => ∀ d ∈ ds, d.IsJson) (items fuel n t)
  members : ∀ n before t, AreJson before → Spells AreJson (members fuel n before t)

section

variable {fuel : Nat} (h : SpellsAll fuel) (n : Nat) (t : Text)

include h

theorem SpellsAll.value_succ : Spells IsJson (Json.value (fuel + 1) n t) := by
  unfold Json.value
  split
  case h_1 r => exact (spells_stringRest r).bind fun s r _ => spells_ok (.string s) r
  case h_2 r =>
    split
    · exact spells_error _
    · split
      · exact spells_ok (.list (by simp)) _
      · exact (h.items _ _).bind fun ds r hds => spells_ok (.list hds) r
  case h_3 r =>
    split
    · exact spells_error _
    · split
      · exact spells_ok (.map areJson_nil.distinct areJson_nil.values) _
      · exact (h.members _ [] _ areJson_nil).bind fun ms r hms =>
          spells_ok (.map hms.distinct hms.values) r
  case h_10 => exact spells_numberRest _ _
  case h_11 => exact spells_numberRest _ _
  case h_4 => exact spells_word _ .null _
  case h_5 => exact spells_word _ (.bool _) _
  case h_6 => exact spells_word _ (.bool _) _
  all_goals exact spells_word _ (.float _) _

theorem SpellsAll.items_succ :
    Spells (fun ds => ∀ d ∈ ds, d.IsJson) (Json.items (fuel + 1) n t) := by
  unfold Json.items
  refine (h.value n t).bind fun d r hd => ?_
  dsimp only
  split
  · exact spells_ok (by simpa using hd) _
  · exact (h.items n _).bind fun ds r hds => spells_ok (List.forall_mem_cons.2 ⟨hd, hds⟩) r
  · exact spells_error _

theorem SpellsAll.members_succ {before : List (Document × Document)} (hbefore : AreJson before) :
    Spells AreJson (Json.members (fuel + 1) n before t) := by
  unfold Json.members
  split
  · refine (spells_stringRest _).bind fun k r _ => ?_
    dsimp only
    split
    · refine (h.value n _).bind fun v r hv => ?_
      have hnow := hbefore.setMember k hv
      dsimp only
      split
      · exact spells_ok hnow _
      · exact h.members n _ _ hnow
      · exact spells_error _
    · exact spells_error _
  · exact spells_error _

end

theorem spellsAll (fuel : Nat) : SpellsAll fuel := by
  induction fuel with
  | zero => exact ⟨fun _ _ => trivial, fun _ _ => trivial, fun _ _ _ _ => trivial⟩
  | succ fuel ih => exact ⟨ih.value_succ, ih.items_succ, fun n _ t hb => ih.members_succ n t hb⟩

/-- What is read is a document of JSON. -/
theorem isJson_of_read {t : Text} {d : Document} (h : read t = .ok d) : d.IsJson := by
  have hread : Yields IsJson (fun _ => True) (read t) := by
    refine Yields.bind ((spellsAll _).value _ _) fun x hx => ?_
    dsimp only
    split
    · exact hx
    · trivial
  rw [h] at hread
  exact hread

end Json

namespace Document

variable {members : List (Document × Document)}

theorem text?_eq_some_iff {d : Document} {t : Text} : d.text? = some t ↔ d = .string (.text t) := by
  cases d with
  | string s => cases s <;> simp [text?, Str.text?]
  | _ => simp [text?]

/-- Where no two keys are the same, the value of a key is what stands beside it. -/
theorem member?_eq_some_iff (h : (members.map Prod.fst).Nodup) {name : Text} {v : Document} :
    member? name members = some v ↔ (.string (.text name), v) ∈ members := by
  induction members with
  | nil => simp [member?]
  | cons x xs ih =>
    obtain ⟨k, w⟩ := x
    obtain ⟨hnew, hxs⟩ := List.nodup_cons.1 h
    rw [member?, List.mem_cons, ← ih hxs]
    split
    · rename_i hk
      obtain rfl := text?_eq_some_iff.1 hk
      have hnone : member? name xs ≠ some v := fun hv =>
        hnew (List.mem_map.2 ⟨_, (ih hxs).1 hv, rfl⟩)
      simp [hnone, eq_comm]
    · rename_i hk
      have hkey : Document.string (.text name) ≠ k := fun hkey => hk (text?_eq_some_iff.2 hkey.symm)
      simp [hkey]

end Document

namespace History

open Document

/-! ## histories -/

/-- The key of the version. -/
def versionKey : Document := .string (.text versionName)

/-- The key of the entries. -/
def entriesKey : Document := .string (.text entriesName)

/-- The documents that are a history, and the entries of each: a list of texts, and a mapping with a
version that counts as one, and nothing else but perhaps such a list as its entries. -/
inductive IsHistory : Document → List Text → Prop
  | list (entries : List Text) : IsHistory (written entries) entries
  | empty {v : Document} : v.number? = some 1 → IsHistory (.map [(versionKey, v)]) []
  | map {v : Document} {entries : List Text} {members : List (Document × Document)} :
      v.number? = some 1 → members.Perm [(versionKey, v), (entriesKey, written entries)] →
      IsHistory (.map members) entries

/-- The documents that are a mapping of another version, or of none, and how the version is
shown. -/
inductive IsOther : Document → Text → Prop
  | missing {members : List (Document × Document)} : (∀ v, (versionKey, v) ∉ members) →
      IsOther (.map members) Document.null.shown
  | version {v : Document} {members : List (Document × Document)} : (versionKey, v) ∈ members →
      v.number? ≠ some 1 → IsOther (.map members) v.shown

theorem isPresentVersion_iff {d : Document} : isPresentVersion d = true ↔ d.number? = some 1 := by
  cases d with
  | bool b => cases b <;> simp [isPresentVersion, number?]
  | int n => simp [isPresentVersion, number?]
  | float x =>
    have h := Binary64.toInt?_eq_some_iff (x := x) (n := 1)
    simpa [isPresentVersion, number?] using h
  | _ => simp [isPresentVersion, number?]

/-- Items that are all texts are entries in writing. -/
theorem eq_of_textItems {ds : List Document} {entries : List Text} {i : Nat}
    (h : textItems i ds = (entries, [])) : ds = entries.map fun t => .string (.text t) := by
  induction ds generalizing i entries with
  | nil => simp_all [textItems]
  | cons d ds ih =>
    rw [textItems] at h
    rcases hrest : textItems (i + 1) ds with ⟨rest, bad⟩
    rw [hrest] at h
    cases hd : d.text? with
    | none => simp [hd] at h
    | some t =>
      obtain rfl := text?_eq_some_iff.1 hd
      simp only [hd, Prod.mk.injEq] at h
      obtain ⟨rfl, rfl⟩ := h
      rw [ih hrest, List.map_cons]

theorem entryList_eq_ok_iff {d : Document} {entries : List Text} :
    entryList d = .ok entries ↔ d = written entries := by
  constructor
  · intro h
    unfold entryList at h
    split at h
    · split at h
      · rename_i hitems
        cases h
        rw [written, ← eq_of_textItems hitems]
      · cases h
    · cases h
  · rintro rfl
    exact entryList_written entries

/-! ## mappings -/

section

variable {members : List (Document × Document)} {entries : List Text}

theorem strayName_eq_none_iff {k : Document} :
    strayName k = none ↔ k = versionKey ∨ k = entriesKey := by
  unfold strayName
  cases hk : k.text? with
  | none =>
    have hne (name : Text) : k ≠ .string (.text name) := fun h => by
      simp [text?_eq_some_iff.2 h] at hk
    simp [versionKey, entriesKey, hne]
  | some t =>
    obtain rfl := text?_eq_some_iff.1 hk
    simp [versionKey, entriesKey, or_iff_not_imp_left]

theorem isBroken_eq_false {k : Document} (h : k = versionKey ∨ k = entriesKey) :
    isBroken k = false := by
  obtain rfl | rfl := h <;> rfl

/-- A mapping has the entries that it says it has, or none, and is faulty if it says anything
else. -/
theorem entriesOfMembers_eq_ok_iff : entriesOfMembers members = .ok entries ↔
    (∀ x ∈ members, x.1 = versionKey ∨ x.1 = entriesKey) ∧
      match member? entriesName members with
      | some d => d = written entries
      | none => entries = [] := by
  have hstray : (∀ x ∈ members, x.1 = versionKey ∨ x.1 = entriesKey) ↔
      members.filterMap (fun x => strayName x.1) = [] := by
    simp only [List.filterMap_eq_nil_iff, strayName_eq_none_iff]
  unfold entriesOfMembers
  dsimp only
  split
  · rename_i hbroken
    obtain ⟨x, hx, hbroken⟩ := List.any_eq_true.1 hbroken
    simp only [reduceCtorEq, false_iff, not_and]
    intro hkeys
    rw [isBroken_eq_false (hkeys x hx)] at hbroken
    cases hbroken
  · rw [hstray]
    cases hd : member? entriesName members with
    | none => cases members.filterMap fun x => strayName x.1 <;> simp [eq_comm]
    | some d =>
      dsimp only
      rw [← entryList_eq_ok_iff]
      cases entryList d <;> cases members.filterMap fun x => strayName x.1 <;> simp

theorem entriesOfMembers_ne_unsupported (shown : Text) :
    entriesOfMembers members ≠ .error (.unsupportedSchema shown) := by
  unfold entriesOfMembers
  dsimp only
  split
  · simp
  · split <;> simp

/-- With no other keys than these, there is the version, and the entries beside it or not. -/
theorem perm_of_keys (hnodup : (members.map Prod.fst).Nodup)
    (hkeys : ∀ x ∈ members, x.1 = versionKey ∨ x.1 = entriesKey) {v : Document}
    (hv : (versionKey, v) ∈ members) :
    members = [(versionKey, v)] ∨ ∃ d, members.Perm [(versionKey, v), (entriesKey, d)] := by
  obtain ⟨before, after, rfl⟩ := List.append_of_mem hv
  have hperm : (before ++ (versionKey, v) :: after).Perm ((versionKey, v) :: (before ++ after)) :=
    List.perm_middle
  obtain ⟨hversion, hnodup⟩ := List.nodup_cons.1 ((hperm.map Prod.fst).nodup_iff.1 hnodup)
  have hentries : ∀ x ∈ before ++ after, x.1 = entriesKey := fun x hx =>
    (hkeys x (hperm.mem_iff.2 (List.mem_cons_of_mem _ hx))).resolve_left fun hx' =>
      hversion (List.mem_map.2 ⟨x, hx, hx'⟩)
  rcases hrest : before ++ after with _ | ⟨x, _ | ⟨y, rest⟩⟩ <;> rw [hrest] at hperm hnodup hentries
  · obtain ⟨rfl, rfl⟩ := List.append_eq_nil_iff.1 hrest
    exact Or.inl rfl
  · obtain ⟨k, d⟩ := x
    obtain rfl : k = entriesKey := hentries (k, d) List.mem_cons_self
    exact Or.inr ⟨d, hperm⟩
  · have hx := hentries x (by simp)
    have hy := hentries y (by simp)
    simp [hx, hy] at hnodup

/-- A mapping is a history if its version counts as one and its entries can be had. -/
theorem isHistory_map_iff (hnodup : (members.map Prod.fst).Nodup) :
    IsHistory (.map members) entries ↔
      (∃ v, (versionKey, v) ∈ members ∧ v.number? = some 1) ∧
        entriesOfMembers members = .ok entries := by
  rw [entriesOfMembers_eq_ok_iff]
  constructor
  · rintro (_ | hv | ⟨hv, hperm⟩)
    · exact ⟨⟨_, List.mem_singleton.2 rfl, hv⟩, by simp, rfl⟩
    · have hentries : member? entriesName members = some (written entries) :=
        (member?_eq_some_iff hnodup).2 (hperm.mem_iff.2 (by simp [entriesKey]))
      refine ⟨⟨_, hperm.mem_iff.2 List.mem_cons_self, hv⟩, fun x hx => ?_, ?_⟩
      · obtain rfl | rfl := by simpa using hperm.mem_iff.1 hx
        · exact Or.inl rfl
        · exact Or.inr rfl
      · rw [hentries]
  · rintro ⟨⟨v, hmem, hv⟩, hkeys, hentries⟩
    obtain rfl | ⟨d, hperm⟩ := perm_of_keys hnodup hkeys hmem
    · obtain rfl : entries = [] := hentries
      exact .empty hv
    · have hd : member? entriesName members = some d :=
        (member?_eq_some_iff hnodup).2 (hperm.mem_iff.2 (by simp [entriesKey]))
      rw [hd] at hentries
      obtain rfl := hentries
      exact .map hv hperm

theorem ofDocument_of_present (hnodup : (members.map Prod.fst).Nodup) {v : Document}
    (hmem : (versionKey, v) ∈ members) (hv : v.number? = some 1) :
    ofDocument (.map members) = entriesOfMembers members := by
  have hversion : member? versionName members = some v := (member?_eq_some_iff hnodup).2 hmem
  simp only [ofDocument, hversion, Option.getD_some, if_pos (isPresentVersion_iff.2 hv)]

theorem ofDocument_of_isOther (hnodup : (members.map Prod.fst).Nodup) {shown : Text}
    (h : IsOther (.map members) shown) :
    ofDocument (.map members) = .error (.unsupportedSchema shown) := by
  cases h with
  | missing hnone =>
    have hversion : member? versionName members = none :=
      Option.eq_none_iff_forall_ne_some.2 fun v hv => hnone v ((member?_eq_some_iff hnodup).1 hv)
    simp only [ofDocument, hversion, Option.getD_none]
    rfl
  | version hmem hv =>
    have hversion := (member?_eq_some_iff hnodup).2 hmem
    simp only [ofDocument, hversion, Option.getD_some, if_neg (mt isPresentVersion_iff.1 hv)]

/-- A mapping is of the present version, or of another one or of none. -/
theorem present_or_isOther (members : List (Document × Document)) :
    (∃ v, (versionKey, v) ∈ members ∧ v.number? = some 1) ∨
      ∃ shown, IsOther (.map members) shown := by
  by_cases h : ∃ v, (versionKey, v) ∈ members
  · obtain ⟨v, hmem⟩ := h
    by_cases hv : v.number? = some 1
    · exact Or.inl ⟨v, hmem, hv⟩
    · exact Or.inr ⟨_, .version hmem hv⟩
  · exact Or.inr ⟨_, .missing fun v hmem => h ⟨v, hmem⟩⟩

end

/-! ## the accepted documents -/

variable {d : Document}

/-- A document gives entries if it is a history, and gives its entries. -/
theorem ofDocument_eq_ok_iff (hd : d.IsJson) {entries : List Text} :
    ofDocument d = .ok entries ↔ IsHistory d entries := by
  cases hd with
  | @list items hitems =>
    have hlist : IsHistory (.list items) entries ↔ Document.list items = written entries := by
      constructor
      · rintro ⟨⟩
        rfl
      · intro h
        rw [h]
        exact .list entries
    rw [hlist, ← entryList_eq_ok_iff, ofDocument]
    cases entryList (.list items) <;> simp
  | @map members hkeys hvalues =>
    rw [isHistory_map_iff hkeys.nodup]
    obtain ⟨v, hmem, hv⟩ | ⟨shown, hother⟩ := present_or_isOther members
    · rw [ofDocument_of_present hkeys.nodup hmem hv]
      exact ⟨fun h => ⟨⟨v, hmem, hv⟩, h⟩, fun h => h.2⟩
    · have herror := ofDocument_of_isOther hkeys.nodup hother
      rw [herror]
      simp only [reduceCtorEq, false_iff, not_and]
      rintro ⟨v, hmem, hv⟩ hentries
      rw [ofDocument_of_present hkeys.nodup hmem hv, hentries] at herror
      cases herror
  | _ =>
    simp only [ofDocument, reduceCtorEq, false_iff]
    rintro ⟨⟩

/-- The version of a document is blamed if it is a mapping of another version, or of none. -/
theorem ofDocument_eq_unsupported_iff (hd : d.IsJson) {shown : Text} :
    ofDocument d = .error (.unsupportedSchema shown) ↔ IsOther d shown := by
  cases hd with
  | @list items hitems =>
    have hother : ¬ IsOther (.list items) shown := by rintro ⟨⟩
    rw [ofDocument]
    cases entryList (.list items) <;> simp [hother]
  | @map members hkeys hvalues =>
    constructor
    · intro h
      obtain ⟨v, hmem, hv⟩ | ⟨other, hother⟩ := present_or_isOther members
      · rw [ofDocument_of_present hkeys.nodup hmem hv] at h
        exact absurd h (entriesOfMembers_ne_unsupported shown)
      · rw [ofDocument_of_isOther hkeys.nodup hother] at h
        cases h
        exact hother
    · exact ofDocument_of_isOther hkeys.nodup
  | _ =>
    simp only [ofDocument, Except.error.injEq, reduceCtorEq, false_iff]
    rintro ⟨⟩

end History

end ExMode
