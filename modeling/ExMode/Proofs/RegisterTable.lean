import ExMode.Proofs.Register
import Mathlib.Data.List.Nodup

/-!
# ExMode.Proofs.RegisterTable

The table of all registers, and the order in which it is listed.  Which names commands can
write to, which register a name stands for, and which keys are listed are three rules that
know nothing of each other.  `Register.Suits` is what they come to together: a register goes
by the name of its key, only the line last run is a record that commands cannot write to, and
there is no key that is not listed.

* `Keyed.filterMap_get?_perm` — looking up all keys of a table, in whatever order, gives each
  of its entries once;
* `Tidy.answer` — what one request keeps of the table, `tidy_after` — what any history keeps;
* `table_of_requests` — the table and its listing after a history.
-/

namespace ExMode

/-! ## tables -/

namespace Keyed

variable {κ ν : Type} [DecidableEq κ] {k : κ} {v : ν} {t : Keyed κ ν}

/-- The keys of a table, in its own order. -/
def keys (t : Keyed κ ν) : List κ := t.map Prod.fst

theorem mem_of_mem_set {x : κ × ν} (h : x ∈ set k v t) : x = (k, v) ∨ x ∈ t := by
  induction t with
  | nil => exact .inl (List.mem_singleton.1 h)
  | cons y t ih =>
    unfold set at h
    split at h
    · exact (List.mem_cons.1 h).imp_right (List.mem_cons_of_mem y)
    · obtain rfl | h := List.mem_cons.1 h
      · exact .inr List.mem_cons_self
      · exact (ih h).imp_right (List.mem_cons_of_mem y)

theorem nodup_keys_set (h : t.keys.Nodup) : (set k v t).keys.Nodup := by
  induction t with
  | nil => exact List.nodup_singleton k
  | cons y t ih =>
    obtain ⟨hy, ht⟩ := List.nodup_cons.1 h
    unfold set
    split
    · rename_i hk
      exact List.nodup_cons.2 ⟨hk ▸ hy, ht⟩
    · rename_i hk
      refine List.nodup_cons.2 ⟨fun hmem => ?_, ih ht⟩
      obtain ⟨x, hx, hxy⟩ := List.mem_map.1 hmem
      obtain rfl | hx := mem_of_mem_set hx
      · exact hk hxy.symm
      · exact hy (hxy ▸ List.mem_map_of_mem hx)

theorem mem_of_get?_eq_some (h : get? k t = some v) : (k, v) ∈ t := by
  induction t with
  | nil => cases h
  | cons y t ih =>
    unfold get? at h
    split at h
    · rename_i hk
      cases h
      exact hk ▸ List.mem_cons_self
    · exact List.mem_cons_of_mem y (ih h)

/-- When no key is there twice, each entry is found under its key. -/
theorem get?_eq_some_iff (ht : t.keys.Nodup) : get? k t = some v ↔ (k, v) ∈ t := by
  refine ⟨mem_of_get?_eq_some, fun h => ?_⟩
  induction t with
  | nil => cases h
  | cons y t ih =>
    obtain ⟨hy, ht⟩ := List.nodup_cons.1 ht
    obtain rfl | h := List.mem_cons.1 h
    · exact if_pos rfl
    · have hk : y.1 ≠ k := fun hk => hy (hk ▸ List.mem_map_of_mem (f := Prod.fst) h)
      rw [get?, if_neg hk, ih ht h]

/-- Looking up all keys of a table, in whatever order, gives each of its entries once. -/
theorem filterMap_get?_perm (ht : t.keys.Nodup) {order : List κ} (horder : order.Nodup)
    (hkeys : ∀ k ∈ t.keys, k ∈ order) :
    (order.filterMap fun k => (get? k t).map fun v => (k, v)).Perm t := by
  have hfound (k : κ) (x : κ × ν) :
      (get? k t).map (fun v => (k, v)) = some x ↔ k = x.1 ∧ x ∈ t := by
    rw [Option.map_eq_some_iff]
    constructor
    · rintro ⟨v, hv, rfl⟩
      exact ⟨rfl, (get?_eq_some_iff ht).1 hv⟩
    · rintro ⟨rfl, hx⟩
      exact ⟨x.2, (get?_eq_some_iff ht).2 hx, rfl⟩
  refine (List.perm_ext_iff_of_nodup (horder.filterMap ?_) ht.of_map).2 fun x => ?_
  · intro k k' x hk hk'
    exact ((hfound k x).1 hk).1.trans ((hfound k' x).1 hk').1.symm
  · rw [List.mem_filterMap]
    constructor
    · rintro ⟨k, -, hk⟩
      exact ((hfound k x).1 hk).2
    · intro hx
      exact ⟨x.1, hkeys x.1 (List.mem_map_of_mem hx), (hfound x.1 x).2 ⟨rfl, hx⟩⟩

end Keyed

/-! ## what may stand under a key -/

/-- Whether a register may stand under a key: it goes by that name, it is the editor's own record
just if the key is that of the line last run, and the key is one of those that are listed. -/
structure Register.Suits (key : Text) (reg : Register) : Prop where
  name_eq : reg.name = key
  readonly_iff : reg.readonly = true ↔ key = Registers.commandName
  isRecorded_iff : reg.contents.isRecorded = true ↔ key = Registers.commandName
  listed : key ∈ Registers.listingOrder

namespace Registers

variable {r : Registers} {key : Text} {reg : Register}

theorem nodup_listingOrder : listingOrder.Nodup := by decide +kernel

/-- What is listed is neither an upper-case name nor the one that swallows what it is given. -/
theorem of_mem_listingOrder (h : key ∈ listingOrder) :
    (∀ c ∈ key, c.isUpper = false) ∧ key ≠ blackHole := by
  have hall : listingOrder.all
      (fun key => key.all (fun c => !c.isUpper) && key != blackHole) = true := by decide +kernel
  simpa using List.all_eq_true.1 hall key h

/-- What stands for a name that commands can write to is listed, and commands can write to it too,
unless the name is `_`. -/
theorem slotName_of_isWritable {c : Char} (h : isWritable [c] = true) (hhole : [c] ≠ blackHole) :
    slotName [c] ∈ listingOrder ∧ isReadonly (slotName [c]) = false := by
  have hall : ∀ c ∈ (List.range' 97 26 ++ (List.range' 65 26 ++ List.range' 48 10)).map Char.ofNat,
      slotName [c] ∈ listingOrder ∧ isReadonly (slotName [c]) = false :=
    forall_mem_of_all (by decide +kernel)
  rw [List.map_append, List.map_append] at hall
  simp only [isWritable, isAsciiLetter, isAsciiDigit, Bool.or_eq_true, Bool.and_eq_true,
    decide_eq_true_eq, beq_iff_eq] at h
  obtain ((((⟨h, h'⟩ | ⟨h, h'⟩) | ⟨h, h'⟩) | rfl) | rfl) | rfl := h
  · exact hall c (List.mem_append_left _ (mem_map_range' h h'))
  · exact hall c (List.mem_append_right _ (List.mem_append_left _ (mem_map_range' h h')))
  · exact hall c (List.mem_append_right _ (List.mem_append_right _ (mem_map_range' h h')))
  · exact ⟨by decide +kernel, rfl⟩
  · exact ⟨by decide +kernel, rfl⟩
  · exact absurd rfl hhole

/-- Lines are kept under keys that are listed, and that commands can write to. -/
theorem facts_of_slot? {name : Option Text} {slot : Text} (h : slot? name = some slot) :
    slot ∈ listingOrder ∧ isReadonly slot = false := by
  by_cases hunnamed : slot = unnamed
  · rw [hunnamed]
    exact ⟨by decide +kernel, rfl⟩
  · obtain ⟨c, rfl, rfl⟩ := exists_of_slot? h hunnamed
    unfold slot? at h
    split at h
    · rename_i hname
      obtain ⟨hwritable, hhole⟩ := Bool.and_eq_true_iff.1 hname
      exact slotName_of_isWritable hwritable (bne_iff_ne.1 hhole)
    · cases h

/-- No lines are kept under a key that commands cannot write to. -/
theorem register?_stored {slot : Text} (hslot : isReadonly slot = false) (c : Contents)
    (hkey : isReadonly key = true) : (r.stored slot c).register? key = r.register? key := by
  have hne (other : Text) (hother : isReadonly other = false) : key ≠ other := by
    rintro rfl
    exact Bool.noConfusion (hkey.symm.trans hother)
  unfold stored
  split
  · exact register?_set_of_ne (hne slot hslot) _ _
  · rw [register?_set_of_ne (hne unnamed rfl), register?_set_of_ne (hne slot hslot)]

/-- Lines put under whatever name alter no register that commands cannot write to. -/
theorem register?_answer_put (r : Registers) (name : Option Text) (text : List Text)
    (linewise : Bool) (hkey : isReadonly key = true) :
    (r.answer (.put name text linewise)).register? key = r.register? key := by
  cases hslot : slot? name with
  | none => rw [answer_put_of_slot?_eq_none hslot]
  | some slot =>
    simp only [answer, put_eq_stored hslot]
    exact register?_stored (facts_of_slot? hslot).2 _ hkey

/-- The editor's own record of the line last run. -/
theorem suits_record (keys : Text) :
    Register.Suits commandName ⟨commandName, .recorded keys, true⟩ where
  name_eq := rfl
  readonly_iff := iff_of_true rfl rfl
  isRecorded_iff := iff_of_true rfl rfl
  listed := by decide +kernel

/-- Lines under a key that commands can write to. -/
theorem suits_lines (hkey : isReadonly key = false) (hlisted : key ∈ listingOrder)
    (text : List Text) (linewise : Bool) :
    Register.Suits key ⟨key, .lines text linewise, false⟩ := by
  have hne : key ≠ commandName := by
    rintro rfl
    cases hkey
  exact ⟨rfl, iff_of_false Bool.false_ne_true hne, iff_of_false Bool.false_ne_true hne, hlisted⟩

/-! ## the table -/

/-- No key is there twice, and what stands under each may stand there. -/
structure Tidy (r : Registers) : Prop where
  nodup : r.slots.keys.Nodup
  suits : ∀ x ∈ r.slots, x.2.Suits x.1

namespace Tidy

theorem set (h : r.Tidy) (hreg : reg.Suits key) : (r.set key reg).Tidy where
  nodup := Keyed.nodup_keys_set h.nodup
  suits := by
    intro x hx
    obtain rfl | hx := Keyed.mem_of_mem_set hx
    · exact hreg
    · exact h.suits x hx

/-- Every request keeps the table tidy. -/
theorem answer (h : r.Tidy) (q : Request) : (r.answer q).Tidy := by
  cases q with
  | record keys => exact h.set (suits_record keys)
  | put name text linewise =>
    cases hslot : slot? name with
    | none =>
      rw [answer_put_of_slot?_eq_none hslot]
      exact h
    | some slot =>
      obtain ⟨hlisted, hkey⟩ := facts_of_slot? hslot
      have hkept := h.set (suits_lines hkey hlisted (r.payload (target name) text) linewise)
      simp only [Registers.answer, put_eq_stored hslot, stored]
      split
      · exact hkept
      · exact hkept.set (suits_lines rfl (by decide +kernel) _ linewise)

theorem suits_of_register? (h : r.Tidy) (hreg : r.register? key = some reg) : reg.Suits key :=
  h.suits (key, reg) (Keyed.mem_of_get?_eq_some hreg)

theorem mem_listingOrder (h : r.Tidy) (hkey : key ∈ r.slots.keys) : key ∈ listingOrder := by
  obtain ⟨x, hx, rfl⟩ := List.mem_map.1 hkey
  exact (h.suits x hx).listed

/-- Each register is listed under its key. -/
theorem items_eq (h : r.Tidy) :
    r.items = listingOrder.filterMap fun key => (r.get? key).map fun c => (key, c) := by
  refine List.filterMap_congr fun key _ => ?_
  unfold get?
  cases hreg : r.register? key with
  | none => rfl
  | some reg => simp only [Option.map_some, (h.suits_of_register? hreg).name_eq]

/-- The names that are listed, in order. -/
theorem map_items (h : r.Tidy) :
    r.items.map Prod.fst = listingOrder.filter fun key => (r.get? key).isSome := by
  rw [h.items_eq, List.map_filterMap, ← List.filterMap_eq_filter]
  refine List.filterMap_congr fun key _ => ?_
  cases hkey : r.get? key <;> simp [Option.guard, hkey]

/-- The listing goes through the table and leaves nothing out. -/
theorem items_perm (h : r.Tidy) :
    r.items.Perm (r.slots.map fun x => (x.1, x.2.contents)) := by
  have hperm := Keyed.filterMap_get?_perm h.nodup nodup_listingOrder fun _ => h.mem_listingOrder
  refine List.Perm.trans (.of_eq ?_) (hperm.map fun x => (x.1, x.2.contents))
  rw [h.items_eq, List.map_filterMap]
  refine List.filterMap_congr fun key _ => ?_
  rw [get?, register?, Option.map_map, Option.map_map]
  rfl

theorem mem_items_iff (h : r.Tidy) {c : Contents} : (key, c) ∈ r.items ↔ r.get? key = some c := by
  rw [h.items_perm.mem_iff, List.mem_map, get?, Option.map_eq_some_iff]
  constructor
  · rintro ⟨⟨key', reg⟩, hx, hxc⟩
    cases hxc
    exact ⟨reg, (Keyed.get?_eq_some_iff h.nodup).2 hx, rfl⟩
  · rintro ⟨reg, hreg, rfl⟩
    exact ⟨(key, reg), Keyed.mem_of_get?_eq_some hreg, rfl⟩

end Tidy

theorem tidy_empty : empty.Tidy where
  nodup := List.nodup_nil
  suits := nofun

/-- Every history leaves the table tidy. -/
theorem tidy_after (requests : List Request) : (after requests).Tidy := by
  induction requests using List.reverseRecOn with
  | nil => exact tidy_empty
  | append_singleton requests q ih =>
    rw [after_concat]
    exact ih.answer q

/-- The table after a history of requests, however valid.  No putting of lines brings or alters a
register that commands cannot write to.  Every register goes by the name of its key; it is a record,
and one that commands cannot write to, just if the key is that of the line last run; and no key is
an upper-case name or `_`.  The listing gives every register there is once, in listing order, so
that a name is listed just if its register holds something. -/
theorem table_of_requests (requests : List Request) :
    let r := after requests
    (∀ name text linewise key, isReadonly key = true →
      (r.answer (.put name text linewise)).register? key = r.register? key) ∧
    (∀ key reg, r.register? key = some reg →
      reg.name = key ∧ (reg.readonly = true ↔ key = commandName) ∧
      (reg.contents.isRecorded = true ↔ key = commandName) ∧
      (∀ c ∈ key, c.isUpper = false) ∧ key ≠ blackHole) ∧
    listingOrder.Nodup ∧
    r.items.map Prod.fst = (listingOrder.filter fun key => (r.get? key).isSome) ∧
    r.items.Perm (r.slots.map fun x => (x.1, x.2.contents)) ∧
    ∀ name, r.get? name ≠ none ↔ ∃ c, (name, c) ∈ r.items := by
  intro r
  have h : r.Tidy := tidy_after requests
  refine ⟨fun name text linewise key hkey => register?_answer_put r name text linewise hkey,
    fun key reg hreg => ?_, nodup_listingOrder, h.map_items, h.items_perm, fun name => ?_⟩
  · have hsuits := h.suits_of_register? hreg
    exact ⟨hsuits.name_eq, hsuits.readonly_iff, hsuits.isRecorded_iff,
      of_mem_listingOrder hsuits.listed⟩
  · simp only [h.mem_items_iff, Option.ne_none_iff_exists']

example :
    (after [.put (some ['z']) [['x']] true, .record ['q'], .put (some ['A']) [['y']] true]).items =
      [(['"'], .lines [['y']] true), (['a'], .lines [['y']] true), (['z'], .lines [['x']] true),
        ([':'], .recorded ['q'])] := by
  decide +kernel

end Registers

end ExMode
