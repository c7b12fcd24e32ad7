import ExMode.Register
import Mathlib.Data.List.DropRight

/-!
# ExMode.Proofs.Register

What a register holds, told from the requests that the registers were given.  A
request either puts lines under a name, as commands do, or records the line last
run; only the requests matter, not what the registers held on the way:

* `put_of_slot?`, `put_of_slot?_eq_none` — all that putting lines under a name can do;
* `IsPlainName.get?_answer`, `get?_answer_letter` — what one request does to a register that
  can only be overwritten, and to one that can be appended to;
* `get?_after_letter`, `get?_after_unnamed` — what a history leaves in a letter, and in the
  unnamed register;
* `contents_of_requests` — the registers after a history.
-/

namespace ExMode

/-! ## letters -/

/-- The characters between two others. -/
theorem mem_map_range' {lo hi c : Char} (hlo : lo ≤ c) (hhi : c ≤ hi) :
    c ∈ (List.range' lo.toNat (hi.toNat + 1 - lo.toNat)).map Char.ofNat := by
  have hlo' : lo.toNat ≤ c.toNat := hlo
  have hhi' : c.toNat ≤ hi.toNat := hhi
  exact List.mem_map.2 ⟨c.toNat, List.mem_range'_1.2 ⟨hlo', by omega⟩, Char.ofNat_toNat c⟩

/-- What holds of each of some characters can be found out by going through them, and not through
all characters that there are. -/
theorem forall_mem_of_all {P : Char → Prop} [DecidablePred P] {cs : List Char}
    (h : cs.all (fun c => decide (P c)) = true) : ∀ c ∈ cs, P c :=
  fun c hc => of_decide_eq_true (List.all_eq_true.1 h c hc)

/-- The lower case of an upper-case letter. -/
theorem toLower_of_upper {c : Char} (h : 'A' ≤ c) (h' : c ≤ 'Z') :
    'a' ≤ c.toLower ∧ c.toLower.toUpper = c := by
  have hall : ∀ c ∈ (List.range' 65 26).map Char.ofNat,
      'a' ≤ c.toLower ∧ c.toLower.toUpper = c := forall_mem_of_all (by decide +kernel)
  exact hall c (mem_map_range' h h')

namespace Registers

/-! ## requests -/

/-- A request to the registers. -/
inductive Request where
  /-- Lines that a command puts under a name, or under none. -/
  | put (name : Option Text) (text : List Text) (linewise : Bool)
  /-- The keystrokes of a line that is run. -/
  | record (keys : Text)
  deriving DecidableEq, Repr

/-- The registers after a request; one that is refused leaves them as they are. -/
def answer (r : Registers) : Request → Registers
  | .put name text linewise =>
    match r.put name text linewise with
    | .ok r' => r'
    | .error _ => r
  | .record keys => r.record commandName keys

/-- The registers after a history of requests. -/
def after (requests : List Request) : Registers := requests.foldl answer empty

/-- The name that lines are put under; without one it is that of the unnamed register. -/
def target : Option Text → Text
  | none => unnamed
  | some [] => unnamed
  | some n => n

/-- The register that keeps the lines put under a name, if any does. -/
def slot? (name : Option Text) : Option Text :=
  if isWritable (target name) && target name != blackHole then some (slotName (target name))
  else none

/-- The register that keeps the lines of a request, if any does. -/
def Request.slot? : Request → Option Text
  | .put name _ _ => Registers.slot? name
  | .record _ => none

/-- The lines of a request that puts them under a given name, and whether they are whole lines. -/
def Request.putTo? (name : Text) : Request → Option (List Text × Bool)
  | .put n text linewise => if n = some name then some (text, linewise) else none
  | .record _ => none

/-- What a history puts under a name, in order. -/
def putsTo (name : Text) (requests : List Request) : List (List Text × Bool) :=
  requests.filterMap (Request.putTo? name)

/-- The requests of a history since the last that puts lines under a given name. -/
def sincePutTo (name : Text) (requests : List Request) : List Request :=
  requests.rtakeWhile fun q => (q.putTo? name).isNone

/-- The lines in a register; a record holds none. -/
def linesIn (r : Registers) (slot : Text) : List Text := (r.get? slot).elim [] Contents.held

variable {r : Registers} {name : Option Text} {text : List Text} {linewise : Bool}

/-! ## one request -/

/-- No register that commands write to is one that they cannot. -/
theorem isReadonly_of_isWritable {n : Text} (h : isWritable n = true) : isReadonly n = false := by
  match n with
  | [c] =>
    rw [← Bool.not_eq_true]
    intro hro
    simp only [isReadonly, Bool.or_eq_true, beq_iff_eq, List.cons.injEq, and_true] at hro
    rcases hro with ((rfl | rfl) | rfl) | rfl <;> exact absurd h (by decide)

theorem payload_eq (n : Text) :
    r.payload n text = if appends n then r.linesIn (slotName n) ++ text else text := by
  unfold payload linesIn
  split
  · cases r.get? (slotName n) with
    | none => rfl
    | some c => cases c <;> rfl
  · rfl

/-- The answer to a name that no register has. -/
def noRegister (n : Text) : Fault := .command ⟨.invalidRegisterName, '\'' :: n ++ ['\'']⟩

theorem put_eq : r.put name text linewise =
    if isReadonly (target name) then .error (.readonlyRegister (target name))
    else if ! isWritable (target name) then .error (noRegister (target name))
    else if target name = blackHole then .ok r
    else
      let reg : Register :=
        ⟨slotName (target name), .lines (r.payload (target name) text) linewise, false⟩
      .ok (if slotName (target name) = unnamed then r.set (slotName (target name)) reg
        else (r.set (slotName (target name)) reg).set unnamed { reg with name := unnamed }) := by
  rcases name with _ | _ | ⟨x, n⟩ <;> rfl

/-- The registers with contents in one of them, as commands put them there: the unnamed register
holds the same. -/
def stored (r : Registers) (slot : Text) (c : Contents) : Registers :=
  if slot = unnamed then r.set slot ⟨slot, c, false⟩
  else (r.set slot ⟨slot, c, false⟩).set unnamed ⟨unnamed, c, false⟩

theorem get?_stored (r : Registers) (slot : Text) (c : Contents) (n : Text) :
    (r.stored slot c).get? n = if n = slot ∨ n = unnamed then some c else r.get? n := by
  simp only [stored, get?, register?, set]
  split <;> simp only [Keyed.get?_set] <;> grind

/-- Lines that some register keeps are stored there, after the lines that an upper-case name finds
there. -/
theorem put_eq_stored {slot : Text} (h : slot? name = some slot) (r : Registers)
    (text : List Text) (linewise : Bool) :
    r.put name text linewise =
      .ok (r.stored slot (.lines (r.payload (target name) text) linewise)) := by
  unfold slot? at h
  split at h
  · rename_i hname
    obtain rfl := Option.some.inj h
    obtain ⟨hwritable, hhole⟩ := Bool.and_eq_true_iff.1 hname
    rw [put_eq, isReadonly_of_isWritable hwritable, hwritable, if_neg Bool.false_ne_true,
      Bool.not_true, if_neg Bool.false_ne_true, if_neg (bne_iff_ne.1 hhole)]
    rfl
  · cases h

/-- Lines that some register keeps go to that register and to the unnamed one, after the lines
that an upper-case name finds there. -/
theorem put_of_slot? {slot : Text} (h : slot? name = some slot) (r : Registers) (text : List Text)
    (linewise : Bool) :
    ∃ r', r.put name text linewise = .ok r' ∧
      ∀ n, r'.get? n = if n = slot ∨ n = unnamed
        then some (.lines (r.payload (target name) text) linewise) else r.get? n :=
  ⟨_, put_eq_stored h r text linewise, get?_stored r slot _⟩

/-- Lines that no register keeps were put under `_`, or under no name of a register. -/
theorem put_of_slot?_eq_none (h : slot? name = none) (r : Registers) (text : List Text)
    (linewise : Bool) :
    target name = blackHole ∧ r.put name text linewise = .ok r ∨
      ∃ f, r.put name text linewise = .error f := by
  unfold slot? at h
  split at h
  · cases h
  rename_i hname
  rw [put_eq]
  split
  · exact .inr ⟨_, rfl⟩
  split
  · exact .inr ⟨_, rfl⟩
  rename_i hwritable
  have hhole : target name = blackHole := by simp_all
  exact .inl ⟨hhole, if_pos hhole⟩

/-- What a request that keeps lines does to each register. -/
theorem get?_answer_put {slot : Text} (h : slot? name = some slot) (n : Text) :
    (r.answer (.put name text linewise)).get? n = if n = slot ∨ n = unnamed
      then some (.lines (r.payload (target name) text) linewise) else r.get? n := by
  obtain ⟨r', hput, hget⟩ := put_of_slot? h r text linewise
  rw [show r.answer (.put name text linewise) = r' by simp only [answer, hput]]
  exact hget n

/-- Lines that no register keeps change nothing. -/
theorem answer_put_of_slot?_eq_none (h : slot? name = none) :
    r.answer (.put name text linewise) = r := by
  obtain ⟨-, hput⟩ | ⟨f, hput⟩ := put_of_slot?_eq_none h r text linewise <;>
    simp only [answer, hput]

/-- A request leaves every register alone but the one that keeps its lines, the unnamed one and
that of the line last run. -/
theorem get?_answer_of_slot?_ne {q : Request} {n : Text} (hq : q.slot? ≠ some n)
    (hunnamed : n = unnamed → q.slot? = none) (hcommand : n ≠ commandName) :
    (r.answer q).get? n = r.get? n := by
  cases q with
  | put name text linewise =>
    cases hslot : slot? name with
    | none => rw [answer_put_of_slot?_eq_none hslot]
    | some slot =>
      rw [get?_answer_put hslot, if_neg]
      rintro (rfl | hn)
      · exact hq hslot
      · exact absurd (hslot.symm.trans (hunnamed hn)) (Option.some_ne_none slot)
  | record keys => exact get?_set_of_ne hcommand r _

/-! ## names -/

/-- The names that lines are kept under, apart from that of the unnamed register. -/
theorem exists_of_slot? {slot : Text} (h : slot? name = some slot) (hslot : slot ≠ unnamed) :
    ∃ c, name = some [c] ∧ slotName [c] = slot := by
  unfold slot? at h
  split at h
  · rename_i hname
    obtain rfl := Option.some.inj h
    obtain ⟨hwritable, -⟩ := Bool.and_eq_true_iff.1 hname
    match name with
    | none | some [] => exact absurd rfl hslot
    | some [c] => exact ⟨c, rfl, rfl⟩
    | some (c :: c' :: n) => cases hwritable
  · cases h

/-- Lines under the name of a register other than `_` are kept by the register that the name
stands for. -/
theorem slot?_of_isWritable {n : Text} (hne : n ≠ []) (h : isWritable n = true)
    (hhole : n ≠ blackHole) : slot? (some n) = some (slotName n) := by
  obtain ⟨c, n, rfl⟩ := List.exists_cons_of_ne_nil hne
  simp only [slot?, target, h, Bool.true_and, bne_iff_ne.2 hhole, if_pos]

theorem slotName_of_not_appends {n : Text} (h : appends n = false) : slotName n = n := by
  simp [slotName, h]

theorem slotName_of_upper {c : Char} (h : appends [c] = true) :
    'a' ≤ c.toLower ∧ c.toLower.toUpper = c ∧ slotName [c] = [c.toLower] := by
  simp only [appends, Bool.and_eq_true, decide_eq_true_eq] at h
  obtain ⟨hlower, hupper⟩ := toLower_of_upper h.1 h.2
  exact ⟨hlower, hupper, by simp [slotName, appends, h]⟩

/-- No lines are kept in the register of the line last run. -/
theorem slot?_ne_commandName : slot? name ≠ some commandName := by
  intro h
  obtain ⟨c, rfl, hc⟩ := exists_of_slot? h (by decide)
  cases hcase : appends [c] with
  | true =>
    obtain ⟨hlower, -, hname⟩ := slotName_of_upper hcase
    rw [hname] at hc
    rw [(List.cons.inj hc).1] at hlower
    exact absurd hlower (by decide)
  | false =>
    rw [slotName_of_not_appends hcase] at hc
    rw [hc] at h
    cases h

/-- The name of a register that is only ever overwritten, other than the unnamed one. -/
def IsPlainName (d : Char) : Prop := isAsciiDigit d = true ∨ d = '-'

theorem IsPlainName.facts {d : Char} (h : IsPlainName d) :
    isWritable [d] = true ∧ appends [d] = false ∧ [d] ≠ blackHole ∧ [d] ≠ unnamed ∧
      [d] ≠ commandName ∧ ¬ 'a' ≤ d := by
  have hmem : d ∈ '-' :: (List.range' 48 10).map Char.ofNat := by
    obtain h | rfl := h
    · simp only [isAsciiDigit, Bool.and_eq_true, decide_eq_true_eq] at h
      exact List.mem_cons_of_mem _ (mem_map_range' h.1 h.2)
    · exact List.mem_cons_self
  have hall : ∀ d ∈ '-' :: (List.range' 48 10).map Char.ofNat,
      isWritable [d] = true ∧ appends [d] = false ∧ [d] ≠ blackHole ∧ [d] ≠ unnamed ∧
        [d] ≠ commandName ∧ ¬ 'a' ≤ d := forall_mem_of_all (by decide +kernel)
  exact hall d hmem

/-- Lines under a digit or `-` are kept there, and no other name leads there. -/
theorem IsPlainName.slot?_eq_some {d : Char} (h : IsPlainName d) :
    slot? name = some [d] ↔ name = some [d] := by
  obtain ⟨hwritable, happends, hhole, hunnamed, -, hlower⟩ := h.facts
  constructor
  · intro hslot
    obtain ⟨c, rfl, hc⟩ := exists_of_slot? hslot hunnamed
    cases hcase : appends [c] with
    | true =>
      obtain ⟨hle, -, hname⟩ := slotName_of_upper hcase
      rw [hname] at hc
      rw [(List.cons.inj hc).1] at hle
      exact absurd hle hlower
    | false => rw [← hc, slotName_of_not_appends hcase]
  · rintro rfl
    rw [slot?_of_isWritable (by simp) hwritable hhole, slotName_of_not_appends happends]

/-- The names of a register that can be appended to. -/
theorem letter_facts {x : Char} (h : 'a' ≤ x) (h' : x ≤ 'z') :
    (isWritable [x] = true ∧ appends [x] = false ∧ [x] ≠ blackHole ∧ [x] ≠ unnamed ∧
      [x] ≠ commandName) ∧
    isWritable [x.toUpper] = true ∧ appends [x.toUpper] = true ∧ [x.toUpper] ≠ blackHole ∧
      slotName [x.toUpper] = [x] := by
  have hall : ∀ x ∈ (List.range' 97 26).map Char.ofNat,
      (isWritable [x] = true ∧ appends [x] = false ∧ [x] ≠ blackHole ∧ [x] ≠ unnamed ∧
        [x] ≠ commandName) ∧
      isWritable [x.toUpper] = true ∧ appends [x.toUpper] = true ∧ [x.toUpper] ≠ blackHole ∧
        slotName [x.toUpper] = [x] := forall_mem_of_all (by decide +kernel)
  exact hall x (mem_map_range' h h')

/-- Lines under a letter, lower-case or upper-case, are kept by the register of its lower case,
and no other name leads there. -/
theorem slot?_eq_some_letter {x : Char} (h : 'a' ≤ x) (h' : x ≤ 'z') :
    slot? name = some [x] ↔ name = some [x] ∨ name = some [x.toUpper] := by
  obtain ⟨⟨hwritable, happends, hhole, hunnamed, -⟩, hwritable', -, hhole', hname⟩ :=
    letter_facts h h'
  constructor
  · intro hslot
    obtain ⟨c, rfl, hc⟩ := exists_of_slot? hslot hunnamed
    cases hcase : appends [c] with
    | true =>
      obtain ⟨-, hupper, hlower⟩ := slotName_of_upper hcase
      rw [hlower] at hc
      rw [(List.cons.inj hc).1] at hupper
      exact .inr (by rw [hupper])
    | false => exact .inl (by rw [← hc, slotName_of_not_appends hcase])
  · rintro (rfl | rfl)
    · rw [slot?_of_isWritable (by simp) hwritable hhole, slotName_of_not_appends happends]
    · rw [slot?_of_isWritable (by simp) hwritable' hhole', hname]

/-! ## one request to a register -/

/-- What a request does to a register that is only ever overwritten. -/
theorem IsPlainName.get?_answer {d : Char} (hd : IsPlainName d) (q : Request) :
    (r.answer q).get? [d] =
      ((q.putTo? [d]).map fun p => Contents.lines p.1 p.2).or (r.get? [d]) := by
  obtain ⟨-, happends, -, hunnamed, hcommand, -⟩ := hd.facts
  cases q with
  | record keys => exact get?_set_of_ne hcommand r _
  | put name text linewise =>
    by_cases hname : name = some [d]
    · rw [get?_answer_put (hd.slot?_eq_some.2 hname), if_pos (.inl rfl), hname]
      simp [Request.putTo?, payload_eq, target, happends]
    · have hslot : (Request.put name text linewise).slot? ≠ some [d] := fun h =>
        hname (hd.slot?_eq_some.1 h)
      rw [get?_answer_of_slot?_ne hslot (fun h => absurd h hunnamed) hcommand]
      simp [Request.putTo?, hname]

/-- What a request does to a letter: lines under its lower case take the place of what is there,
lines under its upper case follow it. -/
theorem get?_answer_letter {x : Char} (h : 'a' ≤ x) (h' : x ≤ 'z') (q : Request) :
    (r.answer q).get? [x] =
      ((q.putTo? [x]).map fun p => Contents.lines p.1 p.2).or
        (((q.putTo? [x.toUpper]).map fun p => Contents.lines (r.linesIn [x] ++ p.1) p.2).or
          (r.get? [x])) := by
  obtain ⟨⟨-, hlower, -, hunnamed, hcommand⟩, -, happends, -, hslot⟩ := letter_facts h h'
  cases q with
  | record keys => exact get?_set_of_ne hcommand r _
  | put name text linewise =>
    by_cases hname : name = some [x]
    · rw [get?_answer_put ((slot?_eq_some_letter h h').2 (.inl hname)), if_pos (.inl rfl), hname]
      simp [Request.putTo?, payload_eq, target, hlower]
    by_cases hupper : name = some [x.toUpper]
    · rw [get?_answer_put ((slot?_eq_some_letter h h').2 (.inr hupper)), if_pos (.inl rfl), hupper]
      rw [hupper] at hname
      simp [Request.putTo?, payload_eq, target, happends, hslot, hname]
    · have hslot : (Request.put name text linewise).slot? ≠ some [x] := fun hs =>
        ((slot?_eq_some_letter h h').1 hs).elim hname hupper
      rw [get?_answer_of_slot?_ne hslot (fun h => absurd h hunnamed) hcommand]
      simp [Request.putTo?, hname, hupper]

/-! ## histories -/

@[simp] theorem after_concat (requests : List Request) (q : Request) :
    after (requests ++ [q]) = (after requests).answer q := by
  simp [after]

@[simp] theorem putsTo_concat (n : Text) (requests : List Request) (q : Request) :
    putsTo n (requests ++ [q]) = putsTo n requests ++ (q.putTo? n).toList := by
  cases h : q.putTo? n <;> simp [putsTo, h]

theorem sincePutTo_concat_of_some {n : Text} {q : Request} {p : List Text × Bool}
    (h : q.putTo? n = some p) (requests : List Request) :
    sincePutTo n (requests ++ [q]) = [] :=
  List.rtakeWhile_concat_neg _ _ _ (by simp [h])

theorem sincePutTo_concat_of_none {n : Text} {q : Request} (h : q.putTo? n = none)
    (requests : List Request) : sincePutTo n (requests ++ [q]) = sincePutTo n requests ++ [q] :=
  List.rtakeWhile_concat_pos _ _ _ (by simp [h])

/-- A register that is only ever overwritten holds what was last put there. -/
theorem IsPlainName.get?_after {d : Char} (hd : IsPlainName d) (requests : List Request) :
    (after requests).get? [d] =
      (putsTo [d] requests).getLast?.map fun p => Contents.lines p.1 p.2 := by
  induction requests using List.reverseRecOn with
  | nil => rfl
  | append_singleton requests q ih =>
    rw [after_concat, hd.get?_answer, ih, putsTo_concat, List.getLast?_append]
    cases q.putTo? [d] <;> rfl

/-- A letter holds what was last put under its lower case, and after it all that was put under its
upper case since. -/
theorem get?_after_letter {x : Char} (h : 'a' ≤ x) (h' : x ≤ 'z') (requests : List Request) :
    let last := (putsTo [x] requests).getLast?
    let added := putsTo [x.toUpper] (sincePutTo [x] requests)
    (after requests).get? [x] = (added.getLast?.or last).map fun p =>
      .lines (last.elim [] Prod.fst ++ added.flatMap Prod.fst) p.2 := by
  induction requests using List.reverseRecOn with
  | nil => rfl
  | append_singleton requests q ih =>
    dsimp only at ih ⊢
    rw [after_concat, get?_answer_letter h h', putsTo_concat, List.getLast?_append]
    cases hq : q.putTo? [x] with
    | some p => simp [sincePutTo_concat_of_some hq, putsTo]
    | none =>
      rw [sincePutTo_concat_of_none hq, putsTo_concat, List.getLast?_append, List.flatMap_append]
      cases q.putTo? [x.toUpper] with
      | none => simpa using ih
      | some p =>
        have hlines : (after requests).linesIn [x] =
            ((putsTo [x] requests).getLast?).elim [] Prod.fst ++
              (putsTo [x.toUpper] (sincePutTo [x] requests)).flatMap Prod.fst := by
          rw [linesIn, ih]
          cases hadded : (putsTo [x.toUpper] (sincePutTo [x] requests)).getLast? with
          | some _ => rfl
          | none => cases (putsTo [x] requests).getLast? <;>
            simp [List.getLast?_eq_none_iff.1 hadded, Contents.held]
        simp [hlines]

/-- The unnamed register holds what the register last written holds. -/
theorem get?_after_unnamed (requests : List Request) :
    (∀ q ∈ requests, q.slot? = none) ∧ (after requests).get? unnamed = none ∨
    ∃ before name text linewise later slot,
      requests = before ++ .put name text linewise :: later ∧ slot? name = some slot ∧
      (∀ q ∈ later, q.slot? = none) ∧
      (after requests).get? unnamed =
        some (.lines ((after before).payload (target name) text) linewise) ∧
      (after requests).get? slot = (after requests).get? unnamed := by
  induction requests using List.reverseRecOn with
  | nil => exact .inl ⟨by simp, rfl⟩
  | append_singleton requests q ih =>
    cases hq : q.slot? with
    | some slot =>
      cases q with
      | record keys => cases hq
      | put name text linewise =>
        refine .inr ⟨requests, name, text, linewise, [], slot, rfl, hq, by simp, ?_, ?_⟩ <;>
        simp [get?_answer_put hq]
    | none =>
      have hkept {n : Text} (hn : n ≠ commandName) :
          (after (requests ++ [q])).get? n = (after requests).get? n := by
        rw [after_concat, get?_answer_of_slot?_ne (by simp [hq]) (fun _ => hq) hn]
      have hunnamed := hkept (n := unnamed) (by decide)
      obtain ⟨hnone, hget⟩ | ⟨before, name, text, linewise, later, slot, rfl, hslot, hlater, hget,
        hmirror⟩ := ih
      · exact .inl ⟨List.forall_mem_append.2 ⟨hnone, by simpa using hq⟩, hunnamed.trans hget⟩
      · have hcommand : slot ≠ commandName := by
          rintro rfl
          exact slot?_ne_commandName hslot
        exact .inr ⟨before, name, text, linewise, later ++ [q], slot, by simp, hslot,
          List.forall_mem_append.2 ⟨hlater, by simpa using hq⟩, hunnamed.trans hget,
          (hkept hcommand).trans (hmirror.trans hunnamed.symm)⟩

/-- A history goes as if lines that no register keeps had not been put anywhere. -/
theorem after_of_slot?_eq_none (h : slot? name = none) (before later : List Request) :
    after (before ++ .put name text linewise :: later) = after (before ++ later) := by
  simp only [after, List.foldl_append, List.foldl_cons, answer_put_of_slot?_eq_none h]

/-- Lines are kept exactly when they are not refused and not put under `_`. -/
theorem slot?_ne_none_iff :
    slot? name ≠ none ↔
      target name ≠ blackHole ∧ ∃ r', r.put name text linewise = .ok r' := by
  cases hslot : slot? name with
  | some slot =>
    obtain ⟨r', hput, -⟩ := put_of_slot? hslot r text linewise
    refine iff_of_true (by simp) ⟨fun h => ?_, r', hput⟩
    simp [slot?, h] at hslot
  | none =>
    refine iff_of_false (by simp) fun ⟨hhole, r', hok⟩ => ?_
    obtain ⟨h, -⟩ | ⟨f, hput⟩ := put_of_slot?_eq_none hslot r text linewise
    · exact hhole h
    · rw [hput] at hok
      cases hok

/-- What the registers hold after a history of requests, however valid.  A letter holds what was
last put under its lower case, and after it all that was put under its upper case since; a digit
and `-` hold what was last put there; the unnamed register holds all that the register last written
holds.  Lines that were put under `_`, or were refused, might as well not have been. -/
theorem contents_of_requests (requests : List Request) :
    (∀ x, 'a' ≤ x → x ≤ 'z' →
      let last := (putsTo [x] requests).getLast?
      let added := putsTo [x.toUpper] (sincePutTo [x] requests)
      (after requests).get? [x] = (added.getLast?.or last).map fun p =>
        .lines (last.elim [] Prod.fst ++ added.flatMap Prod.fst) p.2) ∧
    (∀ d, isAsciiDigit d = true ∨ d = '-' →
      (after requests).get? [d] = (putsTo [d] requests).getLast?.map fun p => .lines p.1 p.2) ∧
    ((∀ q ∈ requests, q.slot? = none) ∧ (after requests).get? unnamed = none ∨
      ∃ before name text linewise later slot,
        requests = before ++ .put name text linewise :: later ∧ slot? name = some slot ∧
        (∀ q ∈ later, q.slot? = none) ∧
        (after requests).get? unnamed =
          some (.lines ((after before).payload (target name) text) linewise) ∧
        (after requests).get? slot = (after requests).get? unnamed) ∧
    ∀ before name text linewise later, requests = before ++ .put name text linewise :: later →
      (slot? name ≠ none ↔
        target name ≠ blackHole ∧ ∃ r', (after before).put name text linewise = .ok r') ∧
      (slot? name = none → after requests = after (before ++ later)) := by
  refine ⟨fun x h h' => get?_after_letter h h' requests,
    fun d hd => IsPlainName.get?_after hd requests, get?_after_unnamed requests, ?_⟩
  rintro before name text linewise later rfl
  exact ⟨slot?_ne_none_iff, fun h => after_of_slot?_eq_none h before later⟩

/-- Lines for `a` are followed by lines for `A`, and then by lines that are swallowed and lines that
are refused; a line is run in between. -/
theorem contents_of_requests_merged :
    let requests : List Request :=
      [.put (some ['5']) [['p']] true, .put (some ['a']) [['q']] true,
        .put (some ['A']) [['r'], ['s']] false, .record ['d'], .put (some ['_']) [['t']] true,
        .put (some ['a', 'b']) [['u']] true, .put (some [':']) [['v']] true]
    (after requests).get? ['a'] = some (.lines [['q'], ['r'], ['s']] false) ∧
      (after requests).get? ['5'] = some (.lines [['p']] true) ∧
      (after requests).get? ['b'] = none ∧
      after requests = after [.put (some ['5']) [['p']] true, .put (some ['a']) [['q']] true,
        .put (some ['A']) [['r'], ['s']] false, .record ['d'],
        .put (some ['a', 'b']) [['u']] true, .put (some [':']) [['v']] true] := by
  intro requests
  obtain ⟨hletter, hdigit, -, hnone⟩ := contents_of_requests requests
  refine ⟨hletter 'a' (by decide) (by decide), hdigit '5' (by decide),
    hletter 'b' (by decide) (by decide), ?_⟩
  exact (hnone (requests.take 4) _ _ _ (requests.drop 5) rfl).2 rfl

end Registers

end ExMode
