import ExMode.Proofs.Classified
import ExMode.Proofs.YamlNode
import ExMode.Proofs.YamlScanner
import ExMode.Yaml

/-!
# ExMode.Proofs.YamlReader

Why a text is no document in YAML.  It is not of the format, or the version in front
of it is a number too long to be converted, or one of its scalars cannot be made the
value that its looks or its tag say it is (`Grounds`).  What is raised for such a
scalar is one of eight kinds of fault (`Scalar.Unmade`).
-/

namespace ExMode.Yaml

open Document

/-! ## scalars -/

namespace Scalar

/-- What is raised for a text that cannot be made a value. -/
inductive Unmade (t : Text) : Fault → Prop
  | numeralTooLong {n : Nat} : Text.maxNumeralDigits < n → n ≤ t.length →
      Unmade t (.numeralTooLong n)
  | noDigits : Unmade t .noDigits
  | integerTooLarge : Unmade t .integerTooLarge
  | notAnInteger (base : Nat) (part : Text) : Unmade t (.notAnInteger base part)
  | notANumber (part : Text) : Unmade t (.notANumber part)
  | notAWord : Unmade t (.notAWord (t.map lowerAscii))
  | notADate : Unmade t .notADate
  | noSuchDate (what : Text) : Unmade t (.noSuchDate what)

/-- A result that is a value, or for which something is raised about the text. -/
abbrev Makes {α : Type} (t : Text) (x : Except Fault α) : Prop :=
  Yields (fun _ => True) (Unmade t) x

theorem signOf_suffix (t : Text) : (Decimal.signOf t).2 <:+ t := by
  unfold Decimal.signOf
  split
  · exact List.suffix_cons _ _
  · exact List.suffix_cons _ _
  · exact List.suffix_rfl

theorem trimmed_sublist (t : Text) : (Decimal.trimmed t).Sublist t := by
  unfold Decimal.trimmed
  dsimp only
  rw [← List.reverse_sublist, List.reverse_reverse]
  exact (List.dropWhile_suffix _).sublist.trans (List.dropWhile_suffix _).sublist.reverse

theorem makes_integerIn {t part : Text} (base : Nat) (h : part.Sublist t) :
    Makes t (integerIn base part) := by
  unfold integerIn
  dsimp only
  split
  · split
    · rename_i hlong
      have hsub := (signOf_suffix _).sublist.trans (trimmed_sublist part)
      exact .numeralTooLong hlong.2 (hsub.trans h).length_le
    · trivial
  · exact .notAnInteger _ _

theorem makes_integer (t : Text) : Makes t (integer t) := by
  have hsub : (Decimal.signOf (plainDigits t)).2.Sublist t :=
    (signOf_suffix _).sublist.trans List.filter_sublist
  unfold integer
  generalize Decimal.signOf (plainDigits t) = x at hsub ⊢
  obtain ⟨negative, r⟩ := x
  have hsigned {x : Except Fault Int} (hx : Makes t x) :
      Makes t (x >>= fun n => pure (if negative then -n else n)) := hx.bind fun _ _ => trivial
  dsimp only at hsub ⊢
  split
  · exact Unmade.noDigits
  · rename_i ds
    exact hsigned (makes_integerIn 2 ((List.sublist_append_right ['0', 'b'] ds).trans hsub))
  · rename_i ds
    exact hsigned (makes_integerIn 16 ((List.sublist_append_right ['0', 'x'] ds).trans hsub))
  · exact hsigned (makes_integerIn 8 hsub)
  · split
    · refine (Yields.mapM fun part hpart => ?_).bind fun _ _ => trivial
      exact makes_integerIn 10 ((Text.sublist_of_mem_splitOn hpart).trans hsub)
    · exact hsigned (makes_integerIn 10 hsub)

theorem makes_numeral (t part : Text) : Makes t (numeral part) := by
  unfold numeral
  split
  · trivial
  · exact .notANumber part

theorem makes_ofPlaces (t : Text) (unit : Nat) (sum : Binary64) (places : List Binary64) :
    Makes t (ofPlaces unit sum places) := by
  induction places generalizing unit sum with
  | nil => trivial
  | cons p ps ih =>
    unfold ofPlaces
    split
    · exact ih _ _
    · exact .integerTooLarge

theorem makes_number (t : Text) : Makes t (number t) := by
  unfold number
  dsimp only
  obtain ⟨negative, r⟩ := Decimal.signOf ((plainDigits t).map lowerAscii)
  dsimp only
  split
  · exact Unmade.noDigits
  split
  · trivial
  split
  · trivial
  split
  · refine (Yields.mapM fun part _ => makes_numeral t part).bind fun places _ => ?_
    exact (makes_ofPlaces t _ _ _).bind fun _ _ => trivial
  · exact (makes_numeral t r).bind fun _ _ => trivial

theorem makes_truth (t : Text) : Makes t (truth t) := by
  unfold truth
  dsimp only
  split
  · trivial
  · split
    · trivial
    · exact .notAWord

theorem makes_date (t : Text) : Makes t (date t) := by
  unfold date
  split
  · exact .notADate
  · split
    · exact .noSuchDate _
    · trivial

/-- What is raised for a scalar that cannot be made a value. -/
theorem unmade_of_read {kind : Kind} {s : Str} {f : Fault} (h : read kind s = .error (.fault f)) :
    ∃ t, s = .text t ∧ Unmade t f := by
  have hmade {α : Type} {t : Text} {x : Except Fault α} {g : α → Document} (hx : Makes t x)
      (hf : (x.map g).mapError Refusal.fault = .error (.fault f)) : Unmade t f := by
    cases x with
    | ok a => cases hf
    | error e =>
      cases hf
      exact hx
  cases s with
  | broken codes => cases kind <;> cases h
  | text t =>
    refine ⟨t, rfl, ?_⟩
    cases kind with
    | bool => exact hmade (makes_truth t) h
    | int => exact hmade (makes_integer t) h
    | float => exact hmade (makes_number t) h
    | timestamp => exact hmade (makes_date t) h
    | null | merge | value | str => cases h

end Scalar

/-! ## documents -/

/-- Why nodes whose scalars have `P` are no document. -/
inductive Undocumented (P : Str → Prop) : Refusal → Prop
  | malformed : Undocumented P .malformed
  | scalar {kind : Scalar.Kind} {v : Str} {f : Fault} : P v →
      Scalar.read kind v = .error (.fault f) → Undocumented P (.fault f)

/-- A result that is refused only as nodes are whose scalars have `P`. -/
abbrev Documents {α : Type} (P : Str → Prop) (x : Except Refusal α) : Prop :=
  Yields (fun _ => True) (Undocumented P) x

variable {P : Str → Prop}

theorem documents_mergedMembers (d : Document) : Documents P (mergedMembers d) := by
  unfold mergedMembers
  split
  · trivial
  · refine (Yields.mapM fun d _ => ?_).bind fun _ _ => trivial
    split
    · trivial
    · exact .malformed
  · exact Undocumented.malformed

theorem documents_scalar {v : Str} (hv : P v) (tag : Option Text) (plain : Bool) :
    Documents P (documentOf (.scalar tag plain v)) := by
  unfold documentOf
  split
  · rename_i kind _
    cases h : Scalar.read kind v with
    | ok d => trivial
    | error e =>
      cases e with
      | malformed => exact .malformed
      | fault f => exact .scalar hv h
  · exact Undocumented.malformed

mutual

theorem documents_documentOf : (n : Node) → n.All P → Documents P (documentOf n)
  | .scalar tag plain v, hv => documents_scalar hv tag plain
  | .sequence tag ns, hns => by
    unfold documentOf
    refine (documents_itemsOf ns hns).bind fun ds _ => ?_
    split
    · trivial
    · exact .malformed
  | .mapping tag ms, hms => by
    unfold documentOf
    refine (documents_membersOf ms hms).bind fun x _ => ?_
    dsimp only
    split
    · trivial
    · exact .malformed

theorem documents_itemsOf : (ns : List Node) → Node.AllItems P ns → Documents P (itemsOf ns)
  | [], _ => trivial
  | n :: ns, ⟨hn, hns⟩ => by
    unfold itemsOf
    refine (documents_documentOf n hn).bind fun d _ => ?_
    exact (documents_itemsOf ns hns).bind fun ds _ => trivial

theorem documents_membersOf : (ms : List (Node × Node)) → Node.AllMembers P ms →
    Documents P (membersOf ms)
  | [], _ => trivial
  | (k, v) :: ms, ⟨hk, hv, hms⟩ => by
    unfold membersOf
    split
    · refine (documents_documentOf v hv).bind fun d _ => ?_
      refine (documents_mergedMembers d).bind fun more _ => ?_
      exact (documents_membersOf ms hms).bind fun x _ => trivial
    · have hrest (key : Document) : Documents P (if ! canBeKey key then .error .malformed
          else do
            let value ← documentOf v
            let (merged, own) ← membersOf ms
            return (merged, (key, value) :: own)) := by
        split
        · exact Undocumented.malformed
        · refine (documents_documentOf v hv).bind fun value _ => ?_
          exact (documents_membersOf ms hms).bind fun x _ => trivial
      have hkey := documents_documentOf k hk
      split
      · rename_i s _
        split
        · exact hrest (.string s)
        · exact hkey.bind fun key _ => hrest key
      · exact hkey.bind fun key _ => hrest key

end

/-- Why a text is no document. -/
inductive Grounds (t : Text) : Refusal → Prop
  | malformed : Grounds t .malformed
  | version {n : Nat} : Text.maxNumeralDigits < n → n ≤ t.countP isAsciiDigit →
      Grounds t (.fault (.numeralTooLong n))
  | scalar {tokens : List Token} {kind : Scalar.Kind} {v : Str} {f : Fault} :
      Token.ofText t = .ok tokens → (v = .text [] ∨ ∃ plain, Token.scalar v plain ∈ tokens) →
      Scalar.read kind v = .error (.fault f) → Grounds t (.fault f)

/-- What is raised for a text is not said of the file that it is from, so a library remarks
nothing. -/
theorem Grounds.withRemark_eq {t : Text} {f : Fault} (h : Grounds t (.fault f)) (remark : Text) :
    f.withRemark remark = f := by
  cases h with
  | version => rfl
  | scalar _ _ hread =>
    obtain ⟨_, -, hunmade⟩ := Scalar.unmade_of_read hread
    cases hunmade <;> rfl

theorem grounds_of_read {t : Text} {e : Refusal} (h : read t = .error e) : Grounds t e := by
  unfold read at h
  obtain htokens | ⟨tokens, htokens, h⟩ := bind_eq_error.1 h
  · cases unscanned_of_ofText htokens with
    | malformed => exact .malformed
    | version hlong hn => exact .version hlong hn
  let P (v : Str) : Prop := v = .text [] ∨ ∃ plain, Token.scalar v plain ∈ tokens
  have hall : Yields (fun root => ∀ n, root = some n → n.All P) (· = .malformed)
      (Node.ofTokens? tokens) :=
    Node.all_of_ofTokens? (Or.inl rfl) fun v plain hv => Or.inr ⟨plain, hv⟩
  obtain hroot | ⟨root, hroot, h⟩ := bind_eq_error.1 h
  · rw [hroot] at hall
    cases hall
    exact .malformed
  rw [hroot] at hall
  cases root with
  | none => cases h
  | some n =>
    have hn : Documents P (documentOf n) := documents_documentOf n (hall n rfl)
    rw [show documentOf n = .error e from h] at hn
    cases hn with
    | malformed => exact .malformed
    | scalar hv hf => exact .scalar htokens hv hf

end ExMode.Yaml
