import ExMode.Proofs.Effect
import ExMode.Yaml.Token

/-!
# ExMode.Proofs.YamlScanner

Why a text has no tokens.  Nearly always it is not of the format.  The only other
reason is the version in front of a document, a number of which can be too long to be
converted (`Unscanned`); it takes as many digits in the text.

Every step of scanning leaves an end of the text to be scanned, and is refused for
these reasons only (`Scan.Within`), so that all of them are (`unscanned_of_ofText`).
-/

namespace ExMode.Yaml

open Document

/-- Why a text has no tokens. -/
inductive Unscanned (t : Text) : Refusal → Prop
  | malformed : Unscanned t .malformed
  | version {n : Nat} : Text.maxNumeralDigits < n → n ≤ t.countP isAsciiDigit →
      Unscanned t (.fault (.numeralTooLong n))

namespace Scan

/-- A step of scanning that leaves an end of a text, and is refused only for what that text is. -/
abbrev Within {α : Type} (t : Text) (act : Scan α) : Prop :=
  Maintains (fun s => s.rest <:+ t) (Unscanned t) (fun _ => True) act

variable {α β : Type} {t : Text}

theorem within_pure (a : α) : Within t (pure a) := maintains_pure trivial

theorem within_refuse : Within t (refuse : Scan α) := maintains_throw .malformed

/-- A check that refuses, in front of the rest of a step. -/
theorem within_guard {p : Prop} [Decidable p] {f : PUnit → Scan β} (hf : Within t (f ())) :
    Within t (if p then refuse >>= f else f ()) := maintains_guard .malformed hf

theorem within_get_bind {f : Scanner → Scan β} (hf : ∀ s : Scanner, s.rest <:+ t → Within t (f s)) :
    Within t (get >>= f) := maintains_get_bind hf

theorem within_set {s : Scanner} (h : s.rest <:+ t) : Within t (set s) := maintains_set h

/-- The text that is left stays the same. -/
theorem within_modify {f : Scanner → Scanner} (h : ∀ s, (f s).rest = s.rest) :
    Within t (modify f) := maintains_modify fun s hs => (h s).symm ▸ hs

/-! ## characters -/

theorem within_rest : Within t rest := maintains_get_bind fun _ _ => within_pure _

theorem rest_advance (s : Scanner) : (Scanner.advance s).rest <:+ s.rest := by
  unfold Scanner.advance
  split
  · exact List.suffix_rfl
  · rename_i c r h
    rw [h]
    dsimp only
    split
    · exact List.suffix_cons c r
    · split <;> exact List.suffix_cons c r

theorem within_forward (n : Nat) : Within t (forward n) := by
  induction n with
  | zero => exact within_pure ()
  | succ n ih => exact (maintains_modify fun s hs => (rest_advance s).trans hs).next fun _ => ih

/-- A text has as many characters of a kind as any run of them. -/
theorem maintains_takeRun (p : Char → Bool) :
    Maintains (fun s => s.rest <:+ t) (Unscanned t) (fun run => run.length ≤ t.countP p)
      (takeRun p) := by
  have hrest : Maintains (fun s => s.rest <:+ t) (Unscanned t) (fun r => r <:+ t) rest :=
    maintains_get_bind fun s hs => maintains_pure hs
  refine hrest.bind fun r hr => (within_forward _).next fun _ => maintains_pure ?_
  rw [← List.countP_eq_length.2 (List.all_eq_true.1 List.all_takeWhile)]
  exact ((List.takeWhile_prefix p).sublist.trans hr.sublist).countP_le

theorem within_takeRun (p : Char → Bool) : Within t (takeRun p) :=
  (maintains_takeRun p).mono fun _ _ => trivial

theorem within_discard_takeRun (p : Char → Bool) : Within t (discard (takeRun p)) :=
  (within_takeRun p).discard

theorem within_lineBreak : Within t lineBreak := by
  unfold lineBreak
  refine within_rest.next fun r => ?_
  split
  · exact (within_forward 2).next fun _ => within_pure _
  · refine maintains_ite ?_ (maintains_ite ?_ (within_pure _))
    · exact (within_forward 1).next fun _ => within_pure _
    · exact (within_forward 1).next fun _ => within_pure _
  · exact within_pure _

theorem within_finishLine : Within t finishLine := by
  refine (within_discard_takeRun _).next fun _ => within_rest.next fun _ => ?_
  refine Maintains.optional (within_discard_takeRun _) ?_
  exact within_rest.next fun _ => within_guard within_lineBreak.discard

/-! ## tokens and keys -/

theorem within_emit (k : Token) : Within t (emit k) := within_modify fun _ => rfl

theorem within_insertAt (i : Nat) (k : Token) : Within t (insertAt i k) :=
  within_modify fun _ => rfl

theorem within_allowKey (b : Bool) : Within t (allowKey b) := within_modify fun _ => rfl

theorem within_dropStaleKeys : Within t dropStaleKeys :=
  within_get_bind fun _ hs => within_guard (within_set hs)

theorem within_dropKey : Within t dropKey := by
  refine within_get_bind fun s hs => ?_
  split
  · exact within_pure _
  · exact within_guard (within_set hs)

theorem within_saveKey : Within t saveKey := by
  refine within_get_bind fun s hs => ?_
  split
  · exact within_dropKey.next fun _ => within_modify fun _ => rfl
  · exact within_pure _

/-! ## indentation -/

theorem within_closeBlocks (column : Int) (fuel : Nat) : Within t (closeBlocks column fuel) := by
  induction fuel with
  | zero => exact within_pure _
  | succ fuel ih =>
    refine within_get_bind fun s hs => maintains_ite ?_ (within_pure _)
    refine (within_set ?_).next fun _ => ih
    exact hs

theorem within_unwind (column : Int) : Within t (unwind column) :=
  within_get_bind fun _ _ => within_closeBlocks column _

theorem within_addIndent (column : Nat) : Within t (addIndent column) := by
  refine within_get_bind fun s hs => maintains_ite ?_ (within_pure _)
  refine (within_set ?_).next fun _ => within_pure _
  exact hs

/-! ## directives, anchors and tags -/

theorem within_name : Within t name := (within_takeRun _).next fun _ => within_guard (within_pure _)

theorem within_versionNumber : Within t versionNumber := by
  refine (maintains_takeRun isAsciiDigit).bind fun ds hds => within_guard ?_
  split
  · exact within_pure _
  · rename_i f hf
    unfold Text.readNumeral Text.numeral at hf
    split at hf
    · rename_i hlong
      cases hf
      exact maintains_throw (.version hlong hds)
    · cases hf

theorem within_hexNumber (n : Nat) : Within t (hexNumber n) :=
  within_rest.next fun _ => within_guard ((within_forward n).next fun _ => within_pure _)

theorem within_tagSuffix : Within t tagSuffix := by
  refine (within_takeRun _).next fun _ => within_guard ?_
  split
  · exact within_pure _
  · exact within_refuse

theorem within_tagHandle : Within t tagHandle := by
  refine within_rest.next fun _ => ?_
  split
  · exact (within_forward 1).next fun _ => within_pure _
  · dsimp only
    split
    · exact (within_forward _).next fun _ => within_pure _
    · exact within_refuse
  · exact within_refuse

theorem within_directive : Within t directive := by
  have hend (d : Directive) : Within t (do finishLine; return d) :=
    within_finishLine.next fun _ => within_pure d
  refine (within_forward 1).next fun _ => within_name.next fun n => within_rest.next fun _ => ?_
  refine within_guard (maintains_ite ?_ (maintains_ite ?_ ?_))
  · refine (within_discard_takeRun _).next fun _ => within_versionNumber.next fun major => ?_
    refine within_rest.next fun _ => within_guard ((within_forward 1).next fun _ => ?_)
    refine within_versionNumber.discard.next fun _ => within_rest.next fun _ => ?_
    exact within_guard (hend (.version major))
  · refine (within_discard_takeRun _).next fun _ => within_tagHandle.next fun handle => ?_
    refine within_rest.next fun _ => within_guard ((within_discard_takeRun _).next fun _ => ?_)
    refine within_tagSuffix.next fun expansion => within_rest.next fun _ => ?_
    exact within_guard (hend (.tagHandle handle expansion))
  · exact (within_discard_takeRun _).next fun _ => hend .unknown

theorem within_anchorName : Within t anchorName :=
  (within_forward 1).next fun _ => within_name.next fun _ => within_rest.next fun _ =>
    within_guard (within_pure _)

theorem within_tag : Within t tag := by
  have hend (n : TagName) : Within t (do
      if ! atSpace (← rest) then refuse
      return n) :=
    within_rest.next fun _ => within_guard (within_pure n)
  refine within_rest.next fun r => maintains_ite ?_ (maintains_ite ?_ (maintains_ite ?_ ?_))
  · refine (within_forward 2).next fun _ => within_tagSuffix.next fun _ => ?_
    refine within_rest.next fun _ => within_guard ?_
    exact (within_forward 1).next fun _ => hend _
  · exact (within_forward 1).next fun _ => hend _
  · exact within_tagHandle.next fun _ => within_tagSuffix.next fun _ => hend _
  · exact (within_forward 1).next fun _ => within_tagSuffix.next fun _ => hend _

/-! ## block scalars -/

theorem within_incrementOf? (c : Option Char) : Within t (incrementOf? c) := by
  unfold incrementOf?
  split
  · exact within_pure _
  · refine maintains_ite (within_guard ?_) (within_pure _)
    exact (within_forward 1).next fun _ => within_pure _

theorem within_blockHeader : Within t blockHeader := by
  have hend (h : Chomping × Option Nat) : Within t (do
      if ! atSpace (← rest) then refuse
      return h) :=
    within_rest.next fun _ => within_guard (within_pure h)
  refine within_rest.next fun r => ?_
  dsimp only
  split
  · refine (within_forward 1).next fun _ => within_rest.next fun _ => ?_
    exact (within_incrementOf? _).next fun _ => hend _
  · refine within_rest.next fun _ => (within_incrementOf? _).next fun n => ?_
    split
    · exact hend _
    · refine within_rest.next fun _ => ?_
      split
      · exact (within_forward 1).next fun _ => hend _
      · exact hend _

theorem within_findIndentation (fuel : Nat) (breaks : Text) (column : Nat) :
    Within t (findIndentation fuel breaks column) := by
  induction fuel generalizing breaks column with
  | zero => exact within_pure _
  | succ fuel ih =>
    refine within_rest.next fun _ => ?_
    split
    · exact within_pure _
    · refine maintains_ite ?_ (maintains_ite ?_ (within_pure _))
      · exact (within_forward 1).next fun _ => within_get_bind fun _ _ => ih _ _
      · exact within_lineBreak.next fun _ => ih _ _

theorem within_skipIndent (indent : Nat) : Within t (skipIndent indent) :=
  within_get_bind fun _ _ => within_forward _

theorem within_emptyLines (indent fuel : Nat) (breaks : Text) :
    Within t (emptyLines indent fuel breaks) := by
  induction fuel generalizing breaks with
  | zero => exact within_pure _
  | succ fuel ih =>
    refine (within_skipIndent indent).next fun _ => within_rest.next fun _ => ?_
    split
    · exact within_pure _
    · exact maintains_ite (within_lineBreak.next fun _ => ih _) (within_pure _)

theorem within_blockLines (folded : Bool) (indent fuel : Nat) (done breaks : Text) :
    Within t (blockLines folded indent fuel done breaks) := by
  induction fuel generalizing done breaks with
  | zero => exact within_refuse
  | succ fuel ih =>
    refine within_get_bind fun _ _ => maintains_ite ?_ (within_pure _)
    refine (within_takeRun _).next fun _ => within_lineBreak.next fun _ => ?_
    refine (within_emptyLines _ _ _).next fun _ => within_get_bind fun _ _ => ?_
    exact maintains_ite (ih _ _) (within_pure _)

theorem within_blockScalar (folded : Bool) : Within t (blockScalar folded) := by
  refine (within_forward 1).next fun _ => within_blockHeader.next fun (chomping, increment) => ?_
  refine within_finishLine.next fun _ => within_get_bind fun s _ => ?_
  dsimp only
  split
  · refine (within_findIndentation _ _ _).next fun _ => (within_pure _).next fun _ => ?_
    exact (within_blockLines _ _ _ _ _).next fun _ => within_pure _
  · refine (within_emptyLines _ _ _).next fun _ => (within_pure _).next fun _ => ?_
    exact (within_blockLines _ _ _ _ _).next fun _ => within_pure _

/-! ## quoted scalars -/

theorem within_quotedBreaks (fuel : Nat) (breaks : Text) : Within t (quotedBreaks fuel breaks) := by
  induction fuel generalizing breaks with
  | zero => exact within_pure _
  | succ fuel ih =>
    refine within_rest.next fun _ => within_guard ((within_discard_takeRun _).next fun _ => ?_)
    refine within_rest.next fun _ => within_rest.next fun _ => maintains_ite (within_pure _) ?_
    exact within_lineBreak.next fun _ => ih _

theorem within_quotedSpaces : Within t quotedSpaces := by
  refine (within_takeRun _).next fun _ => within_rest.next fun _ => ?_
  split
  · exact within_refuse
  · refine maintains_ite (within_lineBreak.next fun _ => ?_) (within_pure _)
    exact (within_quotedBreaks _ _).next fun _ => within_pure _

theorem within_escape : Within t escape := by
  refine (within_forward 1).next fun _ => within_rest.next fun _ => ?_
  split
  · exact within_refuse
  · split
    · exact (within_forward 1).next fun _ => within_pure _
    · refine (within_forward 1).next fun _ => (within_hexNumber _).next fun _ => ?_
      exact maintains_ite (within_pure _) within_refuse
    · refine maintains_ite (within_lineBreak.discard.next fun _ => ?_) within_refuse
      exact (within_quotedBreaks _ _).next fun _ => within_pure _

theorem within_quotedCodes (quote : Char) (fuel : Nat) (done : List Nat) :
    Within t (quotedCodes quote fuel done) := by
  induction fuel generalizing done with
  | zero => exact within_refuse
  | succ fuel ih =>
    refine within_rest.next fun _ => ?_
    split
    · exact within_refuse
    · refine maintains_ite (maintains_ite ?_ ?_) (maintains_ite ?_ (maintains_ite ?_ ?_))
      · exact (within_forward 2).next fun _ => ih _
      · exact (within_forward 1).next fun _ => within_pure _
      · exact within_escape.next fun _ => ih _
      · exact within_quotedSpaces.next fun _ => ih _
      · exact (within_forward 1).next fun _ => ih _

theorem within_quotedScalar (quote : Char) : Within t (quotedScalar quote) :=
  (within_forward 1).next fun _ => within_rest.next fun _ =>
    (within_quotedCodes _ _ _).next fun _ => within_pure _

/-! ## plain scalars -/

theorem within_plainBreaks (fuel : Nat) (breaks : Text) : Within t (plainBreaks fuel breaks) := by
  induction fuel generalizing breaks with
  | zero => exact within_pure _
  | succ fuel ih =>
    refine within_rest.next fun _ => ?_
    split
    · exact within_pure _
    · refine maintains_ite ?_ (maintains_ite ?_ (within_pure _))
      · exact (within_forward 1).next fun _ => ih _
      · refine within_lineBreak.next fun _ => within_rest.next fun _ => ?_
        exact maintains_ite (within_pure _) (ih _)

theorem within_plainSpaces : Within t plainSpaces := by
  refine (within_takeRun _).next fun _ => within_rest.next fun _ => ?_
  split
  · exact within_pure _
  · refine maintains_ite ?_ (within_pure _)
    refine within_lineBreak.next fun _ => (within_allowKey true).next fun _ => ?_
    refine within_rest.next fun _ => maintains_ite (within_pure _) ?_
    refine (within_plainBreaks _ _).next fun breaks => ?_
    split <;> exact within_pure _

theorem within_plainParts (indent : Int) (fuel : Nat) (done spaces : Text) :
    Within t (plainParts indent fuel done spaces) := by
  induction fuel generalizing done spaces with
  | zero => exact within_pure _
  | succ fuel ih =>
    refine within_get_bind fun s _ => maintains_ite (within_pure _) ?_
    refine maintains_ite (within_pure _) ?_
    refine (within_allowKey false).next fun _ => (within_forward _).next fun _ => ?_
    refine within_plainSpaces.next fun _ => within_get_bind fun _ _ => ?_
    exact maintains_ite (within_pure _) (ih _ _)

theorem within_plainScalar : Within t plainScalar :=
  within_get_bind fun _ _ => within_plainParts _ _ _ _

/-! ## the next tokens -/

theorem within_skipToToken (fuel : Nat) : Within t (skipToToken fuel) := by
  induction fuel with
  | zero => exact within_pure _
  | succ fuel ih =>
    refine (within_discard_takeRun _).next fun _ => within_rest.next fun _ => ?_
    refine Maintains.optional (within_discard_takeRun _) (within_lineBreak.next fun _ => ?_)
    refine maintains_ite (within_get_bind fun _ _ => ?_) (within_pure _)
    exact Maintains.optional (within_allowKey true) ih

theorem within_openFlow (k : Token) : Within t (openFlow k) := by
  refine within_saveKey.next fun _ => (within_modify ?_).next fun _ => ?_
  · exact fun _ => rfl
  · exact (within_forward 1).next fun _ => within_emit k

theorem within_closeFlow (k : Token) : Within t (closeFlow k) := by
  refine within_dropKey.next fun _ => within_get_bind fun _ _ => within_guard ?_
  refine (within_modify ?_).next fun _ => ?_
  · exact fun _ => rfl
  · exact (within_forward 1).next fun _ => within_emit k

theorem within_openBlock (k : Token) : Within t (openBlock k) := by
  refine within_get_bind fun _ _ => maintains_ite (within_guard ?_) (within_pure _)
  exact (within_addIndent _).next fun _ => maintains_ite (within_emit k) (within_pure _)

theorem within_blockEntry : Within t blockEntry :=
  (within_openBlock _).next fun _ => (within_allowKey true).next fun _ =>
    within_dropKey.next fun _ => (within_forward 1).next fun _ => within_emit _

theorem within_keyMark : Within t keyMark :=
  (within_openBlock _).next fun _ => within_get_bind fun _ _ => (within_allowKey _).next fun _ =>
    within_dropKey.next fun _ => (within_forward 1).next fun _ => within_emit _

theorem within_valueMark : Within t valueMark := by
  have hend : Within t (do forward 1; emit .value) :=
    (within_forward 1).next fun _ => within_emit _
  refine within_get_bind fun s hs => ?_
  dsimp only
  split
  · refine (within_set ?_).next fun _ => (within_insertAt _ _).next fun _ => ?_
    · exact hs
    split
    · refine (within_addIndent _).next fun _ => Maintains.optional (within_insertAt _ _) ?_
      exact (within_allowKey _).next fun _ => hend
    · exact (within_allowKey _).next fun _ => hend
  · refine (within_openBlock _).next fun _ => (within_allowKey _).next fun _ => ?_
    exact within_dropKey.next fun _ => hend

section

variable {scan : Scan Token} (h : Within t scan)
include h

theorem within_keyToken : Within t (keyToken scan) :=
  within_saveKey.next fun _ => (within_allowKey _).next fun _ => h.next fun k => within_emit k

theorem within_outermost : Within t (outermost scan) :=
  (within_unwind _).next fun _ => within_dropKey.next fun _ => (within_allowKey _).next fun _ =>
    h.next fun k => within_emit k

end

theorem within_blockToken (folded : Bool) : Within t (blockToken folded) :=
  (within_allowKey _).next fun _ => within_dropKey.next fun _ =>
    (within_blockScalar folded).next fun _ => within_emit _

theorem within_plainToken : Within t plainToken :=
  within_saveKey.next fun _ => (within_allowKey _).next fun _ =>
    within_plainScalar.next fun _ => within_emit _

theorem within_step : Within t step := by
  have hmore {act : Scan Unit} (h : Within t act) : Within t (do act; return false) :=
    h.next fun _ => within_pure false
  have hmark (n : Nat) (k : Token) : Within t (do forward n; pure k) :=
    (within_forward n).next fun _ => within_pure k
  have hkey {α : Type} {scan : Scan α} (f : α → Token) (h : Within t scan) :
      Within t (do keyToken (f <$> scan); return false) :=
    hmore (within_keyToken (h.map fun _ _ => trivial))
  refine within_rest.next fun _ => (within_skipToToken _).next fun _ => ?_
  refine within_dropStaleKeys.next fun _ => within_get_bind fun _ _ => ?_
  refine (within_unwind _).next fun _ => within_get_bind fun s _ => ?_
  dsimp only
  split
  · refine (within_unwind _).next fun _ => within_dropKey.next fun _ => ?_
    exact (within_emit _).next fun _ => within_pure true
  · refine maintains_ite (hmore (within_outermost (within_directive.map fun _ _ => trivial))) ?_
    refine maintains_ite (hmore (within_outermost (hmark 3 _))) ?_
    refine maintains_ite (hmore (within_outermost (hmark 3 _))) ?_
    refine maintains_ite (hmore (within_openFlow _)) ?_
    refine maintains_ite (hmore (within_openFlow _)) ?_
    refine maintains_ite (hmore (within_closeFlow _)) ?_
    refine maintains_ite (hmore (within_closeFlow _)) ?_
    refine maintains_ite (hmore ((within_allowKey _).next fun _ => within_dropKey.next fun _ =>
      (within_forward 1).next fun _ => within_emit _)) ?_
    refine maintains_ite (hmore within_blockEntry) ?_
    refine maintains_ite (hmore within_keyMark) ?_
    refine maintains_ite (hmore within_valueMark) ?_
    refine maintains_ite (hkey _ within_anchorName) ?_
    refine maintains_ite (hkey _ within_anchorName) ?_
    refine maintains_ite (hkey _ within_tag) ?_
    refine maintains_ite (hmore (within_blockToken _)) ?_
    refine maintains_ite (hmore (within_blockToken _)) ?_
    refine maintains_ite (hkey _ (within_quotedScalar _)) ?_
    exact maintains_ite (hmore within_plainToken) within_refuse

theorem within_toEnd (fuel : Nat) : Within t (toEnd fuel) := by
  induction fuel with
  | zero => exact within_refuse
  | succ fuel ih => exact within_step.next fun _ => maintains_ite (within_pure _) ih

end Scan

/-- Why a text has no tokens. -/
theorem unscanned_of_ofText {t : Text} {e : Refusal} (h : Token.ofText t = .error e) :
    Unscanned t e := by
  have hall : Yields (fun _ => True) (Unscanned t) (Token.ofText t) := by
    unfold Token.ofText
    split
    · split
      · exact Unscanned.malformed
      · refine Yields.bind (Scan.within_toEnd _ _ ?_) fun _ _ => trivial
        exact List.suffix_cons _ _
    · split
      · exact Unscanned.malformed
      · refine Yields.bind (Scan.within_toEnd _ _ ?_) fun _ _ => trivial
        exact List.suffix_rfl
  rw [h] at hall
  exact hall

end ExMode.Yaml
