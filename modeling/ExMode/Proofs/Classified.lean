import ExMode.Proofs.Nesting
import ExMode.Proofs.Table

/-!
# ExMode.Proofs.Classified

How a command line that is no command is refused.  Every line is read as a command
of the table or refused with one of six errors, but for five faults that no error
of a command stands for: a number with more digits than are converted, a repetition
that is too large, options of a pattern that exclude each other, more groups of a
pattern inside one another than there is room for, and a file behind a `~` whose user
would have a NUL character in the name.  Each of them shows in the line
(`Fault.Excessive`).

A part of a line that is looked at later is a part of the line, so what shows in the
part shows in the line.  Everything below follows the cutting of the line in the
order in which it is cut: the range, the name, and the arguments row by row.
-/

namespace ExMode

/-! ## parts of a text -/

namespace Text

theorem trimLeft_suffix (t : Text) : trimLeft t <:+ t := List.dropWhile_suffix _

theorem trimRight_sublist (t : Text) : (trimRight t).Sublist t := by
  have h := (List.dropWhile_suffix isBlank (l := t.reverse)).sublist.reverse
  rwa [List.reverse_reverse] at h

theorem trim_sublist (t : Text) : (trim t).Sublist t :=
  (trimRight_sublist _).trans (trimLeft_suffix t).sublist

theorem cut_snd_sublist (sep : Char) (t : Text) : ((cut sep t).2.getD []).Sublist t := by
  induction t with
  | nil => exact List.nil_sublist _
  | cons c r ih =>
    unfold cut
    split
    · exact List.sublist_cons_self c r
    · exact ih.cons c

theorem sublist_of_mem_splitOn {sep : Char} {t part : Text} (h : part ∈ splitOn sep t) :
    part.Sublist t := by
  induction t generalizing part with
  | nil =>
    obtain rfl := List.mem_singleton.1 h
    exact List.Sublist.refl _
  | cons c r ih =>
    unfold splitOn at h
    split at h
    · cases h with
      | head => exact List.nil_sublist _
      | tail _ h => exact (ih h).cons c
    · split at h
      · rename_i hr
        exact absurd hr (splitOn_ne_nil sep r)
      · rename_i p ps hr
        cases h with
        | head => exact (ih (hr ▸ List.mem_cons_self)).cons_cons c
        | tail _ h => exact (ih (hr ▸ List.mem_cons_of_mem _ h)).cons c

end Text

/-! ## faults that show in a line -/

/-- The errors that arguments are refused with. -/
def argumentCodes : List ErrorCode := [.trailingCharacters, .invalidArgument]

/-- The errors that command lines are refused with. -/
def lineCodes : List ErrorCode :=
  [.invalidAddress, .notAnEditorCommand, .noBangAllowed, .noRangeAllowed] ++ argumentCodes

/-- What an error says begins with the code and its words. -/
theorem CommandError.plain_message_prefix (e : CommandError) :
    (plain e.code).message <+: e.message := by
  unfold message plain
  rw [if_pos rfl, List.append_nil]
  exact List.prefix_append _ _

namespace Fault

/-- Whether a fault is one of those that no error of a command stands for, and shows in a line: as
the digits of a number, the letters of options, parentheses that open, or a NUL character. -/
def Excessive (raw : Text) (f : Fault) : Prop :=
  f.Unreadable raw ∨ f = .tooManyCalls ∧ Pattern.maxNesting < raw.count '(' ∨
    f = .embeddedNul ∧ '\x00' ∈ raw

/-- Whether a fault is an error of a command with one of the given codes, or shows in a line. -/
def Explained (codes : List ErrorCode) (raw : Text) (f : Fault) : Prop :=
  (∃ e, f = .command e ∧ e.code ∈ codes) ∨ f.Excessive raw

variable {codes : List ErrorCode} {part raw : Text} {f : Fault}

theorem Oversized.excessive (h : f.Oversized (raw.countP isDigit)) : f.Excessive raw :=
  Or.inl (Or.inl h)

theorem Excessive.mono (h : f.Excessive part) (hsub : part.Sublist raw) : f.Excessive raw := by
  obtain (h | ⟨rfl, ha, hu⟩) | ⟨rfl, hdepth⟩ | ⟨rfl, hnul⟩ := h
  · exact (Oversized.mono h hsub.countP_le).excessive
  · exact Or.inl (Or.inr ⟨rfl, hsub.subset ha, hsub.subset hu⟩)
  · exact Or.inr (Or.inl ⟨rfl, Nat.lt_of_lt_of_le hdepth (hsub.count_le _)⟩)
  · exact Or.inr (Or.inr ⟨rfl, hsub.subset hnul⟩)

theorem explained_command {code : ErrorCode} {detail : Text} (h : code ∈ codes) :
    (command ⟨code, detail⟩).Explained codes raw := Or.inl ⟨_, rfl, h⟩

theorem Explained.mono (h : f.Explained codes part) (hsub : part.Sublist raw) :
    f.Explained codes raw := h.imp_right (·.mono hsub)

theorem Oversized.explained (h : f.Oversized (raw.countP isDigit)) : f.Explained codes raw :=
  Or.inr h.excessive

/-- A fault that shows in a line is not an error of a command. -/
theorem Excessive.asCommandError?_eq_none (h : f.Excessive raw) : f.asCommandError? = none := by
  obtain ((⟨n, rfl, -⟩ | ⟨rfl, -⟩) | ⟨rfl, -⟩) | ⟨rfl, -⟩ | ⟨rfl, -⟩ := h <;> rfl

/-- Once the errors of commands are taken out, only what shows in a line is left. -/
theorem Explained.yields {α : Type} {P : α → Prop} {answer : CommandError → α}
    (h : f.Explained codes raw) (hanswer : ∀ e, e.code ∈ codes → P (answer e)) :
    Yields P (Excessive raw) (match f.asCommandError? with
      | some e => .ok (answer e)
      | none => .error f) := by
  obtain ⟨e, rfl, he⟩ | h := h
  · exact hanswer e he
  · rw [h.asCommandError?_eq_none]
    exact h

end Fault

/-- Whether something is given, unless there is an error with one of the given codes or a fault that
shows in a line. -/
abbrev FailsExplained {α : Type} (codes : List ErrorCode) (raw : Text) (x : Except Fault α) :
    Prop :=
  Yields (fun _ => True) (Fault.Explained codes raw) x

variable {codes : List ErrorCode} {raw : Text}

theorem failsExplained_readNumeral {ds : Text} (h : ds.length ≤ raw.countP isDigit) :
    FailsExplained codes raw ds.readNumeral := by
  cases hn : ds.readNumeral with
  | ok n => exact trivial
  | error f => exact (oversized_of_readNumeral hn h).explained

/-! ## ranges -/

namespace Address

/-- What scanning finds are parts of the text: digits, terms made of digits, and the end of the
text. -/
theorem scan_within (t : Text) :
    (scan t).1.length ≤ t.countP isDigit ∧
      (∀ x ∈ (scan t).2.1, x.2.length ≤ t.countP isDigit) ∧ (scan t).2.2 <:+ t := by
  induction t with
  | nil => exact ⟨Nat.le_refl 0, List.forall_mem_nil _, List.suffix_refl _⟩
  | cons c r ih =>
    obtain ⟨hdigits, hterms, hrest⟩ := ih
    have hle : r.countP isDigit ≤ (c :: r).countP isDigit :=
      (List.sublist_cons_self c r).countP_le
    have hrest := hrest.trans (List.suffix_cons c r)
    have hterms (x : Term) (hx : x ∈ (scan r).2.1) : x.2.length ≤ (c :: r).countP isDigit :=
      Nat.le_trans (hterms x hx) hle
    unfold scan
    split
    · rename_i hc
      refine ⟨?_, hterms, hrest⟩
      rw [List.countP_cons_of_pos hc]
      exact Nat.succ_le_succ hdigits
    split
    · exact ⟨Nat.zero_le _, List.forall_mem_cons.2 ⟨Nat.le_trans hdigits hle, hterms⟩, hrest⟩
    split
    · exact ⟨Nat.zero_le _, List.forall_mem_cons.2 ⟨Nat.le_trans hdigits hle, hterms⟩, hrest⟩
    · exact ⟨Nat.zero_le _, List.forall_mem_nil _, List.suffix_refl _⟩

theorem scanTerms_within (t : Text) :
    (∀ x ∈ (scanTerms t).1, x.2.length ≤ t.countP isDigit) ∧ (scanTerms t).2 <:+ t := by
  unfold scanTerms
  split
  · exact (scan_within t).2
  · exact ⟨List.forall_mem_nil _, List.suffix_refl t⟩

theorem failsExplained_termValue {x : Term} {raw : Text} (hx : x.2.length ≤ raw.countP isDigit) :
    FailsExplained codes raw (termValue x) := by
  obtain ⟨added, ds⟩ := x
  cases ds with
  | nil => exact trivial
  | cons c r =>
    have h : FailsExplained codes raw (Text.readNumeral (c :: r)) := failsExplained_readNumeral hx
    exact h.bind fun _ _ => trivial

theorem failsExplained_sumTerms {ts : List Term} {raw : Text}
    (hts : ∀ x ∈ ts, x.2.length ≤ raw.countP isDigit) :
    FailsExplained codes raw (sumTerms ts) := by
  induction ts with
  | nil => exact trivial
  | cons x ts ih =>
    obtain ⟨hx, hts⟩ := List.forall_mem_cons.1 hts
    exact (failsExplained_termValue hx).bind fun _ _ => (ih hts).bind fun _ _ => trivial

/-- Reading an address leaves an end of the text, and only a number can be refused. -/
theorem yields_parse (t : Text) :
    Yields (fun x => x.2 <:+ t) (Fault.Explained codes t) (parse t) := by
  have hafter (anchor : Anchor) {r : Text} (hr : r <:+ t) :
      Yields (fun x => x.2 <:+ t) (Fault.Explained codes t)
        (do return (some (Address.mk anchor (← sumTerms (scanTerms r).1)), (scanTerms r).2)) := by
    obtain ⟨hterms, hrest⟩ := scanTerms_within r
    exact (failsExplained_sumTerms fun x hx => Nat.le_trans (hterms x hx) hr.sublist.countP_le).bind
      fun _ _ => hrest.trans hr
  have hnone : Yields (fun x => x.2 <:+ t) (Fault.Explained codes t)
      (.ok ((none : Option Address), t)) := List.suffix_refl t
  unfold parse
  split
  · exact List.suffix_refl _
  · rename_i c r
    split
    · obtain ⟨hdigits, hterms, hrest⟩ := scan_within (c :: r)
      exact (failsExplained_sumTerms hterms).bind fun _ _ =>
        (failsExplained_readNumeral hdigits).bind fun _ _ => hrest
    split
    · exact hafter _ (List.suffix_cons c r)
    split
    · exact hafter _ (List.suffix_cons c r)
    split
    · exact hafter _ (List.suffix_refl _)
    split
    · split
      · rename_i m r
        split
        · exact hafter _ ((List.suffix_cons m r).trans (List.suffix_cons c _))
        · exact hnone
      · exact hnone
    · exact hnone

end Address

namespace LineRange

/-- Reading a range leaves an end of the text; what is refused is a number or a second address. -/
theorem yields_parse (t : Text) :
    Yields (fun x => x.2 <:+ t) (Fault.Explained [.invalidAddress] t) (parse t) := by
  have htrim := Text.trimLeft_suffix t
  have haddress {r : Text} (hr : r <:+ t) :
      Yields (fun x => x.2 <:+ t) (Fault.Explained [.invalidAddress] t)
        (Address.parse r) :=
    (Address.yields_parse r).mono (fun _ h => h.trans hr) fun _ h => h.mono hr.sublist
  unfold parse
  split
  · rename_i r h
    exact (List.suffix_cons '%' r).trans (h ▸ htrim)
  · refine (haddress htrim).bind fun (start, rest) hrest => ?_
    dsimp only at hrest ⊢
    split
    · exact hrest
    · rename_i c r
      split
      · exact hrest
      · refine (haddress ((List.suffix_cons c r).trans hrest)).bind fun (stop, rest) hrest => ?_
        dsimp only at hrest ⊢
        split
        · split
          · exact Fault.explained_command (List.mem_singleton.2 rfl)
          · exact hrest
        · exact hrest

end LineRange

/-! ## the argument of a substitution -/

namespace Magic

theorem sublist_of_mem_consField {cs u r f : Text} {fs : List Text} (hfs : ∀ f ∈ fs, f.Sublist r)
    (hcs : cs.Sublist u) (hf : f ∈ consField cs fs) : f.Sublist (u ++ r) := by
  cases fs with
  | nil =>
    obtain rfl := List.mem_singleton.1 hf
    exact hcs.trans (List.sublist_append_left u r)
  | cons g fs =>
    obtain ⟨hg, hfs⟩ := List.forall_mem_cons.1 hfs
    cases hf with
    | head => exact hcs.append hg
    | tail _ hf => exact (hfs f hf).trans (List.sublist_append_right u r)

/-- A field is part of the text it was cut from. -/
theorem sublist_of_mem_fieldsFrom {delimiter : Char} {splits : Nat} {t f : Text}
    (hf : f ∈ fieldsFrom delimiter splits t) : f.Sublist t := by
  fun_induction fieldsFrom delimiter splits t generalizing f with
  | case1 =>
    obtain rfl := List.mem_singleton.1 hf
    exact List.nil_sublist _
  | case2 splits c h =>
    have : f = [] := by simpa using hf
    rw [this]
    exact List.nil_sublist _
  | case3 splits c h =>
    obtain rfl := List.mem_singleton.1 hf
    exact List.Sublist.refl _
  | case4 splits d r ih =>
    refine sublist_of_mem_consField (u := ['\\', d]) (fun f hf => ih hf) ?_ hf
    split
    · exact List.sublist_cons_self '\\' [d]
    · exact List.Sublist.refl _
  | case5 splits c d r hc h ih =>
    cases hf with
    | head => exact List.nil_sublist _
    | tail _ hf => exact (ih hf).cons c
  | case6 splits c d r hc h ih =>
    exact sublist_of_mem_consField (u := [c]) (fun f hf => ih hf) (List.Sublist.refl _) hf

section

variable {p : Char → Bool} (hslash : p '\\' = false) (hb : p 'b' = false) (hmark : p '?' = false)

include hslash

theorem countP_plainText (c : Char) : (plainText c).countP p = [c].countP p := by
  unfold plainText
  split
  · exact List.countP_cons_of_neg (by simp [hslash])
  · rfl

include hb hmark

theorem countP_escapeText_le (c : Char) : (escapeText c).countP p ≤ [c].countP p := by
  have hescape (d : Char) : ['\\', d].countP p = [d].countP p :=
    List.countP_cons_of_neg (by simp [hslash])
  unfold escapeText
  split
  · rw [hescape, List.countP_cons_of_neg (by simp [hb])]
    exact Nat.zero_le _
  split
  · rw [List.countP_cons_of_neg (by simp [hmark])]
    exact Nat.zero_le _
  split
  · exact Nat.le_refl _
  · exact Nat.le_of_eq (hescape c)

/-- Spelling a pattern for its reader puts in nothing but backslashes, question marks and
the letter of a boundary. -/
theorem countP_searchText_le (t : Text) : (searchText t).1.countP p ≤ t.countP p := by
  fun_induction searchText t with
  | case1 => exact Nat.le_refl 0
  | case2 c => exact Nat.le_of_eq (countP_plainText hslash c)
  | case3 r ih => exact Nat.le_trans ih (((List.sublist_cons_self _ r).cons _).countP_le)
  | case4 d r hd ih =>
    calc (escapeText d ++ (searchText r).1).countP p
        = (escapeText d).countP p + (searchText r).1.countP p := List.countP_append
      _ ≤ [d].countP p + r.countP p := Nat.add_le_add (countP_escapeText_le hslash hb hmark d) ih
      _ = ([d] ++ r).countP p := List.countP_append.symm
      _ ≤ ('\\' :: d :: r).countP p := (List.sublist_cons_self _ _).countP_le
  | case5 c d r hc ih =>
    calc (plainText c ++ (searchText (d :: r)).1).countP p
        = (plainText c).countP p + (searchText (d :: r)).1.countP p := List.countP_append
      _ ≤ [c].countP p + (d :: r).countP p :=
          Nat.add_le_add (Nat.le_of_eq (countP_plainText hslash c)) ih
      _ = ([c] ++ d :: r).countP p := List.countP_append.symm

end

/-- A character that the spelling of a pattern has, other than those that spelling puts in, the
pattern has too. -/
theorem mem_of_mem_searchText {c : Char} {t : Text} (hc : c ∉ ['\\', 'b', '?'])
    (h : c ∈ (searchText t).1) : c ∈ t := by
  simp only [List.mem_cons, List.not_mem_nil, or_false, not_or] at hc
  have hle := countP_searchText_le (p := (· == c)) (beq_eq_false_iff_ne.2 (Ne.symm hc.1))
    (beq_eq_false_iff_ne.2 (Ne.symm hc.2.1)) (beq_eq_false_iff_ne.2 (Ne.symm hc.2.2)) t
  exact List.count_pos_iff.1 (Nat.lt_of_lt_of_le (List.count_pos_iff.2 h) hle)

end Magic

namespace Substitution

/-- What keeps the spelling of a pattern from being read shows in the line that the pattern is part
of. -/
theorem explained_faultOf {o : PatternOptions} {typed : Text} {e : Pattern.Refusal}
    (he : Pattern.ofTextIn (some Pattern.maxNesting) o (Magic.searchText typed).1 = .error e)
    (htyped : typed.Sublist raw) (hcode : .invalidArgument ∈ codes) :
    (faultOf (Magic.searchText typed).1 e).Explained codes raw := by
  have hcount (p : Char → Bool) (hslash : p '\\' = false) (hb : p 'b' = false)
      (hmark : p '?' = false) : (Magic.searchText typed).1.countP p ≤ raw.countP p :=
    Nat.le_trans (Magic.countP_searchText_le hslash hb hmark typed) htyped.countP_le
  have hmem {c : Char} (hc : c ∉ ['\\', 'b', '?']) (h : c ∈ (Magic.searchText typed).1) : c ∈ raw :=
    htyped.subset (Magic.mem_of_mem_searchText hc h)
  obtain h | ⟨h, hdepth⟩ := Pattern.ofTextIn_cases Pattern.maxNesting o (Magic.searchText typed).1
  · rw [h] at he
    cases e with
    | malformed what position => exact Fault.explained_command hcode
    | fault f =>
      obtain hf | ⟨rfl, ha, hu⟩ := Pattern.fits_of_ofText he
      · exact (Fault.Oversized.mono hf (hcount isDigit rfl rfl rfl)).explained
      · exact Or.inr (Or.inl (Or.inr ⟨rfl, hmem (by decide) ha, hmem (by decide) hu⟩))
  · cases h.symm.trans he
    exact Or.inr (Or.inr (Or.inl ⟨rfl, Nat.lt_of_lt_of_le hdepth (hcount _ rfl rfl rfl)⟩))

/-- What is refused of a substitution is its wording or a number in it. -/
theorem failsExplained_ofArgs (args : Text) :
    FailsExplained argumentCodes args (ofArgs args) := by
  have hrefused (code : ErrorCode) (hcode : code ∈ argumentCodes) (detail : Text) :
      FailsExplained argumentCodes args
        (.error (.command ⟨code, detail⟩) : Except Fault Substitution) :=
    Fault.explained_command hcode
  have htrim := (Text.trimLeft_suffix args).sublist
  unfold ofArgs
  split
  · exact hrefused _ (by decide) _
  · rename_i delimiter body hbody
    have hfield {f : Text} (hf : f ∈ Magic.splitFields body delimiter) : f.Sublist args :=
      ((Magic.sublist_of_mem_fieldsFrom hf).cons delimiter).trans (hbody ▸ htrim)
    have hpart {o : Option Text} (ho : ∀ f, o = some f → f ∈ Magic.splitFields body delimiter) :
        (o.getD []).Sublist args := by
      cases o with
      | none => exact List.nil_sublist _
      | some f => exact hfield (ho f rfl)
    extract_lets fields typed replacement tail
    have htyped : typed.Sublist args := hpart fun f => List.mem_of_head?
    have htail : tail.Sublist args := hpart fun f => List.mem_of_getElem?
    split
    · exact hrefused _ (by decide) _
    split
    · exact hrefused _ (by decide) _
    dsimp only
    split
    · exact hrefused _ (by decide) _
    rename_i hflags
    split
    · rename_i e he
      exact explained_faultOf he htyped (by decide)
    split
    · exact trivial
    · have hcount : ((Text.cut ' ' tail).2.getD []).trim.Sublist args :=
        (Text.trim_sublist _).trans ((Text.cut_snd_sublist ' ' tail).trans htail)
      have hdigits : ∀ c ∈ ((Text.cut ' ' tail).2.getD []).trim, isDigit c = true := by
        intro c hc
        simp only [Bool.or_eq_true, Bool.not_eq_true', not_or, Bool.not_eq_false] at hflags
        exact isDigit_of_isAsciiDigit (List.all_eq_true.1 hflags.2 c hc)
      have hread : FailsExplained argumentCodes args
          ((((Text.cut ' ' tail).2.getD []).trim.readNumeral).map some) :=
        (failsExplained_readNumeral (length_le_countP_isDigit hcount hdigits)).map
          fun _ _ => trivial
      exact hread.bind fun _ _ => trivial

end Substitution

/-! ## the other arguments -/

namespace LineTarget

theorem takeRegister_snd_suffix (t : Text) : (takeRegister t).2 <:+ t := by
  cases t with
  | nil => exact List.suffix_refl _
  | cons c r =>
    simp only [takeRegister]
    split
    · exact List.suffix_refl _
    · exact List.suffix_cons c r

/-- What is refused of a register and a count is what stands behind them or the count. -/
theorem failsExplained_parse (args : Text) :
    FailsExplained argumentCodes args (parse args) := by
  have hrest : ((takeRegister args.trimLeft).2.trimLeft).Sublist args :=
    ((Text.trimLeft_suffix _).trans
      ((takeRegister_snd_suffix _).trans (Text.trimLeft_suffix args))).sublist
  unfold parse
  dsimp only
  split
  · exact Fault.explained_command (by decide)
  split
  · exact trivial
  · have hdigits : (takeRegister args.trimLeft).2.trimLeft.leadingDigits.length ≤
        args.countP isDigit :=
      length_le_countP_isDigit ((List.takeWhile_prefix _).sublist.trans hrest)
        fun c hc => List.all_eq_true.1 List.all_takeWhile c hc
    refine (failsExplained_readNumeral hdigits).bind fun n _ => ?_
    split
    · exact Fault.explained_command (by decide)
    · exact trivial

end LineTarget

namespace Table

variable {homes : List (Text × Text)}

/-- A name that holds a NUL character is part of a text that does. -/
theorem nul_mem_of_contains_head? {target : Text}
    (h : ((Path.ofText target).parts.head?.getD []).contains '\x00' = true) :
    '\x00' ∈ target := by
  cases hhead : (Path.ofText target).parts.head? with
  | none =>
    rw [hhead] at h
    cases h
  | some part =>
    rw [hhead] at h
    have hmem : part ∈ Text.splitOn '/' target :=
      (List.mem_filter.1 (List.mem_of_head? hhead)).1
    exact (Text.sublist_of_mem_splitOn hmem).subset (List.contains_iff_mem.1 h)

/-- A file is refused when nobody has the home directory it starts at. -/
theorem failsExplained_writeTarget (homes : List (Text × Text)) (args : Text) :
    FailsExplained argumentCodes args (writeTarget homes args) := by
  unfold writeTarget
  dsimp only
  split
  · exact trivial
  refine Yields.map (P := fun _ => True) ?_ fun _ _ => trivial
  unfold Path.expandHome
  split
  · exact trivial
  · split
    · rename_i hnul
      have hmem := (Text.trim_sublist args).subset (nul_mem_of_contains_head? hnul)
      exact Or.inr (Or.inr (Or.inr ⟨rfl, hmem⟩))
    · exact Fault.explained_command (by decide)

/-- A row of the built-in table builds a command, or says what is wrong with the arguments. -/
theorem failsExplained_build {row : Row} (hrow : row ∈ builtInRows homes) (call : Call) :
    FailsExplained argumentCodes call.args (row.build call) := by
  have htarget {f : LineTarget → Command} :
      FailsExplained argumentCodes call.args (do return f (← LineTarget.parse call.args)) :=
    (LineTarget.failsExplained_parse call.args).bind fun _ _ => trivial
  have hfile {quitAfter onlyIfModified : Bool} : FailsExplained argumentCodes call.args
      (buildWrite homes quitAfter onlyIfModified call) :=
    (failsExplained_writeTarget homes call.args).bind fun _ _ => trivial
  have hsubstitution : FailsExplained argumentCodes call.args
      (do return Command.substitute (← Substitution.ofArgs call.args)) :=
    (Substitution.failsExplained_ofArgs call.args).bind fun _ _ => trivial
  simp only [builtInRows, List.mem_cons, List.not_mem_nil, or_false] at hrow
  obtain rfl | rfl | rfl | rfl | rfl | rfl | rfl | rfl | rfl | rfl | rfl := hrow
  · exact htarget
  · exact trivial
  · exact trivial
  · exact trivial
  · exact trivial
  · exact trivial
  · exact hsubstitution
  · exact hfile
  · exact hfile
  · exact hfile
  · exact htarget

/-! ## the whole line -/

/-- What a line is recognised as: an error of a line, or a call of a row with part of the line as
its arguments. -/
def Recognised.FitsLine (t : Table) (raw : Text) : Recognised → Prop
  | .bare _ => True
  | .entry row call _ => row ∈ t.rows ∧ call.args.Sublist raw
  | .refused e => e.code ∈ lineCodes

theorem fitsLine_recogniseBody (t : Table) (raw : Text) (range : Option LineRange) {body : Text}
    (hbody : body.Sublist raw) : (t.recogniseBody raw range body).FitsLine t raw := by
  have hrefused {code : ErrorCode} {detail : Text} (hcode : code ∈ lineCodes) :
      (Recognised.refused ⟨code, detail⟩).FitsLine t raw := hcode
  unfold recogniseBody
  extract_lets name rest bang args
  have hrest : rest.Sublist raw := (List.drop_suffix _ _).sublist.trans hbody
  split
  · split
    · exact trivial
    · exact hrefused (by decide)
  split
  · exact hrefused (by decide)
  · rename_i row hrow
    have hargs : args.Sublist raw := by
      change List.Sublist (if bang then rest.drop 1 else rest) raw
      split
      · exact (List.drop_suffix 1 rest).sublist.trans hrest
      · exact hrest
    split
    · exact hrefused (by decide)
    split
    · exact hrefused (by decide)
    split
    · exact hrefused (by decide)
    · exact ⟨mem_of_find? hrow, hargs⟩

theorem commandText_sublist (raw : Text) : (commandText raw).Sublist raw :=
  ((Text.trimLeft_suffix _).trans (List.dropWhile_suffix _)).sublist.trans (Text.trim_sublist raw)

theorem yields_recognise (t : Table) (raw : Text) :
    Yields (Recognised.FitsLine t raw) (Fault.Excessive raw) (t.recognise raw) := by
  have hrange := LineRange.yields_parse (commandText raw)
  unfold recognise
  split
  · rename_i range rest hparse
    rw [hparse] at hrange
    refine fitsLine_recogniseBody t raw range ?_
    exact ((Text.trimLeft_suffix rest).trans hrange).sublist.trans (commandText_sublist raw)
  · rename_i f hparse
    rw [hparse] at hrange
    have hf : f.Explained [.invalidAddress] raw :=
      Fault.Explained.mono hrange (commandText_sublist raw)
    refine hf.yields fun e he => ?_
    change e.code ∈ lineCodes
    rw [List.mem_singleton.1 he]
    decide

/-- A line that is recognised is built, or refused with an error of arguments. -/
theorem Recognised.yields_build {homes : List (Text × Text)} {raw : Text} {line : Recognised}
    (h : line.FitsLine (ofExtra homes []) raw) :
    Yields (fun p => ∀ e, p = .refused e → e.code ∈ lineCodes) (Fault.Excessive raw)
      line.build := by
  cases line with
  | bare range =>
    intro e he
    cases he
  | refused e =>
    intro e' he
    cases he
    exact h
  | entry row call range =>
    have hrow : row ∈ builtInRows homes := by simpa [ofExtra] using h.1
    have hbuild := Table.failsExplained_build hrow call
    unfold Recognised.build
    dsimp only
    split
    · intro e he
      cases he
    · rename_i f hf
      rw [hf] at hbuild
      refine (Fault.Explained.mono hbuild h.2).yields fun e he => ?_
      intro e' he'
      cases he'
      exact List.mem_append_right _ he

/-- What no error of a command stands for stops the reading of the line short. -/
theorem parse_eq_error {t : Table} {row : Row} {call : Call} {range : Option LineRange} {f : Fault}
    (hline : t.recognise raw = .ok (.entry row call range)) (hbuild : row.build call = .error f)
    (hf : f.asCommandError? = none) : t.parse raw = .error f := by
  unfold parse
  rw [hline]
  change Recognised.build (.entry row call range) = .error f
  simp only [Recognised.build, hbuild, hf]

end Table

end ExMode
