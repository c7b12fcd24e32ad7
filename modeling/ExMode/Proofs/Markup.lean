import ExMode.Console

/-!
# ExMode.Proofs.Markup

What a console can show.  A text with markup is refused only for a closing tag that
closes nothing, so that a text in which no closing tag starts can be shown in yellow,
whatever tags it opens, unless the console fails on the looks of these
(`Console.display_marked`).
-/

namespace ExMode.Console

/-- Whether a closing tag starts somewhere in a text. -/
def ClosesTag (t : Text) : Prop := ['[', '/'] <:+: t

instance (t : Text) : Decidable (ClosesTag t) := inferInstanceAs (Decidable (_ <:+: _))

theorem not_closesTag_of_not_mem {t : Text} (h : '[' ∉ t) : ¬ ClosesTag t := fun hcloses =>
  h (hcloses.subset List.mem_cons_self)

/-- A closing tag starts in one of two texts, or where they meet. -/
theorem closesTag_of_append {t u : Text} (h : ClosesTag (t ++ u)) :
    ClosesTag t ∨ ClosesTag u ∨ '[' ∈ t ∧ '/' ∈ u := by
  obtain h | h | ⟨l, r, hl, hr, heq, hsuffix, hprefix⟩ := List.infix_append_iff_ne_nil.1 h
  · exact Or.inl h
  · exact Or.inr (Or.inl h)
  · obtain ⟨c, l, rfl⟩ := List.exists_cons_of_ne_nil hl
    obtain ⟨rfl, hrest⟩ := List.cons.inj heq
    refine Or.inr (Or.inr ⟨hsuffix.subset List.mem_cons_self, hprefix.subset ?_⟩)
    cases l with
    | nil =>
      obtain rfl : ['/'] = r := hrest
      exact List.mem_singleton.2 rfl
    | cons d l => exact absurd (List.append_eq_nil_iff.1 (List.cons.inj hrest).2.symm).2 hr

/-- Words without brackets and slashes around a text close no tag that it does not. -/
theorem not_closesTag_between {front t back : Text} (hfront : '[' ∉ front) (ht : ¬ ClosesTag t)
    (hback : '[' ∉ back) (hslash : '/' ∉ back) : ¬ ClosesTag (front ++ t ++ back) := by
  intro hcloses
  obtain h | h | ⟨-, h⟩ := closesTag_of_append hcloses
  · obtain h | h | ⟨h, -⟩ := closesTag_of_append h
    · exact not_closesTag_of_not_mem hfront h
    · exact ht h
    · exact hfront h
  · exact not_closesTag_of_not_mem hback h
  · exact hslash h

/-- Whether parts of a text can be shown, given the looks that are open. -/
def Shows (opened : List Text) (parts : List Piece) : Prop :=
  ∃ t, shownPieces opened parts = .ok t

variable {opened : List Text} {parts : List Piece}

theorem Shows.plain (h : Shows opened parts) (t : Text) : Shows opened (.plain t :: parts) := by
  obtain ⟨u, hu⟩ := h
  exact ⟨_, by rw [shownPieces, hu]; rfl⟩

/-- A tag that is no closing one opens something more. -/
theorem Shows.opening {inside : Text} (hinside : inside.head? ≠ some '/')
    (h : ∀ look, Shows (look :: opened) parts) (position : Nat) :
    Shows opened (.tag inside position :: parts) := by
  have hname (name : Text) : (Text.cut '=' inside).1 ≠ '/' :: name := by
    intro hname
    cases inside with
    | nil => cases hname
    | cons c r =>
      rw [Text.cut] at hname
      split at hname
      · cases hname
      · exact hinside (congrArg some (List.cons.inj hname).1)
  obtain ⟨t, ht⟩ := h (looksOf (Text.cut '=' inside).1)
  refine ⟨t, ?_⟩
  rw [shownPieces.eq_def]
  dsimp only
  split
  · exact absurd ‹_› (hname _)
  · exact ht

/-- What is open when yellow text ends is one thing less. -/
theorem Shows.yellowEnd (hopened : "yellow".toList ∈ opened)
    (h : Shows (opened.erase "yellow".toList) parts) (position : Nat) :
    Shows opened (.tag "/yellow".toList position :: parts) := by
  obtain ⟨t, ht⟩ := h
  refine ⟨t, ?_⟩
  have hname : (Text.cut '=' "/yellow".toList).1 = '/' :: "yellow".toList := by decide
  have htrim : Text.trim "yellow".toList = "yellow".toList := by decide +kernel
  have hlooks : looksOf "yellow".toList = "yellow".toList := by decide +kernel
  rw [shownPieces.eq_def]
  dsimp only
  rw [hname]
  show (if Text.trim "yellow".toList = [] then _ else if _ then _ else _) = _
  rw [htrim, hlooks, if_neg (by decide), if_pos (List.contains_iff_mem.2 hopened), ht]

theorem shows_piecesFrom_nil (opened : List Text) (fuel position : Nat) :
    Shows opened (piecesFrom fuel position [] []) := by
  cases fuel <;> exact Shows.plain ⟨[], rfl⟩ _

theorem piecesFrom_of_tag {t r : Text} (fuel position : Nat) (seen inside rest : Text)
    (ht : t.dropWhile (· == '\\') = '[' :: r) (htag : tag? r = some (inside, rest)) :
    let n := (t.takeWhile (· == '\\')).length
    piecesFrom (fuel + 1) position seen t =
      .plain seen.reverse :: .plain (List.replicate (n / 2) '\\') ::
        (if n % 2 = 1 then .plain ('[' :: inside ++ [']']) else .tag inside (position + n)) ::
        piecesFrom fuel (position + n + inside.length + 2) [] rest := by
  rw [piecesFrom]
  simp only [ht, htag]
  split <;> simp

theorem piecesFrom_of_plain {t r : Text} {c : Char} (fuel position : Nat) (seen : Text)
    (ht : t.dropWhile (· == '\\') = c :: r) (hc : c = '[' → tag? r = none) :
    ∃ position' seen',
      piecesFrom (fuel + 1) position seen t = piecesFrom fuel position' seen' r := by
  refine ⟨position + (t.takeWhile (· == '\\')).length + 1,
    c :: (t.takeWhile (· == '\\')).reverse ++ seen, ?_⟩
  rw [piecesFrom]
  dsimp only
  split
  · rename_i h
    rw [ht] at h
    cases h
  · rename_i h
    rw [ht] at h
    obtain ⟨rfl, rfl⟩ := List.cons.inj h
    rw [hc rfl]
  · rename_i h
    rw [ht] at h
    obtain ⟨rfl, rfl⟩ := List.cons.inj h
    rfl

/-- A cut behind the end of a text is a cut of what follows it. -/
theorem cut_append (sep : Char) (t u : Text) : Text.cut sep (t ++ u) =
    match (Text.cut sep t).2 with
    | some rest => ((Text.cut sep t).1, some (rest ++ u))
    | none => (t ++ (Text.cut sep u).1, (Text.cut sep u).2) := by
  induction t with
  | nil => rfl
  | cons c r ih =>
    by_cases hc : c = sep
    · simp [Text.cut, hc]
    · rw [List.cons_append, Text.cut, if_neg hc, ih, Text.cut, if_neg hc]
      dsimp only
      cases (Text.cut sep r).2 <;> rfl

theorem cut_snd_suffix {sep : Char} {t rest : Text} (h : (Text.cut sep t).2 = some rest) :
    rest <:+ t := by
  induction t with
  | nil => cases h
  | cons c r ih =>
    unfold Text.cut at h
    split at h
    · cases h
      exact List.suffix_cons c _
    · exact (ih h).trans (List.suffix_cons c r)

/-- A tag that starts in front of the end of yellow text ends there too. -/
theorem tag?_append {t inside rest : Text}
    (h : tag? (t ++ "[/yellow]".toList) = some (inside, rest)) :
    inside.head? = t.head? ∧ ∃ r, r <:+ t ∧ rest = r ++ "[/yellow]".toList := by
  cases t with
  | nil => cases h
  | cons c t =>
    unfold tag? at h
    simp only [List.cons_append] at h
    split at h
    · split at h
      · rename_i inside' rest' hcut
        rw [cut_append] at hcut
        cases hrest : (Text.cut ']' t).2 with
        | some r =>
          rw [hrest] at hcut
          cases hcut
          split at h
          · cases h
          · cases h
            exact ⟨rfl, r, (cut_snd_suffix hrest).trans (List.suffix_cons c t), rfl⟩
        | none =>
          rw [hrest] at hcut
          cases hcut
          rw [if_pos (by simp [Text.cut])] at h
          cases h
      · cases h
    · cases h

/-- A text in which no closing tag starts can be shown in yellow. -/
theorem shows_piecesFrom {t : Text} (ht : ¬ ClosesTag t) {opened : List Text}
    (hopened : "yellow".toList ∈ opened) (fuel position : Nat) (seen : Text) :
    Shows opened (piecesFrom fuel position seen (t ++ "[/yellow]".toList)) := by
  induction fuel generalizing position seen t opened with
  | zero => exact Shows.plain ⟨[], rfl⟩ _
  | succ fuel ih =>
    have hdrop : (t ++ "[/yellow]".toList).dropWhile (· == '\\') = _ := List.dropWhile_append
    cases hu : List.dropWhile (· == '\\') t with
    | nil =>
      rw [hu] at hdrop
      rw [piecesFrom_of_tag fuel position seen "/yellow".toList [] hdrop rfl]
      refine Shows.plain (Shows.plain ?_ _) _
      split
      · exact Shows.plain (shows_piecesFrom_nil _ _ _) _
      · exact Shows.yellowEnd hopened (shows_piecesFrom_nil _ _ _) _
    | cons c r =>
      rw [hu] at hdrop
      have hsuffix : c :: r <:+ t := hu ▸ List.dropWhile_suffix _
      have hrest {u : Text} (hu : u <:+ r) : ¬ ClosesTag u := fun h =>
        ht (h.trans ((hu.trans (List.suffix_cons c r)).trans hsuffix).isInfix)
      by_cases hc : c = '['
      · subst hc
        cases htag : tag? (r ++ "[/yellow]".toList) with
        | none =>
          obtain ⟨position', seen', hnext⟩ :=
            piecesFrom_of_plain fuel position seen hdrop fun _ => htag
          rw [hnext]
          exact ih (hrest List.suffix_rfl) hopened position' seen'
        | some tag =>
          obtain ⟨inside, rest⟩ := tag
          obtain ⟨hhead, r', hr', rfl⟩ := tag?_append htag
          -- the tag is no closing one, since it would start in the text
          have hinside : inside.head? ≠ some '/' := by
            intro hslash
            obtain ⟨more, rfl⟩ := List.head?_eq_some_iff.1 (hhead.symm.trans hslash)
            exact ht ((List.prefix_append ['[', '/'] more).isInfix.trans hsuffix.isInfix)
          rw [piecesFrom_of_tag fuel position seen inside _ hdrop htag]
          refine Shows.plain (Shows.plain ?_ _) _
          split
          · exact Shows.plain (ih (hrest hr') hopened _ _) _
          · exact Shows.opening hinside
              (fun look => ih (hrest hr') (List.mem_cons_of_mem look hopened) _ _) _
      · obtain ⟨position', seen', hnext⟩ :=
          piecesFrom_of_plain fuel position seen hdrop fun h => absurd h hc
        rw [hnext]
        exact ih (hrest List.suffix_rfl) hopened position' seen'

/-- A text in which no closing tag starts can be shown in yellow, if the console can show the looks
that it asks for. -/
theorem display_marked {r : Runtime} {t : Text} (ht : ¬ ClosesTag t)
    (hlooks : r.unshown.get? (marked "yellow" t) = none) :
    ∃ shown, display r (marked "yellow" t) = .ok shown := by
  let rest : Text := t ++ "[/yellow]".toList
  have hmarked : marked "yellow" t = '[' :: ("yellow]".toList ++ rest) := by
    simp [marked, rest]
  have hpieces := piecesFrom_of_tag (t := '[' :: ("yellow]".toList ++ rest))
    (marked "yellow" t).length 0 [] "yellow".toList rest rfl rfl
  have hshows : Shows [] (pieces (marked "yellow" t)) := by
    rw [pieces, hmarked]
    rw [hmarked] at hpieces
    rw [hpieces]
    refine Shows.plain (Shows.plain ?_ _) _
    obtain ⟨u, hu⟩ := shows_piecesFrom ht (List.mem_singleton.2 rfl) _ _ _
    exact ⟨u, hu⟩
  obtain ⟨u, hu⟩ := hshows
  refine ⟨shown u, ?_⟩
  have hbracket : (marked "yellow" t).contains '[' = true := by
    rw [hmarked]
    rfl
  rw [display, hlooks, markupLine, shownMarkup, if_pos hbracket, hu]
  rfl

end ExMode.Console
