import ExMode.Proofs.Command

/-!
# ExMode.Proofs.Resolution

Which lines a range means.  Both ways of resolving a range look up the line numbers of its two
sides first (`LineRange.endpoints`) and differ only in what they make of two numbers: one refuses
numbers outside the buffer, the other brings them into it.  Neither cares which of the two comes
first.  So what is to be known about looking up is little: it fails just for a mark that is not set,
and the cursor matters to it only as far as an address counts from the cursor.

In an editor the cursor really moves while the second side of `A;B` is looked up.  The actions
`LineRange.resolveIn` and `Buffer.spanIn` do it that way, and put the cursor back whatever comes of
it; they give what the functions give and leave the buffer as it was.

* `LineRange.endpoints_eq_ok_or` — a range names a mark that is not set, or has two line numbers;
* `LineRange.resolve_eq`, `LineRange.resolveClamped_eq` — what is made of the two;
* `LineRange.runFrom_resolveIn`, `Buffer.runFrom_spanIn` — resolving in place;
* `LineRange.resolution` — all of it together.
-/

namespace ExMode

/-! ## what is made of two line numbers -/

namespace LineSpan

/-- The lines from one number to the other, in whichever order they come, if they are all there. -/
def between (b : Buffer) (m n : Int) : Except Fault LineSpan :=
  if min m n < 1 ∨ b.lineCount < max m n then .error (.command (.plain .invalidRange))
  else .ok ⟨min m n - 1, max m n - 1⟩

/-- The lines from one number to the other, each brought into the buffer. -/
def clampedBetween (b : Buffer) (m n : Int) : LineSpan :=
  ⟨max 1 (min (min m n) b.lineCount) - 1, max 1 (min (max m n) b.lineCount) - 1⟩

theorem between_comm (b : Buffer) (m n : Int) : between b m n = between b n m := by
  rw [between, between, Int.min_comm m n, Int.max_comm m n]

theorem clampedBetween_comm (b : Buffer) (m n : Int) :
    clampedBetween b m n = clampedBetween b n m := by
  rw [clampedBetween, clampedBetween, Int.min_comm m n, Int.max_comm m n]

/-- Numbers inside the buffer are left alone. -/
theorem clampedBetween_of_between {b : Buffer} {m n : Int} {s : LineSpan}
    (h : between b m n = .ok s) : clampedBetween b m n = s := by
  unfold between at h
  split at h
  · cases h
  · rename_i hin
    cases h
    have hmin : max 1 (min (min m n) b.lineCount) = min m n := by omega
    have hmax : max 1 (min (max m n) b.lineCount) = max m n := by omega
    rw [clampedBetween, hmin, hmax]

/-- With one number inside the buffer it is the other one that decides. -/
theorem between_of_inside {b : Buffer} {m : Int} (h1 : 1 ≤ m) (h2 : m ≤ b.lineCount) (n : Int) :
    between b m n = if n < 1 ∨ b.lineCount < n then .error (.command (.plain .invalidRange))
      else .ok ⟨min m n - 1, max m n - 1⟩ := by
  have hiff : (min m n < 1 ∨ b.lineCount < max m n) ↔ (n < 1 ∨ b.lineCount < n) := by omega
  simp only [between, hiff]

theorem clampedBetween_of_inside {b : Buffer} {m : Int} (h1 : 1 ≤ m) (h2 : m ≤ b.lineCount)
    (n : Int) : clampedBetween b m n =
      ⟨min m (max 1 (min n b.lineCount)) - 1, max m (max 1 (min n b.lineCount)) - 1⟩ := by
  have hfirst : max 1 (min (min m n) b.lineCount) = min m (max 1 (min n b.lineCount)) := by omega
  have hlast : max 1 (min (max m n) b.lineCount) = max m (max 1 (min n b.lineCount)) := by omega
  rw [clampedBetween, hfirst, hlast]

end LineSpan

/-! ## looking up line numbers -/

namespace Address

variable {b : Buffer} {a : Address} {f : Fault}

/-- The mark that an address counts from, if it counts from one. -/
def mark? (a : Address) : Option Char :=
  match a.anchor with
  | .mark m => some m
  | _ => none

/-- An address that names no mark, or one that is set, means a line number. -/
theorem resolve_eq_ok_or (b : Buffer) (a : Address) :
    (∃ n, a.resolve b = .ok n) ∧ (∀ m ∈ a.mark?, b.marks.get? m ≠ none) ∨
      ∃ m ∈ a.mark?, b.marks.get? m = none ∧
        a.resolve b = .error (.command ⟨.markNotSet, ['\'', m]⟩) := by
  obtain ⟨anchor, offset⟩ := a
  cases anchor with
  | line n => exact Or.inl ⟨⟨_, rfl⟩, nofun⟩
  | cursor => exact Or.inl ⟨⟨_, rfl⟩, nofun⟩
  | last => exact Or.inl ⟨⟨_, rfl⟩, nofun⟩
  | mark m =>
    cases hm : b.marks.get? m with
    | none => exact Or.inr ⟨m, rfl, hm, by simp only [resolve, hm]⟩
    | some i =>
      refine Or.inl ⟨⟨_, by simp only [resolve, hm]; rfl⟩, fun k hk => ?_⟩
      cases hk
      simp [hm]

end Address

namespace LineRange

variable {b : Buffer} {r : LineRange} {a c : Address} {s : LineSpan} {f : Fault} {m n : Int}

/-- The marks that a range names. -/
def marks : LineRange → List Char
  | .wholeFile => []
  | .single a => a.mark?.toList
  | .pair a _ c => a.mark?.toList ++ c.mark?.toList

/-- The buffer in which the second side of a range is looked up, when the first means line `m`. -/
def secondBuffer (b : Buffer) (m : Int) : Separator → Buffer
  | .comma => b
  | .semicolon => { b with cursor := max 0 (min (m - 1) (b.lineCount - 1)) }

theorem marks_secondBuffer (b : Buffer) (m : Int) (sep : Separator) :
    (secondBuffer b m sep).marks = b.marks := by cases sep <;> rfl

theorem endpoints_pair (b : Buffer) (a : Address) (sep : Separator) (c : Address) :
    (pair a sep c).endpoints b = (do
      let m ← a.resolve b
      let n ← c.resolve (secondBuffer b m sep)
      return (m, n)) := by
  cases sep <;> rfl

/-- A range whose marks are set has two line numbers; any other names a mark that is not. -/
theorem endpoints_eq_ok_or (b : Buffer) (r : LineRange) :
    (∃ p, r.endpoints b = .ok p) ∧ (∀ m ∈ r.marks, b.marks.get? m ≠ none) ∨
      ∃ m ∈ r.marks, b.marks.get? m = none ∧
        r.endpoints b = .error (.command ⟨.markNotSet, ['\'', m]⟩) := by
  cases r with
  | wholeFile => exact Or.inl ⟨⟨_, rfl⟩, nofun⟩
  | single a =>
    obtain ⟨⟨n, hn⟩, hset⟩ | ⟨m, hm, hunset, herror⟩ := a.resolve_eq_ok_or b
    · exact Or.inl ⟨⟨(n, n), by simp only [endpoints, hn]; rfl⟩,
        fun m hm => hset m (Option.mem_toList.1 hm)⟩
    · exact Or.inr ⟨m, Option.mem_toList.2 hm, hunset, by simp only [endpoints, herror]; rfl⟩
  | pair a sep c =>
    rw [endpoints_pair]
    obtain ⟨⟨k, hk⟩, hset⟩ | ⟨m, hm, hunset, herror⟩ := a.resolve_eq_ok_or b
    · rw [hk]
      have hsecond := c.resolve_eq_ok_or (secondBuffer b k sep)
      rw [marks_secondBuffer] at hsecond
      obtain ⟨⟨n, hn⟩, hset'⟩ | ⟨m, hm, hunset, herror⟩ := hsecond
      · refine Or.inl ⟨⟨(k, n), bind_eq_ok.2 ⟨k, rfl, bind_eq_ok.2 ⟨n, hn, rfl⟩⟩⟩, fun m hm => ?_⟩
        obtain hm | hm := List.mem_append.1 hm
        · exact hset m (Option.mem_toList.1 hm)
        · exact hset' m (Option.mem_toList.1 hm)
      · exact Or.inr ⟨m, List.mem_append_right _ (Option.mem_toList.2 hm), hunset,
          bind_eq_error.2 (Or.inr ⟨k, rfl, bind_eq_error.2 (Or.inl herror)⟩)⟩
    · exact Or.inr ⟨m, List.mem_append_left _ (Option.mem_toList.2 hm), hunset,
        bind_eq_error.2 (Or.inl herror)⟩

/-! ## the two ways of resolving -/

theorem resolve_eq (hb : b.CursorInside) (r : LineRange) :
    r.resolve b = r.endpoints b >>= fun p => LineSpan.between b p.1 p.2 := by
  cases r with
  | single | pair => rfl
  | wholeFile =>
    have hpos := hb.lineCount_pos
    have hin : ¬ (min (1 : Int) b.lineCount < 1 ∨
        (b.lineCount : Int) < max (1 : Int) b.lineCount) := by
      omega
    have hmin : min (1 : Int) b.lineCount - 1 = 0 := by omega
    have hmax : max (1 : Int) b.lineCount - 1 = b.lineCount - 1 := by omega
    show Except.ok (LineSpan.mk 0 (b.lineCount - 1)) = LineSpan.between b 1 b.lineCount
    rw [LineSpan.between, if_neg hin, hmin, hmax]

theorem resolveClamped_eq (hb : b.CursorInside) (r : LineRange) :
    r.resolveClamped b = (r.endpoints b).map fun p => LineSpan.clampedBetween b p.1 p.2 := by
  cases r with
  | single | pair =>
    unfold resolveClamped
    dsimp only
    cases endpoints b _ <;> rfl
  | wholeFile =>
    have hpos := hb.lineCount_pos
    have hmin : max (1 : Int) (min (min 1 b.lineCount) b.lineCount) - 1 = 0 := by omega
    have hmax : max (1 : Int) (min (max 1 b.lineCount) b.lineCount) - 1 = b.lineCount - 1 := by
      omega
    show Except.ok (LineSpan.mk 0 (b.lineCount - 1)) =
      Except.ok (LineSpan.clampedBetween b 1 b.lineCount)
    rw [LineSpan.clampedBetween, hmin, hmax]

/-- What resolves without clamping resolves to the same lines with it. -/
theorem resolveClamped_of_resolve (hb : b.CursorInside) (h : r.resolve b = .ok s) :
    r.resolveClamped b = .ok s := by
  rw [resolve_eq hb] at h
  obtain ⟨p, hp, hs⟩ := bind_eq_ok.1 h
  rw [resolveClamped_eq hb, hp]
  exact congrArg Except.ok (LineSpan.clampedBetween_of_between hs)

/-- With clamping only a mark that is not set is refused. -/
theorem resolveClamped_eq_ok_or (hb : b.CursorInside) (r : LineRange) :
    (∃ s, r.resolveClamped b = .ok s ∧ s.Within b) ∧ (∀ m ∈ r.marks, b.marks.get? m ≠ none) ∨
      ∃ m ∈ r.marks, b.marks.get? m = none ∧
        r.resolveClamped b = .error (.command ⟨.markNotSet, ['\'', m]⟩) := by
  obtain ⟨⟨p, hp⟩, hset⟩ | ⟨m, hm, hunset, herror⟩ := r.endpoints_eq_ok_or b
  · have hs : r.resolveClamped b = .ok (LineSpan.clampedBetween b p.1 p.2) := by
      rw [resolveClamped_eq hb, hp]
      rfl
    exact Or.inl ⟨⟨_, hs, within_of_resolveClamped hb.ne_nil hs⟩, hset⟩
  · refine Or.inr ⟨m, hm, hunset, ?_⟩
    rw [resolveClamped_eq hb, herror]
    rfl

/-! ## the sides of a range -/

theorem endpoints_comma :
    (pair a .comma c).endpoints b = .ok (m, n) ↔ a.resolve b = .ok m ∧ c.resolve b = .ok n := by
  constructor
  · intro h
    obtain ⟨m', hm, h⟩ := bind_eq_ok.1 h
    obtain ⟨n', hn, h⟩ := bind_eq_ok.1 h
    cases h
    exact ⟨hm, hn⟩
  · rintro ⟨hm, hn⟩
    exact bind_eq_ok.2 ⟨m, hm, bind_eq_ok.2 ⟨n, hn, rfl⟩⟩

/-- The sides of a comma can be swapped. -/
theorem resolve_comma_swap (hb : b.CursorInside) (h : (pair a .comma c).resolve b = .ok s) :
    (pair c .comma a).resolve b = .ok s := by
  rw [resolve_eq hb] at h ⊢
  obtain ⟨⟨m, n⟩, hmn, hs⟩ := bind_eq_ok.1 h
  obtain ⟨hm, hn⟩ := endpoints_comma.1 hmn
  rw [LineSpan.between_comm] at hs
  exact bind_eq_ok.2 ⟨(n, m), endpoints_comma.2 ⟨hn, hm⟩, hs⟩

theorem resolveClamped_comma_swap (hb : b.CursorInside)
    (h : (pair a .comma c).resolveClamped b = .ok s) :
    (pair c .comma a).resolveClamped b = .ok s := by
  rw [resolveClamped_eq hb] at h ⊢
  obtain ⟨⟨m, n⟩, hmn, hs⟩ := map_eq_ok.1 h
  obtain ⟨hm, hn⟩ := endpoints_comma.1 hmn
  rw [LineSpan.clampedBetween_comm] at hs
  exact map_eq_ok.2 ⟨(n, m), endpoints_comma.2 ⟨hn, hm⟩, hs⟩

/-- Behind a semicolon the second side is looked up with the cursor on the line of the first. -/
theorem endpoints_semicolon (hm : a.resolve b = .ok m) (h1 : 1 ≤ m) (h2 : m ≤ b.lineCount) :
    (pair a .semicolon c).endpoints b =
      c.resolve { b with cursor := m - 1 } >>= fun n => .ok (m, n) := by
  have hcursor : max 0 (min (m - 1) (b.lineCount - 1)) = m - 1 := by omega
  rw [endpoints_pair, hm, ← hcursor]
  rfl

theorem resolve_semicolon (hb : b.CursorInside) (hm : a.resolve b = .ok m) (h1 : 1 ≤ m)
    (h2 : m ≤ b.lineCount) : (pair a .semicolon c).resolve b =
      c.resolve { b with cursor := m - 1 } >>= fun n =>
        if n < 1 ∨ b.lineCount < n then .error (.command (.plain .invalidRange))
        else .ok ⟨min m n - 1, max m n - 1⟩ := by
  rw [resolve_eq hb, endpoints_semicolon hm h1 h2]
  cases c.resolve { b with cursor := m - 1 } with
  | error f => rfl
  | ok n => exact LineSpan.between_of_inside h1 h2 n

theorem resolveClamped_semicolon (hb : b.CursorInside) (hm : a.resolve b = .ok m) (h1 : 1 ≤ m)
    (h2 : m ≤ b.lineCount) : (pair a .semicolon c).resolveClamped b =
      (c.resolve { b with cursor := m - 1 }).map fun n =>
        ⟨min m (max 1 (min n b.lineCount)) - 1, max m (max 1 (min n b.lineCount)) - 1⟩ := by
  rw [resolveClamped_eq hb, endpoints_semicolon hm h1 h2]
  cases c.resolve { b with cursor := m - 1 } with
  | error f => rfl
  | ok n => exact congrArg Except.ok (LineSpan.clampedBetween_of_inside h1 h2 n)

/-- The whole file is the lines from the first to the last. -/
theorem endpoints_wholeFile (b : Buffer) :
    wholeFile.endpoints b = (pair (.ofLine 1) .comma ⟨.last, 0⟩).endpoints b := by
  show Except.ok ((1 : Int), (b.lineCount : Int)) = .ok (1 + 0, b.lineCount + 0)
  rw [Int.add_zero, Int.add_zero]

end LineRange

/-- Without a range a command acts on the line of the cursor. -/
theorem Buffer.span_none {b : Buffer} (hb : b.CursorInside) (count : Option Nat) :
    b.span none count = b.span (some (.single .current)) count := by
  have hcurrent : (LineRange.single .current).resolve b = .ok ⟨b.cursor, b.cursor⟩ := by
    have h0 := hb.cursor_nonneg
    have h1 := hb.cursor_lt
    have hin : ¬ (min (b.cursor + 1 + 0) (b.cursor + 1 + 0) < 1 ∨
        (b.lineCount : Int) < max (b.cursor + 1 + 0) (b.cursor + 1 + 0)) := by
      omega
    have hmin : min (b.cursor + 1 + 0) (b.cursor + 1 + 0) - 1 = b.cursor := by omega
    have hmax : max (b.cursor + 1 + 0) (b.cursor + 1 + 0) - 1 = b.cursor := by omega
    rw [LineRange.resolve_eq hb]
    show LineSpan.between b (b.cursor + 1 + 0) (b.cursor + 1 + 0) = _
    rw [LineSpan.between, if_neg hin, hmin, hmax]
  rw [Buffer.span, Buffer.span]
  dsimp only
  rw [hcurrent]

/-! ## resolving in place -/

/-- An action on a buffer, which may stop with a fault. -/
abbrev OnBuffer := ExceptT Fault (StateM Buffer)

/-- Put the cursor on a line, which need not be there. -/
def OnBuffer.setCursor (i : Int) : OnBuffer Unit := modify fun b => { b with cursor := i }

/-- Look up an address in the buffer as it is. -/
def Address.resolveIn (a : Address) : OnBuffer Int := do
  MonadExcept.ofExcept (a.resolve (← get))

namespace LineRange

/-- Look up the second side of a range, the first of which means line `m`.  Behind a semicolon the
cursor is put there as far as the buffer goes, and put back afterwards. -/
def secondIn (m : Int) (c : Address) : Separator → OnBuffer Int
  | .comma => c.resolveIn
  | .semicolon => do
    let saved ← get
    OnBuffer.setCursor (max 0 (min (m - 1) (saved.lineCount - 1)))
    try c.resolveIn finally OnBuffer.setCursor saved.cursor

/-- Look up the line numbers of a range. -/
def endpointsIn : LineRange → OnBuffer (Int × Int)
  | .wholeFile => do return (1, (← get).lineCount)
  | .single a => do
    let m ← a.resolveIn
    return (m, m)
  | .pair a sep c => do
    let m ← a.resolveIn
    let n ← secondIn m c sep
    return (m, n)

/-- Resolve a range, with clamping or without. -/
def resolveIn (clamp : Bool) (r : LineRange) : OnBuffer LineSpan := do
  let (m, n) ← r.endpointsIn
  let b ← get
  if clamp then return LineSpan.clampedBetween b m n
  else MonadExcept.ofExcept (LineSpan.between b m n)

end LineRange

/-- The lines that a command acts on. -/
def Buffer.spanIn (range : Option LineRange) (count : Option Nat) : OnBuffer LineSpan := do
  let b ← get
  let s ← match range with
    | none => pure ⟨b.cursor, b.cursor⟩
    | some r => r.resolveIn false
  match count with
  | none => return s
  | some n => return ⟨s.last, min (s.last + n - 1) (b.lineCount - 1)⟩

@[simp] theorem OnBuffer.runFrom_setCursor (i : Int) (b : Buffer) :
    runFrom (OnBuffer.setCursor i) b = (.ok (), { b with cursor := i }) := rfl

@[simp] theorem Address.runFrom_resolveIn (a : Address) (b : Buffer) :
    runFrom a.resolveIn b = (a.resolve b, b) := by
  rw [resolveIn, runFrom_bind, runFrom_get]
  exact runFrom_ofExcept _ _

namespace LineRange

/-- The cursor is put back also when the second side has no line number. -/
theorem runFrom_secondIn (m : Int) (c : Address) (sep : Separator) (b : Buffer) :
    runFrom (secondIn m c sep) b = (c.resolve (secondBuffer b m sep), b) := by
  cases sep with
  | comma => exact c.runFrom_resolveIn b
  | semicolon =>
    simp only [secondIn, runFrom_bind, runFrom_get, OnBuffer.runFrom_setCursor,
      runFrom_tryFinally, Address.runFrom_resolveIn]
    rfl

theorem runFrom_endpointsIn (r : LineRange) (b : Buffer) :
    runFrom r.endpointsIn b = (r.endpoints b, b) := by
  cases r with
  | wholeFile => rfl
  | single a =>
    simp only [endpointsIn, endpoints, runFrom_bind, Address.runFrom_resolveIn]
    cases a.resolve b <;> rfl
  | pair a sep c =>
    simp only [endpointsIn, endpoints_pair, runFrom_bind, Address.runFrom_resolveIn]
    cases a.resolve b with
    | error f => rfl
    | ok m =>
      simp only [runFrom_secondIn]
      cases hn : c.resolve (secondBuffer b m sep) with
      | error f => simp only [bind, Except.bind, hn]
      | ok n =>
        simp only [bind, Except.bind, hn]
        rfl

/-- Resolving in place gives what resolving gives, and leaves the buffer as it was. -/
theorem runFrom_resolveIn (hb : b.CursorInside) (clamp : Bool) (r : LineRange) :
    runFrom (r.resolveIn clamp) b = (if clamp then r.resolveClamped b else r.resolve b, b) := by
  rw [resolveIn, runFrom_bind, runFrom_endpointsIn, resolve_eq hb, resolveClamped_eq hb]
  cases r.endpoints b with
  | error f => cases clamp <;> rfl
  | ok p => cases clamp with
    | true => rfl
    | false => exact runFrom_ofExcept _ b

end LineRange

theorem Buffer.runFrom_spanIn {b : Buffer} (hb : b.CursorInside) (range : Option LineRange)
    (count : Option Nat) : runFrom (Buffer.spanIn range count) b = (b.span range count, b) := by
  cases range with
  | none => cases count <;> rfl
  | some r =>
    have hr := LineRange.runFrom_resolveIn hb false r
    rw [if_neg Bool.false_ne_true] at hr
    simp only [Buffer.spanIn, Buffer.span, runFrom_bind, runFrom_get, hr]
    cases r.resolve b with
    | error f => rfl
    | ok s => cases count <;> rfl

/-! ## all of it together -/

namespace LineRange

/-- Which lines a range means in a buffer with the cursor on one of its lines, whatever its marks.
Without clamping a range is refused or means lines of the buffer.  With clamping only a mark that is
not set is refused, and what resolves without clamping resolves to the same.  The sides of a comma
can be swapped; behind a semicolon the second side counts from the line of the first; `%` is `1,$`
and no range is `.`; and nothing of this changes the buffer. -/
theorem resolution {b : Buffer} (hb : b.CursorInside) :
    (∀ r : LineRange,
      (∃ e, r.resolve b = .error (.command e)) ∨ ∃ s, r.resolve b = .ok s ∧ s.Within b) ∧
    (∀ r : LineRange,
      ((∃ s, r.resolveClamped b = .ok s ∧ s.Within b) ∧ (∀ m ∈ r.marks, b.marks.get? m ≠ none) ∨
        ∃ m ∈ r.marks, b.marks.get? m = none ∧
          r.resolveClamped b = .error (.command ⟨.markNotSet, ['\'', m]⟩)) ∧
      ∀ s, r.resolve b = .ok s → r.resolveClamped b = .ok s) ∧
    (∀ (a c : Address) (s : LineSpan),
      ((pair a .comma c).resolve b = .ok s ↔ (pair c .comma a).resolve b = .ok s) ∧
      ((pair a .comma c).resolveClamped b = .ok s ↔
        (pair c .comma a).resolveClamped b = .ok s)) ∧
    (∀ (a c : Address) (m : Int), a.resolve b = .ok m → 1 ≤ m → m ≤ b.lineCount →
      (pair a .semicolon c).resolve b =
        (c.resolve { b with cursor := m - 1 } >>= fun n =>
          if n < 1 ∨ b.lineCount < n then .error (.command (.plain .invalidRange))
          else .ok ⟨min m n - 1, max m n - 1⟩) ∧
      (pair a .semicolon c).resolveClamped b =
        (c.resolve { b with cursor := m - 1 }).map fun n =>
          ⟨min m (max 1 (min n b.lineCount)) - 1, max m (max 1 (min n b.lineCount)) - 1⟩) ∧
    (wholeFile.resolve b = (pair (.ofLine 1) .comma ⟨.last, 0⟩).resolve b ∧
      wholeFile.resolveClamped b = (pair (.ofLine 1) .comma ⟨.last, 0⟩).resolveClamped b) ∧
    (∀ count, b.span none count = b.span (some (.single .current)) count) ∧
    (∀ (clamp : Bool) (r : LineRange), runFrom (r.resolveIn clamp) b =
      (if clamp then r.resolveClamped b else r.resolve b, b)) ∧
    (∀ range count, runFrom (Buffer.spanIn range count) b = (b.span range count, b) ∧
      ∀ e : Editor, e.buffer = b →
        runFrom (Command.span range count) e = (b.span range count, e)) := by
  refine ⟨fun r => ?_,
    fun r => ⟨resolveClamped_eq_ok_or hb r, fun _ => resolveClamped_of_resolve hb⟩,
    fun a c s => ⟨⟨resolve_comma_swap hb, resolve_comma_swap hb⟩,
      ⟨resolveClamped_comma_swap hb, resolveClamped_comma_swap hb⟩⟩,
    fun a c m hm h1 h2 => ⟨resolve_semicolon hb hm h1 h2, resolveClamped_semicolon hb hm h1 h2⟩,
    ⟨?_, ?_⟩, Buffer.span_none hb, runFrom_resolveIn hb,
    fun range count => ⟨Buffer.runFrom_spanIn hb range count, ?_⟩⟩
  · cases hr : r.resolve b with
    | error f =>
      obtain ⟨e, rfl⟩ := command_of_resolve hr
      exact Or.inl ⟨e, rfl⟩
    | ok s => exact Or.inr ⟨s, rfl, within_of_resolve hb.ne_nil hr⟩
  · rw [resolve_eq hb, resolve_eq hb, endpoints_wholeFile]
  · rw [resolveClamped_eq hb, resolveClamped_eq hb, endpoints_wholeFile]
  · rintro e rfl
    exact Command.runFrom_span range count e

/-- In a buffer of three lines with the cursor on the second and a mark far behind the last,
`.+1;-2` goes up from the third line, `'a,.` is refused, and clamped it ends at the last line. -/
theorem resolution_semicolon :
    let b : Buffer := { Buffer.empty with
      lines := [['a'], ['b'], ['c']], cursor := 1, marks := [('a', 9)] }
    b.CursorInside ∧
      (pair ⟨.cursor, 1⟩ .semicolon ⟨.cursor, -2⟩).resolve b = .ok ⟨0, 2⟩ ∧
      (pair ⟨.mark 'a', 0⟩ .comma .current).resolve b =
        .error (.command (.plain .invalidRange)) ∧
      (pair .current .comma ⟨.mark 'a', 0⟩).resolveClamped b = .ok ⟨1, 2⟩ := by
  intro b
  have hb : b.CursorInside := ⟨by decide, by decide⟩
  obtain ⟨-, -, hswap, hsemicolon, -⟩ := resolution hb
  refine ⟨hb, ?_, rfl, ?_⟩
  · obtain ⟨h, -⟩ := hsemicolon ⟨.cursor, 1⟩ ⟨.cursor, -2⟩ 3 rfl (by decide) (by decide)
    exact h
  · exact (hswap .current ⟨.mark 'a', 0⟩ ⟨1, 2⟩).2.2 rfl

end LineRange

end ExMode
