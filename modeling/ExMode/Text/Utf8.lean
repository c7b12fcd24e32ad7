import ExMode.Text

/-!
# ExMode.Text.Utf8

Texts as bytes.  `encode` is the encoding of RFC 3629; `decode` reads it back
and refuses overlong forms, surrogates and code points above U+10FFFF.  A
refusal names the bytes at fault: the first byte, how many bytes from there
cannot start or continue a character, and which of the three ways it went wrong.
`decodeLossy` puts a replacement character in the place of each such run.

The main statement is `decode_encode`: every text comes back from its bytes.
-/

namespace ExMode.Utf8

/-- A byte sequence. -/
abbrev Bytes := List UInt8

/-- What is wrong with the bytes at fault. -/
inductive Reason where
  /-- No character starts with this byte. -/
  | badStart
  /-- The next byte cannot continue the character. -/
  | badContinuation
  /-- The bytes end inside a character. -/
  | truncated
  deriving DecidableEq, Repr

/-- Bytes that are no text: where the fault starts and ends, and its first byte. -/
structure DecodeError where
  start : Nat
  stop : Nat
  byte : Nat
  reason : Reason
  deriving DecidableEq, Repr

/-! ## writing -/

/-- The bytes of one character. -/
def encodeChar (c : Char) : Bytes :=
  let n := c.toNat
  if n < 0x80 then [.ofNat n]
  else if n < 0x800 then [.ofNat (0xC0 + n / 64), .ofNat (0x80 + n % 64)]
  else if n < 0x10000 then
    [.ofNat (0xE0 + n / 4096), .ofNat (0x80 + n / 64 % 64), .ofNat (0x80 + n % 64)]
  else
    [.ofNat (0xF0 + n / 262144), .ofNat (0x80 + n / 4096 % 64), .ofNat (0x80 + n / 64 % 64),
      .ofNat (0x80 + n % 64)]

/-- The bytes of a text. -/
def encode (t : Text) : Bytes := t.flatMap encodeChar

/-! ## reading -/

/-- Whether a byte can stand inside a character, after its first byte. -/
def isTail (b : Nat) : Bool := 0x80 ≤ b && b < 0xC0

/-- Whether the second byte `b` is possible after the first byte `a` of a character of three or
four bytes: no overlong form, no surrogate, nothing above U+10FFFF. -/
def isSecond (a b : Nat) : Bool :=
  isTail b && ! (a == 0xE0 && b < 0xA0) && ! (a == 0xED && 0xA0 ≤ b) &&
    ! (a == 0xF0 && b < 0x90) && ! (a == 0xF4 && 0x90 ≤ b)

/-- One step of reading. -/
inductive Step where
  /-- A character, and the bytes after it. -/
  | char (c : Char) (rest : Bytes)
  /-- A fault: how many bytes it spans, the reason, and the bytes after it. -/
  | fault (width : Nat) (reason : Reason) (rest : Bytes)

/-- Read a character that starts with byte `a`, from the bytes after it. -/
def step (a : Nat) (rest : Bytes) : Step :=
  if a < 0x80 then .char (.ofNat a) rest
  else if a < 0xC2 then .fault 1 .badStart rest
  else if a < 0xE0 then
    match rest with
    | [] => .fault 1 .truncated []
    | b :: r =>
      if isTail b.toNat then .char (.ofNat ((a - 0xC0) * 64 + (b.toNat - 0x80))) r
      else .fault 1 .badContinuation rest
  else if a < 0xF0 then
    match rest with
    | [] => .fault 1 .truncated []
    | b :: r =>
      if ! isSecond a b.toNat then .fault 1 .badContinuation rest
      else match r with
        | [] => .fault 2 .truncated []
        | c :: r' =>
          if isTail c.toNat then
            .char (.ofNat ((a - 0xE0) * 4096 + (b.toNat - 0x80) * 64 + (c.toNat - 0x80))) r'
          else .fault 2 .badContinuation r
  else if a < 0xF5 then
    match rest with
    | [] => .fault 1 .truncated []
    | b :: r =>
      if ! isSecond a b.toNat then .fault 1 .badContinuation rest
      else match r with
        | [] => .fault 2 .truncated []
        | c :: r' =>
          if ! isTail c.toNat then .fault 2 .badContinuation r
          else match r' with
            | [] => .fault 3 .truncated []
            | d :: r'' =>
              if isTail d.toNat then
                .char (.ofNat ((a - 0xF0) * 262144 + (b.toNat - 0x80) * 4096 +
                  (c.toNat - 0x80) * 64 + (d.toNat - 0x80))) r''
              else .fault 3 .badContinuation r'
  else .fault 1 .badStart rest

/-- Read the bytes from position `pos` on, at most `fuel` characters. -/
def decodeFrom : Nat → Nat → Bytes → Except DecodeError Text
  | _, _, [] => .ok []
  | 0, _, _ :: _ => .ok []
  | fuel + 1, pos, a :: rest =>
    match step a.toNat rest with
    | .fault width reason _ => .error ⟨pos, pos + width, a.toNat, reason⟩
    | .char c r => (decodeFrom fuel (pos + (rest.length + 1 - r.length)) r).map (c :: ·)

/-- The text of a byte sequence.  Each character takes at least one byte, so the number of bytes
is enough fuel. -/
def decode (bytes : Bytes) : Except DecodeError Text := decodeFrom bytes.length 0 bytes

/-- Read bytes with U+FFFD for every fault, at most `fuel` characters. -/
def decodeLossyFrom : Nat → Bytes → Text
  | _, [] => []
  | 0, _ :: _ => []
  | fuel + 1, a :: rest =>
    match step a.toNat rest with
    | .fault _ _ r => '\ufffd' :: decodeLossyFrom fuel r
    | .char c r => c :: decodeLossyFrom fuel r

/-- The text of a byte sequence, a replacement character for every fault. -/
def decodeLossy (bytes : Bytes) : Text := decodeLossyFrom bytes.length bytes

/-! ## what is written can be read -/

theorem step_encodeChar (c : Char) (rest : Bytes) :
    ∃ a tail, encodeChar c = a :: tail ∧ step a.toNat (tail ++ rest) = .char c rest := by
  have hval := c.valid
  have hlt : c.toNat < 0x110000 := by
    rcases hval with h | h <;> simp only [Char.toNat] <;> omega
  have hsur : c.toNat < 0xD800 ∨ 0xDFFF < c.toNat := by
    rcases hval with h | h <;> simp only [Char.toNat] <;> omega
  have hback : Char.ofNat c.toNat = c := Char.ofNat_toNat c
  generalize hn : c.toNat = n at hlt hsur hback
  by_cases h1 : n < 0x80
  · refine ⟨.ofNat n, [], by simp [encodeChar, hn, h1], ?_⟩
    have e : n % 256 = n := by omega
    simp [step, UInt8.toNat_ofNat', e, h1, hback]
  by_cases h2 : n < 0x800
  · refine ⟨.ofNat (0xC0 + n / 64), [.ofNat (0x80 + n % 64)],
      by simp [encodeChar, hn, h1, h2], ?_⟩
    have e1 : (0xC0 + n / 64) % 256 = 0xC0 + n / 64 := by omega
    have e2 : (0x80 + n % 64) % 256 = 0x80 + n % 64 := by omega
    have a1 : ¬ 0xC0 + n / 64 < 0x80 := by omega
    have a2 : ¬ 0xC0 + n / 64 < 0xC2 := by omega
    have a3 : 0xC0 + n / 64 < 0xE0 := by omega
    have a4 : 0x80 + n % 64 < 0xC0 := by omega
    have a5 : (0xC0 + n / 64 - 0xC0) * 64 + (0x80 + n % 64 - 0x80) = n := by omega
    simp only [step, UInt8.toNat_ofNat', e1, e2, a1, a2, a3, if_false, if_true, List.cons_append,
      List.nil_append, isTail, a4, a5, hback, decide_true, Bool.and_true]
    simp
  by_cases h3 : n < 0x10000
  · refine ⟨.ofNat (0xE0 + n / 4096), [.ofNat (0x80 + n / 64 % 64), .ofNat (0x80 + n % 64)],
      by simp [encodeChar, hn, h1, h2, h3], ?_⟩
    have e1 : (0xE0 + n / 4096) % 256 = 0xE0 + n / 4096 := by omega
    have e2 : (0x80 + n / 64 % 64) % 256 = 0x80 + n / 64 % 64 := by omega
    have e3 : (0x80 + n % 64) % 256 = 0x80 + n % 64 := by omega
    have a1 : ¬ 0xE0 + n / 4096 < 0x80 := by omega
    have a2 : ¬ 0xE0 + n / 4096 < 0xC2 := by omega
    have a3 : ¬ 0xE0 + n / 4096 < 0xE0 := by omega
    have a4 : 0xE0 + n / 4096 < 0xF0 := by omega
    have s : isSecond (0xE0 + n / 4096) (0x80 + n / 64 % 64) = true := by
      simp only [isSecond, isTail, Bool.and_eq_true, Bool.not_eq_true', decide_eq_true_eq,
        Bool.and_eq_false_iff, beq_eq_false_iff_ne, decide_eq_false_iff_not]
      omega
    have t : isTail (0x80 + n % 64) = true := by
      simp only [isTail, Bool.and_eq_true, decide_eq_true_eq]
      omega
    have v : (0xE0 + n / 4096 - 0xE0) * 4096 + (0x80 + n / 64 % 64 - 0x80) * 64 +
        (0x80 + n % 64 - 0x80) = n := by omega
    simp only [step, UInt8.toNat_ofNat', e1, e2, e3, a1, a2, a3, a4, if_false, if_true,
      List.cons_append, List.nil_append, s, t, v, hback, Bool.not_true, Bool.false_eq_true]
  · refine ⟨.ofNat (0xF0 + n / 262144), [.ofNat (0x80 + n / 4096 % 64),
      .ofNat (0x80 + n / 64 % 64), .ofNat (0x80 + n % 64)],
      by simp [encodeChar, hn, h1, h2, h3], ?_⟩
    have e1 : (0xF0 + n / 262144) % 256 = 0xF0 + n / 262144 := by omega
    have e2 : (0x80 + n / 4096 % 64) % 256 = 0x80 + n / 4096 % 64 := by omega
    have e3 : (0x80 + n / 64 % 64) % 256 = 0x80 + n / 64 % 64 := by omega
    have e4 : (0x80 + n % 64) % 256 = 0x80 + n % 64 := by omega
    have a1 : ¬ 0xF0 + n / 262144 < 0x80 := by omega
    have a2 : ¬ 0xF0 + n / 262144 < 0xC2 := by omega
    have a3 : ¬ 0xF0 + n / 262144 < 0xE0 := by omega
    have a4 : ¬ 0xF0 + n / 262144 < 0xF0 := by omega
    have a5 : 0xF0 + n / 262144 < 0xF5 := by omega
    have s : isSecond (0xF0 + n / 262144) (0x80 + n / 4096 % 64) = true := by
      simp only [isSecond, isTail, Bool.and_eq_true, Bool.not_eq_true', decide_eq_true_eq,
        Bool.and_eq_false_iff, beq_eq_false_iff_ne, decide_eq_false_iff_not]
      omega
    have t1 : isTail (0x80 + n / 64 % 64) = true := by
      simp only [isTail, Bool.and_eq_true, decide_eq_true_eq]
      omega
    have t2 : isTail (0x80 + n % 64) = true := by
      simp only [isTail, Bool.and_eq_true, decide_eq_true_eq]
      omega
    have v : (0xF0 + n / 262144 - 0xF0) * 262144 + (0x80 + n / 4096 % 64 - 0x80) * 4096 +
        (0x80 + n / 64 % 64 - 0x80) * 64 + (0x80 + n % 64 - 0x80) = n := by omega
    simp only [step, UInt8.toNat_ofNat', e1, e2, e3, e4, a1, a2, a3, a4, a5, if_false, if_true,
      List.cons_append, List.nil_append, s, t1, t2, v, hback, Bool.not_true, Bool.false_eq_true]

/-- Reading the bytes of a text gives the text back. -/
theorem decodeFrom_encode (t : Text) (fuel pos : Nat) (h : (encode t).length ≤ fuel) :
    decodeFrom fuel pos (encode t) = .ok t := by
  induction t generalizing fuel pos with
  | nil => cases fuel <;> rfl
  | cons c t ih =>
    obtain ⟨a, tail, he, hs⟩ := step_encodeChar c (encode t)
    have hcons : encode (c :: t) = a :: (tail ++ encode t) := by
      simp [encode, List.flatMap_cons, he]
    rw [hcons] at h ⊢
    cases fuel with
    | zero => simp at h
    | succ fuel =>
      simp only [List.length_cons, List.length_append] at h
      simp only [decodeFrom, hs]
      rw [ih fuel _ (by omega)]
      rfl

/-- Every text comes back from its bytes. -/
theorem decode_encode (t : Text) : decode (encode t) = .ok t :=
  decodeFrom_encode t _ 0 (Nat.le_refl _)

/-! ## the wording of a refusal -/

/-- Why bytes are refused, in words. -/
def Reason.words : Reason → String
  | .badStart => "invalid start byte"
  | .badContinuation => "invalid continuation byte"
  | .truncated => "unexpected end of data"

/-- One byte is named by its value, a longer run by its positions. -/
def DecodeError.message (e : DecodeError) : Text :=
  if e.stop = e.start + 1 then
    "'utf-8' codec can't decode byte 0x".toList ++
      (let ds := Nat.toDigits 16 e.byte; List.replicate (2 - ds.length) '0' ++ ds) ++
      " in position ".toList ++ Text.ofNat e.start ++ ": ".toList ++ e.reason.words.toList
  else
    "'utf-8' codec can't decode bytes in position ".toList ++ Text.ofNat e.start ++ ['-'] ++
      Text.ofNat (e.stop - 1) ++ ": ".toList ++ e.reason.words.toList

end ExMode.Utf8
