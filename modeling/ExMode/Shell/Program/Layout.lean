import ExMode.Shell.Program

/-!
# ExMode.Shell.Program.Layout

The programs that write their arguments: `echo`, which knows a few escapes, and
`printf`, which lays them out by a format and begins it again while there are
arguments left.
-/

namespace ExMode.Shell.Program

open Utf8 (Bytes)

/-- The value of octal digits, at most `n` of them, and what follows. -/
def octal : Nat → Nat → Text → Nat × Text
  | 0, v, t => (v, t)
  | n + 1, v, t =>
    match t with
    | c :: r => if '0' ≤ c ∧ c ≤ '7' then octal n (8 * v + (c.toNat - 48)) r else (v, t)
    | [] => (v, t)

/-- What a letter stands for after a backslash. -/
def escapeByte? : Char → Option UInt8
  | 'a' => some 7
  | 'b' => some 8
  | 'f' => some 12
  | 'n' => some 10
  | 'r' => some 13
  | 't' => some 9
  | 'v' => some 11
  | '\\' => some 92
  | _ => none

/-- A text with its escapes replaced, and whether `\c` ended it.  An octal number may have to start
with a zero. -/
def unescape (zeroFirst : Bool) : Nat → Text → Bytes × Bool
  | 0, _ => ([], false)
  | fuel + 1, t =>
    match t with
    | [] => ([], false)
    | '\\' :: c :: r =>
      if c = 'c' ∧ zeroFirst then ([], true)
      else if zeroFirst ∧ c = '0' then
        let (v, r) := octal 3 0 r
        let (bytes, stopped) := unescape zeroFirst fuel r
        (UInt8.ofNat v :: bytes, stopped)
      else if ¬ zeroFirst ∧ '0' ≤ c ∧ c ≤ '7' then
        let (v, r) := octal 3 0 (c :: r)
        let (bytes, stopped) := unescape zeroFirst fuel r
        (UInt8.ofNat v :: bytes, stopped)
      else match escapeByte? c with
        | some b =>
          let (bytes, stopped) := unescape zeroFirst fuel r
          (b :: bytes, stopped)
        | none =>
          let (bytes, stopped) := unescape zeroFirst fuel r
          (92 :: Utf8.encodeChar c ++ bytes, stopped)
    | c :: r =>
      let (bytes, stopped) := unescape zeroFirst fuel r
      (Utf8.encodeChar c ++ bytes, stopped)

/-- The arguments on one line; escapes are replaced. -/
def echo : Program := fun args _ d =>
  let (quiet, args) := match args with
    | ['-', 'n'] :: r => (true, r)
    | _ => (false, args)
  let (bytes, stopped) := unescape true (args.flatten.length + args.length + 1)
    (Text.joinWith [' '] args)
  writing (if quiet || stopped then bytes else bytes ++ [feed]) d

/-- The integer that an argument is; zero when it is none. -/
def integerOf (t : Text) : Int :=
  match t with
  | '-' :: r => -(Text.digitsValue (r.takeWhile isAsciiDigit) : Int)
  | '+' :: r => (Text.digitsValue (r.takeWhile isAsciiDigit) : Int)
  | '\'' :: c :: _ => (c.toNat : Int)
  | '"' :: c :: _ => (c.toNat : Int)
  | _ => (Text.digitsValue (t.takeWhile isAsciiDigit) : Int)

/-- A field of some width. -/
def padded (left zero : Bool) (width : Nat) (t : Bytes) : Bytes :=
  let fill : Bytes := List.replicate (width - t.length) (if zero && ! left then 48 else 32)
  if left then t ++ fill else fill ++ t

/-- The text of one conversion. -/
def converted (conversion : Char) (precision : Option Nat) (arg : Text) : Bytes :=
  match conversion with
  | 's' =>
    let bytes := Utf8.encode arg
    match precision with
    | some n => bytes.take n
    | none => bytes
  | 'b' => (unescape true (arg.length + 1) arg).1
  | 'c' => (Utf8.encode arg).take 1
  | 'x' => Utf8.encode (Nat.toDigits 16 (integerOf arg).toNat)
  | 'X' => Utf8.encode ((Nat.toDigits 16 (integerOf arg).toNat).map Char.toUpper)
  | 'o' => Utf8.encode (Nat.toDigits 8 (integerOf arg).toNat)
  | _ => Utf8.encode (Text.ofInt (integerOf arg))

/-- One pass over a format: what it writes, the arguments left, and whether it used any. -/
def formatOnce : Nat → Text → List Text → Bytes × List Text × Bool
  | 0, _, args => ([], args, false)
  | fuel + 1, t, args =>
    match t with
    | [] => ([], args, false)
    | '%' :: '%' :: r =>
      let (bytes, args, used) := formatOnce fuel r args
      (37 :: bytes, args, used)
    | '%' :: r =>
      let flags : Text := r.takeWhile fun c => "-0+ #".toList.contains c
      let r := r.drop flags.length
      let width : Text := r.takeWhile isAsciiDigit
      let r := r.drop width.length
      let (precision, r) : Option Nat × Text := match r with
        | '.' :: r => (some (Text.digitsValue (r.takeWhile isAsciiDigit)), r.dropWhile isAsciiDigit)
        | _ => (none, r)
      match r with
      | [] => ([], args, false)
      | c :: r =>
        let arg := args.head?.getD []
        let bytes := padded (flags.contains '-') (flags.contains '0') width.digitsValue
          (converted c precision arg)
        let (more, args, _) := formatOnce fuel r args.tail
        (bytes ++ more, args, true)
    | '\\' :: c :: r =>
      let piece : Text :=
        if '0' ≤ c ∧ c ≤ '7' then '\\' :: c :: (r.takeWhile fun x => '0' ≤ x && x ≤ '7').take 2
        else ['\\', c]
      let (bytes, args, used) := formatOnce fuel ((c :: r).drop (piece.length - 1)) args
      ((unescape false (piece.length + 1) piece).1 ++ bytes, args, used)
    | c :: r =>
      let (bytes, args, used) := formatOnce fuel r args
      (Utf8.encodeChar c ++ bytes, args, used)

/-- A format applied again and again while there are arguments. -/
def formatAll (format : Text) : Nat → List Text → Bytes
  | 0, _ => []
  | fuel + 1, args =>
    let (bytes, rest, used) := formatOnce (format.length + 1) format args
    if used && ! rest.isEmpty then bytes ++ formatAll format fuel rest else bytes

/-- Arguments laid out by a format. -/
def printf : Program := fun args _ d =>
  match args with
  | [] => failing 2 "printf: usage: printf format [arg ...]".toList d
  | format :: args => writing (formatAll format (args.length + 1) args) d

end ExMode.Shell.Program
