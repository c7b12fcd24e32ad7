import ExMode.Decimal.Numeral
import ExMode.Fault

/-!
# ExMode.Yaml.Date

Dates and times of day in documents.  A date alone is written with all its
digits; a month, a day or an hour may have one digit when a time follows.  A
time can have a zone, which is kept as minutes ahead of universal time.

Reading says nothing about the calendar: `Date.fault?` tells what is wrong with
a date that is well written, the zone before the date and the date before the
time.
-/

namespace ExMode.Yaml

/-- A time of day; `zone` is in minutes. -/
structure Clock where
  hour : Nat
  minute : Nat
  second : Nat
  microsecond : Nat
  zone : Option Int
  deriving DecidableEq, Repr

/-- A date, maybe with a time of day. -/
structure Date where
  year : Nat
  month : Nat
  day : Nat
  clock : Option Clock
  deriving DecidableEq, Repr

namespace Date

/-! ## reading -/

/-- The number that exactly `n` digits at the front of a text are, and the rest. -/
def digits? (n : Nat) (t : Text) : Option (Nat × Text) :=
  let ds : Text := t.take n
  if ds.length = n ∧ ds.all isAsciiDigit then some (ds.digitsValue, t.drop n) else none

/-- The number that one or two digits at the front of a text are, and the rest. -/
def oneOrTwo? (t : Text) : Option (Nat × Text) := (digits? 2 t).or (digits? 1 t)

/-- What follows a character at the front of a text. -/
def after? (c : Char) : Text → Option Text
  | d :: r => if c = d then some r else none
  | [] => none

/-- What follows the blanks at the front of a text. -/
def pastBlanks (t : Text) : Text := t.dropWhile fun c => c == ' ' || c == '\t'

/-- The zone that ends a time: `Z`, or hours and maybe minutes behind a sign, or nothing at all. -/
def zone? (t : Text) : Option (Option Int) :=
  match pastBlanks t with
  | [] => if t = [] then some none else none
  | ['Z'] => some (some 0)
  | c :: r => do
    let (hours, r) ← if c = '+' ∨ c = '-' then oneOrTwo? r else none
    let minutes ← if r = [] then some 0 else do
      let (minutes, r) ← digits? 2 (← after? ':' r)
      if r = [] then some minutes else none
    return some (Decimal.signed (c == '-') (60 * hours + minutes))

/-- The millionths of a second that the digits behind a point are, the digits after the sixth left
out. -/
def microseconds (ds : Text) : Nat :=
  Text.digitsValue (ds.take 6 ++ List.replicate (6 - ds.length) '0')

/-- The time of day that a text is, from the mark in front of it on. -/
def clock? (t : Text) : Option Clock := do
  let r ← match t with
    | 'T' :: r => some r
    | 't' :: r => some r
    | c :: r => if c == ' ' || c == '\t' then some (pastBlanks r) else none
    | [] => none
  let (hour, r) ← oneOrTwo? r
  let (minute, r) ← digits? 2 (← after? ':' r)
  let (second, r) ← digits? 2 (← after? ':' r)
  let (part, r) : Text × Text := match r with
    | '.' :: r => (r.takeWhile isAsciiDigit, r.dropWhile isAsciiDigit)
    | _ => ([], r)
  return ⟨hour, minute, second, microseconds part, ← zone? r⟩

/-- The date that a text is, if it is one. -/
def ofText? (t : Text) : Option Date := do
  let (year, r) ← digits? 4 t
  let (month, r) ← oneOrTwo? (← after? '-' r)
  let (day, r) ← oneOrTwo? (← after? '-' r)
  if r = [] then return ⟨year, month, day, none⟩
  return ⟨year, month, day, some (← clock? r)⟩

/-- Whether a text looks like a date: one without a time must have all its ten characters. -/
def isWritten (t : Text) : Bool :=
  match ofText? t with
  | some d => d.clock.isSome || t.length == 10
  | none => false

/-! ## the calendar -/

/-- The number of days of a month. -/
def daysIn (year month : Nat) : Nat :=
  if month = 2 then (if year % 4 = 0 ∧ (year % 100 ≠ 0 ∨ year % 400 = 0) then 29 else 28)
  else if [4, 6, 9, 11].contains month then 30
  else 31

/-- A span of minutes, as messages show it. -/
def spanShown (minutes : Int) : Text :=
  let days := Int.fdiv minutes 1440
  let seconds := 60 * Int.fmod minutes 1440
  let parts := (if days = 0 then [] else ["days=".toList ++ Text.ofInt days]) ++
    (if seconds = 0 then [] else ["seconds=".toList ++ Text.ofInt seconds])
  "datetime.timedelta(".toList ++ Text.joinWith [',', ' '] parts ++ [')']

/-- What is wrong with a zone, if anything: it must be less than a day. -/
def zoneFault? (zone : Option Int) : Option Text :=
  zone.bind fun minutes =>
    if -1440 < minutes ∧ minutes < 1440 then none
    else some ("offset must be a timedelta strictly between ".toList ++
      "-timedelta(hours=24) and timedelta(hours=24), not ".toList ++ spanShown minutes ++ ['.'])

/-- What is wrong with a time of day, its zone apart. -/
def clockFault? (c : Clock) : Option Text :=
  if 23 < c.hour then some "hour must be in 0..23".toList
  else if 59 < c.minute then some "minute must be in 0..59".toList
  else if 59 < c.second then some "second must be in 0..59".toList
  else none

/-- What is wrong with a date, if anything. -/
def fault? (d : Date) : Option Text :=
  match zoneFault? (d.clock.bind Clock.zone) with
  | some what => some what
  | none =>
    if d.year = 0 then some "year 0 is out of range".toList
    else if d.month < 1 ∨ 12 < d.month then some "month must be in 1..12".toList
    else if d.day < 1 ∨ daysIn d.year d.month < d.day then
      some "day is out of range for month".toList
    else d.clock.bind clockFault?

/-! ## showing -/

/-- A zone, as messages show it. -/
def zoneShown (minutes : Int) : Text :=
  if minutes = 0 then "tzinfo=datetime.timezone.utc".toList
  else "tzinfo=datetime.timezone(".toList ++ spanShown minutes ++ [')']

/-- A date, as messages show it.  Seconds and their millionths are left out where they are zero. -/
def shown (d : Date) : Text :=
  let day := [d.year, d.month, d.day]
  match d.clock with
  | none => "datetime.date(".toList ++ Text.joinWith [',', ' '] (day.map Text.ofNat) ++ [')']
  | some c =>
    let fine := if c.microsecond ≠ 0 then [c.second, c.microsecond]
      else if c.second ≠ 0 then [c.second] else []
    let parts := (day ++ [c.hour, c.minute] ++ fine).map Text.ofNat ++ c.zone.toList.map zoneShown
    "datetime.datetime(".toList ++ Text.joinWith [',', ' '] parts ++ [')']

example : zone? [' ', '-', '1', ':', '3', '0'] = some (some (-90)) := by decide
example : isWritten ['2', '0', '0', '1', '-', '1', '-', '1'] = false := by decide
example : fault? ⟨2001, 2, 28, some ⟨9, 0, 0, 0, some (-1439)⟩⟩ = none := by decide

end Date

end ExMode.Yaml
