import FundLedger.Text.Blank
import FundLedger.Text.Digits
/-!
# Instants

A moment of universal time to the nanosecond.  A leap second is kept as the second before it with a nanosecond of
at least `10 ^ 9`.

The written form is `YYYY-MM-DDTHH:MM:SS` with no, three, six or nine digits of a fraction, as few as are exact, and
`Z`; years outside of 0 to 9999 have a sign.  Read are also other offsets from universal time (`+hh:mm`, `+hhmm`,
`UTC`), a blank or a small `t` between date and time, numbers without leading zeros, and blanks around the numbers.

* `Instant`, ordered by time.
* `daysFromCivil`, `civilFromDays`: the days since 1970 of a date of the Gregorian calendar, and back.
* `Instant.text`, `Instant.ofText?`.
-/

namespace FundLedger

/-- A moment: seconds since the start of 1970, and nanoseconds. -/
structure Instant where
  seconds : Int
  nanos : Nat
deriving DecidableEq

namespace Instant

/-- Earlier: by the second, then by the nanosecond. -/
instance : LT Instant := ⟨fun a b => a.seconds < b.seconds ∨ (a.seconds = b.seconds ∧ a.nanos < b.nanos)⟩

instance (a b : Instant) : Decidable (a < b) :=
  inferInstanceAs (Decidable (a.seconds < b.seconds ∨ (a.seconds = b.seconds ∧ a.nanos < b.nanos)))

theorem lt_iff {a b : Instant} :
    a < b ↔ a.seconds < b.seconds ∨ (a.seconds = b.seconds ∧ a.nanos < b.nanos) := Iff.rfl

end Instant

/-! ## The calendar -/

/-- Whether February has 29 days. -/
def isLeapYear (year : Int) : Bool := year % 4 == 0 && (year % 100 != 0 || year % 400 == 0)

/-- The number of days of a month. -/
def daysInMonth (year : Int) (month : Nat) : Nat :=
  if month = 2 then (if isLeapYear year then 29 else 28)
  else if month = 4 ∨ month = 6 ∨ month = 9 ∨ month = 11 then 30
  else 31

/-- Days from the start of 1970 to a date.  Years are counted from March, so that a leap day ends one. -/
def daysFromCivil (year : Int) (month day : Nat) : Int :=
  let y := if month ≤ 2 then year - 1 else year
  let era := y.fdiv 400
  let yearOfEra := y - era * 400
  let monthFromMarch : Int := if month ≤ 2 then month + 9 else month - 3
  let dayOfYear := (153 * monthFromMarch + 2) / 5 + day - 1
  let dayOfEra := yearOfEra * 365 + yearOfEra / 4 - yearOfEra / 100 + dayOfYear
  era * 146097 + dayOfEra - 719468

/-- The date so many days from the start of 1970: year, month and day. -/
def civilFromDays (days : Int) : Int × Nat × Nat :=
  let z := days + 719468
  let era := z.fdiv 146097
  let dayOfEra := z - era * 146097
  let yearOfEra := (dayOfEra - dayOfEra / 1460 + dayOfEra / 36524 - dayOfEra / 146096) / 365
  let dayOfYear := dayOfEra - (365 * yearOfEra + yearOfEra / 4 - yearOfEra / 100)
  let monthFromMarch := (5 * dayOfYear + 2) / 153
  let day := dayOfYear - (153 * monthFromMarch + 2) / 5 + 1
  let month := if monthFromMarch < 10 then monthFromMarch + 3 else monthFromMarch - 9
  (yearOfEra + era * 400 + (if month ≤ 2 then 1 else 0), month.toNat, day.toNat)

namespace Instant

/-- The years that dates are kept for. -/
def yearInRange (year : Int) : Bool := decide (-262143 ≤ year ∧ year ≤ 262142)

/-! ## Writing -/

/-- A year: four digits, and a sign where those do not do. -/
def yearText (year : Int) : List Char :=
  if 0 ≤ year ∧ year ≤ 9999 then padded 4 year.toNat
  else (if year < 0 then '-' else '+') :: padded 4 year.natAbs

/-- The fraction of a second with as few digits, in groups of three, as are exact. -/
def fractionText (nanos : Nat) : List Char :=
  if nanos = 0 then []
  else if nanos % 1000000 = 0 then '.' :: padded 3 (nanos / 1000000)
  else if nanos % 1000 = 0 then '.' :: padded 6 (nanos / 1000)
  else '.' :: padded 9 nanos

/-- The written form. -/
def text (a : Instant) : String :=
  let days := a.seconds.fdiv 86400
  let inDay := (a.seconds - days * 86400).toNat
  let (year, month, day) := civilFromDays days
  let leap := 1000000000 ≤ a.nanos
  let second := inDay % 60 + (if leap then 1 else 0)
  let nanos := if leap then a.nanos - 1000000000 else a.nanos
  String.ofList (yearText year ++ '-' :: padded 2 month ++ '-' :: padded 2 day ++ 'T' ::
    padded 2 (inDay / 3600) ++ ':' :: padded 2 (inDay / 60 % 60) ++ ':' :: padded 2 second ++
    fractionText nanos ++ ['Z'])

/-! ## Reading

The readers take the characters that are left and return what they leave. -/

/-- A run of digits, at most `width` of them, with blanks in front. -/
def number? (width : Nat) (cs : List Char) : Option (Nat × List Char) := do
  let cs := trimStart cs
  let ds := (cs.take width).takeWhile Char.isDigit
  let n ← natOfDigits? ds
  return (n, cs.drop ds.length)

/-- A year: at most four digits, or any number of them behind a sign. -/
def year? (cs : List Char) : Option (Int × List Char) :=
  match trimStart cs with
  | '-' :: rest => signed rest fun n => -n
  | '+' :: rest => signed rest fun n => n
  | rest => (number? 4 rest).map fun (n, rest) => ((n : Int), rest)
where
  /-- All digits that follow a sign. -/
  signed (rest : List Char) (sign : Int → Int) : Option (Int × List Char) := do
    let n ← natOfDigits? (rest.takeWhile Char.isDigit)
    return (sign n, rest.dropWhile Char.isDigit)

/-- One expected character, with blanks in front. -/
def expect (c : Char) (cs : List Char) : Option (List Char) :=
  match trimStart cs with
  | d :: rest => if d = c then some rest else none
  | [] => none

/-- The nanoseconds of a fraction; digits behind the ninth do not count. -/
def fraction? : List Char → Option (Nat × List Char)
  | '.' :: rest => do
    let ds := rest.takeWhile Char.isDigit
    let n ← natOfDigits? (ds.take 9)
    return (n * Nat.pow 10 (9 - (ds.take 9).length), rest.dropWhile Char.isDigit)
  | rest => some (0, rest)

/-- The offset from universal time, in seconds. -/
def offset? (cs : List Char) : Option (Int × List Char) :=
  match cs with
  | 'Z' :: rest => some (0, rest)
  | 'z' :: rest => some (0, rest)
  | '+' :: rest => clock rest fun n => n
  | '-' :: rest => clock rest fun n => -n
  | '−' :: rest => clock rest fun n => -n
  | _ => if (cs.take 3).map Char.toUpper = "UTC".toList then some (0, cs.drop 3) else none
where
  /-- Two digits of hours and two of minutes, with colons or blanks between them. -/
  clock (rest : List Char) (sign : Int → Int) : Option (Int × List Char) := do
    let hours ← natOfDigits? (rest.take 2)
    let rest' := (rest.drop 2).dropWhile fun c => c == ':' || isBlank c
    let minutes ← natOfDigits? (rest'.take 2)
    if (rest.take 2).length = 2 ∧ (rest'.take 2).length = 2 ∧ minutes < 60 ∧ hours < 24 then
      some (sign (hours * 3600 + minutes * 60), rest'.drop 2)
    else none

/-- The instant of a date and a time of day at some offset from universal time. -/
def ofCivil? (year : Int) (month day hour minute second nanos : Nat) (offset : Int) : Option Instant :=
  if yearInRange year ∧ 1 ≤ month ∧ month ≤ 12 ∧ 1 ≤ day ∧ day ≤ daysInMonth year month ∧ hour < 24 ∧ minute < 60 ∧
      second ≤ 60 then
    let leap := second = 60
    let inDay : Int := hour * 3600 + minute * 60 + (if leap then 59 else second)
    let instant : Instant :=
      ⟨daysFromCivil year month day * 86400 + inDay - offset, if leap then nanos + 1000000000 else nanos⟩
    if yearInRange (civilFromDays (instant.seconds.fdiv 86400)).1 then some instant else none
  else none

/-- Reads an instant. -/
def ofText? (s : String) : Option Instant := do
  let (year, cs) ← year? s.toList
  let (month, cs) ← number? 2 (← expect '-' cs)
  let (day, cs) ← number? 2 (← expect '-' cs)
  let cs ← match cs with
    | c :: rest => if c = 't' ∨ c = 'T' ∨ c = ' ' then some rest else none
    | [] => none
  let (hour, cs) ← number? 2 cs
  let (minute, cs) ← number? 2 (← expect ':' cs)
  let (second, cs) ← number? 2 (← expect ':' cs)
  let (nanos, cs) ← fraction? cs
  let (offset, cs) ← offset? (trimStart cs)
  if (trimStart cs).isEmpty then ofCivil? year month day hour minute second nanos offset else none

end Instant

end FundLedger
