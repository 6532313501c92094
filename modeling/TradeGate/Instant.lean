/-!
# Instants

A calendar date and a time of day, with an offset from universal time if one is known.
An instant is written in the form `2024-01-01T10:00:00+00:00`; a fraction of a second is
written only where it is not zero.
-/

namespace TradeGate

/-- A date and a time of day.  `offset` is the lead over universal time in seconds,
absent for local time. -/
structure Instant where
  year : Nat
  month : Nat
  day : Nat
  hour : Nat
  minute : Nat
  second : Nat
  micro : Nat
  offset : Option Int
deriving DecidableEq, Repr, Inhabited

namespace Instant

def isLeapYear (year : Nat) : Bool :=
  year % 4 == 0 && (year % 100 != 0 || year % 400 == 0)

/-- The number of days of a month. -/
def daysInMonth (year month : Nat) : Nat :=
  if month = 2 then (if isLeapYear year then 29 else 28)
  else if month = 4 ∨ month = 6 ∨ month = 9 ∨ month = 11 then 30
  else 31

/-- Whether a date occurs in the calendar. -/
def isDate (year month day : Nat) : Bool :=
  1 ≤ month && month ≤ 12 && 1 ≤ day && day ≤ daysInMonth year month

/-- The number of days from 1 March of year 0 to a date; the year begins in March, so
that the leap day is its last day. -/
def dayNumber (year month day : Nat) : Int :=
  let y : Int := if month ≤ 2 then (year : Int) - 1 else year
  let m : Int := if month ≤ 2 then (month : Int) + 9 else (month : Int) - 3
  365 * y + y / 4 - y / 100 + y / 400 + (153 * m + 2) / 5 + (day - 1)

/-- The day number of 1 January 1970. -/
def epochDay : Int := dayNumber 1970 1 1

/-- The date with a given day number. -/
def dateOfDay (n : Int) : Int × Nat × Nat :=
  let era := n / 146097
  let d := n % 146097
  let y := (d - d / 1460 + d / 36524 - d / 146096) / 365
  let r := d - (365 * y + y / 4 - y / 100)
  let m := (5 * r + 2) / 153
  let day := r - (153 * m + 2) / 5 + 1
  let month := if m < 10 then m + 3 else m - 9
  let year := 400 * era + y + (if month ≤ 2 then 1 else 0)
  (year, month.toNat, day.toNat)

/-- The microseconds since the beginning of 1970, by the clock that the instant is
written in. -/
def clockMicros (t : Instant) : Int :=
  ((dayNumber t.year t.month t.day - epochDay) * 86400
    + t.hour * 3600 + t.minute * 60 + t.second) * 1000000 + t.micro

/-- The instant in universal time with a given number of seconds and microseconds since
the beginning of 1970, nothing outside the years 1 to 9999. -/
def ofSeconds? (seconds : Int) (micro : Nat) : Option Instant :=
  let (year, month, day) := dateOfDay (seconds / 86400 + epochDay)
  let rest := (seconds % 86400).toNat
  if 1 ≤ year ∧ year ≤ 9999 then
    some ⟨year.toNat, month, day, rest / 3600, rest / 60 % 60, rest % 60, micro, some 0⟩
  else none

/-- Two instants are the same moment; a local time is never the same as one with a
known offset. -/
def same (s t : Instant) : Bool :=
  match s.offset, t.offset with
  | some a, some b => s.clockMicros - a * 1000000 == t.clockMicros - b * 1000000
  | none, none => s.clockMicros == t.clockMicros
  | _, _ => false

/-! ### Writing -/

/-- The last `width` digits of a number, with zeros in front. -/
def digits (width n : Nat) : String :=
  let ds := (toString n).toList
  String.ofList (List.replicate (width - ds.length) '0' ++ ds)

/-- An offset in hours and minutes, and in seconds where they are not zero. -/
def offsetText (offset : Int) : String :=
  let a := offset.natAbs
  (if offset < 0 then "-" else "+") ++ digits 2 (a / 3600) ++ ":" ++ digits 2 (a / 60 % 60)
    ++ (if a % 60 = 0 then "" else ":" ++ digits 2 (a % 60))

/-- An offset in hours and minutes, to which the seconds are rounded; sixty minutes stay. -/
def offsetInMinutes (offset : Int) : String :=
  let a := offset.natAbs
  let minutes := a / 60 % 60 + (if 30 ≤ a % 60 then 1 else 0)
  (if offset < 0 then "-" else "+") ++ digits 2 (a / 3600) ++ ":" ++ digits 2 minutes

/-- The text of an instant with `between` between the date and the time, and with the
offset in the form `zone`. -/
def textWith (between : String) (zone : Int → String) (t : Instant) : String :=
  digits 4 t.year ++ "-" ++ digits 2 t.month ++ "-" ++ digits 2 t.day ++ between
    ++ digits 2 t.hour ++ ":" ++ digits 2 t.minute ++ ":" ++ digits 2 t.second
    ++ (if t.micro = 0 then "" else "." ++ digits 6 t.micro)
    ++ (t.offset.map zone).getD ""

/-- The text of an instant. -/
def text (t : Instant) : String :=
  t.textWith "T" offsetText

example : dateOfDay epochDay = (1970, 1, 1) := by decide
example : isDate 2023 2 29 = false := by decide

end Instant

end TradeGate
