import TradeGate.Fault
import TradeGate.Text.Digit

/-!
# Written instants

A date, or a date with a time of day, an optional fraction of a second and an optional
zone.  Without a time of day the month and the day have two digits each.
-/

namespace TradeGate.Yaml

/-- A time of day as it is written, with the lead of its zone in seconds. -/
structure Clock where
  hour : Nat
  minute : Nat
  second : Nat
  fraction : List Char
  zone : Option Int
deriving Repr

/-- A date as it is written, with a time of day or without one. -/
structure Stamp where
  year : Nat
  month : Nat
  day : Nat
  /-- Whether the month and the day have two digits each. -/
  padded : Bool
  clock : Option Clock
deriving Repr

namespace Stamp

/-- A digit. -/
def isDigit (c : Char) : Bool := '0' ≤ c && c ≤ '9'

/-- The number that digits denote. -/
def number (cs : List Char) : Nat := (Text.natural? cs).getD 0

/-- Takes between `least` and `most` digits. -/
def digits? (least most : Nat) (cs : List Char) : Option (List Char × List Char) :=
  let ds := (cs.take most).takeWhile isDigit
  if ds.length < least then none else some (ds, cs.drop ds.length)

/-- Takes a character. -/
def char? (c : Char) : List Char → Option (List Char)
  | d :: cs => if d = c then some cs else none
  | [] => none

/-- A space or a tab. -/
def isGap (c : Char) : Bool := c == ' ' || c == '\t'

/-- A zone up to the end of the text, or none. -/
def zone? (cs : List Char) : Option (Option Int) :=
  match cs, cs.dropWhile isGap with
  | [], _ => some none
  | _, ['Z'] => some (some 0)
  | _, sign :: rest => do
    if sign != '+' && sign != '-' then none
    let (h, rest) ← digits? 1 2 rest
    let m ← match rest with
      | [] => some 0
      | _ => do
        let (m, rest) ← digits? 2 2 (← char? ':' rest)
        if rest.isEmpty then some (number m) else none
    let lead : Int := number h * 3600 + m * 60
    return some (if sign = '-' then -lead else lead)
  | _, [] => none

/-- A fraction of a second and the text after it. -/
def fraction (cs : List Char) : List Char × List Char :=
  match cs with
  | '.' :: rest => (rest.takeWhile isDigit, rest.dropWhile isDigit)
  | _ => ([], cs)

/-- The text after the letter or the blanks between date and time. -/
def between? (cs : List Char) : Option (List Char) :=
  match cs with
  | 'T' :: rest => some rest
  | 't' :: rest => some rest
  | c :: rest => if isGap c then some (rest.dropWhile isGap) else none
  | [] => none

/-- A time of day up to the end of the text. -/
def clock? (cs : List Char) : Option Clock := do
  let (h, rest) ← digits? 1 2 (← between? cs)
  let (m, rest) ← digits? 2 2 (← char? ':' rest)
  let (s, rest) ← digits? 2 2 (← char? ':' rest)
  let (f, rest) := fraction rest
  return ⟨number h, number m, number s, f, ← zone? rest⟩

/-- The stamp that a text is the form of. -/
def ofText? (cs : List Char) : Option Stamp := do
  let (y, rest) ← digits? 4 4 cs
  let (m, rest) ← digits? 1 2 (← char? '-' rest)
  let (d, rest) ← digits? 1 2 (← char? '-' rest)
  let padded := m.length == 2 && d.length == 2
  if rest.isEmpty then return ⟨number y, number m, number d, padded, none⟩
  return ⟨number y, number m, number d, padded, some (← clock? rest)⟩

/-- Whether a text has the form of an instant. -/
def isStamp (cs : List Char) : Bool :=
  match ofText? cs with
  | some s => s.padded || s.clock.isSome
  | none => false

/-- A span of time by its days and seconds. -/
def spanText (seconds : Int) : String :=
  let days := Int.fdiv seconds 86400
  let rest := Int.fmod seconds 86400
  let parts := (if days = 0 then [] else ["days=" ++ toString days])
    ++ (if rest = 0 then [] else ["seconds=" ++ toString rest])
  "datetime.timedelta(" ++ (if parts.isEmpty then "0" else String.intercalate ", " parts) ++ ")"

/-- The value must hold, or else the text tells why not. -/
def demand (b : Bool) (text : String) : Except Fault Unit :=
  if b then .ok () else .error (.badValue text)

/-- The microseconds of a fraction, of which six digits count. -/
def micros (fraction : List Char) : Nat :=
  number ((fraction ++ List.replicate 6 '0').take 6)

/-- The instant of a stamp; a date alone is its midnight. -/
def instant (s : Stamp) : Except Fault Instant := do
  let c := s.clock.getD ⟨0, 0, 0, [], none⟩
  match c.zone with
  | some z =>
    demand (z.natAbs < 86400)
      ("offset must be a timedelta strictly between -timedelta(hours=24) and "
        ++ "timedelta(hours=24), not " ++ spanText z ++ ".")
  | none => pure ()
  demand (1 ≤ s.year) ("year " ++ toString s.year ++ " is out of range")
  demand (1 ≤ s.month && s.month ≤ 12) "month must be in 1..12"
  demand (1 ≤ s.day && s.day ≤ Instant.daysInMonth s.year s.month)
    "day is out of range for month"
  demand (c.hour ≤ 23) "hour must be in 0..23"
  demand (c.minute ≤ 59) "minute must be in 0..59"
  demand (c.second ≤ 59) "second must be in 0..59"
  return ⟨s.year, s.month, s.day, c.hour, c.minute, c.second, micros c.fraction, c.zone⟩

end Stamp

end TradeGate.Yaml
