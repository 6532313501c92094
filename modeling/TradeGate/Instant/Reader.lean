import TradeGate.Binary.Reader
import TradeGate.Instant

/-!
# Reading an instant

An instant is given as a text or as a number.  A text is a date and a time in the
Internet date form, or a date alone, which stands for its midnight, or a number.  A
number counts seconds since the beginning of 1970, or milliseconds where it is larger
than any second up to the year 2603.
-/

namespace TradeGate.Instant

/-- The number written by the next `n` characters, all of them ASCII digits, and the
rest. -/
def take? (n : Nat) (cs : List Char) : Option (Nat × List Char) :=
  if cs.length < n then none
  else (Text.natural? (cs.take n)).map fun k => (k, cs.drop n)

/-- The rest of a text after one character of a class. -/
def skip? (p : Char → Bool) : List Char → Option (List Char)
  | c :: cs => if p c then some cs else none
  | [] => none

/-- A date in the form `2024-01-01`, and the rest. -/
def date? (cs : List Char) : Option ((Nat × Nat × Nat) × List Char) := do
  let (year, cs) ← take? 4 cs
  let cs ← skip? (· == '-') cs
  let (month, cs) ← take? 2 cs
  let cs ← skip? (· == '-') cs
  let (day, cs) ← take? 2 cs
  if 1 ≤ year ∧ isDate year month day then some ((year, month, day), cs) else none

/-- The microseconds that a fraction of a second denotes; digits after the sixth do not
count. -/
def fractionMicros (ds : List Nat) : Nat :=
  let six := ds.take 6
  Text.digitsValue six * tenTo (6 - six.length)

/-- The seconds and the fraction at the end of a time, which may be left out. -/
def seconds? (cs : List Char) : Option ((Nat × Nat) × List Char) :=
  match cs with
  | ':' :: cs => do
    let (second, cs) ← take? 2 cs
    if 60 ≤ second then none
    else
      match cs with
      | c :: rest =>
        if c = '.' ∨ c = ',' then
          let ds := rest.takeWhile Char.isDigit
          if ds.isEmpty then none
          else
            (ds.mapM Text.asciiDigit?).map fun ds' =>
              ((second, fractionMicros ds'), rest.dropWhile Char.isDigit)
        else some ((second, 0), cs)
      | [] => some ((second, 0), [])
  | cs => some ((0, 0), cs)

/-- The offset at the end of a text, which may be absent: the letter Z, or hours and
minutes of less than a day with a sign. -/
def zone? (cs : List Char) : Option (Option Int) :=
  match cs with
  | [] => some none
  | ['Z'] => some (some 0)
  | ['z'] => some (some 0)
  | c :: cs =>
    if c = '+' ∨ c = '-' ∨ c = '\u2212' then do
      let (hours, cs) ← take? 2 cs
      let cs := match cs with
        | ':' :: rest => rest
        | rest => rest
      let (minutes, cs) ← take? 2 cs
      if cs.isEmpty ∧ hours < 24 ∧ minutes < 60 then
        let s : Int := hours * 3600 + minutes * 60
        some (some (if c = '+' then s else -s))
      else none
    else none

/-- A date and a time of day in the Internet date form. -/
def dateTime? (cs : List Char) : Option Instant := do
  let ((year, month, day), cs) ← date? cs
  let cs ← skip? (fun c => c == 'T' || c == 't' || c == ' ' || c == '_') cs
  let (hour, cs) ← take? 2 cs
  let cs ← skip? (· == ':') cs
  let (minute, cs) ← take? 2 cs
  let ((second, micro), cs) ← seconds? cs
  let offset ← zone? cs
  if hour < 24 ∧ minute < 60 then some ⟨year, month, day, hour, minute, second, micro, offset⟩
  else none

/-- A date alone stands for its midnight in local time. -/
def midnight? (cs : List Char) : Option Instant :=
  match date? cs with
  | some ((year, month, day), []) => some ⟨year, month, day, 0, 0, 0, 0, none⟩
  | _ => none

/-- The largest number that counts seconds. -/
def maxSeconds : Nat := 20000000000

/-- The instant after a number of seconds and of further microseconds, which may make up
more than a second. -/
def afterSeconds? (seconds : Int) (micros : Nat) : Option Instant :=
  ofSeconds? (seconds + (micros / 1000000 : Nat)) (micros % 1000000)

/-- The instant after a number of milliseconds and of further microseconds. -/
def afterMillis? (millis : Int) (micros : Nat) : Option Instant :=
  afterSeconds? (millis / 1000) ((millis % 1000).toNat * 1000 + micros)

/-- The instant that a whole number denotes. -/
def ofInt? (n : Int) : Option Instant :=
  if n.natAbs ≤ maxSeconds then afterSeconds? n 0 else afterMillis? n 0

/-- The instant that a float denotes: what it has beyond its floor is rounded to
microseconds. -/
def ofFloat? (x : Float) : Option Instant := do
  let whole ← Binary.floor? x
  let beyond := x - Binary.ofInt whole
  let micros (unit : Float) := (Binary.floor? (beyond * unit).round).map Int.toNat
  if x.abs ≤ Binary.ofInt maxSeconds then afterSeconds? whole (← micros 1000000.0)
  else afterMillis? whole (← micros 1000.0)

/-- A number in digits, with a point among them if it is not whole; an exponent may
follow only where there is a point. -/
def number? (cs : List Char) : Option Instant :=
  let (negative, body) := Decimal.splitSign cs
  let whole := body.takeWhile Char.isDigit
  match body.dropWhile Char.isDigit with
  | [] => (Text.natural? whole).bind fun n => ofInt? (Decimal.signed negative n)
  | '.' :: _ =>
    (Decimal.numeral? (body.map Char.toLower)).bind fun (c, e) =>
      ofFloat? (Binary.ofScientific negative c e)
  | _ => none

/-- The instant that a text denotes. -/
def ofText? (s : String) : Option Instant :=
  let cs := s.toList
  dateTime? cs <|> number? cs <|> midnight? cs

end TradeGate.Instant
