import TradeGate.Instant.Reader

/-!
# The written form of an instant

An instant is written as a date, a character, and a time of day with a lead over universal
time.  `ofForm?` reads that form.  The time and the lead may be given to the hour, to the
minute or to the second, with colons or without them, and the second may have a fraction.
-/

namespace TradeGate.Instant

/-- A date with two hyphens or with none, and the rest. -/
def formDate? (cs : List Char) : Option ((Nat × Nat × Nat) × List Char) := do
  match date? cs with
  | some r => some r
  | none =>
    let (year, cs) ← take? 4 cs
    let (month, cs) ← take? 2 cs
    let (day, cs) ← take? 2 cs
    if 1 ≤ year ∧ isDate year month day then some ((year, month, day), cs) else none

/-- The microseconds of a fraction up to the end of the text. -/
def formFraction? : List Char → Option Nat
  | [] => some 0
  | c :: cs =>
    if c = '.' ∨ c = ',' then
      if cs.isEmpty then none else (cs.mapM Text.asciiDigit?).map fractionMicros
    else none

/-- Hours, minutes, seconds and microseconds up to the end of the text. -/
def formClock? (cs : List Char) : Option (Nat × Nat × Nat × Nat) := do
  let (hour, cs) ← take? 2 cs
  let hasColons := cs.head? == some ':'
  let next? (cs : List Char) : Option (Nat × List Char) :=
    match cs with
    | [] => some (0, [])
    | c :: rest =>
      if c = '.' ∨ c = ',' then some (0, cs)
      else if hasColons then (if c = ':' then take? 2 rest else none)
      else take? 2 cs
  let (minute, cs) ← next? cs
  let (second, cs) ← next? cs
  return (hour, minute, second, ← formFraction? cs)

/-- The lead over universal time at the end of a text. -/
def formZone? : List Char → Option (Option Int)
  | [] => some none
  | ['Z'] => some (some 0)
  | c :: cs => do
    if c ≠ '+' ∧ c ≠ '-' then none
    let (hour, minute, second, _) ← formClock? cs
    let lead : Int := hour * 3600 + minute * 60 + second
    if hour < 24 ∧ minute < 60 ∧ second < 60 then some (some (if c = '-' then -lead else lead))
    else none

/-- The instant that a text is a written form of. -/
def ofForm? (s : String) : Option Instant := do
  let ((year, month, day), cs) ← formDate? s.toList
  match cs with
  | [] => some ⟨year, month, day, 0, 0, 0, 0, none⟩
  | _ :: cs =>
    let isZone (c : Char) : Bool := c == '+' || c == '-' || c == 'Z'
    let (hour, minute, second, micro) ← formClock? (cs.takeWhile (!isZone ·))
    let offset ← formZone? (cs.dropWhile (!isZone ·))
    if hour < 24 ∧ minute < 60 ∧ second < 60 then
      some ⟨year, month, day, hour, minute, second, micro, offset⟩
    else none

example : (ofForm? "2024-01-01T10:00:00.5+00:00:20").map text
    = some "2024-01-01T10:00:00.500000+00:00:20" := by decide +kernel
example : (ofForm? "20240101 1000").map text = some "2024-01-01T10:00:00" := by decide +kernel

end TradeGate.Instant
