import TradeGate.Value.Arith
import TradeGate.Value.Whole

/-!
# Clock readings

A clock gives seconds since the epoch as a number of any kind.  Windows are counted in
whole milliseconds: the reading is multiplied by a thousand and its fraction dropped.  A
text or bytes a thousand times over are read as a whole number.
-/

namespace TradeGate

/-- The whole number towards zero from a decimal. -/
def Decimal.truncate (d : Decimal) : Except Fault Int :=
  match d with
  | .finite s c e =>
    .ok (Decimal.signed s (if 0 ≤ e then c * tenTo e.toNat
      else if Decimal.leading c e < 0 then 0 else c / tenTo (-e).toNat))
  | .infinity _ => .error (.outOfRange "cannot convert Infinity to integer")
  | .nan .. => .error (.badValue "cannot convert NaN to integer")

/-- A thousand copies of a list in a row. -/
def repeated {α : Type} (xs : List α) : List α :=
  (List.replicate 1000 xs).flatten

/-- The whole milliseconds of a clock reading in seconds. -/
def clockMillis (reading : Value) : Except Fault Int :=
  match reading with
  | .float x =>
    let y := x * 1000.0
    match Binary.truncate? y with
    | some n => .ok n
    | none =>
      if y.isNaN then .error (.badValue "cannot convert float NaN to integer")
      else .error (.outOfRange "cannot convert float infinity to integer")
  | .decimal d => do
    let y ← (d.mul (.ofInt 1000)).mapError .trapped
    y.truncate
  | .text s =>
    let cs := repeated s.toList
    Whole.ofChars 10 cs (Text.quoted (.ofList cs))
  | .bytes bs =>
    let all := repeated bs
    Whole.ofChars 10 ((Value.asciiText? all).getD "").toList (Text.quotedBytes all)
  | v =>
    match v.whole? with
    | some n => .ok (n * 1000)
    | none => .error (.wrongKind "a number of seconds" v.kindName)

end TradeGate
