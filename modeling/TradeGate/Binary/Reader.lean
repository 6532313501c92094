import TradeGate.Binary.Shape
import TradeGate.Decimal.Text

/-!
# Reading a float

The reader of floats is lenient in its own way: white space around the text and digits
of any script are accepted, an underscore only between two digits, and the words for
the special values in any case and without a payload.
-/

namespace TradeGate.Binary

/-- The text without its underscores, nothing if one of them does not stand between two
digits; `before` tells whether the character before is a digit. -/
def dropUnderscores? (before : Bool) : List Char → Option (List Char)
  | [] => some []
  | '_' :: c :: cs =>
    if before && c.isDigit then (dropUnderscores? true cs).map (c :: ·) else none
  | c :: cs =>
    if c = '_' then none else (dropUnderscores? c.isDigit cs).map (c :: ·)

/-- The ASCII form of a text without the white space at its ends. -/
def plainChars? (cs : List Char) : Option (List Char) :=
  ((Text.trim Text.isWhiteSpace cs).mapM fun c =>
    if c.toNat ≤ 127 then some c
    else (Text.digitValue? c).map fun d => Char.ofNat ('0'.toNat + d)).bind
      (dropUnderscores? false)

/-- The float that a text denotes, the nearest one if it has more digits. -/
def ofText? (s : String) : Option Float :=
  (plainChars? s.toList).bind fun cs =>
    let (negative, body) := Decimal.splitSign (cs.map Char.toLower)
    if body = "inf".toList ∨ body = "infinity".toList then
      some (if negative then -(1.0 / 0.0) else 1.0 / 0.0)
    else if body = "nan".toList then some (0.0 / 0.0)
    else (Decimal.numeral? body).map fun (c, e) => ofScientific negative c e

end TradeGate.Binary
