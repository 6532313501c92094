import TradeGate.Decimal.Basic
import TradeGate.Text.Blank
import TradeGate.Text.Digit

/-!
# The text of a decimal

A decimal is written with all its digits.  It is written with a point and without an
exponent when its exponent is not positive and its leading digit is at most six places
after the point; otherwise the leading digit stands alone before the point and an
exponent follows.  The reader accepts every such text and is lenient: blanks around it,
underscores anywhere, digits of any script, the words for the special values in any
case.
-/

namespace TradeGate.Decimal

/-- The sign before a number. -/
def signText (negative : Bool) : String :=
  if negative then "-" else ""

/-- The text of an exponent: a mark, the sign always, the digits. -/
def exponentText (e : Int) : String :=
  "E" ++ (if e < 0 then "-" else "+") ++ toString e.natAbs

/-- The digits of `c` with a point before the last `places` of them. -/
def pointedText (c places : Nat) : String :=
  let digits := (toString c).toList
  let padded := List.replicate (places + 1 - digits.length) '0' ++ digits
  let whole := padded.take (padded.length - places)
  let rest := padded.drop (padded.length - places)
  String.ofList (if rest.isEmpty then whole else whole ++ '.' :: rest)

/-- The text of `c · 10 ^ e`. -/
def finiteText (c : Nat) (e : Int) : String :=
  if e ≤ 0 ∧ -6 ≤ leading c e then pointedText c (-e).toNat
  else pointedText c (digitCount c - 1) ++
    (if leading c e = 0 then "" else exponentText (leading c e))

/-- The text of a decimal. -/
def text : Decimal → String
  | .finite s c e => signText s ++ finiteText c e
  | .infinity s => signText s ++ "Infinity"
  | .nan s signaling payload =>
    signText s ++ (if signaling then "sNaN" else "NaN")
      ++ (if payload = 0 then "" else toString payload)

/-! ### Reading -/

/-- The largest exponent that the leading digit of a written number may have. -/
def maxWritten : Int := 999999999999999999

/-- The smallest exponent that the last digit of a written number may have. -/
def minWritten : Int := -1999999999999999997

/-- The ASCII form of a text: blanks at the ends and all underscores dropped, digits of
any script replaced; nothing if another foreign character remains. -/
def plainChars? (cs : List Char) : Option (List Char) :=
  (((Text.trim Text.isBlank cs).filter (· ≠ '_')).mapM fun c =>
    if 0 < c.toNat ∧ c.toNat ≤ 127 then some c
    else if Text.isBlank c then some ' '
    else (Text.digitValue? c).map fun d => Char.ofNat ('0'.toNat + d))

/-- The sign at the front of a text, and the rest. -/
def splitSign : List Char → Bool × List Char
  | '-' :: cs => (true, cs)
  | '+' :: cs => (false, cs)
  | cs => (false, cs)

/-- The exponent written after the digits, zero where nothing is written. -/
def writtenExponent? : List Char → Option Int
  | [] => some 0
  | 'e' :: cs =>
    let (negative, digits) := splitSign cs
    (Text.natural? digits).map fun n => if negative then -(n : Int) else n
  | _ => none

/-- A number is in range if its leading and its last digit are. -/
def checkWritten (negative : Bool) (c : Nat) (e : Int) : Except Trap Decimal :=
  if c = 0 then
    if minWritten ≤ e ∧ e ≤ maxWritten then .ok (.finite negative 0 e)
    else .error .invalidOperation
  else if maxWritten < leading c e ∨ e < minWritten then .error .invalidOperation
  else .ok (.finite negative c e)

/-- Digits, at most one point among them, and an exponent. -/
def numeral? (cs : List Char) : Option (Nat × Int) :=
  let whole := cs.takeWhile Char.isDigit
  let afterWhole := cs.dropWhile Char.isDigit
  let (fraction, tail) :=
    match afterWhole with
    | '.' :: rest => (rest.takeWhile Char.isDigit, rest.dropWhile Char.isDigit)
    | rest => ([], rest)
  match Text.natural? (whole ++ fraction), writtenExponent? tail with
  | some c, some e => some (c, e - fraction.length)
  | _, _ => none

/-- A word after the sign: an infinity or a not-a-number with its payload. -/
def special? (negative : Bool) (cs : List Char) : Option Decimal :=
  if cs = "inf".toList ∨ cs = "infinity".toList then some (.infinity negative)
  else
    let payload? (ds : List Char) : Option Nat :=
      if ds.isEmpty then some 0 else Text.natural? ds
    match cs with
    | 'n' :: 'a' :: 'n' :: ds => (payload? ds).map (.nan negative false)
    | 's' :: 'n' :: 'a' :: 'n' :: ds => (payload? ds).map (.nan negative true)
    | _ => none

/-- The decimal that a text denotes. -/
def ofText (s : String) : Except Trap Decimal :=
  match plainChars? s.toList with
  | none => .error .conversionSyntax
  | some cs =>
    let (negative, body) := splitSign (cs.map Char.toLower)
    match special? negative body with
    | some d => .ok d
    | none =>
      match numeral? body with
      | some (c, e) => checkWritten negative c e
      | none => .error .conversionSyntax

end TradeGate.Decimal
