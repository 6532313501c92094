import TradeGate.Decimal.Text
import TradeGate.Fault

/-!
# Whole numbers in a base

The whole number that a text denotes in a base up to sixteen: a sign, a mark of the base,
and digits of any script with single underscores between them, with white space around.
The number of decimal digits is limited.  The main statement says what one more digit
does to the value.
-/

namespace TradeGate.Whole

/-- The value of a digit in bases up to sixteen. -/
def digit? (c : Char) : Option Nat :=
  match Text.digitValue? c with
  | some d => some d
  | none =>
    let n := c.toLower.toNat
    if 'a'.toNat ≤ n && n ≤ 'f'.toNat then some (n - 'a'.toNat + 10) else none

/-- Whether a character is a digit of a base. -/
def isDigit (base : Nat) (c : Char) : Bool :=
  (digit? c).any (· < base)

/-- The digits after a mark of the base, which may stand in front of them with one
underscore behind it. -/
def withoutMark (base : Nat) (cs : List Char) : List Char :=
  match cs with
  | '0' :: m :: ds =>
    if (base = 2 ∧ m.toLower = 'b') ∨ (base = 8 ∧ m.toLower = 'o') ∨ (base = 16 ∧ m.toLower = 'x')
    then
      match ds with
      | '_' :: ds => ds
      | ds => ds
    else cs
  | _ => cs

/-- The values of the digits of a text, and the characters after them; an underscore is
passed over where it stands between two digits. -/
def digits (base : Nat) : List Char → List Nat × List Char
  | [] => ([], [])
  | '_' :: c :: rest =>
    if isDigit base c then
      let (ds, left) := digits base rest
      ((digit? c).toList ++ ds, left)
    else ([], '_' :: c :: rest)
  | c :: rest =>
    if isDigit base c then
      let (ds, left) := digits base rest
      ((digit? c).toList ++ ds, left)
    else ([], c :: rest)

/-- The number that digits denote in a base, the first digit counting most. -/
def value (base : Nat) (ds : List Nat) : Nat :=
  ds.foldl (fun n d => base * n + d) 0

/-- The greatest number of decimal digits of a whole number in a text. -/
def maxDigits : Nat := 4300

/-- The whole number that a text denotes in a base.  A refusal tells the written form of
the text, or its first two hundred characters. -/
def ofChars (base : Nat) (cs : List Char) (form : String) : Except Fault Int :=
  let (negative, body) := Decimal.splitSign (Text.trim Text.isWhiteSpace cs)
  let body := withoutMark base body
  let (ds, left) := if body.head? = some '_' then ([], body) else digits base body
  if base = 10 ∧ maxDigits < ds.length then
    .error (.badValue ("Exceeds the limit (" ++ toString maxDigits
      ++ " digits) for integer string conversion: value has " ++ toString ds.length
      ++ " digits; use sys.set_int_max_str_digits() to increase the limit"))
  else if ds.isEmpty || !left.isEmpty then
    .error (.badValue ("invalid literal for int() with base " ++ toString base ++ ": "
      ++ String.ofList (form.toList.take 200)))
  else .ok (Decimal.signed negative (value base ds))

/-- One more digit takes the value to the next place of the base. -/
theorem value_append
    (base : Nat) (ds : List Nat) (d : Nat) :
  value base (ds ++ [d]) = base * value base ds + d
  := by
  simp [value]

end TradeGate.Whole
