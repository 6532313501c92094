import TradeGate.Text.Point
import TradeGate.Text.Printable

/-!
# Quoted text

A text or a byte string is written between two equal quotes.  The quote is the single
one, unless the text holds a single quote and no double one.  Inside, a backslash and
the quote itself are written after a backslash; a tab, a line feed and a carriage
return have escapes of their own; every other character that is not printable is
written by its code point in two, four or eight lower-case hexadecimal digits, and so is
a surrogate.
-/

namespace TradeGate.Text

/-- A hexadecimal digit in lower case. -/
def hexDigit (n : Nat) : Char :=
  if n < 10 then Char.ofNat ('0'.toNat + n) else Char.ofNat ('a'.toNat + (n - 10))

/-- The last `width` hexadecimal digits of a number. -/
def hexDigits : Nat → Nat → List Char
  | 0, _ => []
  | width + 1, n => hexDigits width (n / 16) ++ [hexDigit (n % 16)]

/-- The quote of a text: a double quote only for a text that holds a single quote and
no double quote. -/
def quoteFor (cs : List Char) : Char :=
  if cs.contains '\'' && !cs.contains '"' then '"' else '\''

/-- A code point written after a backslash, in the shortest of the three forms. -/
def codeEscape (n : Nat) : List Char :=
  if n < 0x100 then '\\' :: 'x' :: hexDigits 2 n
  else if n < 0x10000 then '\\' :: 'u' :: hexDigits 4 n
  else '\\' :: 'U' :: hexDigits 8 n

/-- The written form of one character between quotes `q`. -/
def escapeChar (q c : Char) : List Char :=
  if c = q ∨ c = '\\' then ['\\', c]
  else if c = '\t' then ['\\', 't']
  else if c = '\n' then ['\\', 'n']
  else if c = '\r' then ['\\', 'r']
  else if isPrintable c then [c]
  else codeEscape c.toNat

/-- The characters of a quoted text, the quotes included. -/
def quotedChars (cs : List Char) : List Char :=
  let q := quoteFor cs
  q :: cs.flatMap (escapeChar q) ++ [q]

/-- A text between quotes. -/
def quoted (s : String) : String :=
  String.ofList (quotedChars s.toList)

/-- The written form of one code point between quotes `q`. -/
def escapePoint (q : Char) : Point → List Char
  | .char c => escapeChar q c
  | .surrogate i => codeEscape (Point.surrogate i).code

/-- The characters of a quoted text that may be broken, the quotes included. -/
def quotedPointChars (ps : List Point) : List Char :=
  let q := quoteFor (ps.map Point.shown)
  q :: ps.flatMap (escapePoint q) ++ [q]

/-- A broken text between quotes. -/
def quotedBroken (t : Broken) : String :=
  String.ofList (quotedPointChars t.points)

/-- The written form of one byte between quotes `q`: an unprintable or foreign byte is
written by its number. -/
def escapeByte (q : Char) (b : UInt8) : List Char :=
  let c := Char.ofNat b.toNat
  if b.toNat < 127 then escapeChar q c else codeEscape b.toNat

/-- The characters of a quoted byte string, the mark and the quotes included. -/
def quotedByteChars (bs : List UInt8) : List Char :=
  let q := quoteFor (bs.map fun b => Char.ofNat b.toNat)
  'b' :: q :: bs.flatMap (escapeByte q) ++ [q]

/-- A byte string between quotes, marked by a leading `b`. -/
def quotedBytes (bs : List UInt8) : String :=
  String.ofList (quotedByteChars bs)

/-- A quote inside the quotes is always written after a backslash. -/
theorem escapeChar_self
    (q : Char) :
  escapeChar q q = ['\\', q]
  := by
  simp [escapeChar]

theorem length_hexDigits
    (width n : Nat) :
  (hexDigits width n).length = width
  := by
  induction width generalizing n with
  | zero => rfl
  | succ w ih => simp [hexDigits, ih]

end TradeGate.Text
