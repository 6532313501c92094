/-!
# Blank characters

Two classes of characters that a reader passes over at the ends of a text: the
characters of Unicode's property `White_Space`, and the wider class of blanks, which
adds the four information separators U+001C to U+001F.  The main statements say that
the second class contains the first and that trimming leaves a text without blank ends
as it is.
-/

namespace TradeGate.Text

/-- The characters of Unicode's property `White_Space`. -/
def isWhiteSpace (c : Char) : Bool :=
  let n := c.toNat
  (9 ≤ n && n ≤ 13) || n == 0x20 || n == 0x85 || n == 0xA0 || n == 0x1680
    || (0x2000 ≤ n && n ≤ 0x200A) || n == 0x2028 || n == 0x2029 || n == 0x202F
    || n == 0x205F || n == 0x3000

/-- A blank is a white-space character or one of the four information separators. -/
def isBlank (c : Char) : Bool :=
  isWhiteSpace c || (0x1C ≤ c.toNat && c.toNat ≤ 0x1F)

theorem isBlank_of_isWhiteSpace
    {c : Char} (h : isWhiteSpace c = true) :
  isBlank c = true
  := by
  simp [isBlank, h]

/-- The text without the characters of a class at either end. -/
def trim (p : Char → Bool) (cs : List Char) : List Char :=
  ((cs.dropWhile p).reverse.dropWhile p).reverse

@[simp]
theorem trim_nil
    (p : Char → Bool) :
  trim p [] = []
  := rfl

/-- A text whose ends are outside the class is left as it is. -/
theorem trim_cons_concat
    {p : Char → Bool} {a b : Char} {cs : List Char}
    (ha : p a = false) (hb : p b = false) :
  trim p (a :: cs ++ [b]) = a :: cs ++ [b]
  := by
  simp [trim, ha, hb]

end TradeGate.Text
