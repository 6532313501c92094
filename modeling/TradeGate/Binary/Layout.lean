import TradeGate.Binary.Shortest
import TradeGate.Decimal.Text

/-!
# The text of a float

The digits of a float are the fewest that read back; a `Layout` says how they are set.
Between two exponents the number is written with a point, elsewhere with the leading
digit before the point and an exponent.  `fixedExponent` writes a given number of
places after the leading digit instead.
-/

namespace TradeGate.Binary

/-- The choices of a written form. -/
structure Layout where
  /-- The smallest exponent of the leading digit that is written without a mark. -/
  lowest : Int
  /-- The first exponent of the leading digit that is written with a mark again. -/
  beyond : Int
  /-- The least number of digits of an exponent. -/
  exponentWidth : Nat
deriving DecidableEq, Repr

/-- Plain text has a mark from `1e+16` upwards and below `0.0001`, and at least two
digits in an exponent. -/
def Layout.plain : Layout := ⟨-4, 16, 2⟩

/-- A journal has a mark from `1e+16` upwards and below `0.00001`, and as few digits in
an exponent as there are. -/
def Layout.journal : Layout := ⟨-5, 16, 1⟩

/-- The digits of a number, filled up with zeros on the left to a width. -/
def paddedText (width n : Nat) : String :=
  let digits := (toString n).toList
  String.ofList (List.replicate (width - digits.length) '0' ++ digits)

/-- A mark, the sign always, and the digits of an exponent. -/
def Layout.exponent (f : Layout) (e : Int) : String :=
  "e" ++ (if e < 0 then "-" else "+") ++ paddedText f.exponentWidth e.natAbs

/-- The coefficient `c` with a point after its first digit, no point where there is but
one digit. -/
def leadingText (c : Nat) : String :=
  match (toString c).toList with
  | d :: [] => String.ofList [d]
  | d :: ds => String.ofList (d :: '.' :: ds)
  | [] => ""

/-- The text of `c · 10 ^ e`; a whole number in positional form ends in a point and one
zero. -/
def Layout.digits (f : Layout) (c : Nat) (e : Int) : String :=
  let top := Decimal.leading c e
  if f.lowest ≤ top ∧ top < f.beyond then
    if 0 ≤ e then Decimal.pointedText (c * tenTo (e.toNat + 1)) 1
    else Decimal.pointedText c (-e).toNat
  else leadingText c ++ f.exponent top

/-- Removes the zeros at the end of a coefficient; `steps` bounds their number. -/
def trimZeros : Nat → Nat → Int → Nat × Int
  | 0, c, e => (c, e)
  | steps + 1, c, e =>
    if c % 10 = 0 ∧ c ≠ 0 then trimZeros steps (c / 10) (e + 1) else (c, e)

/-- The text of a float, nothing where it is not finite. -/
def Layout.finite? (f : Layout) (x : Float) : Option String :=
  match shape x with
  | .finite s 0 _ => some (Decimal.signText s ++ "0.0")
  | .finite s m q =>
    let (c, e) := shortest m q
    let (c, e) := trimZeros 20 c e
    some (Decimal.signText s ++ f.digits c e)
  | _ => none

/-- The plain text of a float. -/
def text (x : Float) : String :=
  match shape x with
  | .nan => "nan"
  | .infinity s => Decimal.signText s ++ "inf"
  | .finite .. => (Layout.plain.finite? x).getD ""

/-- The number with `places` digits after the leading one, an exact half going to the
even digit; zero has no sign. -/
def fixedExponent (places : Nat) (x : Float) : String :=
  match shape x with
  | .nan => "nan"
  | .infinity s => Decimal.signText s ++ "inf"
  | .finite _ 0 _ => leadingFixed 0 ++ Layout.plain.exponent 0
  | .finite s m q =>
    let (n, d) := ratio m q
    let top := leadingOfRatio n d
    let last := top - places
    let n' := n * tenTo (-last).toNat
    let d' := d * tenTo last.toNat
    let c := n' / d'
    let rest := 2 * (n' % d')
    let c := if d' < rest ∨ (rest = d' ∧ c % 2 = 1) then c + 1 else c
    let (c, top) := if tenTo (places + 1) ≤ c then (c / 10, top + 1) else (c, top)
    Decimal.signText s ++ leadingFixed c ++ Layout.plain.exponent top
where
  /-- The digits of a coefficient of `places + 1` digits with the point. -/
  leadingFixed (c : Nat) : String :=
    Decimal.pointedText c places

end TradeGate.Binary
