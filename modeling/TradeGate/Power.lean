/-!
# Powers

Powers of ten, of two and of five with natural exponents.  The main statements say that
they are positive and that exponents add up.
-/

namespace TradeGate

/-- A power of ten. -/
def tenTo (n : Nat) : Nat := Nat.pow 10 n

/-- A power of two. -/
def twoTo (n : Nat) : Nat := Nat.pow 2 n

/-- A power of five. -/
def fiveTo (n : Nat) : Nat := Nat.pow 5 n

@[simp]
theorem tenTo_zero :
  tenTo 0 = 1
  := rfl

theorem tenTo_succ
    (n : Nat) :
  tenTo (n + 1) = tenTo n * 10
  := rfl

theorem tenTo_pos
    (n : Nat) :
  0 < tenTo n
  := Nat.pow_pos (by decide)

theorem tenTo_add
    (m n : Nat) :
  tenTo (m + n) = tenTo m * tenTo n
  := Nat.pow_add 10 m n

theorem twoTo_pos
    (n : Nat) :
  0 < twoTo n
  := Nat.pow_pos (by decide)

end TradeGate
