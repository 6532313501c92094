/-!
# Bytes written as letters

Four letters of an alphabet of 64 write three bytes.  A text that writes one or two
bytes more ends in equals signs that fill up the last group.  The reader passes over
every character outside the alphabet and stops at the sign that completes a group.
-/

namespace TradeGate.Text

/-- The six bits that a letter stands for. -/
def sextet? (c : Char) : Option Nat :=
  if 'A' ≤ c ∧ c ≤ 'Z' then some (c.toNat - 'A'.toNat)
  else if 'a' ≤ c ∧ c ≤ 'z' then some (c.toNat - 'a'.toNat + 26)
  else if '0' ≤ c ∧ c ≤ '9' then some (c.toNat - '0'.toNat + 52)
  else if c = '+' then some 62
  else if c = '/' then some 63
  else none

/-- The sextets of a text in front of the sign that completes a group, nothing if the
last group stays open.  The sextets read so far are given last first, with the number of
signs after them. -/
def sextetsFrom? (done : List Nat) (signs : Nat) : List Char → Option (List Nat)
  | [] => if done.length % 4 = 0 then some done.reverse else none
  | c :: cs =>
    if c = '=' then
      if done.length % 4 < 2 then sextetsFrom? done signs cs
      else if 4 ≤ done.length % 4 + signs + 1 then some done.reverse
      else sextetsFrom? done (signs + 1) cs
    else
      match sextet? c with
      | some d => sextetsFrom? (d :: done) 0 cs
      | none => sextetsFrom? done signs cs

/-- The bytes that sextets write, four of them three bytes. -/
def bytesOfSextets : List Nat → List UInt8
  | a :: b :: c :: d :: rest =>
    UInt8.ofNat (a * 4 + b / 16) :: UInt8.ofNat (b * 16 + c / 4) :: UInt8.ofNat (c * 64 + d)
      :: bytesOfSextets rest
  | a :: b :: c :: [] => [UInt8.ofNat (a * 4 + b / 16), UInt8.ofNat (b * 16 + c / 4)]
  | a :: b :: [] => [UInt8.ofNat (a * 4 + b / 16)]
  | _ => []

/-- The bytes that a text in ASCII writes. -/
def base64? (cs : List Char) : Option (List UInt8) :=
  if cs.all fun c => c.toNat < 128 then (sextetsFrom? [] 0 cs).map bytesOfSextets else none

/-- The empty text writes no bytes. -/
@[simp]
theorem base64?_nil :
  base64? [] = some []
  := rfl

end TradeGate.Text
