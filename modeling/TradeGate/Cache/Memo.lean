import TradeGate.Act
import TradeGate.Cache.Traffic
import TradeGate.CallKey
import TradeGate.Clock

/-!
# Memoized functions

A memoized function has a cache in front of it.  A call is given a key by a function that sees its
arguments and the frames of the caller; then the clock is read, and only then the key is looked up.
The key function and the clock may be anything: they may change the world around them, and they may
fail.
-/

namespace TradeGate

/-- Values are compared as keys, and no key stops a comparison. -/
instance : BEq Value := ⟨fun x y => (x.same y).toOption == some true⟩

/-- A value that can be a key. -/
def usableKey (v : Value) : Except Fault Value :=
  if v.isKey then .ok v else .error (.notKey v.kindName)

/-- How the calls of a memoized function are keyed, and the clock that it reads, in seconds. -/
structure Memo (σ : Type) where
  key : Call → Act σ Value
  clock : Act σ Value

namespace Memo

/-- What the callers of a memoized function share with its computations, and the world around
it. -/
structure State (σ γ α : Type) where
  traffic : Traffic γ Value α
  world : σ

variable {σ γ α : Type} [BEq γ] (m : Memo σ)

/-- The key of a call.  The name `self` is the cache's own. -/
def keyOf (c : Call) : Act σ Value := do
  Act.failIf (c.named? "self").isSome (.wrongKind "one cache" "two")
  m.key c

/-- The key of a call and the time in milliseconds. -/
def request (c : Call) : Act σ (Value × Int) := do
  let key ← m.keyOf c
  let now ← Act.ofExcept (clockMillis (← m.clock))
  return (← Act.ofExcept (usableKey key), now)

/-- An action on the world around a memoized function. -/
def lift {β : Type} (a : Act σ β) : Act (State σ γ α) β :=
  a.zoom State.world fun w s => { s with world := w }

/-- A call, with the callers who end with it. -/
def run (caller : γ) (c : Call) : Act (State σ γ α) (List (Ended γ Value α)) := do
  let (key, now) ← lift (m.request c)
  let (t, ended) := (← get).traffic.step (.call caller key now)
  modify fun s => { s with traffic := t }
  return ended

/-- Drops the entry that a call would ask for. -/
def clear (c : Call) : Act (State σ γ α) Unit := do
  let key ← Act.ofExcept (usableKey (← lift (m.keyOf c)))
  modify fun s => { s with traffic := (s.traffic.step (.clear key)).1 }

end Memo

end TradeGate
