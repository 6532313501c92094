import TradeGate.Act

/-!
# Scopes

A context is where code runs: it has an identity and a stack of frames, and a new task
gets a copy with an identity of its own.  Entering a scope pushes a frame and remembers
the stack from before; leaving the scope restores that stack, in the context in which it
was entered.
-/

namespace TradeGate

/-- A place where code runs. -/
structure Context where
  id : Nat
  stack : Stack
deriving Repr, Inhabited

/-- A scope that was entered: the context, and the stack to restore. -/
structure Scope where
  home : Nat
  outer : Stack
deriving Repr, Inhabited

namespace Context

/-- Pushes a frame. -/
def enter (c : Context) (f : Frame) : Scope × Context :=
  (⟨c.id, c.stack⟩, { c with stack := f :: c.stack })

/-- Restores the stack from before a scope, which must have been entered here. -/
def leave (c : Context) (s : Scope) : Except Fault Context :=
  if s.home = c.id then .ok { c with stack := s.outer } else .error .foreignContext

/-- Restores the stack from before a scope that was entered anywhere. -/
def restore (c : Context) (s : Scope) : Context :=
  { c with stack := s.outer }

@[simp]
theorem stack_enter
    (c : Context) (f : Frame) :
  (c.enter f).2.stack = f :: c.stack
  := rfl

/-- Leaving a scope undoes entering it, whatever happened to the stack between. -/
@[simp]
theorem leave_enter
    (c : Context) (f : Frame) (stack : Stack) :
  { c with stack := stack }.leave (c.enter f).1 = .ok c
  := by
  simp [leave, enter]

end Context

end TradeGate
