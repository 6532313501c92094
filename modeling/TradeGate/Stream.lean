import TradeGate.Scope

/-!
# Scoped streams

A source can be iterated if it has a way to begin, which may fail.  It then delivers items
one by one and may have a way to be closed.  It may ask for patience before it delivers;
pulling again goes on where it stopped.  A scoped stream delivers the items of a source
while its frame is on the stack.  It is entered once, which pushes the frame, and left
once, which closes a source that has neither ended nor failed and pops the frame.  After
its end, a failure or its exit a stream is exhausted for good; drained before it is entered
it refuses.
-/

namespace TradeGate

/-- What a pull gives: an item, the end, or nothing yet. -/
inductive Pull (α : Type) where
  | item (a : α)
  | done
  | later
deriving Repr, DecidableEq

/-- A source of items of type `α` that acts on a state of type `σ`. -/
structure Source (σ α : Type) where
  /-- The way to begin to iterate the source, if it can be iterated at all. -/
  start : Option (Act σ Unit)
  /-- The next item, or the end. -/
  pull : Act σ (Pull α)
  /-- The way to close the source, if it has one. -/
  close : Option (Act σ Unit)

/-- The state of a scoped stream. -/
structure Stream where
  frame : Frame
  /-- The scope of the frame while it is pushed. -/
  scope : Option Scope
  /-- Whether the source is being iterated. -/
  opened : Bool
  /-- Whether the stream is exhausted for good. -/
  finished : Bool
deriving Repr, Inhabited

/-- Begins to iterate the source; a value without a way to begin is no source. -/
def Source.begin {σ α : Type} (source : Source σ α) : Act σ Unit :=
  match source.start with
  | some start => start
  | none => throw (.noAttribute "source" "__aiter__")

namespace Stream

/-- A stream that was not entered yet. -/
def create (f : Frame) : Stream := ⟨f, none, false, false⟩

/-- Whether the frame is pushed. -/
def active (s : Stream) : Bool := s.scope.isSome

/-- Enters the stream: pushes the frame, then begins to iterate the source. -/
def enter {σ α : Type} (source : Source σ α) (s : Stream) (c : Context) (w : σ) :
    Except Fault Unit × Stream × Context × σ :=
  if s.active || s.finished then (.error .enteredTwice, s, c, w)
  else
    let (scope, c) := c.enter s.frame
    match source.begin.outcome c.stack w with
    | (.ok _, w) => (.ok (), { s with scope := some scope, opened := true }, c, w)
    | (.error e, w) => (.error e, { s with scope := some scope }, c, w)

/-- The next item of the source, or its end. -/
def next {σ α : Type} (source : Source σ α) (s : Stream) (c : Context) (w : σ) :
    Except Fault (Pull α) × Stream × σ :=
  if s.finished then (.ok .done, s, w)
  else if s.active then
    if s.opened then
      match source.pull.outcome c.stack w with
      | (.ok (.item a), w) => (.ok (.item a), s, w)
      | (.ok .later, w) => (.ok .later, s, w)
      | (r, w) => (r, { s with finished := true }, w)
    else (.error (.noAttribute "NoneType" "__anext__"), { s with finished := true }, w)
  else (.error .notEntered, s, w)

/-- Pops the frame if it is pushed; in a foreign context the stack from before is
restored all the same. -/
def release (s : Stream) (c : Context) : Stream × Context :=
  ({ s with scope := none, finished := true },
    match s.scope with
    | some scope => c.restore scope
    | none => c)

/-- Whether leaving the stream closes its source. -/
def closesSource (s : Stream) : Bool :=
  s.opened && !s.finished

/-- Leaves the stream: closes the source if it has neither ended nor failed, then pops
the frame even if closing fails. -/
def exit {σ α : Type} (source : Source σ α) (s : Stream) (c : Context) (w : σ) :
    Except Fault Unit × Stream × Context × σ :=
  let (r, w) :=
    match source.close with
    | some close => if s.closesSource then close.outcome c.stack w else (.ok (), w)
    | none => (.ok (), w)
  let (s, c) := s.release c
  (r, s, c, w)

/-! ### Small facts -/

@[simp]
theorem active_create
    (f : Frame) :
  (create f).active = false
  := rfl

/-- After an exit the stream is exhausted and its frame is popped. -/
theorem exit_finished
    {σ α : Type} (source : Source σ α) (s : Stream) (c : Context) (w : σ) :
  (s.exit source c w).2.1.finished = true ∧ (s.exit source c w).2.1.active = false
  := by
  simp [exit, release, active]

/-- An exhausted stream stays exhausted and does not touch its source. -/
theorem next_of_finished
    {σ α : Type} (source : Source σ α) {s : Stream} (h : s.finished = true) (c : Context)
    (w : σ) :
  s.next source c w = (.ok .done, s, w)
  := by
  simp [next, h]

end Stream

end TradeGate
