import TradeGate.Proofs.Stream.History
import Mathlib.Logic.Function.Iterate

/-!
# Programs of nested blocks

A program opens frames by blocks that are properly nested: scopes, and streams that are
entered, drained and left.  A task runs it step by step.  It does what the current block
says, by the operations on contexts and streams; a block that has ended makes room for
whatever waits for its end.
-/

namespace TradeGate

/-! ### Programs -/

/-- What is given where a frame is asked for: a frame, with the frames around it if it has
any, or some other value. -/
inductive Given where
  | frame (f : Frame) (parents : Stack)
  | value (v : Value)

/-- The frame that is meant.  The frames around it do not count. -/
def Given.toFrame : Given → Except Fault Frame
  | frame f _ => .ok f
  | value v =>
    match Frame.ofValue? v with
    | some f => .ok f
    | none => .error (.wrongKind "a frame" "another value")

/-- How a block ends: it is done, it stops the loop or function around it, or it fails. -/
inductive Flow where
  | done
  | stop
  | fault (e : Fault)

namespace Flow

/-- The end of an asynchronous function whose body ends like this. -/
def returned : Flow → Flow
  | done | stop => done
  | fault e => fault e.acrossTask

/-- The end of a block whose body ends like this and that is closed then: a failure to close
it takes the place of what came before. -/
def closed (fl : Flow) : Except Fault Unit → Flow
  | .ok _ => fl
  | .error e => fault e

end Flow

/-- A program that acts on a state of type `σ` and drains sources of items of type `α`. -/
inductive Block (σ α : Type) where
  /-- Ends at once. -/
  | halt (fl : Flow)
  /-- Acts under the current stack, then goes on by the answer. -/
  | act (a : Act σ Bool) (next : Bool → Block σ α)
  /-- Runs a block, then goes on by its end. -/
  | after (body : Block σ α) (next : Flow → Block σ α)
  /-- Runs a block over and over until it stops or fails. -/
  | loop (body : Block σ α)
  /-- Runs a block while a frame is pushed. -/
  | framed (g : Given) (body : Block σ α)
  /-- Runs a block while a stream is entered. -/
  | stream (g : Given) (source : {s : Source σ α // s.WellFormed}) (body : Block σ α)
  /-- Asks the open stream with `k` streams inside it for its next item, then goes on by
  it. -/
  | pull (k : Nat) (next : Option α → Block σ α)

variable {σ α : Type}

namespace Block

/-- Goes on after an action. -/
def answered (next : Bool → Block σ α) : Except Fault Bool → Block σ α
  | .ok x => next x
  | .error e => halt (.fault e)

/-- Goes on after a pull.  Where the source asks for patience, it is pulled again. -/
def pulled (k : Nat) (next : Option α → Block σ α) : Except Fault (Pull α) → Block σ α
  | .ok (.item a) => next (some a)
  | .ok .done => next none
  | .ok .later => pull k next
  | .error e => halt (.fault e)

/-- A turn of a loop, and the rest of it. -/
def turn (body : Block σ α) : Block σ α :=
  after body fun
    | .done => loop body
    | .stop => halt .done
    | .fault e => halt (.fault e)

/-- Runs an asynchronous function: what stops its body ends the function alone. -/
def routine (body : Block σ α) : Block σ α :=
  after body fun fl => halt fl.returned

/-- Runs an asynchronous function while a frame is pushed. -/
def call (g : Given) (body : Block σ α) : Block σ α :=
  routine (framed g (routine body))

end Block

/-! ### Tasks -/

/-- A stream that a block has entered. -/
structure OpenStream (σ α : Type) where
  stream : Stream
  source : {s : Source σ α // s.WellFormed}

/-- What waits for the end of a block: a continuation, or the end of the scope or stream
that the block runs in. -/
inductive Waiting (σ α : Type) where
  | after (next : Flow → Block σ α)
  | scope (f : Frame) (s : Scope)
  | stream (f : Frame)

/-- The frame that is pushed until then. -/
def Waiting.frame? : Waiting σ α → Option Frame
  | scope f _ | stream f => some f
  | after _ => none

/-- A task that runs a program.  What waits and the open streams are listed from the
innermost outwards. -/
structure Task (σ α : Type) where
  now : Block σ α
  waiting : List (Waiting σ α)
  streams : List (OpenStream σ α)

namespace Task

/-- A task that has not begun. -/
def create (b : Block σ α) : Task σ α := ⟨b, [], []⟩

/-- The frames of the open blocks, innermost first. -/
def frames (t : Task σ α) : List Frame := t.waiting.filterMap Waiting.frame?

end Task

/-- A task in its context, with the state that it acts on. -/
structure Config (σ α : Type) extends Task σ α where
  context : Context
  state : σ

namespace Config

/-- A program at its beginning. -/
def start (b : Block σ α) (c : Context) (w : σ) : Config σ α :=
  { Task.create b with context := c, state := w }

variable (p : Config σ α)

/-- Pushes the frame of a scope. -/
def openScope (g : Given) (body : Block σ α) : Config σ α :=
  match g.toFrame with
  | .error e => { p with now := .halt (.fault e) }
  | .ok f =>
    let (scope, c) := p.context.enter f
    { p with now := body, waiting := .scope f scope :: p.waiting, context := c }

/-- Enters a new stream.  Where that fails, the stream is not left later. -/
def openStream (g : Given) (source : {s : Source σ α // s.WellFormed}) (body : Block σ α) :
    Config σ α :=
  match g.toFrame with
  | .error e => { p with now := .halt (.fault e) }
  | .ok f =>
    match (Stream.create f).enter source.1 p.context p.state with
    | (.error e, _, c, w) => { p with now := .halt (.fault e), context := c, state := w }
    | (.ok _, s, c, w) =>
      { p with
        now := body, waiting := .stream f :: p.waiting, streams := ⟨s, source⟩ :: p.streams,
        context := c, state := w }

/-- Asks an open stream for its next item.  A stream that is not there was not entered. -/
def pull (k : Nat) (next : Option α → Block σ α) : Config σ α :=
  match p.streams[k]? with
  | none => { p with now := .halt (.fault .notEntered) }
  | some o =>
    let (r, s, w) := o.stream.next o.source.1 p.context p.state
    { p with
      now := .pulled k next r, streams := p.streams.set k { o with stream := s }, state := w }

/-- Pops the frame of a scope. -/
def closeScope (s : Scope) (fl : Flow) : Config σ α :=
  match p.context.leave s with
  | .ok c => { p with now := .halt fl, context := c }
  | .error e => { p with now := .halt (.fault e) }

/-- Leaves the innermost stream. -/
def closeStream (fl : Flow) : Config σ α :=
  match p.streams with
  | [] => { p with now := .halt fl }
  | o :: rest =>
    let (r, _, c, w) := o.stream.exit o.source.1 p.context p.state
    { p with now := .halt (fl.closed r), streams := rest, context := c, state := w }

/-- Goes on where a block has ended.  A program that has ended stays as it is. -/
def resume (fl : Flow) : Config σ α :=
  match p.waiting with
  | [] => p
  | .after next :: rest => { p with now := next fl, waiting := rest }
  | .scope _ s :: rest => { p with waiting := rest }.closeScope s fl
  | .stream _ :: rest => { p with waiting := rest }.closeStream fl

/-- Takes one step. -/
def step : Config σ α :=
  match p.now with
  | .halt fl => p.resume fl
  | .act a next =>
    let (r, w) := a.outcome p.context.stack p.state
    { p with now := .answered next r, state := w }
  | .after body next => { p with now := body, waiting := .after next :: p.waiting }
  | .loop body => { p with now := .turn body }
  | .framed g body => p.openScope g body
  | .stream g source body => p.openStream g source body
  | .pull k next => p.pull k next

/-- Takes a number of steps. -/
def run (n : Nat) : Config σ α := step^[n] p

/-- The program has ended. -/
def Ended (fl : Flow) : Prop := p.now = .halt fl ∧ p.waiting = []

end Config

end TradeGate
