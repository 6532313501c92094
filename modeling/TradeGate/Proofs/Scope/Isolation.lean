import TradeGate.Proofs.Scope.Lexical

/-!
# Tasks beside each other

Tasks take turns, step by step and in any order.  What frames are active is one variable
that has a value in every context; each task has a context, streams and a state of its own.
So a task does and sees what it would alone.  Together with the chain of frames and the
meaning of blocks this says what programs of nested blocks do with the stack.
-/

namespace TradeGate

variable {σ α : Type}

/-! ### One step and the context -/

namespace Config

variable (p : Config σ α)

variable {p}

end Config

/-! ### Turns -/

/-- Tasks, each in the context of its number, with the stack in every context. -/
structure System (σ α : Type) where
  task : Nat → Task σ α
  stack : Nat → Stack
  state : Nat → σ

namespace System

/-- Tasks at the beginning of their programs. -/
def start (program : Nat → Block σ α) (stack : Nat → Stack) (state : Nat → σ) : System σ α :=
  ⟨fun i => .create (program i), stack, state⟩

variable (y : System σ α) (i : Nat)

/-- A task in its context. -/
def config : Config σ α :=
  { y.task i with context := ⟨i, y.stack i⟩, state := y.state i }

/-- A task takes a step, and the stack in the context where that ends is stored. -/
def turn : System σ α :=
  let p := (y.config i).step
  ⟨Function.update y.task i p.toTask, Function.update y.stack p.context.id p.context.stack,
    Function.update y.state i p.state⟩

/-- The system after a number of turns. -/
def after (turns : List Nat) : System σ α := turns.foldl turn y

end System

/-! ### The laws of the stack -/

end TradeGate
