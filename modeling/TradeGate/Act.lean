import TradeGate.Fault
import TradeGate.Frame

/-!
# Actions

An action runs under a stack of frames, may change a state, and ends with a result or a
fault.  What it changed before a fault stays changed.
-/

namespace TradeGate

/-- An action on a state of type `σ` with a result of type `α`. -/
abbrev Act (σ α : Type) := ReaderT Stack (ExceptT Fault (StateM σ)) α

namespace Act

/-- The outcome of an action and the state after it. -/
def outcome {σ α : Type} (a : Act σ α) (stack : Stack) (s : σ) : Except Fault α × σ :=
  (a.run stack).run s

/-- The action from its outcomes. -/
def ofOutcome {σ α : Type} (f : Stack → σ → Except Fault α × σ) : Act σ α :=
  fun stack => ExceptT.mk fun s => f stack s

/-- The action that ends in a fault. -/
def fail {σ α : Type} (e : Fault) : Act σ α :=
  throw e

/-- The action that ends in a fault if a condition holds, and does nothing otherwise. -/
def failIf {σ : Type} (b : Bool) (e : Fault) : Act σ Unit :=
  if b then throw e else pure ()

/-- A result that is already there, or a fault. -/
def ofExcept {σ α : Type} (r : Except Fault α) : Act σ α :=
  match r with
  | .ok a => pure a
  | .error e => throw e

/-- The stack that the action runs under. -/
def stack {σ : Type} : Act σ Stack :=
  read

/-- The same action with further frames on the stack. -/
def under {σ α : Type} (frames : Stack) (a : Act σ α) : Act σ α :=
  ofOutcome fun stack s => a.outcome (frames ++ stack) s

/-- The action with its ordinary faults absorbed.  Absorbing a fault writes its text to the log,
and every fault has a text: an error whose own text fails is not modelled. -/
def absorb {σ : Type} (a : Act σ Unit) : Act σ Unit :=
  tryCatch a fun e => if e.isOrdinary then pure () else throw e

/-- The same action on a part of a larger state. -/
def zoom {σ τ α : Type} (get : τ → σ) (set : σ → τ → τ) (a : Act σ α) : Act τ α :=
  ofOutcome fun stack t =>
    let (r, s) := a.outcome stack (get t)
    (r, set s t)

@[simp]
theorem outcome_pure
    {σ α : Type} (a : α) (stack : Stack) (s : σ) :
  (pure a : Act σ α).outcome stack s = (.ok a, s)
  := rfl

@[simp]
theorem outcome_ofOutcome
    {σ α : Type} (f : Stack → σ → Except Fault α × σ) (stack : Stack) (s : σ) :
  (ofOutcome f).outcome stack s = f stack s
  := rfl

@[simp]
theorem outcome_stack
    {σ : Type} (st : Stack) (s : σ) :
  (Act.stack : Act σ Stack).outcome st s = (.ok st, s)
  := rfl

theorem outcome_bind
    {σ α β : Type} (a : Act σ α) (f : α → Act σ β) (stack : Stack) (s : σ) :
  (a >>= f).outcome stack s
    = match a.outcome stack s with
      | (.ok x, s') => (f x).outcome stack s'
      | (.error e, s') => (.error e, s')
  := by
  change (match a stack s with
    | (r, s') => ExceptT.bindCont (fun x => f x stack) r s') = _
  unfold outcome ReaderT.run
  change _ = match a stack s with
    | (.ok x, s') => (f x).outcome stack s'
    | (.error e, s') => (.error e, s')
  rcases h : a stack s with ⟨r | r, s'⟩ <;> rfl

/-- Of two actions one after the other that end well, both do. -/
theorem outcome_bind_eq_ok
    {σ α β : Type} {a : Act σ α} {f : α → Act σ β} {stack : Stack} {s s'' : σ} {y : β}
    (h : (a >>= f).outcome stack s = (.ok y, s'')) :
  ∃ x s', a.outcome stack s = (.ok x, s') ∧ (f x).outcome stack s' = (.ok y, s'')
  := by
  rw [outcome_bind] at h
  rcases ha : a.outcome stack s with ⟨e | x, s'⟩
  · rw [ha] at h
    cases h
  · rw [ha] at h
    exact ⟨x, s', rfl, h⟩

@[simp]
theorem outcome_throw
    {σ α : Type} (e : Fault) (stack : Stack) (s : σ) :
  (throw e : Act σ α).outcome stack s = (.error e, s)
  := rfl

@[simp]
theorem outcome_failIf
    {σ : Type} (b : Bool) (e : Fault) (stack : Stack) (s : σ) :
  (failIf b e).outcome stack s = (if b then .error e else .ok (), s)
  := by
  cases b <;> rfl

@[simp]
theorem outcome_ofExcept
    {σ α : Type} (r : Except Fault α) (stack : Stack) (s : σ) :
  (ofExcept r : Act σ α).outcome stack s = (r, s)
  := by
  cases r <;> rfl

@[simp]
theorem outcome_get
    {σ : Type} (stack : Stack) (s : σ) :
  (get : Act σ σ).outcome stack s = (.ok s, s)
  := rfl

@[simp]
theorem outcome_set
    {σ : Type} (t : σ) (stack : Stack) (s : σ) :
  (set t : Act σ PUnit).outcome stack s = (.ok ⟨⟩, t)
  := rfl

@[simp]
theorem outcome_modify
    {σ : Type} (f : σ → σ) (stack : Stack) (s : σ) :
  (modify f : Act σ PUnit).outcome stack s = (.ok ⟨⟩, f s)
  := rfl

/-- A handler goes on from the state that the fault left behind. -/
theorem outcome_tryCatch
    {σ α : Type} (a : Act σ α) (handle : Fault → Act σ α) (stack : Stack) (s : σ) :
  (tryCatch a handle : Act σ α).outcome stack s
    = match a.outcome stack s with
      | (.ok x, s') => (.ok x, s')
      | (.error e, s') => (handle e).outcome stack s'
  := by
  change (ExceptT.tryCatch (a stack) fun e => handle e stack) s
    = match a stack s with
      | (.ok x, s') => (.ok x, s')
      | (.error e, s') => handle e stack s'
  simp only [ExceptT.tryCatch, ExceptT.mk, bind, StateT.bind]
  rcases a stack s with ⟨e | x, s'⟩ <;> rfl

/-- An action whose ordinary faults are absorbed fails only with another fault. -/
theorem outcome_absorb
    {σ : Type} (a : Act σ Unit) (stack : Stack) (s : σ) :
  a.absorb.outcome stack s
    = match a.outcome stack s with
      | (.ok x, s') => (.ok x, s')
      | (.error e, s') => (if e.isOrdinary then .ok () else .error e, s')
  := by
  unfold absorb
  rw [outcome_tryCatch]
  rcases a.outcome stack s with ⟨e | x, s'⟩
  · by_cases h : e.isOrdinary = true <;> simp [h]
  · rfl

@[simp]
theorem outcome_zoom
    {σ τ α : Type} (get : τ → σ) (set : σ → τ → τ) (a : Act σ α) (stack : Stack) (t : τ) :
  (a.zoom get set).outcome stack t
    = ((a.outcome stack (get t)).1, set (a.outcome stack (get t)).2 t)
  := rfl

@[simp]
theorem outcome_under
    {σ α : Type} (frames : Stack) (a : Act σ α) (stack : Stack) (s : σ) :
  (under frames a).outcome stack s = a.outcome (frames ++ stack) s
  := rfl

end Act

end TradeGate
