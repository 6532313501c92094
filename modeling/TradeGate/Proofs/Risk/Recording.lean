import TradeGate.Risk.Registry

/-!
# Recording calls

A recorded registry has the risks of another one, which do the same and also write down
every call of a check or a callback, with all that is handed over, on a list beside the
state.  It is a registry like any other: what it writes down when a signal is evaluated is
what `Registry.evaluate` calls.
-/

namespace TradeGate

/-- A call of a check or of a callback of a risk. -/
inductive RiskCall (σ : Type) where
  | asked (k : Risk σ) (c : Check σ) (i : Inspection)
  | rejected (k : Risk σ) (symbol : String) (reason : Value) (i : Inspection)
  | allowed (k : Risk σ) (symbol : String) (i : Inspection)

/-- The same action, which first writes a line below those beside its state. -/
def Act.recorded {σ τ α : Type} (line : τ) (a : Act σ α) : Act (σ × List τ) α := do
  modify fun t => (t.1, t.2 ++ [line])
  a.zoom Prod.fst fun s t => (s, t.2)

@[simp]
theorem Act.outcome_recorded
    {σ τ α : Type} (line : τ) (a : Act σ α) (stack : Stack) (s : σ) (lines : List τ) :
  (a.recorded line).outcome stack (s, lines)
    = ((a.outcome stack s).1, (a.outcome stack s).2, lines ++ [line])
  := by
  simp [recorded, outcome_bind]

section

variable {σ : Type}

/-- The same check, which writes down that it is asked for a risk. -/
def Check.recorded (k : Risk σ) (c : Check σ) : Check (σ × List (RiskCall σ)) :=
  ⟨c.note, fun i => (c.run i).recorded (.asked k c i)⟩

/-- The same risk, whose checks and callbacks write down that they are called. -/
def Risk.recorded (k : Risk σ) : Risk (σ × List (RiskCall σ)) where
  name := k.name
  checks := k.checks.map (Check.recorded k)
  note := k.note
  onRejected := k.onRejected.map fun f symbol reason i =>
    (f symbol reason i).recorded (.rejected k symbol reason i)
  onAllowed := k.onAllowed.map fun f symbol i => (f symbol i).recorded (.allowed k symbol i)

/-- The same registry, whose risks write down what is called. -/
def Registry.recorded (r : Registry σ) : Registry (σ × List (RiskCall σ)) :=
  ⟨r.risks.map Risk.recorded, r.positions⟩

/-- The checks of a recorded registry are those of the registry, recorded in their order. -/
theorem Registry.checks_recorded
    (r : Registry σ) :
  r.recorded.checks = r.checks.map fun p => (p.1.recorded, p.2.recorded p.1)
  := by
  simp only [checks, recorded, List.flatMap_map, List.map_flatMap, List.map_map]
  congr 1
  funext k
  simp [Risk.recorded]

end

end TradeGate
