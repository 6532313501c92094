import TradeGate.Act
import TradeGate.Risk.Finding

/-!
# Checks and risks

A check is an action on an inspection, with a note that says what it checks.  A risk is a
named list of checks, with callbacks for the signals that it rejects and for the signals
that are admitted.  A gate configuration gives one risk for each enabled profile that
has a gate.
-/

namespace TradeGate

/-- An action that inspects a signal, and a note on what it checks. -/
structure Check (σ : Type) where
  note : Value
  run : Inspection → Act σ Answer

namespace Check

/-- The check of a standard gate. -/
def ofGate {σ : Type} (g : Gate) : Check σ :=
  ⟨.text g.note, fun i => .ofExcept ((g.judge i).map .finding)⟩

/-- What a check finds: its answer, or an ordinary fault taken as a failure. -/
def find {σ : Type} (c : Check σ) (i : Inspection) : Act σ Finding :=
  tryCatch (do Act.ofExcept (Finding.ofAnswer c.note (← c.run i)))
    fun e => if e.isOrdinary then pure (.ofFault c.note e) else throw e

end Check

/-- A named list of checks with callbacks. -/
structure Risk (σ : Type) where
  name : String
  checks : List (Check σ)
  note : Value
  /-- Called with the symbol, the reason and the inspection when a check of this risk
  fails. -/
  onRejected : Option (String → Value → Inspection → Act σ Unit)
  /-- Called with the symbol and the inspection when a signal passes all risks. -/
  onAllowed : Option (String → Inspection → Act σ Unit)

namespace Risk

/-- The name, the note and the notes of the checks of a risk. -/
def toFields {σ : Type} (r : Risk σ) : Fields :=
  [("risk_name", .text r.name), ("note", r.note),
    ("validations", .list (r.checks.map Check.note))]

/-- The risk of a profile. -/
def ofProfile {σ : Type} (p : Profile) : Risk σ :=
  ⟨p.name, (Gate.ofProfile p).map .ofGate, .text p.note, none, none⟩

/-- The risks of a configuration: one for each enabled profile that has a gate. -/
def ofConfig {σ : Type} (c : GateConfig) : List (Risk σ) :=
  (c.enabledProfiles.filter Profile.hasGates).map .ofProfile

/-- Tells the risk that one of its checks failed. -/
def notifyRejected {σ : Type} (r : Risk σ) (symbol : String) (reason : Value)
    (i : Inspection) : Act σ Unit :=
  match r.onRejected with
  | some f => (f symbol reason i).absorb
  | none => pure ()

/-- Tells the risk that a signal was admitted. -/
def notifyAllowed {σ : Type} (r : Risk σ) (symbol : String) (i : Inspection) : Act σ Unit :=
  match r.onAllowed with
  | some f => (f symbol i).absorb
  | none => pure ()

end Risk

end TradeGate
