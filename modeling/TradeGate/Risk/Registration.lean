import TradeGate.Risk.Registry

/-!
# Registration

A risk that is handed in keeps its checks in a list of the caller, who may change it at any time,
or in something else that can be gone through, perhaps once only.  Registration goes through the
checks to see whether they can be run, enters a copy with the checks that it finds the second
time, and then asks for the number of those that were handed in.  A cabinet has the risks that
were entered, and what the caller's own collections hold.
-/

namespace TradeGate

/-! ### What is handed in -/

/-- A check as it is handed in: with a note of its own, or a bare function that is noted
by its name, or a value that cannot be run. -/
inductive CheckDraft (σ : Type) where
  | noted (c : Check σ)
  | bare (name : Option Value) (run : Inspection → Act σ Answer)
  | inert

namespace CheckDraft

variable {σ : Type}

/-- The check that a draft stands for. -/
def check? : CheckDraft σ → Option (Check σ)
  | noted c => some c
  | bare name run => some ⟨name.getD (.text ""), run⟩
  | inert => none

/-- Whether a draft cannot be run. -/
def isInert : CheckDraft σ → Bool
  | inert => true
  | _ => false

/-- The draft with a note. -/
def wrapped (d : CheckDraft σ) : CheckDraft σ :=
  match d.check? with
  | some c => noted c
  | none => inert

end CheckDraft

/-- What the lists and the iterators of a caller hold, by their addresses.  An iterator holds what
it has not given yet. -/
structure Memory (σ : Type) where
  lists : Nat → List (CheckDraft σ)
  iterators : Nat → List (CheckDraft σ)

/-- A memory without lists and iterators. -/
def Memory.empty {σ : Type} : Memory σ := ⟨fun _ => [], fun _ => []⟩

/-- Where the checks of a risk are. -/
inductive CheckSource (σ : Type) where
  /-- In a list of the caller. -/
  | list (address : Nat)
  /-- In an iterator of the caller, which gives each item once and has no length. -/
  | iterator (address : Nat)
  /-- In a collection that stays as it is. -/
  | fixed (items : List (CheckDraft σ))
  /-- In something that gives the same items whenever it is gone through, but has no length. -/
  | unsized (items : List (CheckDraft σ))
  /-- Nowhere: the value cannot be gone through. -/
  | nowhere (v : Value)

namespace CheckSource

variable {σ : Type}

/-- The name of the kind of a source. -/
def kindName : CheckSource σ → String
  | list _ => "list"
  | iterator _ => "generator"
  | fixed _ => "tuple"
  | unsized _ => "object"
  | nowhere v => v.kindName

/-- The items that a source gives to whoever goes through it. -/
def items? (m : Memory σ) : CheckSource σ → Option (List (CheckDraft σ))
  | list a => some (m.lists a)
  | iterator a => some (m.iterators a)
  | fixed items => some items
  | unsized items => some items
  | nowhere _ => none

/-- The memory after a source has given some of its items. -/
def advance (m : Memory σ) (given : Nat) : CheckSource σ → Memory σ
  | iterator a =>
    { m with iterators := fun b => if b = a then (m.iterators a).drop given else m.iterators b }
  | _ => m

/-- The number of items, where a source has a length. -/
def length? (m : Memory σ) : CheckSource σ → Option Nat
  | list a => some (m.lists a).length
  | fixed items => some items.length
  | _ => none

end CheckSource

/-- A risk as it is handed in or entered, with its checks in something of type `κ`. -/
structure RiskDraft (σ κ : Type) where
  name : Value
  checks : κ
  note : Value
  onRejected : Option (String → Value → Inspection → Act σ Unit)
  onAllowed : Option (String → Inspection → Act σ Unit)

/-- Anything that is handed in for registration. -/
inductive Candidate (σ : Type) where
  | draft (d : RiskDraft σ (CheckSource σ))
  | other (v : Value)

/-- The draft of a finished risk. -/
def Risk.toDraft {σ : Type} (k : Risk σ) : RiskDraft σ (CheckSource σ) :=
  ⟨.text k.name, .fixed (k.checks.map .noted), k.note, k.onRejected, k.onAllowed⟩

/-- The code points of a value that is a text. -/
def Value.points? : Value → Option (List Text.Point)
  | .text s => some (Text.points s)
  | .broken t => some t.points
  | _ => none

namespace RiskDraft

variable {σ κ : Type}

/-- Whether the name is a text that is not empty. -/
def isNamed (d : RiskDraft σ κ) : Bool :=
  d.name.points?.isSome && d.name.truth

/-- The risk of a draft with its checks at hand, if its name is a text that is not broken. -/
def risk? (d : RiskDraft σ (List (CheckDraft σ))) : Option (Risk σ) :=
  match d.name, d.checks.mapM CheckDraft.check? with
  | .text s, some checks => some ⟨s, checks, d.note, d.onRejected, d.onAllowed⟩
  | _, _ => none

end RiskDraft

/-! ### Cabinets -/

/-- The risks that were entered, in order, and what the caller's own collections hold. -/
structure Cabinet (σ : Type) where
  memory : Memory σ
  schemas : List (RiskDraft σ (CheckSource σ))

/-- The items up to the first at which to stop, this one included. -/
def CheckDraft.upTo {σ : Type} (stop : CheckDraft σ → Bool) :
    List (CheckDraft σ) → List (CheckDraft σ)
  | [] => []
  | x :: xs => if stop x then [x] else x :: upTo stop xs

namespace Cabinet

variable {σ : Type}

/-- Goes through a source up to the first item at which to stop. -/
def goThrough (stop : CheckDraft σ → Bool) (s : CheckSource σ) :
    Act (Cabinet σ) (List (CheckDraft σ)) := do
  match s.items? (← get).memory with
  | none => throw (.wrongKind "something to go through" s.kindName)
  | some items => do
    let given := CheckDraft.upTo stop items
    modify fun c => { c with memory := s.advance c.memory given.length }
    return given

/-- Asks a source for its length. -/
def askLength (s : CheckSource σ) : Act (Cabinet σ) Nat := do
  match s.length? (← get).memory with
  | some n => return n
  | none => throw (.wrongKind "something with a length" s.kindName)

/-- Whether a name is taken. -/
def isTaken (c : Cabinet σ) (name : Value) : Bool :=
  c.schemas.any fun k => k.name.points? == name.points?

/-- Registers a candidate. -/
def register : Candidate σ → Act (Cabinet σ) Unit
  | .other v => throw (.riskRefused (.notRisk v.kindName))
  | .draft d => do
    Act.failIf (!d.isNamed) (.riskRefused .missingName)
    let seen ← goThrough CheckDraft.isInert d.checks
    Act.failIf (seen.any CheckDraft.isInert) (.riskRefused (.notRunnable d.name))
    Act.failIf ((← get).isTaken d.name) (.riskRefused (.duplicate d.name))
    let given ← goThrough (fun _ => false) d.checks
    let copy := { d with checks := .fixed (given.map .wrapped) }
    modify fun c => { c with schemas := c.schemas ++ [copy] }
    -- The copy is entered, and what was handed in is asked for its length.
    discard (askLength d.checks)

/-- Registers candidates in order, up to the first that fails. -/
def registerAll (cs : List (Candidate σ)) : Act (Cabinet σ) Unit :=
  cs.forM register

/-- The risks that were entered, with the checks that they have now. -/
def listed (c : Cabinet σ) : List (RiskDraft σ (List (CheckDraft σ))) :=
  c.schemas.map fun k => { k with checks := (k.checks.items? c.memory).getD [] }

/-- The registry of the risks that were entered under names that are not broken, with some open
positions. -/
def registry (c : Cabinet σ) (positions : List (String × OpenPosition)) : Registry σ :=
  ⟨c.listed.filterMap RiskDraft.risk?, positions⟩

end Cabinet

end TradeGate
