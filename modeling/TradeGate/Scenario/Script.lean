import TradeGate.Journal.Basic
import TradeGate.Risk.Registration
import TradeGate.Stream

/-!
# Scripts

A scenario drives the library with scripted checks, callbacks and sources, and watches
what they are asked.  A script says what to answer; every run leaves a line behind.
`Reply` is what a scenario reports of one step.
-/

namespace TradeGate.Scenario

/-- The report on a step: values, or a fault with what is known beside it. -/
inductive Reply where
  | value (v : Value)
  | list (items : List Reply)
  | record (fields : List (String × Reply))
  | fault (e : Fault) (beside : List (String × Reply))
deriving Inhabited

namespace Reply

/-- The report on a result. -/
def ofResult {α : Type} (f : α → Reply) : Except Fault α → Reply
  | .ok a => f a
  | .error e => .fault e []

/-- The report on a step, its result under the name `r` or its fault, with the state after
the step. -/
def step (r : Except Fault Reply) (state : List (String × Reply)) : Reply :=
  match r with
  | .ok v => .record (("r", v) :: state)
  | .error e => .fault e state

def nothing : Reply := .value .null

def nat (n : Nat) : Reply := .value (.int n)

def text (s : String) : Reply := .value (.text s)

def bool (b : Bool) : Reply := .value (.bool b)

def texts (ss : List String) : Reply := .value (.list (ss.map .text))

def fields (fs : Fields) : Reply := .value (.record fs)

end Reply

/-- How far a scripted source is. -/
structure Progress where
  pulled : Nat
  begun : Bool
  finished : Bool
deriving Inhabited

/-- What scripts leave behind, the latest first. -/
structure World where
  /-- The runs of checks and callbacks. -/
  trace : List Value := []
  /-- The number of runs of a script by its name. -/
  counts : List (String × Nat) := []
  /-- The items and ends of sources. -/
  log : List Value := []
  sources : List (String × Progress) := []
  /-- The decisions that subscribers were told. -/
  told : List Value := []
  /-- The computations of indicators. -/
  computed : List Value := []
  journal : Journal := .empty
  clock : Value := .null

namespace World

/-- The number of the next run of a script, from zero. -/
def next (w : World) (name : String) : Nat × World :=
  let n := ((w.counts.find? fun c => c.1 == name).map Prod.snd).getD 0
  (n, { w with counts := (name, n + 1) :: w.counts.filter fun c => c.1 != name })

def trail (w : World) (line : List Value) : World :=
  { w with trace := .list line :: w.trace }

def progress (w : World) (source : String) : Progress :=
  ((w.sources.find? fun s => s.1 == source).map Prod.snd).getD default

def setProgress (w : World) (source : String) (p : Progress) : World :=
  { w with sources := (source, p) :: w.sources.filter fun s => s.1 != source }

end World

/-- One answer of a script: a result or a fault. -/
abbrev Scripted (α : Type) := Except Fault α

/-- The item of a script for a run; the last one repeats. -/
def item {α : Type} (default : α) (script : List α) (n : Nat) : α :=
  script[n]?.getD (script.getLast?.getD default)

/-! ### Checks and callbacks -/

/-- A scripted check.  `inTask` tells whether it runs as an asynchronous function. -/
structure CheckScript where
  label : Value
  records : Bool
  failure : Option Fault
  answers : List Answer
  inTask : Bool

/-- Runs a scripted check, which is counted under its name. -/
def CheckScript.run (s : CheckScript) (name : String) (i : Inspection) : Act World Answer := do
  modify fun w => w.trail (s.label :: (if s.records then [.record i.toFields] else []))
  let n ← modifyGet fun w => w.next name
  match s.failure with
  | some e => throw (if s.inTask then e.acrossTask else e)
  | none => return item (.value .null) s.answers n

/-- A scripted callback of a risk. -/
structure CallbackScript where
  label : Value
  failure : Option Fault

/-- Runs a scripted callback with its arguments, of which the texts are noted. -/
def CallbackScript.run (s : CallbackScript) (args : List Value) (i : Inspection) :
    Act World Unit := do
  let texts := args.filter fun v => v.kindName == "str"
  modify fun w => w.trail (s.label :: texts ++ [Fields.entry .decimal i.signal.openPrice])
  match s.failure with
  | some e => throw e
  | none => pure ()

/-- The draft of a risk with scripted callbacks. -/
def draft (name note : Value) (checks : CheckSource World)
    (rejected allowed : Option CallbackScript) : RiskDraft World (CheckSource World) where
  name := name
  checks := checks
  note := note
  onRejected := rejected.map fun c => fun symbol reason i => c.run [.text symbol, reason] i
  onAllowed := allowed.map fun c => fun symbol i => c.run [.text symbol] i

/-! ### Sources -/

/-- The kinds of sources: a generator, an iterator, an iterator that can be closed, or no
source at all. -/
inductive SourceKind where
  | generator
  | iterator
  | closable
  | raw
deriving DecidableEq

/-- A scripted source.  It makes an item when it is pulled, which may fail, and it fails
before the item of a given number. -/
structure SourceScript (α : Type) where
  kind : SourceKind
  items : List (Scripted α)
  failAt : Option Int
  failure : Fault
  closeFailure : Option Fault

/-- Notes an item or the end of a source under the current frame. -/
def note (tag : Value) (event : String) : Act World Unit := do
  let f := (← Act.stack).current
  modify fun w => { w with log := .list [tag, .text event, f.strategy] :: w.log }

namespace SourceScript

variable {α : Type} (s : SourceScript α)

/-- A fault as it leaves the source. -/
def leaving (e : Fault) : Fault :=
  if s.kind = .generator then e.acrossGenerator else e.acrossTask

/-- Closing notes the end and may fail. -/
def closing (tag : Value) : Act World Unit := do
  note tag "closed"
  match s.closeFailure with
  | some e => throw (s.leaving e)
  | none => pure ()

/-- Fails; an iterator may thereby signal its end. -/
def fail (e : Fault) : Act World (Pull α) :=
  match s.kind, e with
  | .generator, e => throw e.acrossGenerator
  | _, .raised "StopAsyncIteration" _ => pure .done
  | _, e => throw e.acrossTask

/-- Pulls the next item.  A generator that ends for any reason is over for good and notes
its end. -/
def pull (name : String) (tag : Value) : Act World (Pull α) := do
  let p := (← get).progress name
  let isGenerator := s.kind = .generator
  let finish (pulled : Nat) : Act World Unit := do
    modify fun w => w.setProgress name ⟨pulled, true, isGenerator⟩
    if isGenerator then s.closing tag
  if p.finished then return .done
  if s.failAt = some (p.pulled : Int) then
    finish p.pulled
    s.fail s.failure
  else
    match s.items[p.pulled]? with
    | some made => do
      note tag "item"
      match made with
      | .ok a => do
        modify fun w => w.setProgress name ⟨p.pulled + 1, true, false⟩
        return .item a
      | .error e => do
        finish (p.pulled + 1)
        s.fail e
    | none => do
      finish p.pulled
      return .done

/-- Closes a generator: one that did not begin or is over has nothing to do. -/
def closeGenerator (name : String) (tag : Value) : Act World Unit := do
  let p := (← get).progress name
  modify fun w => w.setProgress name { p with finished := true }
  if p.begun && !p.finished then s.closing tag

/-- The source of a script, whose progress is kept under a name; its lines carry a tag. -/
def source (name : String) (tag : Value) : Source World α where
  start := if s.kind = .raw then none else some (pure ())
  pull := s.pull name tag
  close :=
    match s.kind with
    | .generator => some (s.closeGenerator name tag)
    | .closable => some (s.closing tag)
    | _ => none

end SourceScript

end TradeGate.Scenario
