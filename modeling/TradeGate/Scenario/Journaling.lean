import TradeGate.Journal.Json
import TradeGate.Scenario.Script
import TradeGate.Shelf

/-!
# Scenarios of a journal

Steps that record decisions, ask for figures, and write the journal's document to a
shelf of its own.
-/

namespace TradeGate.Scenario

/-- The frame that a recorded decision is given: none, a frame, or another value. -/
inductive GivenFrame where
  | none
  | frame (f : Except Fault Frame)
  | other (v : Value)

/-- One step on a journal. -/
inductive JournalStep where
  | record (d : Except Fault Decision) (given : GivenFrame) (around : Except Fault Stack)
  | rejections (symbol : Value)
  | counts
  | summary (symbol : Value)
  | rows
  | document
  | write (path : String)
  /-- A step that could not be set up. -/
  | idle (e : Fault)

namespace JournalStep

/-- Records a decision. -/
def recordOne (j : Journal) (d : Except Fault Decision) (given : GivenFrame)
    (around : Except Fault Stack) : Except Fault Journal := do
  let d ← d
  let current := (← around).current
  let f ←
    match given with
    | .none => .ok current
    | .frame f => f
    | .other v => Journal.frameFor v current
  return j.record d f

/-- Writes the document of a journal to an empty shelf.  The folders are made first. -/
def writeOne (j : Journal) (path : Path) : Except Fault Reply := do
  let (made, shelf) := Shelf.empty.makeFolders path.parent
  made
  let text ← j.document
  let shelf ← shelf.put path text
  return .record
    [("files", .texts shelf.paths), ("returned", .text path.text),
      ("same", .bool (shelf.document? path == some text)), ("bytes", .nat text.utf8ByteSize)]

/-- The row of a rejection in short. -/
def rejection (r : JournalRow) : Value :=
  .list [.text r.symbol, Fields.entry .text r.riskName, Fields.entry .text r.reason]

/-- Does one step: its result and the journal after it. -/
def run (j : Journal) : JournalStep → Except Fault Reply × Journal
  | record d given around =>
    match recordOne j d given around with
    | .ok j => (.ok .nothing, j)
    | .error e => (.error e, j)
  | rejections symbol => (.ok (.value (.list ((j.rejections symbol).map rejection))), j)
  | counts =>
    (.ok (.value (.list (j.countByRisk.map fun (name, n) =>
      .list [Fields.entry .text name, .int n]))), j)
  | summary symbol => (.ok (.fields (j.summary symbol).toFields), j)
  | rows => (.ok (.value (.list (j.rows.map fun r => .record r.toFields))), j)
  | document => (j.document.map .text, j)
  | write path => (writeOne j (.ofText path), j)
  | idle e => (.error e, j)

/-- The reports on a list of steps. -/
def runAll (j : Journal) : List JournalStep → List Reply
  | [] => []
  | s :: rest =>
    let (r, j) := s.run j
    .step r [("len", .nat j.rows.length)] :: runAll j rest

end JournalStep

end TradeGate.Scenario
