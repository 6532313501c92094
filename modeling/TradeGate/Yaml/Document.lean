import TradeGate.Yaml.Merge

/-!
# The value of a document

A node stands for a value.  The scalars of a collection have their values when the
collection is looked at; the collections in it are looked at after it, level by level.
Keys must be scalars; of equal keys the last entry counts, and entries whose keys are no
texts are left out of the record.
-/

namespace TradeGate.Yaml

/-- What a node stands for; other nodes are given by their numbers. -/
inductive Built where
  | scalar (v : Value)
  | list (items : List Nat)
  | pairs (items : List (Nat × Nat))
  | record (entries : List (Value × Nat))
  | keys (vs : List Value)
deriving Inhabited

/-- The nodes, what they stand for as far as it is known, and the collections that were not
looked at yet, the last one first. -/
structure Building where
  nodes : Array Node
  built : Array (Option Built)
  pending : List Nat

/-- An action that finds what nodes stand for. -/
abbrev Builds (α : Type) := StateT Building (Except Fault) α

namespace Building

def fail {α : Type} : Builds α := throw .malformed

/-- Runs an action on the nodes. -/
def onNodes {α : Type} (a : Merges α) : Builds α := do
  let b ← get
  let (x, ns) ← a.run b.nodes
  set { b with nodes := ns }
  return x

/-- The node of a given number. -/
def node (k : Nat) : Builds Node := onNodes (Merge.node k)

/-- Notes what a node stands for. -/
def put (k : Nat) (b : Built) : Builds Unit :=
  modify fun s => { s with built := s.built.setIfInBounds k (some b) }

/-- The text of a scalar.  A mapping stands for the scalar under its key for a default. -/
def text (k : Nat) : Nat → Builds (String × ScalarForm)
  | 0 => fail
  | fuel + 1 => do
    match (← node k).content with
    | .scalar s form => return (s, form)
    | .mapping es => do
      match ← es.findM? fun e => do return (← node e.1).tag == .default with
      | some (_, v) => text v fuel
      | none => fail
    | .sequence _ => fail

/-- The value of a node with the tag of a scalar.  An instant must be a scalar itself. -/
def scalarValue (k : Nat) (n : Node) : Builds Value := do
  let (s, form) ← text k ((← get).nodes.size + 1)
  match n.tag, n.content with
  | .instant, .scalar .. => Scalar.value .instant s form
  | .instant, _ => throw (.wrongKind "text" "nodes")
  | t, _ => Scalar.value t s form

/-- Finds what a node stands for, unless it is known.  A collection is looked at later. -/
def build (k : Nat) : Builds Unit := do
  if ((← get).built[k]?.join).isSome then return
  let n ← node k
  if n.tag.isCollection then
    put k (.list [])
    modify fun s => { s with pending := k :: s.pending }
  else put k (.scalar (← scalarValue k n))

/-- The value of a key, which must be a scalar. -/
def keyValue (k : Nat) : Builds Value := do
  build k
  match (← get).built[k]?.join with
  | some (.scalar v) => return v
  | _ => fail

/-- The keys of a mapping with the numbers of their values, after all merges. -/
def entries (k : Nat) : Builds (List (Value × Nat)) := do
  discard (onNodes (Merge.entries k))
  onNodes (Merge.run k)
  (← onNodes (Merge.entries k)).mapM fun (key, value) => do
    let v ← keyValue key
    build value
    return (v, value)

/-- The entry of a mapping of one entry. -/
def singleEntry (k : Nat) : Builds (Nat × Nat) := do
  match ← onNodes (Merge.entries k) with
  | [(key, value)] => do
    build key
    build value
    return (key, value)
  | _ => fail

/-- The items of a sequence. -/
def items (k : Nat) : Builds (List Nat) := do
  match (← node k).content with
  | .sequence ks => return ks
  | _ => fail

/-- Whether two keys are the same: equal, or both not a number. -/
def sameKey (x y : Value) : Bool :=
  match x, y with
  | .float a, .float b => a == b || (a.isNaN && b.isNaN)
  | x, y => (x.same y).toOption == some true

/-- The keys without repetitions. -/
def distinct (vs : List Value) : List Value :=
  vs.foldl (fun seen v => if seen.any (sameKey v) then seen else seen ++ [v]) []

/-- Looks at a collection. -/
def fill (k : Nat) : Builds Unit := do
  match (← node k).tag with
  | .sequence => do
    let ks ← items k
    ks.forM build
    put k (.list ks)
  | .mapping => do put k (.record (← entries k))
  | .keys => do put k (.keys (distinct ((← entries k).map Prod.fst)))
  | _ => do put k (.pairs (← (← items k).mapM singleEntry))

/-- Looks at all collections, level by level; `fuel` bounds the number of levels. -/
def fillAll : Nat → Builds Unit
  | 0 => pure ()
  | fuel + 1 => do
    let level := (← get).pending.reverse
    if !level.isEmpty then
      modify fun s => { s with pending := [] }
      level.forM fill
      fillAll fuel

/-- The fields with a value under a name. -/
def putField (name : String) (v : Value) : Fields → Fields
  | [] => [(name, v)]
  | (k, w) :: rest => if k = name then (k, v) :: rest else (k, w) :: putField name v rest

/-- The record of entries, those with texts as keys. -/
def record (entries : List (Value × Value)) : Value :=
  .record (entries.foldl (fun fields e =>
    match e.1 with
    | .text s => putField s e.2 fields
    | _ => fields) [])

/-- The value of what a node stands for, given the values of the nodes in it. -/
def value (inner : Nat → Value) : Option Built → Value
  | none => .null
  | some (.scalar v) => v
  | some (.list ks) => .list (ks.map inner)
  | some (.pairs ps) => .list (ps.map fun p => .list [inner p.1, inner p.2])
  | some (.record es) => record (es.map fun e => (e.1, inner e.2))
  | some (.keys vs) => .list vs

/-- The values of all nodes to a depth; what lies deeper is empty. -/
def values (built : Array (Option Built)) : Nat → Array Value
  | 0 => built.map fun b =>
    match b with
    | some (.record _) => .record []
    | some (.scalar v) => v
    | _ => .list []
  | depth + 1 =>
    let inner := values built depth
    built.map (value fun k => (inner[k]?).getD .null)

end Building

/-- The value of a document, and whether all of its keys are texts. -/
structure Document where
  value : Value
  hasTextKeys : Bool
deriving Repr

namespace Document

/-- The depth to which a document has a value; nothing that lies deeper is ever read.  A
node that contains itself has no end. -/
def depth : Nat := 8

/-- The document of a node. -/
def ofNode (k : Nat) (nodes : Array Node) : Except Fault Document := do
  let start : Building := ⟨nodes, nodes.map fun _ => none, []⟩
  let all : Builds Unit := do
    Building.build k
    Building.fillAll (nodes.size + 1)
  let ((), b) ← all.run start
  let isText (v : Value) : Bool := v.kindName == "str"
  let hasTextKeys :=
    match b.built[k]?.join with
    | some (.record es) => es.all fun e => isText e.1
    | _ => true
  return ⟨((Building.values b.built depth)[k]?).getD .null, hasTextKeys⟩

/-- The document of a text; a text without one stands for nothing. -/
def ofText (s : String) : Except Fault Document := do
  match ← Node.ofText s with
  | (none, _) => return ⟨.null, true⟩
  | (some k, nodes) => ofNode k nodes

end Document

end TradeGate.Yaml
