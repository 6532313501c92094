import TradeGate.Yaml.Node

/-!
# Merges

A mapping may take over the entries of other mappings: under a key for merging it names a
mapping, or a sequence of mappings.  What it takes over is put in front of its own entries,
so that they override it; of the mappings in a sequence the first counts most.  The nodes
are changed in place, because an alias may refer to the same mapping again.
-/

namespace TradeGate.Yaml

/-- An action that changes nodes. -/
abbrev Merges (α : Type) := StateT (Array Node) (Except Fault) α

namespace Merge

def fail {α : Type} : Merges α := throw .malformed

/-- The node of a given number. -/
def node (k : Nat) : Merges Node := do
  match (← get)[k]? with
  | some n => return n
  | none => fail

/-- The entries of a node, which must be a mapping. -/
def entries (k : Nat) : Merges (List (Nat × Nat)) := do
  match (← node k).content with
  | .mapping es => return es
  | _ => fail

/-- Gives other entries to a mapping. -/
def setEntries (k : Nat) (es : List (Nat × Nat)) : Merges Unit :=
  modify fun ns => ns.modify k fun n => { n with content := .mapping es }

/-- Gives another tag to a node. -/
def setTag (k : Nat) (t : Tag) : Merges Unit :=
  modify fun ns => ns.modify k fun n => { n with tag := t }

mutual

/-- Does the merges of a mapping from the entry at `index` on, where `front` was taken over
before.  The key that stands for a default becomes a text. -/
def mergeFrom (k index : Nat) (front : List (Nat × Nat)) : Nat → Merges Unit
  | 0 => fail
  | fuel + 1 => do
    let es ← entries k
    match es[index]? with
    | none => if !front.isEmpty then setEntries k (front ++ es)
    | some (key, value) =>
      match (← node key).tag with
      | .merge => do
        setEntries k (es.eraseIdx index)
        let taken ← handedOn value fuel
        mergeFrom k index (front ++ taken) fuel
      | .default => do
        setTag key .text
        mergeFrom k (index + 1) front fuel
      | _ => mergeFrom k (index + 1) front fuel

/-- The entries that a node hands on to a mapping that merges it. -/
def handedOn (value : Nat) : Nat → Merges (List (Nat × Nat))
  | 0 => fail
  | fuel + 1 => do
    match (← node value).content with
    | .mapping _ => do
      mergeFrom value 0 [] fuel
      entries value
    | .sequence items => handedOnByAll items fuel
    | .scalar .. => fail

/-- The entries that mappings hand on together, those of the last in front. -/
def handedOnByAll : List Nat → Nat → Merges (List (Nat × Nat))
  | [], _ => return []
  | _, 0 => fail
  | item :: rest, fuel + 1 => do
    discard (entries item)
    mergeFrom item 0 [] fuel
    let own ← entries item
    return (← handedOnByAll rest fuel) ++ own

end

/-- The number of entries of all mappings. -/
def entryCount (ns : Array Node) : Nat :=
  ns.foldl (fun count n =>
    match n.content with
    | .mapping es => count + es.length + 1
    | .sequence items => count + items.length + 1
    | .scalar .. => count) 1

/-- Does all merges of a mapping. -/
def run (k : Nat) : Merges Unit := do
  let size := entryCount (← get)
  mergeFrom k 0 [] (size * size)

end Merge

end TradeGate.Yaml
