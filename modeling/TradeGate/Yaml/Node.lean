import TradeGate.Yaml.Scalar
import TradeGate.Yaml.Token.Lexer

/-!
# Nodes

A document is one node: a scalar, a sequence of nodes or a mapping from nodes to nodes,
each with its tag.  A node may be given a name, and the name stands for the node after it
and within it, so nodes refer to each other by their numbers.  A text holds at most one
document.
-/

namespace TradeGate.Yaml

/-- What a node consists of; other nodes are given by their numbers. -/
inductive Content where
  | scalar (text : String) (form : ScalarForm)
  | sequence (items : List Nat)
  | mapping (entries : List (Nat × Nat))
deriving Repr, Inhabited

/-- A node of a document. -/
structure Node where
  tag : Tag
  content : Content
deriving Repr

instance : Inhabited Node := ⟨⟨.null, .scalar "" .plain⟩⟩

/-- The tokens to come, the abbreviations of tags, the named nodes, and all nodes. -/
structure NodeReader where
  lexer : Lexer
  /-- The number of the next token. -/
  place : Nat
  handles : List (String × String)
  anchors : List (String × Nat)
  nodes : Array Node

/-- An action that reads nodes. -/
abbrev Reads (α : Type) := StateT NodeReader (Except Fault) α

namespace Node

def fail {α : Type} : Reads α := throw .malformed

/-- The next token. -/
def next? : Reads (Option Token) := do
  let ⟨lexer, place, handles, anchors, nodes⟩ ← get
  let (t, lexer) ← (Lexer.token? place).run lexer
  set (⟨lexer, place, handles, anchors, nodes⟩ : NodeReader)
  return t

def drop : Reads Unit := modify fun r => { r with place := r.place + 1 }

/-- Takes the next token if it is the given one. -/
def accept (t : Token) : Reads Bool := do
  if (← next?) == some t then do
    drop
    return true
  else return false

/-- Whether the next token is one of some. -/
def isNext (ts : List Token) : Reads Bool := do return (← next?).any ts.contains

/-- Takes a name, if there is one. -/
def anchor? : Reads (Option String) := do
  match ← next? with
  | some (.anchor a) => do
    drop
    return some a
  | _ => return none

/-- Takes a tag, if there is one. -/
def tag? : Reads (Option Token) := do
  match ← next? with
  | some (.tag h s) => do
    drop
    return some (.tag h s)
  | _ => return none

/-- Takes the name and the tag of a node, in either order. -/
def properties : Reads (Option String × Option Token) := do
  match ← anchor? with
  | some a => return (some a, ← tag?)
  | none =>
    match ← tag? with
    | some t => return (← anchor?, some t)
    | none => return (none, none)

/-- The name of a tag with its handle replaced. -/
def tagName : Token → Reads String
  | .tag (some h) s => do
    match (← get).handles.find? fun x => x.1 == h with
    | some (_, expansion) => return expansion ++ s
    | none => fail
  | .tag none s => return s
  | _ => fail

/-- The tag of a scalar. -/
def scalarTag (tag : Option String) (form : ScalarForm) (text : String) : Tag :=
  match tag with
  | none => if form = .plain then .ofForm text else .text
  | some "!" => .ofForm text
  | some s => .ofName s

/-- The tag of a collection. -/
def collectionTag (tag : Option String) (standard : Tag) : Tag :=
  match tag with
  | none => standard
  | some "!" => standard
  | some s => .ofName s

/-- Adds a node. -/
def add (n : Node) : Reads Nat := do
  let k := (← get).nodes.size
  modify fun r => { r with nodes := r.nodes.push n }
  return k

/-- Adds a node where nothing is written. -/
def empty : Reads Nat := add ⟨.null, .scalar "" .plain⟩

/-- Adds a node under a name. -/
def addNamed (anchor : Option String) (n : Node) : Reads Nat := do
  let k ← add n
  match anchor with
  | none => pure ()
  | some a => modify fun r => { r with anchors := (a, k) :: r.anchors }
  return k

/-- Adds a node under a name that stands for it in its content already. -/
def addAround (anchor : Option String) (tag : Tag) (read : Reads Content) : Reads Nat := do
  let k ← addNamed anchor ⟨tag, .sequence []⟩
  let content ← read
  modify fun r => { r with nodes := r.nodes.setIfInBounds k ⟨tag, content⟩ }
  return k

/-- A name must be new where the node after it begins. -/
def checkAnchor (anchor : Option String) : Reads Unit := do
  discard next?
  match anchor with
  | none => pure ()
  | some a => if (← get).anchors.any fun x => x.1 == a then fail

/-- The ends of an entry in a block. -/
def entryEnds : List Token := [.blockEntry, .blockEnd]

/-- The ends of an entry in a sequence without a block of its own. -/
def looseEnds : List Token := [.blockEntry, .key, .value, .blockEnd]

/-- The ends of a key or a value in a block. -/
def pairEnds : List Token := [.key, .value, .blockEnd]

mutual

/-- A node; in a block it may be a block, and a sequence in it may stand without
indentation. -/
def read (inBlock loose : Bool) : Nat → Reads Nat
  | 0 => fail
  | fuel + 1 => do
    if let some (.alias a) ← next? then
      drop
      match (← get).anchors.find? fun x => x.1 == a with
      | some (_, n) => return n
      | none => fail
    else
      let (anchor, tag) ← properties
      let tag ← tag.mapM tagName
      checkAnchor anchor
      readContent inBlock loose anchor tag fuel

/-- A node with a name and a tag; where there is either its content may be missing. -/
def readContent (inBlock loose : Bool) (anchor tag : Option String) : Nat → Reads Nat
  | 0 => fail
  | fuel + 1 => do
    let sequenceOf (items : Reads (List Nat)) : Reads Nat :=
      addAround anchor (collectionTag tag .sequence) (items.map Content.sequence)
    let mappingOf (entries : Reads (List (Nat × Nat))) : Reads Nat :=
      addAround anchor (collectionTag tag .mapping) (entries.map Content.mapping)
    let scalarOf (text : String) (form : ScalarForm) : Reads Nat :=
      addNamed anchor ⟨scalarTag tag form text, .scalar text form⟩
    match ← next? with
    | some (.scalar s form) => do
      drop
      scalarOf s form
    | some .flowSequence => do
      drop
      sequenceOf (flowItems true fuel)
    | some .flowMapping => do
      drop
      mappingOf (flowPairs true fuel)
    | t =>
      if loose && t == some .blockEntry then sequenceOf (looseItems fuel)
      else if inBlock && t == some .blockSequence then do
        drop
        sequenceOf (blockItems fuel)
      else if inBlock && t == some .blockMapping then do
        drop
        mappingOf (blockPairs fuel)
      else if anchor.isSome || tag.isSome then scalarOf "" .plain
      else fail

/-- The entries of a block sequence. -/
def blockItems : Nat → Reads (List Nat)
  | 0 => fail
  | fuel + 1 => do
    if ← accept .blockEntry then
      let n ← if ← isNext entryEnds then empty else read true false fuel
      return n :: (← blockItems fuel)
    else if ← accept .blockEnd then return []
    else fail

/-- The entries of a sequence without a block of its own. -/
def looseItems : Nat → Reads (List Nat)
  | 0 => fail
  | fuel + 1 => do
    if ← accept .blockEntry then
      let n ← if ← isNext looseEnds then empty else read true false fuel
      return n :: (← looseItems fuel)
    else return []

/-- A key or a value in a block mapping. -/
def pairPart : Nat → Reads Nat
  | 0 => fail
  | fuel + 1 => do
    if ← isNext pairEnds then empty else read true true fuel

/-- The entries of a block mapping. -/
def blockPairs : Nat → Reads (List (Nat × Nat))
  | 0 => fail
  | fuel + 1 => do
    if ← accept .key then
      let k ← pairPart fuel
      let v ← if ← accept .value then pairPart fuel else empty
      return (k, v) :: (← blockPairs fuel)
    else if ← accept .blockEnd then return []
    else fail

/-- A key or a value in brackets, empty where one of some tokens follows. -/
def flowPart (ends : List Token) : Nat → Reads Nat
  | 0 => fail
  | fuel + 1 => do
    if ← isNext ends then empty else read false false fuel

/-- The entries of a sequence in brackets; a single pair is a mapping. -/
def flowItems (first : Bool) : Nat → Reads (List Nat)
  | 0 => fail
  | fuel + 1 => do
    if ← accept .flowSequenceEnd then return []
    if !first then
      if !(← accept .flowEntry) then fail
    if ← accept .key then
      let k ← flowPart [.value, .flowEntry, .flowSequenceEnd] fuel
      let v ← if ← accept .value then flowPart [.flowEntry, .flowSequenceEnd] fuel
        else empty
      let pair ← add ⟨.mapping, .mapping [(k, v)]⟩
      return pair :: (← flowItems false fuel)
    else if ← accept .flowSequenceEnd then return []
    else
      let n ← read false false fuel
      return n :: (← flowItems false fuel)

/-- The entries of a mapping in brackets; a key alone has an empty value. -/
def flowPairs (first : Bool) : Nat → Reads (List (Nat × Nat))
  | 0 => fail
  | fuel + 1 => do
    if ← accept .flowMappingEnd then return []
    if !first then
      if !(← accept .flowEntry) then fail
    if ← accept .key then
      let k ← flowPart [.value, .flowEntry, .flowMappingEnd] fuel
      let v ← if ← accept .value then flowPart [.flowEntry, .flowMappingEnd] fuel
        else empty
      return (k, v) :: (← flowPairs false fuel)
    else if ← accept .flowMappingEnd then return []
    else
      let k ← read false false fuel
      return (k, ← empty) :: (← flowPairs false fuel)

end

/-! ### Documents -/

/-- The standard abbreviations of tags. -/
def standardHandles : List (String × String) := [("!", "!"), ("!!", Tag.standard)]

/-- Takes directives: at most one version, which must be the first, and distinct
abbreviations. -/
def directives (versioned : Bool) (handles : List (String × String)) : Nat → Reads Unit
  | 0 => fail
  | fuel + 1 => do
    match ← next? with
    | some (.directive d) => do
      drop
      match d with
      | .version major => do
        if versioned || major != 1 then fail
        directives true handles fuel
      | .abbreviation h expansion => do
        if handles.any fun x => x.1 == h then fail
        directives versioned ((h, expansion) :: handles) fuel
      | .other => directives versioned handles fuel
    | _ => modify fun r => { r with handles := handles ++ standardHandles }

/-- Takes ends of documents. -/
def dropEnds : Nat → Reads Unit
  | 0 => pure ()
  | fuel + 1 => do
    if ← accept .documentEnd then dropEnds fuel

/-- The document of a text, if it has one.  Where another one follows, its directives are
read before it is refused. -/
def document (fuel : Nat) : Reads (Option Nat) := do
  match ← next? with
  | none => return none
  | some t => do
    let explicit :=
      match t with
      | .directive _ => true
      | .documentStart => true
      | _ => false
    let n ←
      if explicit then do
        directives false [] fuel
        if !(← accept .documentStart) then fail
        match ← next? with
        | none => empty
        | some (.directive _) => empty
        | some .documentStart => empty
        | some .documentEnd => empty
        | _ => read true false fuel
      else read true false fuel
    dropEnds fuel
    if (← next?).isSome then
      directives false [] fuel
      fail
    return some n

/-- The nodes of a text and the number of the one that is its document, if it has one. -/
def ofText (s : String) : Except Fault (Option Nat × Array Node) := do
  let l ← Lexer.ofText s
  let (n, r) ← (document (16 * s.length + 16)).run ⟨l, 0, standardHandles, [], #[]⟩
  return (n, r.nodes)

end Node

end TradeGate.Yaml
