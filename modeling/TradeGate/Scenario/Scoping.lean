import TradeGate.CallKey
import TradeGate.Scenario.Script

/-!
# Scenarios of scopes and streams

Steps that enter and leave scopes, drain scoped streams and start tasks.  A task runs in
a copy of the context; the open scopes and the streams are shared by all tasks.  Every
step is reported with the stack, the lines of the sources and the active streams.
-/

namespace TradeGate.Scenario

/-- When a consumer stops: after a number of items, or by failing after a number. -/
structure Patience where
  take : Option Int
  failAfter : Option Int
  failure : Fault

/-- A consumer that never stops by itself. -/
def Patience.endless : Patience := ⟨none, none, .cancelled⟩

/-- One step in a context. -/
inductive ScopeStep where
  | push (f : Except Fault Frame)
  | pop (n : Int)
  | create (stream : String) (script : SourceScript Value) (f : Except Fault Frame)
  | enter (stream : String)
  | next (stream : String)
  | exit (stream : String)
  | drain (stream : String) (p : Patience)
  | bare (stream : String)
  | call (f : Except Fault Frame) (c : Call) (failure : Option Fault)
  | key (symbol : Value)
  | frame
  | task (steps : List ScopeStep)
deriving Inhabited

/-- A stream and the script of its source. -/
structure ScriptedStream where
  stream : Stream
  script : SourceScript Value

/-- What all tasks share: open scopes, the oldest first, streams by name, the number of
tasks so far, and the sources. -/
structure ScopeDesk where
  scopes : List Scope
  streams : List (String × ScriptedStream)
  tasks : Nat
  world : World

namespace ScopeDesk

/-- A desk without scopes and streams. -/
def create : ScopeDesk := ⟨[], [], 0, {}⟩

/-- The stream of a given name. -/
def find (d : ScopeDesk) (name : String) : Except Fault ScriptedStream :=
  match d.streams.find? fun s => s.1 == name with
  | some (_, s) => .ok s
  | none => .error (.unknownKey (some (.text name)))

/-- The desk with a stream under a name. -/
def put (d : ScopeDesk) (name : String) (s : ScriptedStream) : ScopeDesk :=
  { d with streams := d.streams.filter (fun t => t.1 != name) ++ [(name, s)] }

/-- The position of an open scope; a negative number counts from the end. -/
def position? (d : ScopeDesk) (n : Int) : Option Nat :=
  let k := if n < 0 then n + d.scopes.length else n
  if 0 ≤ k ∧ k < d.scopes.length then some k.toNat else none

end ScopeDesk

/-- The names of the strategies on a stack. -/
def strategies (s : Stack) : Value :=
  .list (s.map Frame.strategy)

/-- The items of a stream and the stacks seen at them, until it ends or the consumer
stops; `fuel` bounds the number of pulls. -/
def consume (source : Source World Value) (p : Patience) (c : Context) :
    Nat → Stream → World → List (Value × Value) →
      Except Fault (List (Value × Value)) × Stream × World
  | 0, s, w, seen => (.ok seen.reverse, s, w)
  | fuel + 1, s, w, seen =>
    match s.next source c w with
    | (.error e, s, w) => (.error e, s, w)
    | (.ok (.item v), s, w) =>
      let seen := (v, strategies c.stack) :: seen
      if p.failAfter.any (· == (seen.length : Int)) then (.error p.failure, s, w)
      else if p.take.any (· == (seen.length : Int)) then (.ok seen.reverse, s, w)
      else consume source p c fuel s w seen
    | (.ok _, s, w) => (.ok seen.reverse, s, w)

namespace ScriptedStream

/-- The source of the stream of a given name. -/
def source (s : ScriptedStream) (name : String) : Source World Value :=
  s.script.source name (.text name)

/-- Consumes the stream of a given name. -/
def consumeAll (s : ScriptedStream) (name : String) (p : Patience) (c : Context) (w : World) :
    Except Fault (List (Value × Value)) × ScriptedStream × World :=
  let (r, t, w) := consume (s.source name) p c (s.script.items.length + 1) s.stream w []
  (r, { s with stream := t }, w)

/-- Enters the stream, consumes it, and leaves it in any case. -/
def drain (s : ScriptedStream) (name : String) (p : Patience) (c : Context) (w : World) :
    Except Fault (List (Value × Value)) × ScriptedStream × Context × World :=
  match s.stream.enter (s.source name) c w with
  | (.error e, t, c, w) => (.error e, { s with stream := t }, c, w)
  | (.ok _, t, c, w) =>
    let (r, s, w) := { s with stream := t }.consumeAll name p c w
    let (left, t, c, w) := s.stream.exit (s.source name) c w
    (left.bind fun _ => r, { s with stream := t }, c, w)

end ScriptedStream

/-- What a step gives: its result, the desk and the context after it. -/
abbrev ScopeStepped := Except Fault Reply × ScopeDesk × Context

/-- Works on the stream of a given name. -/
def withStream (d : ScopeDesk) (c : Context) (name : String)
    (f : ScriptedStream → Except Fault Reply × ScriptedStream × Context × World) :
    ScopeStepped :=
  match d.find name with
  | .error e => (.error e, d, c)
  | .ok s =>
    let (r, s, c, w) := f s
    (r, { d.put name s with world := w }, c)

/-- The report on a frame. -/
def frameReply (f : Frame) : Reply := .fields f.toFields

namespace ScopeStep

/-- The state after a step. -/
def state (d : ScopeDesk) (c : Context) : List (String × Reply) :=
  let stack := if c.stack.isEmpty then [.empty] else c.stack
  [("stack", .list (stack.map frameReply)), ("has", .bool !c.stack.isEmpty),
    ("log", .value (.list d.world.log.reverse)),
    ("active", .record (d.streams.map fun s => (s.1, .bool s.2.stream.active)))]

mutual

/-- Does one step. -/
def run (d : ScopeDesk) (c : Context) : ScopeStep → ScopeStepped
  | push (.error e) => (.error e, d, c)
  | push (.ok f) =>
    let (scope, c) := c.enter f
    (.ok (.record [("depth", .nat c.stack.depth)]), { d with scopes := d.scopes ++ [scope] }, c)
  | pop n =>
    match (d.position? n).bind fun k => (d.scopes[k]?).map (k, ·) with
    | none =>
      (.error (.badIndex
        (if d.scopes.isEmpty then "pop from empty list" else "pop index out of range")), d, c)
    | some (k, scope) =>
      let d := { d with scopes := d.scopes.eraseIdx k }
      match c.leave scope with
      | .ok c => (.ok (.bool false), d, c)
      | .error e => (.error e, d, c)
  | create _ _ (.error e) => (.error e, d, c)
  | create name script (.ok f) =>
    let d := d.put name ⟨.create f, script⟩
    (.ok (frameReply f), { d with world := d.world.setProgress name default }, c)
  | enter name => withStream d c name fun s =>
    let (r, t, c, w) := s.stream.enter (s.source name) c d.world
    (r.map fun _ => .bool true, { s with stream := t }, c, w)
  | next name => withStream d c name fun s =>
    let (r, t, w) := s.stream.next (s.source name) c d.world
    let reply : Pull Value → Reply
      | .item v => .fields [("item", v)]
      | _ => .text "end"
    (r.map reply, { s with stream := t }, c, w)
  | exit name => withStream d c name fun s =>
    let (r, t, c, w) := s.stream.exit (s.source name) c d.world
    (r.map fun _ => .bool false, { s with stream := t }, c, w)
  | drain name p => withStream d c name fun s =>
    let (r, s, c, w) := s.drain name p c d.world
    (r.map fun seen => .fields
      [("items", .list (seen.map Prod.fst)), ("seen", .list (seen.map Prod.snd))], s, c, w)
  | bare name => withStream d c name fun s =>
    let (r, s, w) := s.consumeAll name .endless c d.world
    (r.map fun seen => .value (.list (seen.map Prod.fst)), s, c, w)
  | call f args failure =>
    let taken := (args.named? "fn").isSome || (args.named? "frame").isSome
    match if taken then .error (.wrongKind "one function and one frame" "two") else f, failure with
    | .error e, _ => (.error e, d, c)
    | .ok _, some e => (.error e.acrossTask, d, c)
    | .ok f, none =>
      (.ok (.record [("stack", .list ((f :: c.stack).map frameReply)),
        ("args", .value (.list args.args)), ("kwargs", .fields args.named)]), d, c)
  | key symbol => (.ok (.text (c.stack.current.cacheKey symbol)), d, c)
  | frame =>
    let f := c.stack.current
    (.ok (.list [.text f.mode, .nat c.stack.depth, .bool f.isEmpty, .bool c.stack.isEmpty]), d, c)
  | task steps =>
    let id := d.tasks + 1
    let (d, replies) := runAll { d with tasks := id } { c with id := id } steps
    (.ok (.list replies), d, c)

/-- The desk after a list of steps, and the reports on them. -/
def runAll (d : ScopeDesk) (c : Context) : List ScopeStep → ScopeDesk × List Reply
  | [] => (d, [])
  | s :: rest =>
    let (r, d, c) := run d c s
    let reply := Reply.step r (state d c)
    let (d, more) := runAll { d with world := { d.world with log := [] } } c rest
    (d, reply :: more)

end

/-- The reports on the steps of a scenario. -/
def report (steps : List ScopeStep) : Reply :=
  .list (runAll .create ⟨0, []⟩ steps).2

end ScopeStep

end TradeGate.Scenario
