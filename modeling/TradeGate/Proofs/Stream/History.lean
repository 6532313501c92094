import TradeGate.Proofs.Stream.Entry

/-!
# Histories of a stream

A history is a list of calls on a new stream, each made in a context of its own.  The source
is traced: it does the same, and writes down how it is touched.  `h.after n` is the state
after the first `n` calls, so the places of a history are its points in time; what happened
before a place decides the state of the stream there.
-/

namespace TradeGate

/-! ### Traced sources -/

/-- What a source is asked, and what comes of it. -/
inductive Touch (α : Type) where
  | begun (r : Except Fault Unit)
  | pulled (r : Except Fault (Pull α))
  | closed (r : Except Fault Unit)

namespace Touch

variable {α : Type}

/-- The item that the source gives. -/
def item? : Touch α → Option α
  | pulled (.ok (.item a)) => some a
  | _ => none

/-- Whether the source is closed. -/
def isClosing : Touch α → Bool
  | closed _ => true
  | _ => false

end Touch

/-- The same action, which writes its end below the lines beside its state. -/
def Act.traced {σ τ β : Type} (line : Except Fault β → τ) (a : Act σ β) : Act (σ × List τ) β :=
  .ofOutcome fun stack (s, lines) =>
    let (r, s) := a.outcome stack s
    (r, s, lines ++ [line r])

@[simp]
theorem Act.outcome_traced
    {σ τ β : Type} (line : Except Fault β → τ) (a : Act σ β) (stack : Stack) (s : σ)
    (lines : List τ) :
  (a.traced line).outcome stack (s, lines)
    = ((a.outcome stack s).1, (a.outcome stack s).2, lines ++ [line (a.outcome stack s).1])
  := rfl

variable {σ α : Type}

/-- The same source, which writes down how it is touched. -/
def Source.traced (source : Source σ α) : Source (σ × List (Touch α)) α where
  start := source.start.map (Act.traced .begun)
  pull := source.pull.traced .pulled
  close := source.close.map (Act.traced .closed)

/-- A traced source that can be iterated writes down that it begins. -/
theorem Source.BeginsAt.traced
    {source : Source σ α} {stack : Stack} {w : σ} (h : source.BeginsAt stack w)
    (touches : List (Touch α)) :
  ∃ w', source.traced.begin.outcome stack (w, touches)
    = (.ok (), w', touches ++ [.begun (.ok ())])
  := by
  obtain ⟨w', h⟩ := h
  use w'
  unfold begin Source.traced at *
  cases hstart : source.start with
  | none => simp [hstart] at h
  | some start =>
    rw [hstart] at h
    simp only [Option.map_some, Act.outcome_traced, h]

/-! ### Calls -/

/-- A call on a stream, and the context in which it is made. -/
inductive StreamCall where
  | enter (c : Context)
  | next (c : Context)
  | exit (c : Context)

/-- What a call gives. -/
inductive StreamReply (α : Type) where
  | entered (r : Except Fault Unit)
  | delivered (r : Except Fault (Pull α))
  | left (r : Except Fault Unit)

/-- The item that a call delivers. -/
def StreamReply.item? : StreamReply α → Option α
  | delivered (.ok (.item a)) => some a
  | _ => none

/-- Whether a pull ends the source: it is exhausted or fails. -/
def Pull.ends : Except Fault (Pull α) → Bool
  | .ok (.item _) | .ok .later => false
  | .ok .done | .error _ => true

namespace Stream

/-- Answers a call: the reply, the stream, the context and the state of the source after it. -/
def answer (source : Source σ α) (s : Stream) (w : σ) :
    StreamCall → StreamReply α × Stream × Context × σ
  | .enter c =>
    let (r, s, c, w) := s.enter source c w
    (.entered r, s, c, w)
  | .next c =>
    let (r, s, w) := s.next source c w
    (.delivered r, s, c, w)
  | .exit c =>
    let (r, s, c, w) := s.exit source c w
    (.left r, s, c, w)

variable (source : Source σ α) (s : Stream) (c : Context) (w : σ)

/-- A stream that was not entered refuses to be drained. -/
theorem next_of_unused
    {s : Stream} (hs : s.active = false ∧ s.finished = false) :
  s.next source c w = (.error .notEntered, s, w)
  := by
  simp [next, hs.1, hs.2]

/-- A stream that is open and not exhausted pulls its source once, and is exhausted where
that ends the source. -/
theorem next_of_open
    {s : Stream} (ha : s.active = true) (ho : s.opened = true) (hf : s.finished = false) :
  s.next source c w
    = let (r, w) := source.pull.outcome c.stack w
      (r, { s with finished := Pull.ends r }, w)
  := by
  obtain ⟨f, scope, opened, finished⟩ := s
  obtain rfl : finished = false := hf
  obtain rfl : opened = true := ho
  simp only [next, ha, if_true, Bool.false_eq_true, if_false]
  rcases source.pull.outcome c.stack w with ⟨e | a | _ | _, w'⟩ <;> rfl

/-- A pull changes neither where a stream was entered nor whether it is open. -/
theorem next_keeps :
  (s.next source c w).2.1.scope = s.scope ∧ (s.next source c w).2.1.opened = s.opened
  := by
  by_cases hf : s.finished = true
  · rw [next_of_finished source hf]
    exact ⟨rfl, rfl⟩
  by_cases ha : s.active = true
  · by_cases ho : s.opened = true
    · rw [next_of_open source c w ha ho (Bool.eq_false_iff.mpr hf)]
      exact ⟨rfl, rfl⟩
    · simp [next, hf, ha, ho]
  · rw [next_of_unused source c w ⟨Bool.eq_false_iff.mpr ha, Bool.eq_false_iff.mpr hf⟩]
    exact ⟨rfl, rfl⟩

/-- How the source of a stream is closed when it is left: one that is still open and can be
closed, and no other. -/
def closing (stack : Stack) : Except Fault Unit × σ :=
  match source.close with
  | some close => if s.closesSource then close.outcome stack w else (.ok (), w)
  | none => (.ok (), w)

/-- Leaving an active stream restores the stack that was there when it was entered, in
whatever context it is left. -/
theorem exit_of_active
    {s : Stream} {scope : Scope} (hs : s.scope = some scope) :
  s.exit source c w
    = ((closing source s w c.stack).1, { s with scope := none, finished := true },
        { c with stack := scope.outer }, (closing source s w c.stack).2)
  := by
  simp only [exit, release, hs, Context.restore]
  rfl

/-- Leaving a stream that is not active leaves the context alone. -/
theorem exit_of_inactive
    {s : Stream} (hs : s.scope = none) :
  s.exit source c w
    = ((closing source s w c.stack).1, { s with scope := none, finished := true }, c,
        (closing source s w c.stack).2)
  := by
  simp only [exit, release, hs]
  rfl

/-- A stream that was never open, or is exhausted, does not close its source. -/
theorem closing_of_not_closesSource
    {s : Stream} (hs : s.closesSource = false) (stack : Stack) :
  closing source s w stack = (.ok (), w)
  := by
  simp only [closing, hs, Bool.false_eq_true, if_false]
  cases source.close <;> rfl

end Stream

/-! ### Histories -/

/-- Calls on a new stream whose source can be iterated. -/
structure StreamHistory (σ α : Type) where
  frame : Frame
  source : Source σ α
  wellFormed : source.WellFormed
  /-- The state of the source at the beginning. -/
  world : σ
  calls : List StreamCall

namespace StreamHistory

variable (h : StreamHistory σ α)

/-- The stream, the state of its source and the touches of it after the first `n` calls. -/
def after : Nat → Stream × σ × List (Touch α)
  | 0 => (.create h.frame, h.world, [])
  | n + 1 =>
    match h.calls[n]? with
    | some x =>
      let (_, s, _, w) := (after n).1.answer h.source.traced (after n).2 x
      (s, w)
    | none => after n

/-- The stream after the first `n` calls. -/
def stream (n : Nat) : Stream := (h.after n).1

/-- How the source was touched in the first `n` calls. -/
def touches (n : Nat) : List (Touch α) := (h.after n).2.2

/-- What comes of a call after the first `n`. -/
def answer (n : Nat) (x : StreamCall) :
    StreamReply α × Stream × Context × σ × List (Touch α) :=
  (h.stream n).answer h.source.traced (h.after n).2 x

/-- The call at a place is answered by a reply, which leaves a context behind. -/
def Answered (n : Nat) (x : StreamCall) (r : StreamReply α) (c : Context) : Prop :=
  h.calls[n]? = some x ∧ (h.answer n x).1 = r ∧ (h.answer n x).2.2.1 = c

/-- The call at a place enters the stream. -/
def Enters (n : Nat) : Prop :=
  ∃ c, h.calls[n]? = some (.enter c) ∧ (h.answer n (.enter c)).1 = .entered (.ok ())

/-- The call at a place leaves the stream. -/
def Exits (n : Nat) : Prop :=
  ∃ c, h.calls[n]? = some (.exit c)

/-- The call at a place finds the source of a stream that was entered exhausted, or sees it
fail. -/
def Exhausts (n : Nat) : Prop :=
  (∃ m < n, h.Enters m) ∧ ∃ c r, h.calls[n]? = some (.next c)
    ∧ (h.answer n (.next c)).1 = .delivered r ∧ Pull.ends r = true

/-- The stream was entered before a place. -/
def EnteredBefore (n : Nat) : Prop := ∃ m < n, h.Enters m

/-- The stream was left before a place. -/
def ExitedBefore (n : Nat) : Prop := ∃ m < n, h.Exits m

/-- The source was found exhausted, or failed, before a place. -/
def ExhaustedBefore (n : Nat) : Prop := ∃ m < n, h.Exhausts m

/-- The items that the first `n` calls delivered. -/
def delivered (n : Nat) : List α :=
  (List.range n).filterMap fun m => (h.calls[m]?).bind fun x => (h.answer m x).1.item?

end StreamHistory

end TradeGate
