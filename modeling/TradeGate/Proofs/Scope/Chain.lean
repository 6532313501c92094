import TradeGate.Proofs.Scope.Program

/-!
# The chain of frames

Every scope and every stream that is open remembers the stack below its frame, in the
context of the task.  A step keeps it so; hence the stack is made of the frames of the open
blocks, from the innermost outwards, and of what was there before.
-/

namespace TradeGate

variable {σ α : Type}

/-! ### Operations on nested blocks -/

/-- A stream that is entered for the first time over a source that can be iterated is open
above the current stack. -/
theorem Stream.enter_of_wellFormed
    {source : Source σ α} (hs : source.WellFormed) (f : Frame) (c : Context) (w : σ) :
  ∃ w', source.begin.outcome (f :: c.stack) w = (.ok (), w')
    ∧ (create f).enter source c w
      = (.ok (), ⟨f, some ⟨c.id, c.stack⟩, true, false⟩, { c with stack := f :: c.stack }, w')
  := by
  obtain ⟨w', hbegin⟩ := hs (f :: c.stack) w
  use w', hbegin
  rw [enter_of_unused source (s := create f) ⟨rfl, rfl⟩]
  simp only [create, hbegin]
  rfl

namespace Config

variable (p : Config σ α)

theorem step_halt
    {fl : Flow} (hp : p.now = .halt fl) :
  p.step = p.resume fl
  := by
  simp only [step, hp]

/-- What cannot serve as a frame fails, and changes nothing else. -/
theorem openScope_of_error
    {g : Given} {e : Fault} (hg : g.toFrame = .error e) (body : Block σ α) :
  p.openScope g body = { p with now := .halt (.fault e) }
  := by
  simp only [openScope, hg]

/-- A scope remembers the current stack. -/
theorem openScope_of_ok
    {g : Given} {f : Frame} (hg : g.toFrame = .ok f) (body : Block σ α) :
  p.openScope g body
    = { p with
        now := body, waiting := .scope f ⟨p.context.id, p.context.stack⟩ :: p.waiting,
        context := { p.context with stack := f :: p.context.stack } }
  := by
  simp only [openScope, hg]
  rfl

/-- What cannot serve as a frame fails before there is a stream. -/
theorem openStream_of_error
    {g : Given} {e : Fault} (hg : g.toFrame = .error e)
    (source : {s : Source σ α // s.WellFormed}) (body : Block σ α) :
  p.openStream g source body = { p with now := .halt (.fault e) }
  := by
  simp only [openStream, hg]

/-- A stream that is entered remembers the current stack. -/
theorem openStream_of_ok
    {g : Given} {f : Frame} (hg : g.toFrame = .ok f)
    (source : {s : Source σ α // s.WellFormed}) (body : Block σ α) :
  ∃ w, source.1.begin.outcome (f :: p.context.stack) p.state = (.ok (), w)
    ∧ p.openStream g source body
      = { p with
          now := body, waiting := .stream f :: p.waiting,
          streams :=
            ⟨⟨f, some ⟨p.context.id, p.context.stack⟩, true, false⟩, source⟩ :: p.streams,
          context := { p.context with stack := f :: p.context.stack }, state := w }
  := by
  obtain ⟨w, hbegin, henter⟩ := Stream.enter_of_wellFormed source.2 f p.context p.state
  use w, hbegin
  simp only [openStream, hg, henter]

/-- A scope that is left where it was entered brings back the stack it remembers. -/
theorem resume_scope
    {f : Frame} {outer : Stack} {rest : List (Waiting σ α)}
    (hp : p.waiting = .scope f ⟨p.context.id, outer⟩ :: rest) (fl : Flow) :
  p.resume fl
    = { p with now := .halt fl, waiting := rest, context := { p.context with stack := outer } }
  := by
  simp only [resume, hp, closeScope, Context.leave, if_true]

/-- A stream that is left brings back the stack it remembers, however its source is closed. -/
theorem resume_stream
    {f : Frame} {outer : Stack} {rest : List (Waiting σ α)} {o : OpenStream σ α}
    {os : List (OpenStream σ α)} (hp : p.waiting = .stream f :: rest) (hs : p.streams = o :: os)
    (ho : o.stream.scope = some ⟨p.context.id, outer⟩) (fl : Flow) :
  p.resume fl
    = let (r, w) := Stream.closing o.source.1 o.stream p.state p.context.stack
      { p with
        now := .halt (fl.closed r), waiting := rest, streams := os,
        context := { p.context with stack := outer }, state := w }
  := by
  simp only [resume, hp, closeStream, hs, Stream.exit_of_active o.source.1 p.context p.state ho]

end Config

/-! ### Nesting -/

/-- What waits is properly nested above a context: every scope and every stream, which is
open, remembers the stack below its frame. -/
inductive Nested (base : Context) :
    List (Waiting σ α) → List (OpenStream σ α) → Stack → Prop where
  | nil : Nested base [] [] base.stack
  | after {ws os stack} (next : Flow → Block σ α) (h : Nested base ws os stack) :
    Nested base (.after next :: ws) os stack
  | scope {ws os stack} (f : Frame) (h : Nested base ws os stack) :
    Nested base (.scope f ⟨base.id, stack⟩ :: ws) os (f :: stack)
  | stream {ws os stack o} (f : Frame) (h : Nested base ws os stack)
      (hscope : o.stream.scope = some ⟨base.id, stack⟩) (hopened : o.stream.opened = true) :
    Nested base (.stream f :: ws) (o :: os) (f :: stack)

namespace Nested

variable {base : Context} {ws : List (Waiting σ α)} {os : List (OpenStream σ α)} {stack : Stack}

/-- The frames of the blocks that are open stand above the stack from before. -/
theorem stack_eq
    (h : Nested base ws os stack) :
  stack = ws.filterMap Waiting.frame? ++ base.stack
  := by
  induction h with
  | nil => rfl
  | after next _ ih => exact ih
  | scope f _ ih => exact congrArg (f :: ·) ih
  | stream f _ _ _ ih => exact congrArg (f :: ·) ih

/-- The streams of open blocks are open. -/
theorem opened
    (h : Nested base ws os stack) {o : OpenStream σ α} (ho : o ∈ os) :
  o.stream.active = true ∧ o.stream.opened = true
  := by
  induction h with
  | nil => cases ho
  | after next _ ih => exact ih ho
  | scope f _ ih => exact ih ho
  | stream f _ hscope hopened ih =>
    obtain rfl | ho := List.mem_cons.mp ho
    · use by simp [Stream.active, hscope], hopened
    · exact ih ho

/-- A stream that remembers the same may take the place of another. -/
theorem set
    (h : Nested base ws os stack) {k : Nat} {o : OpenStream σ α} (ho : os[k]? = some o)
    {s : Stream} (hs : s.scope = o.stream.scope ∧ s.opened = o.stream.opened) :
  Nested base ws (os.set k { o with stream := s }) stack
  := by
  induction h generalizing k with
  | nil => simp at ho
  | after next _ ih => exact .after next (ih ho)
  | scope f _ ih => exact .scope f (ih ho)
  | stream f h hscope hopened ih =>
    cases k with
    | zero =>
      obtain rfl : _ = o := Option.some.inj ho
      exact .stream f h (hs.1.trans hscope) (hs.2.trans hopened)
    | succ k => exact .stream f (ih ho) hscope hopened

end Nested

namespace Config

/-- The open blocks of a task are properly nested above the context where it began. -/
structure NestedIn (p : Config σ α) (base : Context) : Prop where
  id : p.context.id = base.id
  waiting : Nested base p.waiting p.streams p.context.stack

namespace NestedIn

variable {p : Config σ α} {base : Context}

theorem stack_eq
    (h : p.NestedIn base) :
  p.context.stack = p.frames ++ base.stack
  := h.waiting.stack_eq

/-- The context of a task is known from its open blocks. -/
theorem context_eq
    (h : p.NestedIn base) :
  p.context = ⟨base.id, p.frames ++ base.stack⟩
  := by
  rw [← h.id, ← h.stack_eq]

/-- Where the same blocks are open, the context is the same. -/
theorem context_congr
    (h : p.NestedIn base) {q : Config σ α} (hq : q.NestedIn base)
    (hw : q.waiting = p.waiting) :
  q.context = p.context
  := by
  rw [hq.context_eq, h.context_eq, Task.frames, Task.frames, hw]

/-- The innermost scope was entered in the context of the task. -/
theorem resume_scope
    (h : p.NestedIn base) {f : Frame} {s : Scope} {ws : List (Waiting σ α)}
    (hp : p.waiting = .scope f s :: ws) (fl : Flow) :
  p.resume fl
    = { p with now := .halt fl, waiting := ws, context := { p.context with stack := s.outer } }
  := by
  obtain ⟨⟨now, waiting, streams⟩, ⟨id, stack⟩, w⟩ := p
  obtain ⟨rfl, hnested⟩ := h
  obtain rfl : waiting = .scope f s :: ws := hp
  cases hnested
  apply Config.resume_scope _ rfl

theorem resume
    (h : p.NestedIn base) (fl : Flow) :
  (p.resume fl).NestedIn base
  := by
  obtain ⟨⟨now, waiting, streams⟩, ⟨id, stack⟩, w⟩ := p
  obtain ⟨rfl, hnested⟩ := h
  cases hnested with
  | nil => exact ⟨rfl, .nil⟩
  | after next h => exact ⟨rfl, h⟩
  | scope f h =>
    rw [Config.resume_scope _ rfl]
    exact ⟨rfl, h⟩
  | stream f h hscope hopened =>
    rw [resume_stream _ rfl rfl hscope]
    exact ⟨rfl, h⟩

theorem openScope
    (h : p.NestedIn base) (g : Given) (body : Block σ α) :
  (p.openScope g body).NestedIn base
  := by
  cases hg : g.toFrame with
  | error e =>
    rw [openScope_of_error p hg]
    exact ⟨h.id, h.waiting⟩
  | ok f =>
    rw [openScope_of_ok p hg]
    exact ⟨h.id, h.id ▸ .scope f h.waiting⟩

theorem openStream
    (h : p.NestedIn base) (g : Given) (source : {s : Source σ α // s.WellFormed})
    (body : Block σ α) :
  (p.openStream g source body).NestedIn base
  := by
  cases hg : g.toFrame with
  | error e =>
    rw [openStream_of_error p hg]
    exact ⟨h.id, h.waiting⟩
  | ok f =>
    obtain ⟨w, -, hopen⟩ := p.openStream_of_ok hg source body
    rw [hopen]
    exact ⟨h.id, .stream f h.waiting (h.id ▸ rfl) rfl⟩

theorem pull
    (h : p.NestedIn base) (k : Nat) (next : Option α → Block σ α) :
  (p.pull k next).NestedIn base
  := by
  unfold Config.pull
  cases ho : p.streams[k]? with
  | none => exact ⟨h.id, h.waiting⟩
  | some o => exact ⟨h.id, h.waiting.set ho (o.stream.next_keeps _ _ _)⟩

/-- A step keeps the open blocks properly nested. -/
theorem step
    (h : p.NestedIn base) :
  p.step.NestedIn base
  := by
  unfold Config.step
  cases p.now with
  | halt fl => exact h.resume fl
  | act a next => exact ⟨h.id, h.waiting⟩
  | after body next => exact ⟨h.id, .after next h.waiting⟩
  | loop body => exact ⟨h.id, h.waiting⟩
  | framed g body => exact h.openScope g body
  | stream g source body => exact h.openStream g source body
  | pull k next => exact h.pull k next

/-- So do any number of steps. -/
theorem run
    (h : p.NestedIn base) (n : Nat) :
  (p.run n).NestedIn base
  := by
  induction n with
  | zero => exact h
  | succ n ih =>
    rw [Config.run, Function.iterate_succ_apply']
    exact ih.step

end NestedIn

end Config

end TradeGate
