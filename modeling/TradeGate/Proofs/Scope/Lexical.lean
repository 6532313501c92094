import TradeGate.Proofs.Scope.Chain

/-!
# The meaning of nested blocks

A block means the same as if nothing were pushed or popped: its body runs under its frame
and the frames around it, which can be read off the text of the program.  `Ends` says so by
recursion on blocks, without contexts; and a task that runs a program ends as `Ends` says,
if it ends at all.
-/

namespace TradeGate

variable {σ α : Type}

/-! ### Streams without frames -/

/-- A source that is drained, and whether it has ended or failed. -/
structure Tap (σ α : Type) where
  source : Source σ α
  spent : Bool

namespace Tap

variable (t : Tap σ α) (stack : Stack) (w : σ)

/-- Pulls a source that has neither ended nor failed. -/
def pull : Except Fault (Pull α) × Tap σ α × σ :=
  if t.spent then (.ok .done, t, w)
  else
    let (r, w) := t.source.pull.outcome stack w
    (r, { t with spent := Pull.ends r }, w)

/-- Closes a source that has neither ended nor failed, if it can be closed. -/
def close : Except Fault Unit × σ :=
  match t.source.close with
  | some close => if t.spent then (.ok (), w) else close.outcome stack w
  | none => (.ok (), w)

end Tap

namespace OpenStream

/-- An open stream without its frame. -/
def tap (o : OpenStream σ α) : Tap σ α := ⟨o.source.1, o.stream.finished⟩

/-- An open stream is drained like its source. -/
theorem next_eq
    {o : OpenStream σ α} (ho : o.stream.active = true ∧ o.stream.opened = true) (c : Context)
    (w : σ) :
  o.stream.next o.source.1 c w
    = let (r, t, w) := o.tap.pull c.stack w
      (r, { o.stream with finished := t.spent }, w)
  := by
  cases hf : o.stream.finished with
  | true =>
    rw [Stream.next_of_finished _ hf]
    simp [Tap.pull, tap, ← hf]
  | false =>
    rw [Stream.next_of_open _ _ _ ho.1 ho.2 hf]
    simp [Tap.pull, tap, hf]

/-- An open stream is closed like its source. -/
theorem closing_eq
    {o : OpenStream σ α} (ho : o.stream.opened = true) (stack : Stack) (w : σ) :
  Stream.closing o.source.1 o.stream w stack = o.tap.close stack w
  := by
  unfold Stream.closing Tap.close tap
  cases o.source.1.close with
  | none => rfl
  | some close => cases hf : o.stream.finished <;> simp [Stream.closesSource, ho, hf]

end OpenStream

/-- The open streams of a task without their frames. -/
def Config.taps (p : Config σ α) : List (Tap σ α) := p.streams.map OpenStream.tap

/-! ### Ends of blocks -/

/-- The end of a block, with the open streams and the state that it leaves behind. -/
structure Ending (σ α : Type) where
  flow : Flow
  taps : List (Tap σ α)
  state : σ

/-- How a block ends that begins under a stack of frames, with open streams and a state. -/
inductive Ends : Stack → Block σ α → List (Tap σ α) → σ → Ending σ α → Prop where
  | halt {stack fl ts w} : Ends stack (.halt fl) ts w ⟨fl, ts, w⟩
  | act {stack a next ts w r w' out} (ha : a.outcome stack w = (r, w'))
      (h : Ends stack (.answered next r) ts w' out) :
    Ends stack (.act a next) ts w out
  | after {stack body next ts w out out'} (hbody : Ends stack body ts w out)
      (h : Ends stack (next out.flow) out.taps out.state out') :
    Ends stack (.after body next) ts w out'
  | loop {stack body ts w out} (h : Ends stack (.turn body) ts w out) :
    Ends stack (.loop body) ts w out
  /-- A scope ends like its body, which runs under the frame.  So it lets every fault pass. -/
  | framed {stack g f body ts w out} (hg : g.toFrame = .ok f)
      (hbody : Ends (f :: stack) body ts w out) :
    Ends stack (.framed g body) ts w out
  | framed_refused {stack g e body ts w} (hg : g.toFrame = .error e) :
    Ends stack (.framed g body) ts w ⟨.fault e, ts, w⟩
  /-- A stream begins its source and ends like its body, both under the frame, unless the
  source has to be closed then and that fails. -/
  | stream {stack g f source body ts w w₁ fl t ts' w₂ r w₃} (hg : g.toFrame = .ok f)
      (hbegin : source.1.begin.outcome (f :: stack) w = (.ok (), w₁))
      (hbody : Ends (f :: stack) body (⟨source.1, false⟩ :: ts) w₁ ⟨fl, t :: ts', w₂⟩)
      (hclose : t.close (f :: stack) w₂ = (r, w₃)) :
    Ends stack (.stream g source body) ts w ⟨fl.closed r, ts', w₃⟩
  | stream_refused {stack g e source body ts w} (hg : g.toFrame = .error e) :
    Ends stack (.stream g source body) ts w ⟨.fault e, ts, w⟩
  /-- A source is pulled under the frames of all blocks that are open then. -/
  | pull {stack k next t ts w r t' w' out} (ht : ts[k]? = some t)
      (hpull : t.pull stack w = (r, t', w'))
      (h : Ends stack (.pulled k next r) (ts.set k t') w' out) :
    Ends stack (.pull k next) ts w out
  | pull_none {stack k next ts w} (ht : ts[k]? = none) :
    Ends stack (.pull k next) ts w ⟨.fault .notEntered, ts, w⟩

namespace Config

variable {p : Config σ α} {base : Context}

/-! ### Steps on the streams of a task -/

/-- A pull on a task is one on the source of the stream. -/
theorem NestedIn.pull_eq
    (h : p.NestedIn base) {k : Nat} {o : OpenStream σ α} (ho : p.streams[k]? = some o)
    (next : Option α → Block σ α) :
  ∃ streams, streams.map OpenStream.tap
      = p.taps.set k (o.tap.pull p.context.stack p.state).2.1
    ∧ p.pull k next
      = { p with
          now := .pulled k next (o.tap.pull p.context.stack p.state).1, streams := streams,
          state := (o.tap.pull p.context.stack p.state).2.2 }
  := by
  have hopen := h.waiting.opened (List.mem_of_getElem? ho)
  use p.streams.set k ⟨{ o.stream with
    finished := (o.tap.pull p.context.stack p.state).2.1.spent }, o.source⟩
  constructor
  · rw [List.map_set, taps]
    congr 1
    unfold OpenStream.tap Tap.pull
    cases o.stream.finished <;> rfl
  · simp only [Config.pull, ho, OpenStream.next_eq hopen]

/-- The innermost stream is left like its source is closed. -/
theorem NestedIn.resume_stream
    (h : p.NestedIn base) {f : Frame} {ws : List (Waiting σ α)}
    (hp : p.waiting = .stream f :: ws) (fl : Flow) :
  ∃ o os stack r w, p.streams = o :: os ∧ Nested base ws os stack
    ∧ o.tap.close (f :: stack) p.state = (r, w)
    ∧ p.resume fl
      = ⟨⟨.halt (fl.closed r), ws, os⟩, ⟨p.context.id, stack⟩, w⟩
  := by
  obtain ⟨⟨now, waiting, streams⟩, ⟨id, stack⟩, w⟩ := p
  obtain ⟨rfl, hnested⟩ := h
  obtain rfl : waiting = .stream f :: ws := hp
  cases hnested with
  | @stream _ os outer o _ hws hscope hopened =>
    rcases hclose : o.tap.close (f :: outer) w with ⟨r, w'⟩
    use o, os, outer, r, w', rfl, hws, hclose
    rw [Config.resume_stream _ rfl rfl hscope, OpenStream.closing_eq hopened, hclose]

/-! ### What a task does ends like its program -/

/-- The current block of a task ends: after some steps the task has come to its end, and what
waited for it still waits. -/
def Halts (p : Config σ α) (out : Ending σ α) : Prop :=
  ∃ n, (p.run n).now = .halt out.flow ∧ (p.run n).waiting = p.waiting
    ∧ (p.run n).taps = out.taps ∧ (p.run n).state = out.state

/-- A step that opens no block leads to the same end. -/
theorem Halts.of_step
    {q : Config σ α} (hstep : p.step = q) (hw : q.waiting = p.waiting) {out : Ending σ α}
    (h : q.Halts out) :
  p.Halts out
  := by
  obtain ⟨n, hn⟩ := h
  use n + 1
  rw [Config.run, Function.iterate_succ_apply, hstep, ← hw]
  exact hn

/-- A block that opens another ends when that has ended and what waits for it has gone on. -/
theorem NestedIn.halts_of_body
    (h : p.NestedIn base) {q : Config σ α} (hstep : p.step = q) {x : Waiting σ α}
    (hw : q.waiting = x :: p.waiting) {mid out : Ending σ α} (hbody : q.Halts mid)
    (hnext : ∀ q' : Config σ α, q'.NestedIn base → q'.now = .halt mid.flow →
      q'.waiting = x :: p.waiting → q'.taps = mid.taps → q'.state = mid.state →
      (q'.resume mid.flow).waiting = p.waiting ∧ (q'.resume mid.flow).Halts out) :
  p.Halts out
  := by
  obtain ⟨m, hnow, hwaiting, htaps, hstate⟩ := hbody
  have hnested : (q.run m).NestedIn base := (hstep ▸ h.step).run m
  obtain ⟨hw', n, hn⟩ := hnext (q.run m) hnested hnow (hwaiting.trans hw) htaps hstate
  use (n + 1) + (m + 1)
  have hrun : p.run ((n + 1) + (m + 1)) = ((q.run m).resume mid.flow).run n := by
    rw [Config.run, Function.iterate_add_apply, Function.iterate_succ_apply,
      Function.iterate_succ_apply, hstep]
    change (q.run m).step.run n = _
    rw [step_halt _ hnow]
  rw [hrun, ← hw']
  exact hn

/-- Every task that comes to a block, under a stack and with open streams, halts with an
ending. -/
def Reaches (base : Context) (stack : Stack) (b : Block σ α) (ts : List (Tap σ α)) (w : σ)
    (out : Ending σ α) : Prop :=
  ∀ ws os id, os.map OpenStream.tap = ts →
    (⟨⟨b, ws, os⟩, ⟨id, stack⟩, w⟩ : Config σ α).NestedIn base →
    (⟨⟨b, ws, os⟩, ⟨id, stack⟩, w⟩ : Config σ α).Halts out

namespace Reaches

variable {stack : Stack} {ts : List (Tap σ α)} {w : σ} {out : Ending σ α}

theorem halt
    {fl : Flow} :
  Reaches base stack (.halt fl) ts w ⟨fl, ts, w⟩
  := by
  intro ws os id hos h
  exact ⟨0, rfl, rfl, hos, rfl⟩

/-- A block that fails in one step, and changes nothing else. -/
theorem fault
    {b : Block σ α} {e : Fault}
    (hstep : ∀ p : Config σ α, p.now = b → p.taps = ts →
      p.step = { p with now := .halt (.fault e) }) :
  Reaches base stack b ts w ⟨.fault e, ts, w⟩
  := by
  intro ws os id hos h
  have hfault := hstep ⟨⟨b, ws, os⟩, ⟨id, stack⟩, w⟩ rfl hos
  exact Halts.of_step hfault rfl ⟨0, rfl, rfl, hos, rfl⟩

theorem act
    {a : Act σ Bool} {next : Bool → Block σ α} {r : Except Fault Bool} {w' : σ}
    (ha : a.outcome stack w = (r, w')) (ih : Reaches base stack (.answered next r) ts w' out) :
  Reaches base stack (.act a next) ts w out
  := by
  intro ws os id hos h
  have hstep : (⟨⟨.act a next, ws, os⟩, ⟨id, stack⟩, w⟩ : Config σ α).step
      = ⟨⟨.answered next r, ws, os⟩, ⟨id, stack⟩, w'⟩ := by
    simp only [Config.step, ha]
  exact Halts.of_step hstep rfl (ih ws os id hos (hstep ▸ h.step))

theorem after
    {body : Block σ α} {next : Flow → Block σ α} {mid : Ending σ α}
    (ihbody : Reaches base stack body ts w mid)
    (ihnext : Reaches base stack (next mid.flow) mid.taps mid.state out) :
  Reaches base stack (.after body next) ts w out
  := by
  intro ws os id hos h
  apply h.halts_of_body rfl rfl (ihbody _ _ _ hos h.step)
  intro q hq hnow hwaiting htaps hstate
  have hresumed := hq.resume mid.flow
  obtain ⟨⟨now, waiting, streams⟩, context, w'⟩ := q
  obtain rfl : waiting = _ := hwaiting
  obtain rfl : w' = _ := hstate
  obtain rfl : context = ⟨id, stack⟩ := h.context_congr hresumed rfl
  exact ⟨rfl, ihnext _ _ _ htaps hresumed⟩

theorem loop
    {body : Block σ α} (ih : Reaches base stack (.turn body) ts w out) :
  Reaches base stack (.loop body) ts w out
  := by
  intro ws os id hos h
  exact Halts.of_step rfl rfl (ih ws os id hos h.step)

theorem framed
    {g : Given} {f : Frame} {body : Block σ α} (hg : g.toFrame = .ok f)
    (ih : Reaches base (f :: stack) body ts w out) :
  Reaches base stack (.framed g body) ts w out
  := by
  intro ws os id hos h
  have hstep : (⟨⟨.framed g body, ws, os⟩, ⟨id, stack⟩, w⟩ : Config σ α).step
      = ⟨⟨body, .scope f ⟨id, stack⟩ :: ws, os⟩, ⟨id, f :: stack⟩, w⟩ :=
    openScope_of_ok _ hg body
  apply h.halts_of_body hstep rfl (ih _ _ _ hos (hstep ▸ h.step))
  intro q hq hnow hwaiting htaps hstate
  rw [hq.resume_scope hwaiting]
  exact ⟨rfl, 0, rfl, rfl, htaps, hstate⟩

theorem stream
    {g : Given} {f : Frame} {source : {s : Source σ α // s.WellFormed}} {body : Block σ α}
    {w₁ w₂ w₃ : σ} {fl : Flow} {t : Tap σ α} {ts' : List (Tap σ α)} {r : Except Fault Unit}
    (hg : g.toFrame = .ok f) (hbegin : source.1.begin.outcome (f :: stack) w = (.ok (), w₁))
    (ih : Reaches base (f :: stack) body (⟨source.1, false⟩ :: ts) w₁ ⟨fl, t :: ts', w₂⟩)
    (hclose : t.close (f :: stack) w₂ = (r, w₃)) :
  Reaches base stack (.stream g source body) ts w ⟨fl.closed r, ts', w₃⟩
  := by
  intro ws os id hos h
  obtain ⟨w', hbegin', hstep⟩ :=
    openStream_of_ok (⟨⟨.stream g source body, ws, os⟩, ⟨id, stack⟩, w⟩ : Config σ α) hg source
      body
  obtain rfl : w₁ = w' := (Prod.mk.inj (hbegin.symm.trans hbegin')).2
  have hopened := h.openStream g source body
  rw [hstep] at hopened
  apply h.halts_of_body hstep rfl (ih _ _ _ (congrArg (_ :: ·) hos) hopened)
  intro q hq hnow hwaiting htaps hstate
  obtain ⟨o, os', outer, r', w', hstreams, hws, hclose', hresume⟩ := hq.resume_stream hwaiting fl
  rw [taps, hstreams] at htaps
  obtain ⟨rfl, hos'⟩ := List.cons.inj htaps
  obtain rfl : outer = stack := hws.stack_eq.trans h.waiting.stack_eq.symm
  obtain ⟨rfl, rfl⟩ := Prod.mk.inj (hclose.symm.trans (hstate ▸ hclose'))
  rw [hresume]
  exact ⟨rfl, 0, rfl, rfl, hos', rfl⟩

theorem pull
    {k : Nat} {next : Option α → Block σ α} {t t' : Tap σ α} {r : Except Fault (Pull α)} {w' : σ}
    (ht : ts[k]? = some t) (hpull : t.pull stack w = (r, t', w'))
    (ih : Reaches base stack (.pulled k next r) (ts.set k t') w' out) :
  Reaches base stack (.pull k next) ts w out
  := by
  intro ws os id hos h
  obtain ⟨o, ho, rfl⟩ : ∃ o, os[k]? = some o ∧ o.tap = t := by
    rw [← hos, List.getElem?_map] at ht
    exact Option.map_eq_some_iff.mp ht
  obtain ⟨streams, hstreams, hstep⟩ := h.pull_eq ho next
  have hnested := h.pull k next
  rw [hstep] at hnested
  simp only [hpull] at hstreams hstep hnested
  rw [taps, hos] at hstreams
  have hpulled : (⟨⟨.pull k next, ws, os⟩, ⟨id, stack⟩, w⟩ : Config σ α).step = _ := hstep
  exact Halts.of_step hpulled rfl (ih ws streams id hstreams hnested)

end Reaches

end Config

end TradeGate
