import TradeGate.Proofs.Pipeline.Sharing
import TradeGate.Proofs.Risk.FirstFailure
import TradeGate.Proofs.Risk.Stateless
import Mathlib.Tactic.IntervalCases

/-!
# Caching does not show

A tick is given what the indicator function gave the computation that serves it, whoever asked
for that first, whatever else is admitted meanwhile and whatever the cache has lost.  Where the
clock was in the window of the tick as the function was called, and builder and checks are
stateless, the tick is decided as if the function had been called for it alone as it asked.  But
a computation has a turn of its own: where the window ends before that turn, the tick is decided
by what the function gives in another window.
-/

namespace TradeGate

namespace Pipeline

variable {ι σ : Type} (p : Pipeline ι σ)

/-- What becomes of a tick with its indicators under a registry, while nobody is told. -/
def verdict (registry : Registry σ) (tick : Tick) (x : Value) : Act σ (Option Decision) := do
  match ← p.builder tick x with
  | none => return none
  | some s =>
    return some (← registry.ruling s (.decimal tick.price) (.instant tick.timestamp))

/-- Decides on one tick without a cache, and tells nobody: calls the indicator function for the
tick itself. -/
def directly (registry : Registry σ) (tick : Tick) : Act σ (Option Decision) := do
  let x ← p.indicator tick.symbol
  p.verdict registry tick x

/-- The indicator function never fails, and where it is called while the clock is in a window it
gives the indicators of its key in that window. -/
structure Steady (timeframe : Timeframe) (indicators : String → Int → Value) : Prop where
  total : ∀ symbol stack w, ∃ x, ((p.indicator symbol).outcome stack w).1 = .ok x
  inWindow : ∀ symbol stack w now, (p.clock.outcome stack w).1.bind clockMillis = .ok now →
    ((p.indicator symbol).outcome stack w).1
      = .ok (indicators (stack.keyOf symbol) (timeframe.window now))

/-- A judgement ends with its ruling, unless a callback cancels it. -/
theorem judgement_cases
    (registry : Registry σ) (tick : Tick) (s : Signal) (stack : Stack) (w : σ) :
  ((judgement registry tick s).outcome stack w).1
      = ((registry.ruling s (.decimal tick.price) (.instant tick.timestamp)).outcome stack w).1
    ∨ ((judgement registry tick s).outcome stack w).1 = .error .cancelled
  := registry.evaluate_cases s _ _ stack w

variable {p}

/-- The builder comes before the risks. -/
theorem fst_outcome_verdict
    (registry : Registry σ) (tick : Tick) (x : Value) (stack : Stack) (w : σ) :
  ((p.verdict registry tick x).outcome stack w).1
    = match ((p.builder tick x).outcome stack w).1 with
      | .error e => .error e
      | .ok none => .ok none
      | .ok (some s) =>
        ((registry.ruling s (.decimal tick.price) (.instant tick.timestamp)).outcome stack
          ((p.builder tick x).outcome stack w).2).1.map some
  := by
  rw [verdict, Act.outcome_bind]
  rcases (p.builder tick x).outcome stack w with ⟨e | _ | s, w'⟩
  · rfl
  · rfl
  · dsimp only
    rw [Act.outcome_bind]
    rcases (registry.ruling s (.decimal tick.price) (.instant tick.timestamp)).outcome stack w'
      with ⟨e | dec, w''⟩ <;> rfl

/-- With a stateless builder and stateless checks a verdict is stateless. -/
theorem stateless_verdict
    (hbuilder : ∀ tick x, (p.builder tick x).Stateless) {registry : Registry σ}
    (hr : ∀ k ∈ registry.risks, ∀ c ∈ k.checks, ∀ i, (c.run i).Stateless) (tick : Tick)
    (x : Value) :
  (p.verdict registry tick x).Stateless
  := by
  apply (hbuilder tick x).bind
  rintro (_ | s)
  · apply Act.stateless_pure
  · apply (Registry.stateless_ruling hr s _ _).bind
    intro dec
    apply Act.stateless_pure

end Pipeline

namespace FloorHistory

variable {γ ι σ : Type} [DecidableEq γ] (h : FloorHistory γ ι σ)

/-- Builder and checks are stateless. -/
structure IsStateless : Prop where
  builder : ∀ tick x, (h.pipeline.builder tick x).Stateless
  checks : ∀ n, ∀ k ∈ (h.desk n).registry.risks, ∀ c ∈ k.checks, ∀ i, (c.run i).Stateless

/-- At a place the tick of a task is cancelled by what is called for it: by a callback of a
risk, while it is judged, or by the subscriber that is told. -/
def Interrupts (n : Nat) (g : γ) (v : Visit) : Prop :=
  h.events[n]? = some (.advance g)
    ∧ ((∃ s, h.visit n g = some { v with stage := .proposed s }
        ∧ ((Pipeline.judgement (h.desk n).registry v.tick s).outcome v.stack (h.desk n).world).1
          = .error .cancelled)
      ∨ ∃ dec fuel k i, h.visit n g = some { v with stage := .decided dec fuel k }
        ∧ (h.desk n).subscribers[k]? = some i
        ∧ ((h.pipeline.tell i dec).outcome v.stack (h.desk n)).1 = .error .cancelled)

/-- At a place the clock is in a window, as it is read under a stack. -/
def InWindow (n : Nat) (stack : Stack) (window : Int) : Prop :=
  ∃ now, (h.pipeline.clock.outcome stack (h.desk n).world).1.bind clockMillis = .ok now
    ∧ h.timeframe.window now = window

/-- The request of a tick at a place is served by a computation for its key, to which the
indicator function gave some indicators at another place. -/
def Supplied (m k : Nat) (g : γ) (v : Visit) (window : Int) (due : Due) (x : Value) : Prop :=
  h.Requests m g { v with stage := .handed } window due.job ∧ due.key = v.key
    ∧ h.Evaluates k due (.value x)

/-- What a tick gets with some indicators, under the registry of a place. -/
def Rules (e : Nat) (v : Visit) (x : Value) (r : Except Fault (Option Decision)) : Prop :=
  ∀ w, ((h.pipeline.verdict (h.desk e).registry v.tick x).outcome v.stack w).1 = r

/-- The indicators that a tick would find without a cache at a place. -/
def Finds (m : Nat) (v : Visit) (x : Value) : Prop :=
  ((h.pipeline.indicator v.tick.symbol).outcome v.stack (h.desk m).world).1 = .ok x

/-- What a tick gets without a cache at one place, under the registry of another place. -/
def Gives (m e : Nat) (v : Visit) (r : Except Fault (Option Decision)) : Prop :=
  ((h.pipeline.directly (h.desk e).registry v.tick).outcome v.stack (h.desk m).world).1 = r

/-- What holds for a tick that asked at a place under the registry that it was judged by: it holds
under that of the place at which it was judged, or under every registry. -/
def WhenJudged (m n : Nat) (g : γ) (v : Visit) (P : Nat → Prop) : Prop :=
  (∀ e, P e) ∨ ∃ e, m < e ∧ e < n ∧ h.Judges e g v ∧ P e

variable {h} {n : Nat} {g : γ} {v : Visit}

/-! ### With the indicators of another place -/

/-- A verdict in one world is a verdict in every world. -/
theorem rules_of_verdict
    (hstateless : h.IsStateless) {e : Nat} {x : Value} {r : Except Fault (Option Decision)} {w : σ}
    (hverdict : ((h.pipeline.verdict (h.desk e).registry v.tick x).outcome v.stack w).1 = r) :
  h.Rules e v x r
  := by
  intro w'
  rw [Pipeline.stateless_verdict hstateless.builder (hstateless.checks e) _ _ _ _ w, hverdict]

/-- A tick for which a signal is proposed gets the ruling on it. -/
theorem rules_of_ruling
    (hstateless : h.IsStateless) {e : Nat} {x : Value} {s : Signal}
    (hb : ∀ w, ((h.pipeline.builder v.tick x).outcome v.stack w).1 = .ok (some s))
    {r : Except Fault Decision} {w : σ}
    (hr : (((h.desk e).registry.ruling s (.decimal v.tick.price)
      (.instant v.tick.timestamp)).outcome v.stack w).1 = r) :
  h.Rules e v x (r.map some)
  := by
  apply rules_of_verdict hstateless (w := w)
  rw [Pipeline.fst_outcome_verdict, hb]
  dsimp only
  rw [Registry.stateless_ruling (hstateless.checks e) s _ _ _ _ w, hr]

/-- Without a cache a tick gets the verdict on what it finds. -/
theorem Finds.gives
    {m e : Nat} {x : Value} (hx : h.Finds m v x) {r : Except Fault (Option Decision)}
    (hr : h.Rules e v x r) :
  h.Gives m e v r
  := by
  unfold Gives
  rw [Pipeline.directly, Act.outcome_bind]
  unfold Finds at hx
  rcases hrun : (h.pipeline.indicator v.tick.symbol).outcome v.stack (h.desk m).world with ⟨e' | x', w⟩
  · rw [hrun] at hx
    cases hx
  · rw [hrun] at hx
    obtain rfl := Except.ok.inj hx
    apply hr

theorem WhenJudged.imp
    {m : Nat} {P Q : Nat → Prop} (hj : h.WhenJudged m n g v P) (hPQ : ∀ e, P e → Q e) :
  h.WhenJudged m n g v Q
  := by
  obtain hall | ⟨e, hme, hen, hjudges, hP⟩ := hj
  · left
    exact fun e => hPQ e (hall e)
  · right
    use e, hme, hen, hjudges
    exact hPQ e hP

theorem WhenJudged.succ
    {m : Nat} {P : Nat → Prop} (hj : h.WhenJudged m n g v P) :
  h.WhenJudged m (n + 1) g v P
  := by
  obtain hall | ⟨e, hme, hen, hrest⟩ := hj
  · left
    exact hall
  · right
    use e, hme, Nat.lt_succ_of_lt hen

/-- Where the clock was in the window of a tick as the indicator function was called, the tick is
given what it would find without a cache. -/
theorem Supplied.finds
    {indicators : String → Int → Value} (hsteady : h.pipeline.Steady h.timeframe indicators)
    {m k : Nat} {window : Int} {due : Due} {x : Value} (hs : h.Supplied m k g v window due x)
    (hw : h.InWindow k due.stack window) :
  h.Finds m v x
  := by
  obtain ⟨⟨now, d, ⟨-, hread⟩, hrequest, -⟩, hk, -, -, -, hx⟩ := hs
  obtain ⟨now', hread', hwindow⟩ := hw
  have hthere := hsteady.inWindow due.symbol due.stack _ _ hread'
  rw [Pipeline.outcome_reading] at hread
  have hhere := hsteady.inWindow v.tick.symbol v.stack _ _ (Prod.mk.inj hread).1
  change _ = Except.ok (indicators v.key _) at hhere
  change _ = Except.ok (indicators due.key _) at hthere
  unfold Finds
  rw [hhere, hrequest, ← hwindow, ← hk]
  rw [Pipeline.fst_evaluation, hthere] at hx
  exact congrArg Except.ok (Outcome.value.inj hx)

/-! ### What a tick is given -/

/-- A computation that a tick waits for ends with what the indicator function gave it. -/
theorem supplied_of_waiting
    {indicators : String → Int → Value} (hsteady : h.pipeline.Steady h.timeframe indicators)
    {key : String} {window : Int} {job : Nat} {o : Outcome Value} (hv : h.visit n g = some v)
    (hs : v.stage = .waiting key window job) (ho : (h.desk n).outcome? job = some o) :
  ∃ m k due x, h.LastAsked m n g v ∧ k < n ∧ h.Supplied m k g v window due x ∧ due.job = job
    ∧ o = .value x
  := by
  obtain ⟨⟨m, hm, hrequests⟩, -, -⟩ := waiting_visit hv hs
  obtain ⟨-, c, due, hc, -, rfl, hk, hcomputes⟩ := hrequests.computes ho
  obtain ⟨k, hkc, hevaluates⟩ := hcomputes.evaluates
  obtain ⟨x, hx⟩ := hsteady.total due.symbol due.stack (h.desk k).world
  obtain rfl : .value x = o := by
    rw [← hevaluates.2.2.2, Pipeline.fst_evaluation, hx]
    rfl
  use m, k, due, x, hm, Nat.lt_of_le_of_lt hkc hc
  exact ⟨⟨hrequests, hk, hevaluates⟩, rfl, rfl⟩

variable (h) in
/-- A tick that asked at a place was given some indicators. -/
def Given (m n : Nat) (g : γ) (v : Visit) (x : Value) : Prop :=
  h.LastAsked m n g v ∧ ∃ k window due, k < n ∧ h.Supplied m k g v window due x

theorem given_of_indicated
    {x : Value} (hv : h.visit n g = some v) (hs : v.stage = .indicated x) :
  ∃ m, h.Given m n g v x
  := by
  obtain ⟨m, window, job, hm, hrequests, -, c, due, hc, -, rfl, hk, hcomputes⟩ :=
    indicated_visit hv hs
  obtain ⟨k, hkc, hevaluates⟩ := hcomputes.evaluates
  use m, hm, k, window, due, Nat.lt_of_le_of_lt hkc hc
  exact ⟨hrequests, hk, hevaluates⟩

theorem Given.succ
    {m : Nat} {x : Value} (hx : h.Given m n g v x) (hn : ∀ v', ¬ h.Asks n g v') :
  h.Given m (n + 1) g v x
  := by
  obtain ⟨hm, k, window, due, hk, hs⟩ := hx
  use hm.succ hn, k, window, due, Nat.lt_succ_of_lt hk

variable (h) in
/-- A tick ends since its clock has no reading at the place at which it asks. -/
def Unread (n : Nat) (g : γ) (v : Visit) (r : Except Fault (Option Decision)) : Prop :=
  ∃ m e, h.LastAsked m n g v ∧ (h.pipeline.reading.outcome v.stack (h.desk m)).1 = .error e
    ∧ r = .error e

variable (h) in
/-- What the stage of a tick says about the indicators that it was given. -/
def Foretells (g : γ) (n : Nat) (v : Visit) : Prop :=
  match v.stage with
  | .handed | .waiting .. | .indicated _ => True
  | .proposed s => ∃ m x, h.Given m n g v x
    ∧ ∀ w, ((h.pipeline.builder v.tick x).outcome v.stack w).1 = .ok (some s)
  | .decided dec _ _ => ∃ m x, h.Given m n g v x
    ∧ h.WhenJudged m n g v (h.Rules · v x (.ok (some dec)))
  | .ended r => (r = .error .cancelled ∧ ∃ k < n, h.Cancels k g v ∨ h.Interrupts k g v)
    ∨ h.Unread n g v r
    ∨ ∃ m x, h.Given m n g v x ∧ h.WhenJudged m n g v (h.Rules · v x r)

/-- While no request is made, what a stage says stays true. -/
theorem Foretells.succ
    (hf : h.Foretells g n v) (hn : ∀ v', ¬ h.Asks n g v') :
  h.Foretells g (n + 1) v
  := by
  unfold Foretells at *
  split at hf
  · trivial
  · trivial
  · trivial
  · obtain ⟨m, x, hx, hrest⟩ := hf
    use m, x, hx.succ hn
  · obtain ⟨m, x, hx, hj⟩ := hf
    use m, x, hx.succ hn
    exact hj.succ
  · obtain ⟨hr, k, hk, hcancels⟩ | ⟨m, e, hm, hrest⟩ | ⟨m, x, hx, hj⟩ := hf
    · left
      use hr, k, Nat.lt_succ_of_lt hk
    · right; left
      use m, e, hm.succ hn
    · right; right
      use m, x, hx.succ hn
      exact hj.succ

/-- Every tick gets what its stage says. -/
theorem foretells
    {indicators : String → Int → Value} (hsteady : h.pipeline.Steady h.timeframe indicators)
    (hstateless : h.IsStateless) :
  ∀ n v, h.visit n g = some v → h.Foretells g n v
  := by
  apply visit_induction
  case handed =>
    intro n v hs
    rw [Foretells, hs]
    trivial
  case stay =>
    intro n v _ hne ih
    apply ih.succ (not_asks_of_events hne)
  case cancel =>
    intro n v s he hv hs
    rw [Foretells, hs]
    left
    use rfl, n, Nat.lt_succ_self n
    left
    use he, s
  case move =>
    rintro n ⟨stack, tick, stage⟩ s he hv hmoves ih
    change h.pipeline.Moves stack tick (h.desk n) s stage at hmoves
    cases hmoves with
    | @unread e hread =>
      right; left
      use n, e, .of_asks ⟨he, hv, rfl⟩, hread
    | hit => trivial
    | queued => trivial
    | patient => trivial
    | received => trivial
    | failed ho hne =>
      obtain ⟨-, -, -, x, -, -, -, -, rfl⟩ := supplied_of_waiting hsteady hv rfl ho
      exact absurd rfl (hne x)
    | @unbuilt x e hb =>
      obtain ⟨m, hx⟩ := given_of_indicated hv rfl
      right; right
      use m, x, hx.succ (not_asks_of_visit hv nofun)
      left
      intro e
      apply rules_of_verdict hstateless (w := (h.desk n).world)
      rw [Pipeline.fst_outcome_verdict, hb]
    | @unproposed x hb =>
      obtain ⟨m, hx⟩ := given_of_indicated hv rfl
      right; right
      use m, x, hx.succ (not_asks_of_visit hv nofun)
      left
      intro e
      apply rules_of_verdict hstateless (w := (h.desk n).world)
      rw [Pipeline.fst_outcome_verdict, hb]
    | @proposed x s hb =>
      obtain ⟨m, hx⟩ := given_of_indicated hv rfl
      use m, x, hx.succ (not_asks_of_visit hv nofun)
      intro w
      rw [← hb]
      apply hstateless.builder
    | @unjudged s e hj =>
      obtain ⟨m, x, hx, hb⟩ := ih
      obtain hruling | hcancelled :=
        Pipeline.judgement_cases (h.desk n).registry tick s stack (h.desk n).world
      · right; right
        use m, x, hx.succ (not_asks_of_visit hv nofun)
        right
        use n, hx.1.1, Nat.lt_succ_self n, ⟨he, s, hv⟩
        apply rules_of_ruling hstateless hb (hruling.symm.trans hj)
      · left
        obtain rfl := Except.error.inj (hj.symm.trans hcancelled)
        use rfl, n, Nat.lt_succ_self n
        right
        use he
        left
        use s, hv
    | @judged s dec fuel hj =>
      obtain ⟨m, x, hx, hb⟩ := ih
      obtain hruling | hcancelled :=
        Pipeline.judgement_cases (h.desk n).registry tick s stack (h.desk n).world
      · use m, x, hx.succ (not_asks_of_visit hv nofun)
        right
        use n, hx.1.1, Nat.lt_succ_self n, ⟨he, s, hv⟩
        apply rules_of_ruling hstateless hb (hruling.symm.trans hj)
      · cases hj.symm.trans hcancelled
    | told => apply ih.succ (not_asks_of_visit hv nofun)
    | @untold dec fuel k s e hs ht =>
      left
      obtain hcancelled | ⟨hcancelled, htell⟩ :=
        (h.pipeline.tell s dec).absorb_cases stack (h.desk n)
      · rw [hcancelled] at ht
        cases ht
      · obtain rfl := Except.error.inj (hcancelled.symm.trans ht)
        use rfl, n, Nat.lt_succ_self n
        right
        use he
        right
        use dec, fuel, k, s, hv, hs, htell
    | done =>
      right; right
      apply ih.succ (not_asks_of_visit hv nofun)
    | idle => apply ih.succ (not_asks_of_visit hv nofun)

/-- Every tick that is over was cancelled, itself or by what is called for it, or could not read
the clock, or ended by what the indicator function gave the computation that serves it.  If the
clock was in the window of the tick as the function was called, that is how the tick would have
ended without a cache, with the function called for it alone as it asked.  Every tick that waits
does so for a computation that is due, or that has ended with what the function gave. -/
theorem decisions_ignore_cache
    {indicators : String → Int → Value} (hsteady : h.pipeline.Steady h.timeframe indicators)
    (hstateless : h.IsStateless) (hv : h.visit n g = some v) :
  (∀ r, v.stage = .ended r →
    (r = .error .cancelled ∧ ∃ k < n, h.Cancels k g v ∨ h.Interrupts k g v)
    ∨ h.Unread n g v r
    ∨ ∃ m k window due x, h.LastAsked m n g v ∧ k < n ∧ h.Supplied m k g v window due x
      ∧ h.WhenJudged m n g v (h.Rules · v x r)
      ∧ (h.InWindow k due.stack window → h.WhenJudged m n g v (h.Gives m · v r)))
  ∧ ∀ key window job, v.stage = .waiting key window job →
    (∃ due ∈ (h.desk n).queue, due.job = job)
      ∨ ∃ m k due x, h.LastAsked m n g v ∧ k < n ∧ h.Supplied m k g v window due x
        ∧ due.job = job ∧ (h.desk n).outcome? job = some (.value x)
        ∧ (h.InWindow k due.stack window → h.Finds m v x)
  := by
  constructor
  · intro r hs
    have hforetells := foretells hsteady hstateless n v hv
    rw [Foretells, hs] at hforetells
    obtain hcancelled | hunread | ⟨m, x, ⟨hm, k, window, due, hk, hsupplied⟩, hrules⟩ := hforetells
    · left
      exact hcancelled
    · right; left
      exact hunread
    · right; right
      use m, k, window, due, x, hm, hk, hsupplied, hrules
      intro hw
      apply hrules.imp
      intro e hr
      apply (hsupplied.finds hsteady hw).gives hr
  · intro key window job hs
    obtain ⟨-, -, hdue | ⟨o, ho⟩⟩ := waiting_visit hv hs
    · left
      exact hdue
    · right
      obtain ⟨m, k, due, x, hm, hk, hsupplied, hj, rfl⟩ := supplied_of_waiting hsteady hv hs ho
      use m, k, due, x, hm, hk, hsupplied, hj, ho
      exact hsupplied.finds hsteady

/-! ### A window that ends meanwhile -/

/-- A pipeline with the time in seconds as its world, whose indicators are the key and the
window, and whose builder buys in the first window only. -/
def earlyBuyer : Pipeline Empty Int where
  clock := do return .int (← get)
  indicator symbol := do
    return .list [.text ((← Act.stack).keyOf symbol), .int (Timeframe.m15.window ((← get) * 1000))]
  builder _
    | .list [_, .int 0] => pure (some Registry.buyAtMarket)
    | _ => pure none
  tell := nofun
  newcomers := 0

/-- The indicators of a key in a window, for an early buyer. -/
def keyAndWindow (key : String) (window : Int) : Value :=
  .list [.text key, .int window]

theorem steady_earlyBuyer :
  earlyBuyer.Steady .m15 keyAndWindow
  where
  total symbol stack w := ⟨_, rfl⟩
  inWindow symbol stack w now hread := by
    obtain rfl : w * 1000 = now := Except.ok.inj hread
    rfl

theorem stateless_earlyBuyer
    (tick : Tick) (x : Value) :
  (earlyBuyer.builder tick x).Stateless
  := by
  unfold earlyBuyer
  dsimp only
  split <;> apply Act.stateless_pure

/-- What happens to early buyers, from the epoch on. -/
def buyingEarly (events : List (FloorEvent Nat Empty Int)) : FloorHistory Nat Empty Int where
  pipeline := earlyBuyer
  tells := nofun
  registry := .empty
  timeframe := .m15
  bound := 1
  world := 0
  events := events

/-- Two ticks share a computation.  The window ends after it has called the indicator function,
and the cache is flushed before the second tick goes on. -/
def overtaken : FloorHistory Nat Empty Int :=
  buyingEarly [.call 0 [backtestOf "ema" "binance"] someTick, .advance 0,
    .call 1 [backtestOf "ema" "binance"] someTick, .advance 1, .evaluate 1,
    .outside .empty [] 900, .compute 1, .flush, .advance 1, .advance 1, .advance 1, .advance 1]

theorem registry_overtaken
    (n : Nat) :
  (overtaken.desk n).registry = .empty
  := by
  obtain hlt | hle := Nat.lt_or_ge n 12
  · interval_cases n <;> rfl
  · have hlast : overtaken.after n = overtaken.after 12 := after_of_length_le hle
    rw [desk, hlast]
    rfl

theorem isStateless_overtaken :
  overtaken.IsStateless
  where
  builder := stateless_earlyBuyer
  checks n k hk := by
    rw [registry_overtaken] at hk
    cases hk

theorem starts_overtaken :
  overtaken.Starts 1 ⟨1, "BTC", [backtestOf "ema" "binance"]⟩ (Timeframe.m15.window 0)
  := ⟨0, ⟨[backtestOf "ema" "binance"], someTick, .handed⟩, 0, overtaken.desk 1,
    ⟨⟨rfl, rfl, rfl⟩, rfl⟩, rfl, rfl, rfl, rfl⟩

/-- The indicator function is called while the first window lasts. -/
theorem inWindow_overtaken
    {m k : Nat} {g : Nat} {v : Visit} {window : Int} {due : Due} {x : Value}
    (hs : overtaken.Supplied m k g v window due x) :
  overtaken.InWindow k due.stack window
  := by
  obtain ⟨hrequests, -, he, -, hnone, -⟩ := hs
  obtain ⟨hk, hj⟩ : (k = 4 ∨ k = 6) ∧ 1 = due.job := by
    have hlt : k < 12 := by
      obtain he | he := he <;> exact (List.getElem?_eq_some_iff.mp he).1
    interval_cases k <;> simp_all [overtaken, buyingEarly]
  obtain rfl | rfl := hk
  · obtain ⟨_, -, due', hs', hj', -⟩ := hrequests.starts
    obtain ⟨-, -, rfl⟩ := starts_overtaken.unique hs' (hj.trans hj'.symm)
    use 0, rfl
    rfl
  · -- The function was called two places before.
    have hsome : ((overtaken.after 6).evaluated 1).isSome = true := rfl
    rw [hj, hnone] at hsome
    cases hsome

/-- The second tick is admitted in the end. -/
theorem admitted_overtaken :
  (match (overtaken.visit 12 1).map Visit.stage with
    | some (.ended (.ok (some dec))) => dec.admitted
    | _ => false) = true
  := by decide +kernel

/-- The second tick waits for a computation that is due, and buys in the second window what it
would have bought without a cache in the first. -/
theorem decisions_ignore_cache_overtaken :
  earlyBuyer.Steady .m15 keyAndWindow ∧ overtaken.IsStateless
    ∧ (∃ v due, overtaken.visit 4 1 = some v ∧ due ∈ (overtaken.desk 4).queue
      ∧ v.stage = .waiting v.key (Timeframe.m15.window 0) due.job)
    ∧ ∃ v dec, overtaken.visit 12 1 = some v ∧ v.stage = .ended (.ok (some dec))
      ∧ dec.admitted = true
      ∧ ∃ m, overtaken.LastAsked m 12 1 v
        ∧ overtaken.WhenJudged m 12 1 v (overtaken.Gives m · v (.ok (some dec)))
  := by
  have hsteady : overtaken.pipeline.Steady overtaken.timeframe keyAndWindow := steady_earlyBuyer
  use hsteady, isStateless_overtaken
  constructor
  · let v : Visit := ⟨[backtestOf "ema" "binance"], someTick,
      .waiting (Stack.keyOf [backtestOf "ema" "binance"] "BTC") (Timeframe.m15.window 0) 1⟩
    have hv : overtaken.visit 4 1 = some v := rfl
    obtain ⟨due, hdue, hj⟩ | ⟨_, _, _, _, -, -, -, -, ho, -⟩ :=
      (decisions_ignore_cache hsteady isStateless_overtaken hv).2 _ _ _ rfl
    · use v, due, hv, hdue
      rw [hj]
      rfl
    · cases ho
  · have hended := admitted_overtaken
    split at hended
    next dec hstage =>
      obtain ⟨v, hv, hs⟩ := Option.map_eq_some_iff.mp hstage
      obtain ⟨⟨⟩, -⟩ | ⟨_, _, -, -, ⟨⟩⟩ | ⟨m, k, window, due, x, hm, -, hsupplied, -, hdirect⟩ :=
        (decisions_ignore_cache hsteady isStateless_overtaken hv).1 _ hs
      use v, dec, hv, hs, hended, m, hm
      apply hdirect (inWindow_overtaken hsupplied)
    next => cases hended

/-- The window ends after a tick has asked, and before the computation that it waits for calls
the indicator function. -/
def rolled : FloorHistory Nat Empty Int :=
  buyingEarly [.call 0 [backtestOf "ema" "binance"] someTick, .advance 0,
    .outside .empty [] 900, .compute 1, .advance 0, .advance 0]

theorem registry_rolled
    (n : Nat) :
  (rolled.desk n).registry = .empty
  := by
  obtain hlt | hle := Nat.lt_or_ge n 6
  · interval_cases n <;> rfl
  · have hlast : rolled.after n = rolled.after 6 := after_of_length_le hle
    rw [desk, hlast]
    rfl

/-- A tick does not buy what it would have bought without a cache: the indicators that it is
given are those of the next window. -/
theorem decision_differs_where_window_ends :
  earlyBuyer.Steady .m15 keyAndWindow ∧ rolled.IsStateless
    ∧ ∃ v, rolled.visit 6 0 = some v ∧ v.stage = .ended (.ok none) ∧ rolled.LastAsked 1 6 0 v
      ∧ ∀ e, ∃ dec, dec.admitted = true ∧ rolled.Gives 1 e v (.ok (some dec))
  := by
  use steady_earlyBuyer
  constructor
  · use stateless_earlyBuyer
    intro n k hk
    rw [registry_rolled] at hk
    cases hk
  · use ⟨[backtestOf "ema" "binance"], someTick, .ended (.ok none)⟩, rfl, rfl
    constructor
    · use by decide, ⟨rfl, rfl, rfl⟩
      rintro k hk hk' v' ⟨he, hv, hs⟩
      interval_cases k
      · cases he
      · cases he
      · obtain rfl := Option.some.inj hv
        cases hs
      · obtain rfl := Option.some.inj hv
        cases hs
    · intro e
      unfold Gives
      rw [registry_rolled]
      exact ⟨_, rfl, rfl⟩

end FloorHistory

end TradeGate
