import Mathlib.Data.List.Nodup
import TradeGate.Proofs.Pipeline.Journaling

/-!
# Subscribing and being told

Subscriptions change by calls only, made between decisions or by the subscribers while they are
told; so no name is ever subscribed twice.  A decision is told by position: the subscribers are
looked up anew at each turn.  As long as those that were there at the begin stay in their places,
each of them is told once, in the order of their subscription, and newcomers are told after them.
One that leaves moves the others up, and the next one is passed over.
-/

namespace TradeGate

namespace Pipeline

variable {ι σ : Type} (p : Pipeline ι σ)

/-! ### Turns -/

/-- The desks before the turns of a notification, by the position of the turn. -/
inductive BeforeTurn (dec : Decision) (stack : Stack) (d : Desk ι σ) : Nat → Desk ι σ → Prop
  | begins : BeforeTurn dec stack d 0 d
  | next {k : Nat} {e e' : Desk ι σ} {s : ι} {x : Unit} (he : BeforeTurn dec stack d k e)
      (hs : e.subscribers[k]? = some s)
      (htell : (p.tell s dec).absorb.outcome stack e = (.ok x, e')) :
    BeforeTurn dec stack d (k + 1) e'

/-- The subscribers that are there when a decision begins to be told keep their places until the
last of them is told, and then none of them is subscribed anew. -/
structure Undisturbed (dec : Decision) (stack : Stack) (d : Desk ι σ) : Prop where
  stay : ∀ k e, p.BeforeTurn dec stack d k e → k < d.subscribers.length →
    d.subscribers <+: e.subscribers
  anew : ∀ k e, p.BeforeTurn dec stack d k e → d.subscribers.length ≤ k →
    ∀ s ∈ d.subscribers, s ∉ e.subscribers.drop d.subscribers.length

variable {p}

/-- One turn: the subscriber at the position is told, and then the others if that ends well. -/
theorem outcome_notifyFrom_succ
    {dec : Decision} {fuel k : Nat} {stack : Stack} {e : Desk ι σ} {s : ι} {rest : List ι}
    (hs : e.subscribers[k]? = some s)
    (hrest : ∀ x e', (p.tell s dec).absorb.outcome stack e = (.ok x, e') →
      (p.notifyFrom dec fuel (k + 1)).outcome stack e' = (p.tellEach dec rest).outcome stack e') :
  (p.notifyFrom dec (fuel + 1) k).outcome stack e = (p.tellEach dec (s :: rest)).outcome stack e
  := by
  rw [notifyFrom, tellEach, Act.outcome_bind, Act.outcome_get]
  dsimp only
  rw [hs]
  dsimp only
  rw [Act.outcome_bind, Act.outcome_bind]
  rcases hrun : (p.tell s dec).absorb.outcome stack e with ⟨fault | x, e'⟩
  · rfl
  · apply hrest x e' hrun

/-- A notification ends at a position where there is no subscriber. -/
theorem outcome_notifyFrom_of_none
    {dec : Decision} {k : Nat} {stack : Stack} {e : Desk ι σ} (hs : e.subscribers[k]? = none)
    (fuel : Nat) :
  (p.notifyFrom dec fuel k).outcome stack e = (.ok (), e)
  := by
  cases fuel with
  | zero => rfl
  | succ fuel =>
    rw [notifyFrom, Act.outcome_bind, Act.outcome_get]
    dsimp only
    rw [hs]
    rfl

variable {dec : Decision} {stack : Stack} {d e : Desk ι σ} {k : Nat}

/-- At its position there is the subscriber who was there at the begin, or a newcomer. -/
theorem Undisturbed.getElem?_eq
    (h : p.Undisturbed dec stack d) (he : p.BeforeTurn dec stack d k e)
    (hk : k < d.subscribers.length) :
  e.subscribers[k]? = some d.subscribers[k]
  := by
  obtain ⟨later, hlater⟩ := h.stay k e he hk
  rw [← hlater, List.getElem?_append_left hk, List.getElem?_eq_getElem hk]

theorem Undisturbed.newcomer
    (h : p.Undisturbed dec stack d) (he : p.BeforeTurn dec stack d k e)
    (hk : d.subscribers.length ≤ k) {s : ι} (hs : e.subscribers[k]? = some s) :
  s ∉ d.subscribers
  := by
  intro hmem
  apply h.anew k e he hk s hmem
  rw [List.mem_iff_getElem?]
  use k - d.subscribers.length
  rw [List.getElem?_drop, Nat.add_sub_of_le hk, hs]

/-- The turns from a position on: those of the first subscribers that are left, and newcomers. -/
theorem exists_newcomers
    (h : p.Undisturbed dec stack d) (fuel k : Nat) {e : Desk ι σ}
    (he : p.BeforeTurn dec stack d k e) (hfuel : d.subscribers.length ≤ k + fuel) :
  ∃ later : List ι, (∀ s ∈ later, s ∉ d.subscribers)
    ∧ (p.notifyFrom dec fuel k).outcome stack e
      = (p.tellEach dec (d.subscribers.drop k ++ later)).outcome stack e
  := by
  induction fuel generalizing k e with
  | zero =>
    have hdrop : d.subscribers.drop k = [] := List.drop_eq_nil_of_le hfuel
    use [], by simp
    rw [hdrop]
    rfl
  | succ fuel ih =>
    cases hs : e.subscribers[k]? with
    | none =>
      have hdrop : d.subscribers.drop k = [] := by
        apply List.drop_eq_nil_of_le
        by_contra hk
        rw [h.getElem?_eq he (Nat.lt_of_not_le hk)] at hs
        cases hs
      use [], by simp
      rw [hdrop, outcome_notifyFrom_of_none hs]
      rfl
    | some s =>
      -- If the turn ends with a fault there are no further ones, so any newcomers will do.
      obtain ⟨later, hlater, hrest⟩ : ∃ later : List ι, (∀ s ∈ later, s ∉ d.subscribers)
          ∧ ∀ x e', (p.tell s dec).absorb.outcome stack e = (.ok x, e') →
            (p.notifyFrom dec fuel (k + 1)).outcome stack e'
              = (p.tellEach dec (d.subscribers.drop (k + 1) ++ later)).outcome stack e' := by
        rcases hrun : (p.tell s dec).absorb.outcome stack e with ⟨fault | x, e'⟩
        · exact ⟨[], by simp, nofun⟩
        · obtain ⟨later, hlater, hrest⟩ := ih (k + 1) (he.next hs hrun) (by omega)
          use later, hlater
          rintro _ _ ⟨⟩
          exact hrest
      by_cases hk : k < d.subscribers.length
      · rw [h.getElem?_eq he hk] at hs
        obtain rfl := Option.some.inj hs
        use later, hlater
        rw [List.drop_eq_getElem_cons hk]
        apply outcome_notifyFrom_succ (h.getElem?_eq he hk) hrest
      · have hdrop (j : Nat) (hj : k ≤ j) : d.subscribers.drop j = [] :=
          List.drop_eq_nil_of_le (by omega)
        rw [hdrop (k + 1) (Nat.le_succ k)] at hrest
        use s :: later
        rw [hdrop k (Nat.le_refl k)]
        constructor
        · rw [List.forall_mem_cons]
          exact ⟨h.newcomer he (Nat.le_of_not_lt hk) hs, hlater⟩
        · apply outcome_notifyFrom_succ hs hrest

end Pipeline

variable {ι σ : Type} [DecidableEq ι]

/-! ### Calls -/

/-- A call that changes the subscriptions. -/
inductive SubscriptionCall (ι : Type) where
  | subscribe (s : ι)
  | unsubscribe (s : ι)
deriving Repr

namespace Desk

/-- The desk after a call. -/
def call (d : Desk ι σ) : SubscriptionCall ι → Desk ι σ
  | .subscribe s => d.subscribe s
  | .unsubscribe s => d.unsubscribe s

theorem nodup_call
    {d : Desk ι σ} (h : d.subscribers.Nodup) (c : SubscriptionCall ι) :
  (d.call c).subscribers.Nodup
  := by
  cases c with
  | subscribe s => exact nodup_subscribe h s
  | unsubscribe s => exact h.erase s

/-- A new subscription leaves the others in their places. -/
theorem prefix_subscribe
    (d : Desk ι σ) (s : ι) :
  d.subscribers <+: (d.subscribe s).subscribers
  := by
  unfold subscribe
  split
  · exact List.prefix_rfl
  · apply List.prefix_append

theorem nodup_calls
    {d : Desk ι σ} (h : d.subscribers.Nodup) (calls : List (SubscriptionCall ι)) :
  (calls.foldl Desk.call d).subscribers.Nodup
  := by
  induction calls generalizing d with
  | nil => exact h
  | cons c calls ih => exact ih (nodup_call h c)

end Desk

/-- An action that changes the subscriptions by calls only, if it changes them.  The action may be
that of a subscriber who is awaited; what others do meanwhile counts as done by it. -/
def Act.Calls {α : Type} (a : Act (Desk ι σ) α) : Prop :=
  ∀ (stack : Stack) (d : Desk ι σ), ∃ calls : List (SubscriptionCall ι),
    (a.outcome stack d).2.subscribers = (calls.foldl Desk.call d).subscribers

theorem Act.Calls.absorb
    {a : Act (Desk ι σ) Unit} (ha : a.Calls) :
  a.absorb.Calls
  := by
  intro stack d
  rw [Act.snd_outcome_absorb]
  apply ha

theorem Act.Calls.nodup
    {α : Type} {a : Act (Desk ι σ) α} (ha : a.Calls) (stack : Stack) {d : Desk ι σ}
    (h : d.subscribers.Nodup) :
  (a.outcome stack d).2.subscribers.Nodup
  := by
  obtain ⟨calls, hcalls⟩ := ha stack d
  rw [hcalls]
  apply Desk.nodup_calls h calls

namespace Pipeline

/-! ### Histories -/

variable (p : Pipeline ι σ)

/-- The desks that a pipeline comes to: a new one, and from there by calls, by telling decisions,
and by whatever leaves the subscriptions alone. -/
inductive Reaches : Desk ι σ → Prop
  | create (registry : Registry σ) (timeframe : Timeframe) (bound : Int) (world : σ) :
    Reaches (.create registry timeframe bound world)
  | call {d : Desk ι σ} (hd : Reaches d) (c : SubscriptionCall ι) : Reaches (d.call c)
  | notify {d : Desk ι σ} (hd : Reaches d) (dec : Decision) (stack : Stack) :
    Reaches ((p.notify dec).outcome stack d).2
  | elsewhere {d d' : Desk ι σ} (hd : Reaches d) (hsame : d'.subscribers = d.subscribers) :
    Reaches d'

omit [DecidableEq ι] in
/-- Without subscribers that act, a tick changes no subscriptions. -/
theorem processTick_silent_keepsSubscribers
    (tick : Tick) :
  (p.silent.processTick tick).KeepsSubscribers
  := by
  apply (p.silent.ask_keepsSubscribers tick.symbol).bind
  rintro (x | ⟨key, window, job⟩) stack d
  · apply conclude_silent_keepsSubscribers
  · dsimp only
    rw [Act.outcome_bind, Act.outcome_modify]
    dsimp only
    rw [Act.outcome_bind, Act.outcome_get]
    dsimp only
    rcases (p.silent.work d).outcome? job with _ | x | e | _
    · apply p.silent.subscribers_work d
    · dsimp only
      rw [receive, conclude_silent_keepsSubscribers]
      apply p.silent.subscribers_work d
    · apply p.silent.subscribers_work d
    · apply p.silent.subscribers_work d

variable {p}

/-- A tick that is admitted leads from one of these desks to another. -/
theorem Reaches.processTick
    {d : Desk ι σ} (hd : p.Reaches d) (tick : Tick) (stack : Stack) :
  p.Reaches ((p.processTick tick).outcome stack d).2
  := by
  have hsilent := p.processTick_silent_keepsSubscribers tick stack d
  rw [processTick_eq_announce, Act.outcome_bind]
  rcases hrun : (p.silent.processTick tick).outcome stack d with ⟨e | _ | dec, d'⟩
  · rw [hrun] at hsilent
    apply hd.elsewhere hsilent
  · rw [hrun] at hsilent
    apply hd.elsewhere hsilent
  · rw [hrun] at hsilent
    apply ((hd.elsewhere hsilent).notify dec stack).elsewhere
    dsimp only
    rw [announce, Act.outcome_bind]
    rcases (p.notify dec).outcome stack d' with ⟨e | x, d''⟩ <;> rfl

theorem nodup_notifyFrom
    (hcalls : ∀ s dec, (p.tell s dec).Calls) (dec : Decision) (stack : Stack) (fuel k : Nat)
    {d : Desk ι σ} (h : d.subscribers.Nodup) :
  ((p.notifyFrom dec fuel k).outcome stack d).2.subscribers.Nodup
  := by
  induction fuel generalizing k d with
  | zero => exact h
  | succ fuel ih =>
    rw [notifyFrom, Act.outcome_bind, Act.outcome_get]
    dsimp only
    cases d.subscribers[k]? with
    | none => exact h
    | some s =>
      have htell := (hcalls s dec).absorb.nodup stack h
      dsimp only
      rw [Act.outcome_bind]
      rcases hrun : (p.tell s dec).absorb.outcome stack d with ⟨e | x, d'⟩
      · rwa [hrun] at htell
      · rw [hrun] at htell
        apply ih (k + 1) htell

/-- No name is ever subscribed twice. -/
theorem Reaches.nodup
    (hcalls : ∀ s dec, (p.tell s dec).Calls) {d : Desk ι σ} (hd : p.Reaches d) :
  d.subscribers.Nodup
  := by
  induction hd with
  | create => exact List.nodup_nil
  | call _ c ih => exact Desk.nodup_call ih c
  | notify _ dec stack ih => exact nodup_notifyFrom hcalls dec stack _ 0 ih
  | elsewhere _ hsame ih => rwa [hsame]

/-- Nor while a decision is told. -/
theorem BeforeTurn.nodup
    (hcalls : ∀ s dec, (p.tell s dec).Calls) {dec : Decision} {stack : Stack} {d e : Desk ι σ}
    {k : Nat} (hd : d.subscribers.Nodup) (he : p.BeforeTurn dec stack d k e) :
  e.subscribers.Nodup
  := by
  induction he with
  | begins => exact hd
  | @next k e e' s x he hs htell ih =>
    have hnext := (hcalls s dec).absorb.nodup stack ih
    rwa [htell] at hnext

/-- Subscribers that take no subscription away disturb nobody. -/
theorem undisturbed_of_onlyAdding
    (hcalls : ∀ s dec, (p.tell s dec).Calls)
    (honlyAdding : ∀ s dec stack (d : Desk ι σ),
      d.subscribers <+: ((p.tell s dec).outcome stack d).2.subscribers)
    {d : Desk ι σ} (hd : d.subscribers.Nodup) (dec : Decision) (stack : Stack) :
  p.Undisturbed dec stack d
  := by
  have hstay {k : Nat} {e : Desk ι σ} (he : p.BeforeTurn dec stack d k e) :
      d.subscribers <+: e.subscribers := by
    induction he with
    | begins => exact List.prefix_rfl
    | @next k e e' s x he hs htell ih =>
      have hnext := honlyAdding s dec stack e
      rw [← Act.snd_outcome_absorb, htell] at hnext
      apply ih.trans hnext
  constructor
  · intro k e he _
    apply hstay he
  · intro k e he _ s hs hmem
    obtain ⟨later, hlater⟩ := hstay he
    have hnodup := he.nodup hcalls hd
    rw [← hlater, List.drop_left] at hmem
    rw [← hlater] at hnodup
    exact (List.nodup_append.mp hnodup).2.2 s hs s hmem rfl

/-! ### Being told once -/

/-- Whatever was subscribed and unsubscribed before, no name is subscribed twice, neither now nor
while a decision is told.  Unless one of the first subscribers loses its place before all of them
were told, or comes anew afterwards, each of them is told once, in the order of subscription, with
newcomers behind them; and ordinary faults keep nobody from being told. -/
theorem subscribers_are_told_once
    (hcalls : ∀ s dec, (p.tell s dec).Calls) {d : Desk ι σ} (hd : p.Reaches d) (dec : Decision)
    (stack : Stack) :
  d.subscribers.Nodup
    ∧ (∀ k e, p.BeforeTurn dec stack d k e → e.subscribers.Nodup)
    ∧ (p.Undisturbed dec stack d → ∃ told : List ι,
        d.subscribers <+: told ∧ (∀ s ∈ d.subscribers, told.count s = 1)
        ∧ (p.notify dec).outcome stack d = (p.tellEach dec told).outcome stack d
        ∧ ((∀ s dec, (p.tell s dec).IsOrdinary) →
            (p.notify dec).outcome stack d = (.ok (), p.told stack dec d told)))
  := by
  have hnodup := hd.nodup hcalls
  refine ⟨hnodup, fun k e he => he.nodup hcalls hnodup, ?_⟩
  intro h
  obtain ⟨later, hlater, hnotify⟩ :=
    exists_newcomers h (d.subscribers.length + p.newcomers) 0 .begins (by omega)
  rw [List.drop_zero] at hnotify
  have hcount : ∀ s ∈ d.subscribers, (d.subscribers ++ later).count s = 1 := by
    intro s hs
    rw [List.count_append, List.count_eq_one_of_mem hnodup hs,
      List.count_eq_zero_of_not_mem fun hmem => hlater s hmem hs]
  refine ⟨d.subscribers ++ later, List.prefix_append .., hcount, hnotify, ?_⟩
  intro hordinary
  have hdone := fst_outcome_notifyFrom hordinary dec (d.subscribers.length + p.newcomers) 0 stack d
  have hrun : (p.notify dec).outcome stack d = (.ok (), ((p.notify dec).outcome stack d).2) :=
    Prod.ext hdone rfl
  rw [hrun, told_of_tellEach (hnotify.symm.trans hrun)]

/-- A pipeline whose subscribers write their names down when they are told, and then react. -/
def writingDown (react : String → Act (Desk String (List String)) Unit) :
    Pipeline String (List String) where
  clock := pure (.int 0)
  indicator _ := pure .null
  builder _ _ := pure none
  tell s _ := do
    Desk.lift (modify fun names => names ++ [s])
    react s
  newcomers := 1

theorem outcome_tell_writingDown
    (react : String → Act (Desk String (List String)) Unit) (s : String) (dec : Decision)
    (stack : Stack) (d : Desk String (List String)) :
  ((writingDown react).tell s dec).outcome stack d
    = (react s).outcome stack { d with world := d.world ++ [s] }
  := Act.outcome_bind ..

/-- A new desk after some calls. -/
def deskAfter (calls : List (SubscriptionCall String)) : Desk String (List String) :=
  calls.foldl Desk.call (.create .empty .m15 100 [])

theorem reaches_deskAfter
    (p : Pipeline String (List String)) (calls : List (SubscriptionCall String)) :
  p.Reaches (deskAfter calls)
  := by
  have hcalls {d : Desk String (List String)} (hd : p.Reaches d) :
      p.Reaches (calls.foldl Desk.call d) := by
    induction calls generalizing d with
    | nil => exact hd
    | cons c calls ih => exact ih (hd.call c)
  apply hcalls (.create ..)

/-- The host brings in a guest when it is told, and the others fail. -/
def hosting : Pipeline String (List String) :=
  writingDown fun s =>
    if s = "host" then modify fun d => d.subscribe "guest"
    else throw (.raised "RuntimeError" none)

theorem outcome_tell_hosting
    (s : String) (dec : Decision) (stack : Stack) (d : Desk String (List String)) :
  (hosting.tell s dec).outcome stack d
    = if s = "host" then (.ok (), { d with world := d.world ++ [s] }.subscribe "guest")
      else (.error (.raised "RuntimeError" none), { d with world := d.world ++ [s] })
  := by
  rw [hosting, outcome_tell_writingDown]
  split <;> rfl

theorem calls_hosting
    (s : String) (dec : Decision) :
  (hosting.tell s dec).Calls
  := by
  intro stack d
  rw [outcome_tell_hosting]
  split
  · use [.subscribe "guest"]
    simp only [List.foldl_cons, List.foldl_nil, Desk.call, Desk.subscribe]
    split <;> rfl
  · use []
    rfl

theorem onlyAdding_hosting
    (s : String) (dec : Decision) (stack : Stack) (d : Desk String (List String)) :
  d.subscribers <+: ((hosting.tell s dec).outcome stack d).2.subscribers
  := by
  rw [outcome_tell_hosting]
  split
  · apply Desk.prefix_subscribe { d with world := d.world ++ [s] }
  · exact List.prefix_rfl

theorem isOrdinary_hosting
    (s : String) (dec : Decision) :
  (hosting.tell s dec).IsOrdinary
  := by
  intro stack d e he
  rw [outcome_tell_hosting] at he
  split at he <;> cases he
  rfl

theorem subscribers_are_told_once_hosting :
  let d := deskAfter [.subscribe "host", .subscribe "failing", .subscribe "host"]
  d.subscribers = ["host", "failing"]
    ∧ ((hosting.notify default).outcome [] d).2.world = ["host", "failing", "guest"]
    ∧ ∃ told : List String, d.subscribers <+: told ∧ (∀ s ∈ d.subscribers, told.count s = 1)
      ∧ (hosting.notify default).outcome [] d = (.ok (), hosting.told [] default d told)
  := by
  intro d
  obtain ⟨hnodup, -, htold⟩ :=
    subscribers_are_told_once calls_hosting (reaches_deskAfter hosting _) default []
  obtain ⟨told, hfirst, hcount, -, hrun⟩ :=
    htold (undisturbed_of_onlyAdding calls_hosting onlyAdding_hosting hnodup default [])
  refine ⟨by decide, by decide, told, hfirst, hcount, hrun isOrdinary_hosting⟩

/-- Each subscriber ends its own subscription when it is told. -/
def leaving : Pipeline String (List String) :=
  writingDown fun s => modify fun d => d.unsubscribe s

/-- Those who are told write their names down. -/
theorem world_tellEach_leaving
    (dec : Decision) (told : List String) (stack : Stack) (d : Desk String (List String)) :
  ((leaving.tellEach dec told).outcome stack d).2.world = d.world ++ told
  := by
  induction told generalizing d with
  | nil => simp [tellEach]
  | cons s told ih =>
    rw [tellEach, Act.outcome_bind, Act.outcome_absorb, leaving, outcome_tell_writingDown]
    rw [Act.outcome_modify]
    dsimp only
    rw [← leaving, ih]
    simp [Desk.unsubscribe]

/-- A subscriber that leaves when it is told hides the decision from the next one: told to the
first subscribers one after the other, and then to any others, it would end otherwise. -/
theorem leaving_subscriber_hides_decision :
  let d := deskAfter [.subscribe "first", .subscribe "second"]
  ((leaving.notify default).outcome [] d).2.world = ["first"]
    ∧ ∀ told : List String, d.subscribers <+: told →
      (leaving.notify default).outcome [] d ≠ (leaving.tellEach default told).outcome [] d
  := by
  intro d
  have hworld : ((leaving.notify default).outcome [] d).2.world = ["first"] := by
    decide
  refine ⟨hworld, ?_⟩
  intro told hfirst h
  have htold : told = ["first"] := by
    rw [h, world_tellEach_leaving] at hworld
    exact hworld
  rw [htold] at hfirst
  exact absurd hfirst.length_le (by decide)

end Pipeline

end TradeGate
