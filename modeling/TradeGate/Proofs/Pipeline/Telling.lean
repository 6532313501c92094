import TradeGate.Proofs.Pipeline.Stage
import TradeGate.Proofs.Risk.Evaluation

/-!
# Telling the subscribers

A decision is made before anyone is told of it: an admission is that of a pipeline without
subscribers, and then each subscriber is told once, in the order of the subscriptions.  An
ordinary fault of a subscriber shows nowhere: it makes no difference whether it is raised.
-/

namespace TradeGate

variable {ι σ : Type}

/-- An action that leaves the subscriptions as they are. -/
def Act.KeepsSubscribers {α : Type} (a : Act (Desk ι σ) α) : Prop :=
  ∀ (stack : Stack) (d : Desk ι σ), (a.outcome stack d).2.subscribers = d.subscribers

/-- Absorbing faults twice is absorbing them once. -/
theorem Act.absorb_absorb
    (a : Act σ Unit) :
  a.absorb.absorb = a.absorb
  := by
  apply Act.ext_outcome
  intro stack s
  rw [Act.outcome_absorb, Act.outcome_absorb]
  rcases a.outcome stack s with ⟨e | x, s'⟩
  · cases he : e.isOrdinary <;> simp [he]
  · rfl

namespace Pipeline

variable (p : Pipeline ι σ)

/-- The same pipeline, whose subscribers raise no ordinary faults. -/
def hushed : Pipeline ι σ :=
  { p with tell := fun s dec => (p.tell s dec).absorb }

/-- The same pipeline, whose subscribers do nothing. -/
def silent : Pipeline ι σ :=
  { p with tell := fun _ _ => pure () }

/-! ### Faults of subscribers -/

theorem notifyFrom_hushed
    (dec : Decision) (fuel k : Nat) :
  p.hushed.notifyFrom dec fuel k = p.notifyFrom dec fuel k
  := by
  induction fuel generalizing k with
  | zero => rfl
  | succ fuel ih =>
    simp only [notifyFrom, ih]
    congr 1
    funext d
    split
    · rfl
    · rw [hushed, Act.absorb_absorb]

theorem conclude_hushed
    (tick : Tick) (x : Value) :
  p.hushed.conclude tick x = p.conclude tick x
  := by
  simp only [conclude, notify, notifyFrom_hushed]
  rfl

theorem receive_hushed
    (tick : Tick) (key : String) (window : Int) (o : Outcome Value) :
  p.hushed.receive tick key window o = p.receive tick key window o
  := by
  cases o with
  | value x => apply conclude_hushed
  | failure e => rfl
  | cancelled => rfl

/-- Whether subscribers raise their ordinary faults makes no difference. -/
theorem processTick_hushed
    (tick : Tick) :
  p.hushed.processTick tick = p.processTick tick
  := by
  simp only [processTick, conclude_hushed, receive_hushed]
  rfl

/-! ### Decisions come first -/

/-- Tells a decision, if there is one, and gives it on. -/
def announce : Option Decision → Act (Desk ι σ) (Option Decision)
  | none => pure none
  | some dec => do
    p.notify dec
    return some dec

theorem outcome_notifyFrom_silent
    (dec : Decision) (fuel k : Nat) (stack : Stack) (d : Desk ι σ) :
  (p.silent.notifyFrom dec fuel k).outcome stack d = (.ok (), d)
  := by
  induction fuel generalizing k with
  | zero => rfl
  | succ fuel ih =>
    rw [notifyFrom, Act.outcome_bind, Act.outcome_get]
    dsimp only
    split
    · rfl
    · apply ih

theorem notify_silent
    (dec : Decision) :
  p.silent.notify dec = pure ()
  := by
  apply Act.ext_outcome
  intro stack d
  apply outcome_notifyFrom_silent

theorem conclude_eq_announce
    (tick : Tick) (x : Value) :
  p.conclude tick x = p.silent.conclude tick x >>= p.announce
  := by
  simp only [conclude, bind_assoc]
  congr 1
  funext s
  cases s with
  | none =>
    rw [pure_bind]
    rfl
  | some s =>
    simp only [bind_assoc, notify_silent, pure_bind]
    rfl

theorem receive_eq_announce
    (tick : Tick) (key : String) (window : Int) (o : Outcome Value) :
  p.receive tick key window o = p.silent.receive tick key window o >>= p.announce
  := by
  cases o with
  | value x => apply conclude_eq_announce
  | failure e => rfl
  | cancelled => rfl

/-- An admission is that of a pipeline without subscribers, and then they are told. -/
theorem processTick_eq_announce
    (tick : Tick) :
  p.processTick tick = p.silent.processTick tick >>= p.announce
  := by
  simp only [processTick, bind_assoc]
  congr 1
  funext x
  cases x with
  | ready x => apply conclude_eq_announce
  | waiting key window job =>
    simp only [bind_assoc]
    congr 1
    funext x
    congr 1
    funext d
    cases d.outcome? job with
    | some o => apply receive_eq_announce
    | none =>
      rw [pure_bind]
      rfl

/-! ### One after the other -/

/-- Tells a decision to some subscribers, one after the other. -/
def tellEach (dec : Decision) : List ι → Act (Desk ι σ) Unit
  | [] => pure ()
  | s :: rest => do
    (p.tell s dec).absorb
    tellEach dec rest

variable {p}

/-- While the subscriptions stay, the subscribers from a position on are told. -/
theorem outcome_notifyFrom
    (hkeeps : ∀ s dec, (p.tell s dec).KeepsSubscribers) (dec : Decision) (stack : Stack)
    (fuel k : Nat) (d : Desk ι σ) (hfuel : d.subscribers.length ≤ k + fuel) :
  (p.notifyFrom dec fuel k).outcome stack d
    = (p.tellEach dec (d.subscribers.drop k)).outcome stack d
  := by
  induction fuel generalizing k d with
  | zero =>
    have hdrop : d.subscribers.drop k = [] := List.drop_eq_nil_of_le hfuel
    rw [hdrop]
    rfl
  | succ fuel ih =>
    rw [notifyFrom, Act.outcome_bind, Act.outcome_get]
    dsimp only
    cases hk : d.subscribers[k]? with
    | none =>
      rw [List.drop_eq_nil_of_le (List.getElem?_eq_none_iff.mp hk)]
      rfl
    | some s =>
      obtain ⟨hlt, rfl⟩ := List.getElem?_eq_some_iff.mp hk
      rw [List.drop_eq_getElem_cons hlt, tellEach, Act.outcome_bind, Act.outcome_bind]
      have hsame := hkeeps d.subscribers[k] dec stack d
      rw [← Act.snd_outcome_absorb] at hsame
      rcases hrun : (p.tell d.subscribers[k] dec).absorb.outcome stack d with ⟨e | x, d'⟩
      · rfl
      · rw [hrun] at hsame
        dsimp only at hsame ⊢
        rw [ih (k + 1) d' (by rw [hsame]; omega), hsame]

/-- While the subscriptions stay, each subscriber is told once, in their order. -/
theorem outcome_notify
    (hkeeps : ∀ s dec, (p.tell s dec).KeepsSubscribers) (dec : Decision) (stack : Stack)
    (d : Desk ι σ) :
  (p.notify dec).outcome stack d = (p.tellEach dec d.subscribers).outcome stack d
  := by
  rw [notify, Act.outcome_bind, Act.outcome_get]
  dsimp only
  rw [outcome_notifyFrom hkeeps dec stack _ 0 d (by omega)]
  rfl

variable (p) in
/-- The desk after some subscribers were told a decision, one after the other. -/
def told (stack : Stack) (dec : Decision) (d : Desk ι σ) (subscribers : List ι) : Desk ι σ :=
  subscribers.foldl (fun d s => ((p.tell s dec).outcome stack d).2) d

/-- Where telling ends well, all of the subscribers were told. -/
theorem told_of_tellEach
    {dec : Decision} {subscribers : List ι} {stack : Stack} {d d' : Desk ι σ} {x : Unit}
    (h : (p.tellEach dec subscribers).outcome stack d = (.ok x, d')) :
  d' = p.told stack dec d subscribers
  := by
  induction subscribers generalizing d with
  | nil =>
    cases h
    rfl
  | cons s rest ih =>
    obtain ⟨y, d₁, htell, hrest⟩ := Act.outcome_bind_eq_ok h
    have hd₁ : d₁ = ((p.tell s dec).outcome stack d).2 := by
      rw [← Act.snd_outcome_absorb, htell]
    rw [ih hrest, hd₁]
    rfl

/-- A decision that is given was made as without subscribers, and then told to each of them
once, in the order of the subscriptions. -/
theorem told_of_processTick
    (hkeeps : ∀ s dec, (p.tell s dec).KeepsSubscribers) {tick : Tick} {dec : Decision}
    {stack : Stack} {d d' : Desk ι σ}
    (h : (p.processTick tick).outcome stack d = (.ok (some dec), d')) :
  ∃ d₁, (p.silent.processTick tick).outcome stack d = (.ok (some dec), d₁)
    ∧ d' = p.told stack dec d₁ d₁.subscribers
  := by
  rw [processTick_eq_announce] at h
  obtain ⟨_ | dec', d₁, hsilent, hannounce⟩ := Act.outcome_bind_eq_ok h
  · cases hannounce
  · obtain ⟨x, d₂, hnotify, hpure⟩ := Act.outcome_bind_eq_ok hannounce
    cases hpure
    rw [outcome_notify hkeeps] at hnotify
    use d₁, hsilent, told_of_tellEach hnotify

/-! ### Ordinary faults -/

theorem fst_outcome_notifyFrom
    (hordinary : ∀ s dec, (p.tell s dec).IsOrdinary) (dec : Decision) (fuel k : Nat)
    (stack : Stack) (d : Desk ι σ) :
  ((p.notifyFrom dec fuel k).outcome stack d).1 = .ok ()
  := by
  induction fuel generalizing k d with
  | zero => rfl
  | succ fuel ih =>
    rw [notifyFrom, Act.outcome_bind, Act.outcome_get]
    dsimp only
    split
    · rfl
    · rw [Act.outcome_bind, (hordinary _ dec).outcome_absorb]
      apply ih

/-- Subscribers that raise ordinary faults at most change no decision. -/
theorem fst_outcome_processTick
    (hordinary : ∀ s dec, (p.tell s dec).IsOrdinary) (tick : Tick) (stack : Stack)
    (d : Desk ι σ) :
  ((p.processTick tick).outcome stack d).1 = ((p.silent.processTick tick).outcome stack d).1
  := by
  rw [processTick_eq_announce, Act.outcome_bind]
  rcases (p.silent.processTick tick).outcome stack d with ⟨e | _ | dec, d'⟩
  · rfl
  · rfl
  · have hnotify := fst_outcome_notifyFrom hordinary dec (d'.subscribers.length + p.newcomers) 0
      stack d'
    simp only [announce, notify, Act.outcome_bind, Act.outcome_get]
    rcases hrun : (p.notifyFrom dec (d'.subscribers.length + p.newcomers) 0).outcome stack d'
      with ⟨e | x, d₁⟩
    · simp [hrun] at hnotify
    · rfl

end Pipeline

end TradeGate
