import TradeGate.Journal.Basic
import TradeGate.Proofs.Pipeline.Keeping
import TradeGate.Proofs.Pipeline.Telling
import TradeGate.Scenario.Draining
import Mathlib.Data.List.Basic

/-!
# A journal among the subscribers

A journal is subscribed to the decisions of a pipeline: told of a decision, it records it under
the current frame.  Nothing else writes in it.  The subscribers are looked up by their position
while a decision is told, and may change their list meanwhile; as long as none of them takes the
journal's turn away or gives it a second one, the journal has one more row once the decision is
told, whatever the others raise.
-/

namespace TradeGate

variable {ι σ : Type}

/-! ### What leaves the subscriptions alone -/

/-- Erasing another item puts nothing off. -/
theorem idxOf_erase_le
    {α : Type} [DecidableEq α] {x y : α} (hne : x ≠ y) (l : List α) :
  (l.erase y).idxOf x ≤ l.idxOf x
  := by
  induction l with
  | nil => exact Nat.le_refl _
  | cons z l ih =>
    rw [List.erase_cons]
    split
    · rename_i hz
      rw [beq_iff_eq.mp hz, List.idxOf_cons_ne _ hne.symm]
      exact Nat.le_succ _
    · by_cases hx : z = x
      · rw [hx, List.idxOf_cons_self]
        exact Nat.zero_le _
      · rw [List.idxOf_cons_ne _ hx, List.idxOf_cons_ne _ hx]
        exact Nat.succ_le_succ ih

theorem Desk.lift_keepsSubscribers
    {α : Type} (a : Act σ α) :
  (Desk.lift a : Act (Desk ι σ) α).KeepsSubscribers
  := fun _ _ => rfl

theorem Desk.subscribers_serve
    (d : Desk ι σ) (stack : Stack) (symbol : String) (now : Int) :
  (d.serve stack symbol now).2.subscribers = d.subscribers
  := by
  obtain ⟨e, -, v, stats, -, -, -, -, hserve⟩ | ⟨e, -, stats, -, -, -, -, hserve⟩ | ⟨-, hserve⟩ :=
    d.serve_cases stack symbol now <;> rw [hserve]

namespace Act

variable {α β : Type}

theorem keepsSubscribers_iff
    {a : Act (Desk ι σ) α} :
  a.KeepsSubscribers ↔ ∀ l, a.Keeps fun d => d.subscribers = l
  := by
  constructor
  · intro h l stack d hd
    rw [h stack d, hd]
  · intro h stack d
    exact h d.subscribers stack d rfl

theorem KeepsSubscribers.bind
    {a : Act (Desk ι σ) α} {f : α → Act (Desk ι σ) β} (ha : a.KeepsSubscribers)
    (hf : ∀ x, (f x).KeepsSubscribers) :
  (a >>= f).KeepsSubscribers
  := by
  rw [keepsSubscribers_iff] at ha ⊢
  intro l
  exact (ha l).bind fun x => keepsSubscribers_iff.mp (hf x) l

end Act

namespace Pipeline

variable (p : Pipeline ι σ)

theorem ask_keepsSubscribers
    (symbol : String) :
  (p.ask symbol).KeepsSubscribers
  := by
  have hreading : p.reading.KeepsSubscribers := by
    apply (Desk.lift_keepsSubscribers p.clock).bind
    intro x
    rw [Act.keepsSubscribers_iff]
    intro l
    apply Act.keeps_ofExcept
  intro stack d
  rw [outcome_ask]
  have hread := hreading stack d
  rcases hrun : p.reading.outcome stack d with ⟨e | now, d'⟩
  · rwa [hrun] at hread
  · rw [hrun] at hread
    dsimp only
    rw [Desk.subscribers_serve]
    exact hread

/-- Without subscribers that act, nothing changes the subscriptions. -/
theorem conclude_silent_keepsSubscribers
    (tick : Tick) (x : Value) :
  (p.silent.conclude tick x).KeepsSubscribers
  := by
  have hpure {α : Type} (x : α) : (pure x : Act (Desk ι σ) α).KeepsSubscribers := fun _ _ => rfl
  have hget : (get : Act (Desk ι σ) (Desk ι σ)).KeepsSubscribers := fun _ _ => rfl
  apply (Desk.lift_keepsSubscribers _).bind
  intro s
  cases s with
  | none => apply hpure
  | some s =>
    apply hget.bind
    intro d
    apply (Desk.lift_keepsSubscribers _).bind
    intro dec
    rw [notify_silent]
    apply (hpure ()).bind
    intro _
    apply hpure

theorem subscribers_work
    (d : Desk ι σ) :
  (p.work d).subscribers = d.subscribers
  := by
  have hfold (dues : List Due) (d : Desk ι σ) :
      (dues.foldl (fun d due => p.compute due d) d).subscribers = d.subscribers := by
    induction dues generalizing d with
    | nil => rfl
    | cons due dues ih => rw [List.foldl_cons, ih]; rfl
  rw [work, hfold]

end Pipeline

/-! ### The journal's subscription -/

variable [DecidableEq ι]

/-- Records a decision in a journal of the world, under the current frame. -/
def Desk.record (journal : σ → Journal) (put : Journal → σ → σ) (dec : Decision) :
    Act (Desk ι σ) Unit := do
  let f := (← Act.stack).current
  Desk.lift (modify fun w => put ((journal w).record dec f) w)

/-- The rows of the journal are those of `j`, and all risks of the registry leave the journal as it
is; it is subscribed, nothing is subscribed twice, and the subscribers stand in one of the orders
that are meant. -/
structure Desk.Logs (journal : σ → Journal) (recorder : ι) (orders : List ι → Prop) (j : Journal)
    (d : Desk ι σ) : Prop where
  holds : d.Holds (fun j w => journal w = j) j
  subscribed : recorder ∈ d.subscribers
  nodup : d.subscribers.Nodup
  order : orders d.subscribers

/-- A pipeline with a journal among its subscribers: everything else that is called leaves the
journal and its subscription alone. -/
structure JournaledPipeline (ι σ : Type) [DecidableEq ι] where
  pipeline : Pipeline ι σ
  /-- The name under which the journal is subscribed. -/
  recorder : ι
  /-- The orders in which the subscribers stand. -/
  orders : List ι → Prop
  /-- The journal in the world. -/
  journal : σ → Journal
  put : Journal → σ → σ
  journal_put : ∀ j w, journal (put j w) = j
  records : ∀ dec, pipeline.tell recorder dec = Desk.record journal put dec
  calls : pipeline.silent.Keeps fun j w => journal w = j
  others : ∀ s, s ≠ recorder → ∀ dec j,
    (pipeline.tell s dec).Keeps (Desk.Logs journal recorder orders j)

namespace JournaledPipeline

variable (h : JournaledPipeline ι σ)

/-- The journal is subscribed and has the rows of `j`. -/
abbrev Logs (j : Journal) (d : Desk ι σ) : Prop :=
  d.Logs h.journal h.recorder h.orders j

/-- The position at which the journal is told. -/
def turn (d : Desk ι σ) : Nat :=
  d.subscribers.idxOf h.recorder

/-- No subscriber that is told takes the journal's turn away, or gives it a second one: where the
turn is still to come, it stays so and is not put off, and where it is over, it does not come
again. -/
def KeepsTurn : Prop :=
  ∀ s, s ≠ h.recorder → ∀ dec stack j d k, h.Logs j d → d.subscribers[k]? = some s →
    let d' := ((h.pipeline.tell s dec).outcome stack d).2
    (k < h.turn d → k < h.turn d' ∧ h.turn d' ≤ h.turn d) ∧ (h.turn d < k → h.turn d' ≤ k)

/-- The subscribers raise ordinary faults at most. -/
def Ordinary : Prop :=
  ∀ s dec, (h.pipeline.tell s dec).IsOrdinary

/-- How the journal stands after an action that may end with a decision, where it had the rows of
`j`: it has one more row for a decision, under the frame `f`; and it may have one more for a
decision that was not given, but only where a subscriber can raise a fault that is not
ordinary. -/
def Accounts (j : Journal) (f : Frame) (r : Except Fault (Option Decision)) (d : Desk ι σ) : Prop :=
  match r with
  | .ok (some dec) => h.Logs (j.record dec f) d
  | .ok none => h.Logs j d
  | .error _ => h.Logs j d ∨ (¬ h.Ordinary ∧ ∃ dec, h.Logs (j.record dec f) d)

variable {h} {j : Journal} {d : Desk ι σ}

/-! ### One decision -/

/-- The journal records what it is told, and nothing else changes. -/
theorem Logs.record
    (hd : h.Logs j d) (dec : Decision) (stack : Stack) :
  ∃ d', (h.pipeline.tell h.recorder dec).outcome stack d = (.ok (), d')
    ∧ h.Logs (j.record dec stack.current) d' ∧ d'.subscribers = d.subscribers
  := by
  have hworld : h.journal d.world = j := hd.holds.world
  refine ⟨{ d with world := h.put ((h.journal d.world).record dec stack.current) d.world }, ?_, ?_,
    rfl⟩
  · rw [h.records]
    rfl
  · refine ⟨⟨hd.holds.registry, ?_⟩, hd.subscribed, hd.nodup, hd.order⟩
    rw [h.journal_put, hworld]

/-- The journal is told at its turn only. -/
theorem Logs.turn_eq
    (hd : h.Logs j d) {k : Nat} (hk : d.subscribers[k]? = some h.recorder) :
  h.turn d = k
  := by
  obtain ⟨hlt, heq⟩ := List.getElem?_eq_some_iff.mp hk
  rw [turn, ← heq]
  exact hd.nodup.idxOf_getElem k hlt

theorem Logs.getElem?_turn
    (hd : h.Logs j d) :
  d.subscribers[h.turn d]? = some h.recorder
  := List.getElem?_idxOf hd.subscribed

/-- Behind its turn the journal stays as it is. -/
theorem logs_notifyFrom_of_turn_lt
    (hturn : h.KeepsTurn) (dec : Decision) (stack : Stack) (fuel k : Nat) (hd : h.Logs j d)
    (hk : h.turn d < k) :
  h.Logs j ((h.pipeline.notifyFrom dec fuel k).outcome stack d).2
  := by
  induction fuel generalizing k d with
  | zero => exact hd
  | succ fuel ih =>
    rw [Pipeline.notifyFrom, Act.outcome_bind, Act.outcome_get]
    dsimp only
    cases hs : d.subscribers[k]? with
    | none => exact hd
    | some s =>
      have hne : s ≠ h.recorder := by
        rintro rfl
        exact Nat.ne_of_lt hk (hd.turn_eq hs)
      have hkept := h.others s hne dec j stack d hd
      have hlater := (hturn s hne dec stack j d k hd hs).2 hk
      rw [← Act.snd_outcome_absorb] at hkept hlater
      rw [Act.outcome_bind]
      rcases hrun : (h.pipeline.tell s dec).absorb.outcome stack d with ⟨e | x, d'⟩
      · rwa [hrun] at hkept
      · rw [hrun] at hkept hlater
        apply ih (k + 1) hkept
        exact Nat.lt_succ_of_le hlater

/-- Told from a position that is not behind its turn, the journal has one more row at the end; a
fault may come before. -/
theorem logs_notifyFrom_of_le_turn
    (hturn : h.KeepsTurn) (dec : Decision) (stack : Stack) (fuel k : Nat) (hd : h.Logs j d)
    (hk : k ≤ h.turn d) (hfuel : h.turn d < k + fuel) :
  let o := (h.pipeline.notifyFrom dec fuel k).outcome stack d
  h.Logs (j.record dec stack.current) o.2 ∨ o.1 ≠ .ok () ∧ h.Logs j o.2
  := by
  induction fuel generalizing k d with
  | zero => omega
  | succ fuel ih =>
    dsimp only
    rw [Pipeline.notifyFrom, Act.outcome_bind, Act.outcome_get]
    dsimp only
    obtain rfl | hlt := Nat.eq_or_lt_of_le hk
    · obtain ⟨d', htell, hd', hsame⟩ := hd.record dec stack
      have hpast : h.turn d' < h.turn d + 1 := by
        rw [turn, hsame]
        exact Nat.lt_succ_self _
      left
      rw [hd.getElem?_turn]
      dsimp only
      rw [Act.outcome_bind, Act.outcome_absorb, htell]
      exact logs_notifyFrom_of_turn_lt hturn dec stack fuel _ hd' hpast
    · have hlength : h.turn d < d.subscribers.length := List.idxOf_lt_length_of_mem hd.subscribed
      obtain ⟨s, hs⟩ : ∃ s, d.subscribers[k]? = some s := ⟨_, List.getElem?_eq_getElem (by omega)⟩
      have hne : s ≠ h.recorder := by
        rintro rfl
        exact Nat.ne_of_gt hlt (hd.turn_eq hs)
      have hkept := h.others s hne dec j stack d hd
      have hcoming := (hturn s hne dec stack j d k hd hs).1 hlt
      rw [← Act.snd_outcome_absorb] at hkept hcoming
      rw [hs]
      dsimp only
      rw [Act.outcome_bind]
      rcases hrun : (h.pipeline.tell s dec).absorb.outcome stack d with ⟨e | x, d'⟩
      · rw [hrun] at hkept
        right
        refine ⟨?_, hkept⟩
        rintro ⟨⟩
      · rw [hrun] at hkept hcoming
        apply ih (k + 1) hkept hcoming.1
        have hnear := hcoming.2
        omega

/-- Once a decision was told, the journal has its row. -/
theorem accounts_announce
    (hturn : h.KeepsTurn) (hd : h.Logs j d) (dec : Option Decision) (stack : Stack) :
  let o := (h.pipeline.announce dec).outcome stack d
  h.Accounts j stack.current o.1 o.2
  := by
  cases dec with
  | none => exact hd
  | some dec =>
    have hlength : h.turn d < d.subscribers.length := List.idxOf_lt_length_of_mem hd.subscribed
    have htold := logs_notifyFrom_of_le_turn hturn dec stack
      (d.subscribers.length + h.pipeline.newcomers) 0 hd (Nat.zero_le _) (by omega)
    have hordinary (ho : h.Ordinary) := Pipeline.fst_outcome_notifyFrom ho dec
      (d.subscribers.length + h.pipeline.newcomers) 0 stack d
    dsimp only
    rw [Pipeline.announce, Act.outcome_bind, Pipeline.notify, Act.outcome_bind, Act.outcome_get]
    dsimp only
    rcases hrun : (h.pipeline.notifyFrom dec (d.subscribers.length + h.pipeline.newcomers) 0).outcome
      stack d with ⟨e | ⟨⟩, d'⟩
    · rw [hrun] at htold hordinary
      obtain hrow | ⟨-, hsame⟩ := htold
      · right
        refine ⟨fun ho => ?_, dec, hrow⟩
        cases hordinary ho
      · left
        exact hsame
    · rw [hrun] at htold
      obtain hrow | ⟨hne, -⟩ := htold
      · exact hrow
      · exact absurd rfl hne

/-! ### One tick -/

variable {α : Type}

/-- What leaves the world's journal and the subscriptions alone leaves the journal as it is. -/
theorem keeps_logs
    {a : Act (Desk ι σ) α} (ha : a.Keeps (Desk.Holds (fun j w => h.journal w = j) j))
    (hs : a.KeepsSubscribers) :
  a.Keeps (h.Logs j)
  := by
  intro stack d hd
  refine ⟨ha stack d hd.holds, ?_, ?_, ?_⟩ <;> rw [hs stack d]
  · exact hd.subscribed
  · exact hd.nodup
  · exact hd.order

theorem keeps_logs_lift
    {a : Act σ α} (ha : a.Keeps (h.journal · = j)) :
  (Desk.lift a : Act (Desk ι σ) α).Keeps (h.Logs j)
  := keeps_logs (Desk.keeps_lift ha) (Desk.lift_keepsSubscribers a)

theorem keeps_logs_ask
    (symbol : String) :
  (h.pipeline.ask symbol).Keeps (h.Logs j)
  := keeps_logs (h.calls.ask j symbol) (h.pipeline.ask_keepsSubscribers symbol)

/-- So does the work that is due. -/
theorem Logs.work
    (hd : h.Logs j d) :
  h.Logs j (h.pipeline.work d)
  := by
  refine ⟨h.calls.work hd.holds, ?_, ?_, ?_⟩ <;> rw [Pipeline.subscribers_work]
  · exact hd.subscribed
  · exact hd.nodup
  · exact hd.order

/-- A tick that is finished accounts for its decision. -/
theorem accounts_conclude
    (hturn : h.KeepsTurn) (hd : h.Logs j d) (tick : Tick) (x : Value) (stack : Stack) :
  let o := (h.pipeline.conclude tick x).outcome stack d
  h.Accounts j stack.current o.1 o.2
  := by
  have hsilent := keeps_logs (h.calls.conclude j tick x)
    (h.pipeline.conclude_silent_keepsSubscribers tick x) stack d hd
  dsimp only
  rw [Pipeline.conclude_eq_announce, Act.outcome_bind]
  rcases hrun : (h.pipeline.silent.conclude tick x).outcome stack d with ⟨e | dec, d'⟩
  · rw [hrun] at hsilent
    left
    exact hsilent
  · rw [hrun] at hsilent
    apply accounts_announce hturn hsilent

theorem accounts_receive
    (hturn : h.KeepsTurn) (hd : h.Logs j d) (tick : Tick) (key : String) (window : Int)
    (o : Outcome Value) (stack : Stack) :
  let o := (h.pipeline.receive tick key window o).outcome stack d
  h.Accounts j stack.current o.1 o.2
  := by
  cases o with
  | value x => exact accounts_conclude hturn hd tick x stack
  | failure e => exact .inl hd
  | cancelled => exact .inl hd

end JournaledPipeline

/-! ### The journal of a scenario -/

namespace Scenario

theorem keeps_compute
    (i : IndicatorScript) (symbol : String) (j : Journal) :
  (i.compute symbol).Keeps (World.journal · = j)
  := by
  apply Act.Keeps.bind
  · exact fun _ _ hw => hw
  intro stack
  apply Act.Keeps.bind
  · exact fun _ _ hw => hw
  intro n
  cases i with
  | values script => apply Act.keeps_ofExcept
  | candles rows ema atr =>
    dsimp only
    split
    · apply Act.keeps_throw
    · apply Act.Keeps.bind
      · apply Act.keeps_ofExcept
      · intro _
        apply Act.keeps_pure

theorem keeps_propose
    (b : BuilderScript) (tick : Tick) (indicators : Value) (j : Journal) :
  (b.propose tick indicators).Keeps (World.journal · = j)
  := by
  cases b with
  | trend b => apply Act.keeps_ofExcept
  | signals script =>
    apply Act.Keeps.bind
    · exact fun _ _ hw => hw
    · intro n
      apply Act.keeps_ofExcept

/-- No subscriber that ends its own subscription stands ahead of the journal. -/
def Unhindered (names : List String) : Prop :=
  names.Pairwise fun name later => later = "report" → name.startsWith "selfoff:" = false

/-- The other subscribers of a scenario note what they are told, and raise a fault of the ordinary
kind or end their own subscription at most. -/
theorem outcome_tell
    {name : String} (hname : name ≠ "report") (dec : Decision) (stack : Stack)
    (d : Desk String World) :
  ∃ line r, (∀ e, r = Except.error e → e.isOrdinary = true)
    ∧ let d' := { d with world := { d.world with told := line :: d.world.told } }
      (tell name dec).outcome stack d = (r, d')
        ∨ name.startsWith "selfoff:" = true
          ∧ (tell name dec).outcome stack d = (r, d'.unsubscribe name)
  := by
  use .list [.text name, .text dec.verdict.word]
  dsimp only
  rw [tell, if_neg hname]
  by_cases hraise : name.startsWith "raise:" = true
  · refine ⟨.error (.raised "RuntimeError" (some (.text "sink down"))), ?_, .inl ?_⟩
    · rintro e ⟨⟩
      rfl
    · rw [if_pos hraise]
      rfl
  use .ok ()
  by_cases hleave : name.startsWith "selfoff:" = true
  · refine ⟨nofun, .inr ⟨hleave, ?_⟩⟩
    rw [if_neg hraise, if_pos hleave]
    rfl
  · refine ⟨nofun, .inl ?_⟩
    rw [if_neg hraise, if_neg hleave]
    rfl

theorem keeps_tell
    {name : String} (hname : name ≠ "report") (dec : Decision) (j : Journal) :
  (tell name dec).Keeps (Desk.Logs World.journal "report" Unhindered j)
  := by
  intro stack d hd
  obtain ⟨line, r, -, heq | ⟨-, heq⟩⟩ := outcome_tell hname dec stack d <;> rw [heq]
  · exact ⟨⟨hd.holds.registry, hd.holds.world⟩, hd.subscribed, hd.nodup, hd.order⟩
  · refine ⟨⟨hd.holds.registry, hd.holds.world⟩, ?_, hd.nodup.erase name, ?_⟩
    · exact (List.mem_erase_of_ne hname.symm).mpr hd.subscribed
    · exact hd.order.sublist List.erase_sublist

/-- The pipeline of a scenario, whose journal is the subscriber named report. -/
def journaled (i : IndicatorScript) (b : BuilderScript) : JournaledPipeline String World where
  pipeline := scriptedPipeline i b
  recorder := "report"
  orders := Unhindered
  journal := World.journal
  put j w := { w with journal := j }
  journal_put _ _ := rfl
  records _ := rfl
  calls :=
    { clock := fun _ _ _ hw => hw
      indicator := fun j symbol => keeps_compute i symbol j
      builder := fun j tick x => keeps_propose b tick x j
      tell := fun _ _ _ => Act.keeps_pure _ }
  others _ hs dec j := keeps_tell hs dec j

/-- What stands behind the journal may leave. -/
theorem keepsTurn_journaled
    (i : IndicatorScript) (b : BuilderScript) :
  (journaled i b).KeepsTurn
  := by
  intro name hname dec stack j d k hd hk
  change let d' := ((tell name dec).outcome stack d).2
    (k < d.subscribers.idxOf "report" → k < d'.subscribers.idxOf "report"
      ∧ d'.subscribers.idxOf "report" ≤ d.subscribers.idxOf "report")
    ∧ (d.subscribers.idxOf "report" < k → d'.subscribers.idxOf "report" ≤ k)
  obtain ⟨line, r, -, heq | ⟨hleaves, heq⟩⟩ := outcome_tell hname dec stack d <;> rw [heq]
  · exact ⟨fun hlt => ⟨hlt, Nat.le_refl _⟩, Nat.le_of_lt⟩
  · constructor
    · intro hlt
      obtain ⟨hlength, hget⟩ := List.getElem?_eq_some_iff.mp hk
      have hreport := List.idxOf_lt_length_of_mem hd.subscribed
      have hstays := List.pairwise_iff_getElem.mp hd.order k _ hlength hreport hlt
        (List.getElem_idxOf hreport)
      rw [hget, hleaves] at hstays
      nomatch hstays
    · intro hlt
      exact Nat.le_trans (idxOf_erase_le hname.symm d.subscribers) (Nat.le_of_lt hlt)

/-- What a scenario subscribes raises faults of the ordinary kind only. -/
theorem ordinary_journaled
    (i : IndicatorScript) (b : BuilderScript) :
  (journaled i b).Ordinary
  := by
  intro name dec stack d e he
  change ((tell name dec).outcome stack d).1 = .error e at he
  by_cases hname : name = "report"
  · rw [tell, if_pos hname] at he
    nomatch he
  · obtain ⟨line, r, hr, heq | ⟨-, heq⟩⟩ := outcome_tell hname dec stack d <;> rw [heq] at he <;>
      exact hr e he

end Scenario

end TradeGate
