import TradeGate.Cache.Memo
import TradeGate.Proofs.Cache.History
import Mathlib.Data.Set.Card

/-!
# The counters of a cache

Every call that has a key is counted once, as a hit, a miss or a join, and the misses are the
computations that were started.  The failures are the computations that ended with one, each
counted once, whoever waited for it and whatever became of its entry.  A call that gets no key,
or cannot read the clock, leaves everything as it was.
-/

namespace TradeGate

/-- The number of calls that were counted. -/
def CacheStats.requests (s : CacheStats) : Nat :=
  s.hits + s.misses + s.joins

/-- Whether an event is a call. -/
def CacheEvent.isCall {γ κ α : Type} : CacheEvent γ κ α → Bool
  | .call _ _ _ => true
  | _ => false

/-! ### What the events count -/

/-- A computation that fails is counted, and no other end. -/
theorem Cache.stats_settle
    {κ α : Type} (c : Cache κ α) (job : Nat) {o : Outcome α} (ho : ∀ e, o ≠ .failure e) :
  (c.settle job o).stats = c.stats
  := by
  cases o with
  | value v =>
    simp only [settle]
    split <;> rfl
  | failure e => exact absurd rfl (ho e)
  | cancelled => rfl

namespace Traffic

variable {γ κ α : Type} [BEq γ] [BEq κ]

omit [BEq γ] in
theorem Starts.isCall
    {t : Traffic γ κ α} {x : CacheEvent γ κ α} {job : Nat} {key : κ} {window : Int}
    (hs : t.Starts x job key window) :
  x.isCall = true
  := by
  cases x with
  | call caller key' now => rfl
  | _ => cases hs

omit [BEq γ] [BEq κ] in
theorem Ends.isCall
    {t : Traffic γ κ α} {x : CacheEvent γ κ α} {job : Nat} {o : Outcome α}
    (hends : t.Ends x job o) :
  x.isCall = false
  := by
  cases x with
  | finish job' o' => rfl
  | _ => cases hends

/-- What an event adds to the counters: a call is a miss if it starts a computation, and a hit or a
join if not; the end of a computation is a failure or is not counted, like all other events. -/
theorem stats_step
    (t : Traffic γ κ α) (x : CacheEvent γ κ α) :
  ((∃ job key window, t.Starts x job key window)
      ∧ (t.step x).1.cache.stats
        = { t.cache.stats with misses := t.cache.stats.misses + 1 })
    ∨ (x.isCall = true ∧ (∀ job key window, ¬ t.Starts x job key window)
      ∧ ((t.step x).1.cache.stats = { t.cache.stats with hits := t.cache.stats.hits + 1 }
        ∨ (t.step x).1.cache.stats = { t.cache.stats with joins := t.cache.stats.joins + 1 }))
    ∨ ((∃ job e, t.Ends x job (.failure e))
      ∧ (t.step x).1.cache.stats
        = { t.cache.stats with failures := t.cache.stats.failures + 1 })
    ∨ (x.isCall = false ∧ (∀ job e, ¬ t.Ends x job (.failure e))
      ∧ (t.step x).1.cache.stats = t.cache.stats)
  := by
  cases x with
  | call caller key now =>
    obtain ⟨e, v, he, hw, -, h⟩ | ⟨e, he, hw, -, h⟩ | ⟨hf, h⟩ := t.call_cases caller key now
    · right; left
      use rfl, not_starts_of_find? he hw
      simp [step, h]
    · right; left
      use rfl, not_starts_of_find? he hw
      simp [step, h]
    · left
      use ⟨_, key, _, starts_call_iff.mpr ⟨⟨rfl, rfl, rfl⟩, hf⟩⟩
      simp [step, h, Cache.start]
  | finish job o =>
    right; right
    by_cases hr : t.isRunning job = true
    · by_cases ho : ∃ e, o = .failure e
      · obtain ⟨e, rfl⟩ := ho
        left
        use ⟨job, e, rfl, rfl, hr⟩
        simp [step, finish, hr, Cache.settle]
      · push Not at ho
        right
        use rfl
        constructor
        · rintro job' e ⟨-, hoe, -⟩
          exact ho e hoe.symm
        · simp [step, finish, hr, Cache.stats_settle _ _ ho]
    · right
      simp [step, finish, hr, CacheEvent.isCall, Ends]
  | _ =>
    right; right; right
    use rfl, fun _ _ => id
    rfl

theorem requests_step
    (t : Traffic γ κ α) (x : CacheEvent γ κ α) :
  (t.step x).1.cache.stats.requests = t.cache.stats.requests + if x.isCall then 1 else 0
  := by
  obtain ⟨⟨job, key, window, hs⟩, hstats⟩ | ⟨hcall, -, hstats | hstats⟩ |
    ⟨⟨job, e, hends⟩, hstats⟩ | ⟨hcall, -, hstats⟩ := t.stats_step x
  · simp only [hstats, hs.isCall, CacheStats.requests, if_true]
    omega
  · simp only [hstats, hcall, CacheStats.requests, if_true]
    omega
  · simp only [hstats, hcall, CacheStats.requests, if_true]
    omega
  · rw [hstats, hends.isCall]
    rfl
  · rw [hstats, hcall]
    rfl

theorem misses_step
    (t : Traffic γ κ α) (x : CacheEvent γ κ α) :
  ((∃ job key window, t.Starts x job key window)
      ∧ (t.step x).1.cache.stats.misses = t.cache.stats.misses + 1)
    ∨ ((∀ job key window, ¬ t.Starts x job key window)
      ∧ (t.step x).1.cache.stats.misses = t.cache.stats.misses)
  := by
  have hquiet : x.isCall = false → ∀ job key window, ¬ t.Starts x job key window := by
    intro hcall job key window hs
    rw [hs.isCall] at hcall
    cases hcall
  obtain ⟨hs, hstats⟩ | ⟨-, hnone, hstats | hstats⟩ | ⟨⟨job, e, hends⟩, hstats⟩ |
    ⟨hcall, -, hstats⟩ := t.stats_step x
  · left
    use hs
    rw [hstats]
  · right
    use hnone
    rw [hstats]
  · right
    use hnone
    rw [hstats]
  · right
    use hquiet hends.isCall
    rw [hstats]
  · right
    use hquiet hcall
    rw [hstats]

theorem failures_step
    (t : Traffic γ κ α) (x : CacheEvent γ κ α) :
  ((∃ job e, t.Ends x job (.failure e))
      ∧ (t.step x).1.cache.stats.failures = t.cache.stats.failures + 1)
    ∨ ((∀ job e, ¬ t.Ends x job (.failure e))
      ∧ (t.step x).1.cache.stats.failures = t.cache.stats.failures)
  := by
  have hquiet : x.isCall = true → ∀ job e, ¬ t.Ends x job (.failure e) := by
    intro hcall job e hends
    rw [hends.isCall] at hcall
    cases hcall
  obtain ⟨⟨job, key, window, hs⟩, hstats⟩ | ⟨hcall, -, hstats | hstats⟩ | ⟨hends, hstats⟩ |
    ⟨-, hnone, hstats⟩ := t.stats_step x
  · right
    use hquiet hs.isCall
    rw [hstats]
  · right
    use hquiet hcall
    rw [hstats]
  · right
    use hquiet hcall
    rw [hstats]
  · left
    use hends
    rw [hstats]
  · right
    use hnone
    rw [hstats]

end Traffic

theorem usableKey_eq_ok_iff
    {v key : Value} :
  usableKey v = .ok key ↔ key.isKey = true ∧ v = key
  := by
  rw [usableKey]
  constructor
  · intro h
    split_ifs at h with hv
    obtain rfl := Except.ok.inj h
    exact ⟨hv, rfl⟩
  · rintro ⟨hkey, rfl⟩
    rw [if_pos hkey]

namespace Memo

variable {σ γ α : Type} [BEq γ]

/-- A call gets a key and the time: it names no argument `self`, the key function gives a value
that can be a key, and then the clock gives a reading in seconds. -/
structure Obtains (m : Memo σ) (c : Call) (stack : Stack) (w : σ) (key : Value) (now : Int)
    (w' : σ) : Prop where
  named : c.named? "self" = none
  isKey : key.isKey = true
  readings : ∃ v reading, (m.key c).outcome stack w = (.ok key, v)
    ∧ m.clock.outcome stack v = (.ok reading, w') ∧ clockMillis reading = .ok now

omit [BEq γ] in
theorem obtains_iff
    {m : Memo σ} {c : Call} {stack : Stack} {w w' : σ} {key : Value} {now : Int} :
  m.Obtains c stack w key now w' ↔ (m.request c).outcome stack w = (.ok (key, now), w')
  := by
  constructor
  · rintro ⟨hnamed, hkey, v, reading, hv, hreading, hnow⟩
    simp only [request, keyOf, usableKey, Act.outcome_bind, Act.outcome_failIf,
      Act.outcome_ofExcept, Act.outcome_pure, hnamed, hv, hreading, hnow, hkey, Option.isSome_none,
      Bool.false_eq_true, if_true, if_false]
  · intro h
    -- The key comes first, then the time, and then the key is looked up.
    obtain ⟨given, v, hkeyOf, h⟩ := Act.outcome_bind_eq_ok h
    obtain ⟨⟨⟩, w₀, hself, hgiven⟩ := Act.outcome_bind_eq_ok hkeyOf
    obtain ⟨reading, v₁, hreading, h⟩ := Act.outcome_bind_eq_ok h
    obtain ⟨time, v₂, htime, h⟩ := Act.outcome_bind_eq_ok h
    obtain ⟨used, v₃, hused, ⟨⟩⟩ := Act.outcome_bind_eq_ok h
    rw [Act.outcome_failIf] at hself
    rw [Act.outcome_ofExcept, Prod.mk.injEq] at htime hused
    obtain ⟨htime, rfl⟩ := htime
    obtain ⟨hused, rfl⟩ := hused
    obtain ⟨hkey, rfl⟩ := usableKey_eq_ok_iff.mp hused
    split_ifs at hself with hnamed
    · cases hself
    obtain rfl := (Prod.mk.inj hself).2
    exact ⟨Option.not_isSome_iff_eq_none.mp hnamed, hkey, v, reading, hgiven, hreading, htime⟩

/-- A call that gets a key and the time is the event of a call; any other one fails, and callers
and computations do not notice it. -/
theorem run_cases
    (m : Memo σ) (caller : γ) (c : Call) (stack : Stack) (s : State σ γ α) :
  (∃ key now w, m.Obtains c stack s.world key now w
      ∧ (m.run caller c).outcome stack s
        = (.ok (s.traffic.step (.call caller key now)).2,
          ⟨(s.traffic.step (.call caller key now)).1, w⟩))
    ∨ ((∀ key now w, ¬ m.Obtains c stack s.world key now w)
      ∧ ∃ e w, (m.run caller c).outcome stack s = (.error e, ⟨s.traffic, w⟩))
  := by
  have hlift : ((lift (m.request c) : Act (State σ γ α) (Value × Int)).outcome stack s)
      = (((m.request c).outcome stack s.world).1,
        ⟨s.traffic, ((m.request c).outcome stack s.world).2⟩) := rfl
  rcases hrequest : (m.request c).outcome stack s.world with ⟨e | ⟨key, now⟩, w⟩
  · right
    constructor
    · intro key now w' hobtains
      rw [obtains_iff, hrequest] at hobtains
      cases hobtains
    · use e, w
      rw [run, Act.outcome_bind, hlift, hrequest]
  · left
    use key, now, w, obtains_iff.mpr hrequest
    rw [run, Act.outcome_bind, hlift, hrequest]
    rfl

end Memo

namespace CacheHistory

variable {γ κ α : Type} [BEq γ] [BEq κ] (h : CacheHistory γ κ α)

/-- The number of calls among the first `n` events. -/
def callCount (n : Nat) : Nat :=
  (h.events.take n).countP CacheEvent.isCall

/-- The computations that were started by the first `n` events. -/
def startedJobs (n : Nat) : Set Nat :=
  {job | ∃ p < n, ∃ key window, h.Starts p job key window}

/-- The computations that failed with one of the first `n` events. -/
def failedJobs (n : Nat) : Set Nat :=
  {job | ∃ p < n, ∃ e, h.Ends p job (.failure e)}

variable {h}

/-! ### Calls -/

theorem requests_after
    (n : Nat) :
  (h.after n).cache.stats.requests = h.callCount n
  := by
  induction n with
  | zero => rfl
  | succ n ih =>
    rw [callCount, List.take_add_one, List.countP_append, ← callCount, ← ih]
    cases hx : h.events[n]? with
    | none =>
      rw [after_succ_of_none hx]
      rfl
    | some x =>
      rw [after_succ hx, Traffic.requests_step]
      simp [List.countP_singleton]

/-! ### Computations -/

/-- A counter that goes up by one at each place where something happens to one number, and it
happens to none twice, is the size of the set of these numbers. -/
theorem count_eq_ncard
    {P : Nat → Nat → Prop} (count : Nat → Nat) (zero : count 0 = 0)
    (once : ∀ p q job, P p job → P q job → p = q)
    (step : ∀ n, (∃ job, P n job ∧ (∀ job', P n job' → job' = job) ∧ count (n + 1) = count n + 1)
      ∨ ((∀ job, ¬ P n job) ∧ count (n + 1) = count n))
    (n : Nat) :
  {job | ∃ p < n, P p job}.Finite ∧ count n = {job | ∃ p < n, P p job}.ncard
  := by
  induction n with
  | zero => simp [zero]
  | succ n ih =>
    obtain ⟨hfinite, hcount⟩ := ih
    have hsucc : {job | ∃ p < n + 1, P p job} = {job | ∃ p < n, P p job} ∪ {job | P n job} := by
      ext job
      apply Nat.exists_lt_succ_right
    obtain ⟨job, hjob, hunique, hup⟩ | ⟨hnone, hsame⟩ := step n
    · have hone : {job | P n job} = {job} := by
        ext job'
        constructor
        · apply hunique
        · rintro rfl
          exact hjob
      have hnew : job ∉ {job | ∃ p < n, P p job} := by
        rintro ⟨p, hp, hpjob⟩
        exact absurd (once p n job hpjob hjob) (Nat.ne_of_lt hp)
      rw [hsucc, hone, Set.union_singleton, Set.ncard_insert_of_notMem hnew hfinite, hup, hcount]
      use hfinite.insert job
    · have hempty : {job | P n job} = ∅ := Set.eq_empty_of_forall_notMem hnone
      rw [hsucc, hempty, Set.union_empty, hsame]
      use hfinite

theorem misses_after
    (n : Nat) :
  (h.after n).cache.stats.misses = (h.startedJobs n).ncard
  := by
  apply (count_eq_ncard (P := fun p job => ∃ key window, h.Starts p job key window)
    (fun n => (h.after n).cache.stats.misses) rfl _ _ n).2
  · rintro p q job ⟨key, window, hs⟩ ⟨key', window', hs'⟩
    exact hs.place_eq hs'
  · intro n
    cases hx : h.events[n]? with
    | none =>
      right
      simp [Starts, hx, after_succ_of_none hx]
    | some x =>
      rw [after_succ hx]
      obtain ⟨⟨job, key, window, hs⟩, hup⟩ | ⟨hnone, hsame⟩ := (h.after n).misses_step x
      · left
        use job, ⟨key, window, x, hx, hs⟩
        constructor
        · rintro job' ⟨key', window', hs'⟩
          rw [hs.job_eq, hs'.job_eq]
        · exact hup
      · right
        simpa [Starts, hx, hsame] using hnone

theorem failures_after
    (n : Nat) :
  (h.after n).cache.stats.failures = (h.failedJobs n).ncard
  := by
  apply (count_eq_ncard (P := fun p job => ∃ e, h.Ends p job (.failure e))
    (fun n => (h.after n).cache.stats.failures) rfl _ _ n).2
  · rintro p q job ⟨e, he⟩ ⟨e', he'⟩
    exact he.place_eq he'
  · intro n
    cases hx : h.events[n]? with
    | none =>
      right
      simp [Ends, hx, after_succ_of_none hx]
    | some x =>
      rw [after_succ hx]
      obtain ⟨⟨job, e, hends⟩, hup⟩ | ⟨hnone, hsame⟩ := (h.after n).failures_step x
      · have he : h.Ends n job (.failure e) := ⟨x, hx, hends⟩
        left
        use job, ⟨e, he⟩
        constructor
        · rintro job' ⟨e', he'⟩
          exact he'.job_eq he
        · exact hup
      · right
        simpa [Ends, hx, hsame] using hnone

/-! ### The laws of the counters -/

variable (h)

/-- The counters tell what the first `n` events were. -/
structure CountsUp (n : Nat) : Prop where
  /-- Every call is a hit, a miss or a join. -/
  requests : (h.after n).cache.stats.requests = h.callCount n
  /-- Every miss starts a computation. -/
  misses : (h.after n).cache.stats.misses = (h.startedJobs n).ncard
  /-- Every failure is that of a computation. -/
  failures : (h.after n).cache.stats.failures = (h.failedJobs n).ncard

/-- The counters add up after every event.  A call of a memoized function is counted if the key
function gives it a value that can be a key and the clock can be read: it is the event of a call
then.  Otherwise it fails, in the key function, of the clock or for a value that is no key, and no
counter changes, nor what callers and computations share. -/
theorem counters_add_up :
  (∀ n, h.CountsUp n)
    ∧ ∀ {σ : Type} (m : Memo σ) (caller : γ) (c : Call) (stack : Stack) (s : Memo.State σ γ α),
      (∃ key now w, m.Obtains c stack s.world key now w
        ∧ (m.run caller c).outcome stack s
          = (.ok (s.traffic.step (.call caller key now)).2,
            ⟨(s.traffic.step (.call caller key now)).1, w⟩))
      ∨ ((∀ key now w, ¬ m.Obtains c stack s.world key now w)
        ∧ ∃ e w, (m.run caller c).outcome stack s = (.error e, ⟨s.traffic, w⟩))
  := by
  constructor
  · intro n
    use requests_after n, misses_after n, failures_after n
  · intro σ m caller c stack s
    exact m.run_cases caller c stack s

/-- A computation fails after its entry was dropped and one of its two callers was cancelled, while
another one for the same key succeeds. -/
def disputed : CacheHistory Nat Nat Nat where
  timeframe := .m1
  bound := 0
  events := [.call 1 7 0, .call 2 7 5, .cancel 2, .clear 7, .call 3 7 8,
    .finish 1 (.failure (.unknownKey none)), .finish 2 (.value 20), .call 4 7 9]

/-- Of its four calls one is a hit and one a join. -/
theorem counters_add_up_disputed :
  (disputed.after 8).cache.stats = ⟨1, 2, 1, 1⟩ ∧ disputed.callCount 8 = 4
    ∧ (disputed.startedJobs 8).ncard = 2 ∧ (disputed.failedJobs 8).ncard = 1
  := by
  have hstats : (disputed.after 8).cache.stats = ⟨1, 2, 1, 1⟩ := by decide
  have hcounts := (counters_add_up disputed).1 8
  use hstats, hcounts.requests.symm.trans (by rw [hstats]; rfl)
  use hcounts.misses.symm.trans (by rw [hstats]), hcounts.failures.symm.trans (by rw [hstats])

end CacheHistory

end TradeGate
