import TradeGate.Proofs.Cache.Delivery

/-!
# Cancelled callers

The cancellation of a waiting caller concerns nobody else.  `t.without caller` is a state in
which one caller does not wait.  What an event does to the cache, to the running computations
and to the other callers does not depend on whether the caller waits, so a history with the
cancellation and the one without it differ, at all later places, in that caller alone.
-/

namespace TradeGate

section

variable {γ κ α : Type} [BEq γ]

/-- Those who ended, but for one caller. -/
def Ended.others (caller : γ) (es : List (Ended γ κ α)) : List (Ended γ κ α) :=
  es.filter fun e => !(e.caller == caller)

/-- The event is a call of a caller. -/
def CacheEvent.IsCallOf (caller : γ) : CacheEvent γ κ α → Prop
  | .call caller' _ _ => (caller' == caller) = true
  | _ => False

end

namespace Traffic

variable {γ κ α : Type} [BEq γ] {t : Traffic γ κ α}

/-- The state in which one caller does not wait. -/
def without (t : Traffic γ κ α) (caller : γ) : Traffic γ κ α :=
  { t with waiters := t.waiters.filter fun w => !(w.caller == caller) }

@[simp]
theorem cache_without
    (t : Traffic γ κ α) (caller : γ) :
  (t.without caller).cache = t.cache
  := rfl

@[simp]
theorem flights_without
    (t : Traffic γ κ α) (caller : γ) :
  (t.without caller).flights = t.flights
  := rfl

@[simp]
theorem without_without
    (t : Traffic γ κ α) (caller : γ) :
  (t.without caller).without caller = t.without caller
  := by
  simp [without, List.filter_filter]

variable [BEq κ]

/-- Whether a caller waits makes no difference to an event that is no call of this caller. -/
theorem step_without_of_not_isCallOf
    {caller : γ} {x : CacheEvent γ κ α} (hx : ¬ x.IsCallOf caller) :
  (t.without caller).step x = ((t.step x).1.without caller, Ended.others caller (t.step x).2)
  := by
  cases x with
  | call caller' key now =>
    have hne : (caller' == caller) = false := by simpa [CacheEvent.IsCallOf] using hx
    simp only [step, call, without]
    rcases t.cache.request key (t.cache.windowAt now) with ⟨served, c⟩
    cases served <;> simp [Ended.others, hne]
  | finish job o =>
    have hr : (t.without caller).isRunning job = t.isRunning job := rfl
    simp only [step, finish, hr]
    split
    · simp only [without, Ended.others, List.filter_map, List.filter_comm, Function.comp_def]
    · rfl
  | cancel caller' =>
    simp only [step, cancel, without, Ended.others, List.filter_map, List.filter_comm,
      Function.comp_def]
  | clear key => rfl
  | flush => rfl

/-- Nor does it make a difference to what an event does to the others. -/
theorem step_without
    (t : Traffic γ κ α) (caller : γ) (x : CacheEvent γ κ α) :
  ((t.without caller).step x).1.without caller = (t.step x).1.without caller
    ∧ Ended.others caller ((t.without caller).step x).2 = Ended.others caller (t.step x).2
  := by
  by_cases hx : x.IsCallOf caller
  · cases x with
    | call caller' key now =>
      simp only [step, call, without]
      rcases t.cache.request key (t.cache.windowAt now) with ⟨served, c⟩
      cases served <;> simp [List.filter_filter]
    | _ => cases hx
  · rw [step_without_of_not_isCallOf hx]
    simp [Ended.others, List.filter_filter]

/-- States that differ in one caller at most do so after an event, and the same others end. -/
theorem step_congr_without
    {t' : Traffic γ κ α} {caller : γ} (h : t'.without caller = t.without caller)
    (x : CacheEvent γ κ α) :
  (t'.step x).1.without caller = (t.step x).1.without caller
    ∧ Ended.others caller (t'.step x).2 = Ended.others caller (t.step x).2
  := by
  obtain ⟨hstate', hended'⟩ := step_without t' caller x
  obtain ⟨hstate, hended⟩ := step_without t caller x
  rw [← hstate', ← hended', h]
  exact ⟨hstate, hended⟩

end Traffic

namespace CacheHistory

variable {γ κ α : Type} [BEq γ] [BEq κ] (h : CacheHistory γ κ α)

/-- The history in which a caller is cancelled before the event at a place. -/
def cancelling (n : Nat) (caller : γ) : CacheHistory γ κ α :=
  { h with events := h.events.take n ++ .cancel caller :: h.events.drop n }

/-- The event at a place is a call that starts a computation for its key and window.  The
computation is run with the arguments of the caller. -/
def Launches (n : Nat) (caller : γ) (job : Nat) (key : κ) (window : Int) : Prop :=
  ∃ now, h.events[n]? = some (.call caller key now) ∧ h.Starts n job key window

/-- A caller does not call at the places from one up to another. -/
def Silent (n m : Nat) (caller : γ) : Prop :=
  ∀ p, n ≤ p → p < m → ∀ x, h.events[p]? = some x → ¬ x.IsCallOf caller

variable {h} {n m : Nat} {caller : γ}

/-! ### The events of the two histories -/

section

omit [BEq γ] [BEq κ]

theorem events_cancelling_of_lt
    (hm : m < n) (hn : n ≤ h.events.length) :
  (h.cancelling n caller).events[m]? = h.events[m]?
  := by
  have hlen : (h.events.take n).length = n := by simp [hn]
  rw [cancelling, List.getElem?_append_left (by omega), List.getElem?_take_of_lt hm]

theorem events_cancelling_self
    (hn : n ≤ h.events.length) :
  (h.cancelling n caller).events[n]? = some (.cancel caller)
  := by
  have hlen : (h.events.take n).length = n := by simp [hn]
  simp [cancelling, hlen]

theorem events_cancelling_succ
    (caller : γ) (hm : n ≤ m) (hn : n ≤ h.events.length) :
  (h.cancelling n caller).events[m + 1]? = h.events[m]?
  := by
  have hlen : (h.events.take n).length = n := by simp [hn]
  rw [cancelling, List.getElem?_append_right (by omega), hlen, Nat.succ_sub hm,
    List.getElem?_cons_succ, List.getElem?_drop, Nat.add_sub_cancel' hm]

end

/-! ### The states of the two histories -/

/-- Before the cancellation nothing differs. -/
theorem after_cancelling_of_le
    (hm : m ≤ n) (hn : n ≤ h.events.length) :
  (h.cancelling n caller).after m = h.after m
  := by
  have hlen : m ≤ (h.events.take n).length := by simp; omega
  have htake : (h.cancelling n caller).events.take m = h.events.take m := by
    rw [cancelling, List.take_append_of_le_length hlen, List.take_take, Nat.min_eq_left hm]
  unfold after
  rw [htake]
  rfl

/-- With the cancellation the caller no longer waits. -/
theorem after_cancelling_self
    (hn : n ≤ h.events.length) :
  (h.cancelling n caller).after (n + 1) = (h.after n).without caller
  := by
  rw [after_succ (events_cancelling_self hn), after_cancelling_of_le (Nat.le_refl n) hn]
  rfl

/-- Afterwards nothing differs but the caller. -/
theorem after_cancelling_succ
    (hm : n ≤ m) (hn : n ≤ h.events.length) :
  ((h.cancelling n caller).after (m + 1)).without caller = (h.after m).without caller
  := by
  induction hm with
  | refl => rw [after_cancelling_self hn, Traffic.without_without]
  | @step m hm ih =>
    have hevent := events_cancelling_succ caller hm hn
    cases hx : h.events[m]? with
    | none => rw [after_succ_of_none (hevent.trans hx), after_succ_of_none hx, ih]
    | some x =>
      rw [after_succ (hevent.trans hx), after_succ hx]
      exact (Traffic.step_congr_without ih x).1

/-- As long as the caller does not call again, the histories differ in that it does not wait. -/
theorem after_cancelling_of_silent
    (hm : n ≤ m) (hn : n ≤ h.events.length) (hsilent : h.Silent n m caller) :
  (h.cancelling n caller).after (m + 1) = (h.after m).without caller
  := by
  induction hm with
  | refl => rw [after_cancelling_self hn]
  | @step m hm ih =>
    have hevent := events_cancelling_succ caller hm hn
    have hbefore := ih fun p hp hpm => hsilent p hp (Nat.lt_succ_of_lt hpm)
    cases hx : h.events[m]? with
    | none => rw [after_succ_of_none (hevent.trans hx), after_succ_of_none hx, hbefore]
    | some x =>
      rw [after_succ (hevent.trans hx), after_succ hx, hbefore,
        Traffic.step_without_of_not_isCallOf (hsilent m hm (Nat.lt_succ_self m) x hx)]

/-- The cache and the running computations are the same afterwards. -/
theorem cache_after_cancelling
    (hm : n ≤ m) (hn : n ≤ h.events.length) :
  ((h.cancelling n caller).after (m + 1)).cache = (h.after m).cache
  := by
  rw [← Traffic.cache_without _ caller, after_cancelling_succ hm hn, Traffic.cache_without]

theorem flights_after_cancelling
    (hm : n ≤ m) (hn : n ≤ h.events.length) :
  ((h.cancelling n caller).after (m + 1)).flights = (h.after m).flights
  := by
  rw [← Traffic.flights_without _ caller, after_cancelling_succ hm hn, Traffic.flights_without]

/-! ### Those who end, and the computations that start -/

theorem endings_eq
    {x : CacheEvent γ κ α} (hx : h.events[n]? = some x) :
  h.endings n = ((h.after n).step x).2
  := by
  simp only [endings, hx]

theorem endings_of_none
    (hx : h.events[n]? = none) :
  h.endings n = []
  := by
  simp only [endings, hx]

/-- The cancellation ends the caller, and nobody else. -/
theorem endings_cancelling_self
    (hn : n ≤ h.events.length) :
  (h.cancelling n caller).endings n
    = ((h.after n).waiters.filter fun w => w.caller == caller).map
        fun w => ⟨w.caller, w.key, w.window, .cancelled⟩
  := by
  rw [endings_eq (events_cancelling_self hn), after_cancelling_of_le (Nat.le_refl n) hn]
  rfl

theorem endings_cancelling_of_lt
    (hm : m < n) (hn : n ≤ h.events.length) :
  (h.cancelling n caller).endings m = h.endings m
  := by
  simp only [endings, events_cancelling_of_lt hm hn, after_cancelling_of_le (Nat.le_of_lt hm) hn]

/-- The others end as they do without the cancellation. -/
theorem endings_cancelling_succ
    (hm : n ≤ m) (hn : n ≤ h.events.length) :
  Ended.others caller ((h.cancelling n caller).endings (m + 1))
    = Ended.others caller (h.endings m)
  := by
  have hevent := events_cancelling_succ caller hm hn
  cases hx : h.events[m]? with
  | none => rw [endings_of_none (hevent.trans hx), endings_of_none hx]
  | some x =>
    rw [endings_eq (hevent.trans hx), endings_eq hx]
    exact (Traffic.step_congr_without (after_cancelling_succ hm hn) x).2

/-- A cancelled caller that does not call again ends no more. -/
theorem endings_cancelling_of_silent
    (hm : n ≤ m) (hn : n ≤ h.events.length) (hsilent : h.Silent n (m + 1) caller) :
  (h.cancelling n caller).endings (m + 1) = Ended.others caller (h.endings m)
  := by
  have hevent := events_cancelling_succ caller hm hn
  have hbefore := after_cancelling_of_silent hm hn
    fun p hp hpm => hsilent p hp (Nat.lt_succ_of_lt hpm)
  cases hx : h.events[m]? with
  | none =>
    rw [endings_of_none (hevent.trans hx), endings_of_none hx]
    rfl
  | some x =>
    rw [endings_eq (hevent.trans hx), endings_eq hx, hbefore,
      Traffic.step_without_of_not_isCallOf (hsilent m hm (Nat.lt_succ_self m) x hx)]

/-- What a place launches depends on its event and on the cache before it. -/
theorem launches_congr
    {h' : CacheHistory γ κ α} (hevent : h'.events[m]? = h.events[n]?)
    (hcache : (h'.after m).cache = (h.after n).cache) (caller : γ) (job : Nat) (key : κ)
    (window : Int) :
  h'.Launches m caller job key window ↔ h.Launches n caller job key window
  := by
  have hstarts : ∀ x, (h'.after m).Starts x job key window
      ↔ (h.after n).Starts x job key window := by
    intro x
    cases x <;> simp only [Traffic.Starts, hcache]
  simp only [Launches, Starts, hevent, hstarts]

/-- A computation for whose end nobody waits is stored when it succeeds. -/
theorem stored_of_nobody_waits
    [EquivBEq κ] {f : Flight κ} (hf : f ∈ (h.after n).flights)
    (hcur : f.IsCurrent (h.after n).cache) (hnobody : ∀ w ∈ (h.after n).waiters, w.job ≠ f.job)
    {v : α} (hx : h.events[n]? = some (.finish f.job (.value v))) :
  h.endings n = []
    ∧ (h.after (n + 1)).cache.entries
      = Cache.evict h.bound ((h.after n).cache.store f.job v).entries
    ∧ (h.bound ≤ 0 ∨ (h.after n).cache.size ≤ h.bound →
      (h.after (n + 1)).cache.find? f.key = some ⟨f.key, f.window, f.job, some v⟩)
  := by
  have ht := consistent_after (h := h) n
  have hr : (h.after n).isRunning f.job = true := Traffic.isRunning_iff.mpr ⟨f, hf, rfl⟩
  have hentries : (h.after (n + 1)).cache.entries
      = Cache.evict h.bound ((h.after n).cache.store f.job v).entries := by
    rw [after_succ hx, Traffic.step, Traffic.finish, if_pos hr, ht.entries_settle_value hf hcur,
      bound_after]
  constructor
  · rw [endings_eq hx, Traffic.step, Traffic.finish, if_pos hr, List.map_eq_nil_iff,
      List.filter_eq_nil_iff]
    intro w hw
    simpa using hnobody w hw
  use hentries
  intro hbound
  obtain ⟨e, he, hj⟩ := hcur
  have hmem := Cache.mem_of_find? he
  obtain ⟨hk, hv⟩ := ht.of_job_eq hf hmem hj
  obtain rfl : ⟨e.job, e.key, e.window⟩ = f := ht.flight_eq (ht.inFlight e hmem hv) hf hj
  have hkept : Cache.evict h.bound ((h.after n).cache.store e.job v).entries
      = ((h.after n).cache.store e.job v).entries := by
    obtain hbound | hbound := hbound
    · apply Cache.evict_of_nonpos hbound _
    · apply Cache.evict_of_length_le
      simpa [Cache.store, Cache.size] using hbound
  apply (consistent_after (n + 1)).cache.find?_eq_some
  · rw [hentries, hkept, Cache.mem_store]
    right
    exact ⟨e, hmem, rfl, rfl⟩
  · exact BEq.rfl

/-! ### Privacy of a cancellation -/

variable (h) (n) (caller)

/-- A history with the cancellation of a caller at a place is the history without it, but for
that caller. -/
structure CancelsOnly : Prop where
  /-- Nothing differs up to the cancellation. -/
  before : ∀ m ≤ n, (h.cancelling n caller).after m = h.after m
  endings_before : ∀ m < n, (h.cancelling n caller).endings m = h.endings m
  launches_before : ∀ m < n, ∀ c job key window,
    (h.cancelling n caller).Launches m c job key window ↔ h.Launches m c job key window
  /-- The caller ends cancelled, with the key and the window of its call.  Nobody else ends, and
  nothing is started. -/
  cancelled : (h.cancelling n caller).endings n
    = ((h.after n).waiters.filter fun w => w.caller == caller).map
        fun w => ⟨w.caller, w.key, w.window, .cancelled⟩
  idle : ∀ c job key window, ¬ (h.cancelling n caller).Launches n c job key window
  /-- Afterwards the entries with their windows, values and order, the counters and the number of
  computations are the same, and so are the running computations. -/
  cache : ∀ m ≥ n, ((h.cancelling n caller).after (m + 1)).cache = (h.after m).cache
  flights : ∀ m ≥ n, ((h.cancelling n caller).after (m + 1)).flights = (h.after m).flights
  /-- The same calls start the same computations. -/
  launches : ∀ m ≥ n, ∀ c job key window,
    (h.cancelling n caller).Launches (m + 1) c job key window ↔ h.Launches m c job key window
  /-- The others wait for the same computations and end with the same outcomes. -/
  waiters : ∀ m ≥ n, (((h.cancelling n caller).after (m + 1)).without caller).waiters
    = ((h.after m).without caller).waiters
  endings : ∀ m ≥ n, Ended.others caller ((h.cancelling n caller).endings (m + 1))
    = Ended.others caller (h.endings m)
  /-- The caller itself ends no more before it calls again. -/
  silent : ∀ m ≥ n, h.Silent n (m + 1) caller →
    (h.cancelling n caller).endings (m + 1) = Ended.others caller (h.endings m)
  /-- A computation that nobody waits for any more is stored when it succeeds, as long as its
  entry was not dropped meanwhile, and within the bound it stays. -/
  stored : ∀ m ≥ n, ∀ f ∈ ((h.cancelling n caller).after (m + 1)).flights,
    f.IsCurrent ((h.cancelling n caller).after (m + 1)).cache →
    (∀ w ∈ ((h.cancelling n caller).after (m + 1)).waiters, w.job ≠ f.job) →
    ∀ v, h.events[m]? = some (.finish f.job (.value v)) →
      (h.cancelling n caller).endings (m + 1) = []
        ∧ ((h.cancelling n caller).after (m + 2)).cache.entries
          = Cache.evict h.bound
              (((h.cancelling n caller).after (m + 1)).cache.store f.job v).entries
        ∧ (h.bound ≤ 0 ∨ ((h.cancelling n caller).after (m + 1)).cache.size ≤ h.bound →
          ((h.cancelling n caller).after (m + 2)).cache.find? f.key
            = some ⟨f.key, f.window, f.job, some v⟩)

/-- The cancellation of a waiting caller ends this caller, which is told so, and is invisible to
everyone else in the rest of the run. -/
theorem cancellation_is_private
    [EquivBEq κ] (hn : n ≤ h.events.length) {w : Waiter γ κ} (hw : w ∈ (h.after n).waiters)
    (hcaller : (w.caller == caller) = true) :
  h.CancelsOnly n caller
    ∧ ⟨w.caller, w.key, w.window, .cancelled⟩ ∈ (h.cancelling n caller).endings n
  := by
  have hlaws : h.CancelsOnly n caller := by
    constructor
    case before => exact fun m hm => after_cancelling_of_le hm hn
    case endings_before => exact fun m hm => endings_cancelling_of_lt hm hn
    case launches_before =>
      intro m hm
      apply launches_congr (events_cancelling_of_lt hm hn)
      rw [after_cancelling_of_le (Nat.le_of_lt hm) hn]
    case cancelled => apply endings_cancelling_self hn
    case idle =>
      rintro c job key window ⟨now, hx, -⟩
      rw [events_cancelling_self hn] at hx
      cases hx
    case cache => exact fun m hm => cache_after_cancelling hm hn
    case flights => exact fun m hm => flights_after_cancelling hm hn
    case launches =>
      intro m hm
      apply launches_congr (events_cancelling_succ caller hm hn) (cache_after_cancelling hm hn)
    case waiters => exact fun m hm => congrArg Traffic.waiters (after_cancelling_succ hm hn)
    case endings => exact fun m hm => endings_cancelling_succ hm hn
    case silent => exact fun m hm => endings_cancelling_of_silent hm hn
    case stored =>
      intro m hm f hf hcur hnobody v hx
      apply stored_of_nobody_waits hf hcur hnobody ((events_cancelling_succ caller hm hn).trans hx)
  use hlaws
  rw [hlaws.cancelled]
  apply List.mem_map_of_mem (List.mem_filter.mpr ⟨hw, hcaller⟩)

/-- Two callers for one key, the second of whom is cancelled, and a third one who calls when the
computation has ended. -/
def lastCaller : CacheHistory Nat Nat Nat where
  timeframe := .m1
  bound := 0
  events := [.call 1 7 0, .call 2 7 5, .cancel 2, .finish 1 (.value 20), .call 3 7 10]

/-- When the first caller is cancelled too, the value is stored all the same, and the third caller
gets it. -/
theorem cancellation_is_private_lastCaller :
  3 ≤ lastCaller.events.length ∧ (⟨1, 7, 0, 1⟩ : Waiter Nat Nat) ∈ (lastCaller.after 3).waiters
    ∧ ⟨1, 7, 0, .cancelled⟩ ∈ (lastCaller.cancelling 3 1).endings 3
    ∧ (lastCaller.cancelling 3 1).endings 4 = []
    ∧ ((lastCaller.cancelling 3 1).after 5).cache.find? 7 = some ⟨7, 0, 1, some 20⟩
    ∧ (lastCaller.cancelling 3 1).endings 5 = [⟨3, 7, 0, .value 20⟩]
  := by
  have hn : 3 ≤ lastCaller.events.length := by decide
  have hw : (⟨1, 7, 0, 1⟩ : Waiter Nat Nat) ∈ (lastCaller.after 3).waiters := List.mem_cons_self
  obtain ⟨hlaws, hcancelled⟩ := cancellation_is_private lastCaller 3 1 hn hw rfl
  have hcur : Flight.IsCurrent ⟨1, 7, 0⟩ ((lastCaller.cancelling 3 1).after 4).cache :=
    ⟨⟨7, 0, 1, none⟩, rfl, rfl⟩
  obtain ⟨hended, -, hstored⟩ :=
    hlaws.stored 3 (Nat.le_refl 3) ⟨1, 7, 0⟩ List.mem_cons_self hcur nofun 20 rfl
  have hsilent : lastCaller.Silent 3 5 1 := by
    intro p hp hlt x hx
    obtain rfl | rfl : p = 3 ∨ p = 4 := by omega
    · cases hx
      exact id
    · cases hx
      exact nofun
  have hthird := hlaws.silent 4 (by decide) hsilent
  exact ⟨hn, hw, hcancelled, hended, hstored (.inl (Int.le_refl 0)), hthird.trans rfl⟩

end CacheHistory

end TradeGate
