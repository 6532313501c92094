import TradeGate.Cache.Traffic
import TradeGate.Proofs.Cache.Entries

/-!
# Events of a cache

What an event can do is said once for the entries, the running computations, the waiting
callers and those who end: whatever is there after an event was there before, or is the
work of that event.
-/

namespace TradeGate

/-- Whether an event drops the entry of a key. -/
def CacheEvent.Drops {γ κ α : Type} [BEq κ] : CacheEvent γ κ α → κ → Prop
  | .clear key', key => key == key'
  | .flush, _ => True
  | _, _ => False

namespace Traffic

variable {γ κ α : Type} [BEq κ]

omit [BEq κ] in
theorem isRunning_iff
    {t : Traffic γ κ α} {job : Nat} :
  t.isRunning job = true ↔ ∃ f ∈ t.flights, f.job = job
  := by
  simp [isRunning]

/-! ### What a call does -/

/-- What a call does: it ends at once with the value in the entry of its key and window,
or it waits for the computation of that entry, or, where there is no such entry, for a
computation that it starts. -/
theorem call_cases
    (t : Traffic γ κ α) (caller : γ) (key : κ) (now : Int) :
  (∃ e v, t.cache.find? key = some e ∧ e.window = t.cache.windowAt now ∧ e.value = some v
      ∧ t.call caller key now = ({ t with
          cache := { t.cache with
            stats := { t.cache.stats with hits := t.cache.stats.hits + 1 } } },
          [⟨caller, key, e.window, .value v⟩]))
    ∨ (∃ e, t.cache.find? key = some e ∧ e.window = t.cache.windowAt now ∧ e.value = none
      ∧ t.call caller key now = ({ t with
          cache := { t.cache with
            stats := { t.cache.stats with joins := t.cache.stats.joins + 1 } }
          waiters := t.waiters ++ [⟨caller, key, e.window, e.job⟩] }, []))
    ∨ ((∀ e, t.cache.find? key = some e → e.window ≠ t.cache.windowAt now)
      ∧ t.call caller key now = (
          { cache := (t.cache.start key (t.cache.windowAt now)).2
            flights := t.flights ++ [⟨t.cache.started + 1, key, t.cache.windowAt now⟩]
            waiters := t.waiters
              ++ [⟨caller, key, t.cache.windowAt now, t.cache.started + 1⟩] }, []))
  := by
  unfold call
  obtain ⟨e, v, hf, hw, hv, hr⟩ | ⟨e, hf, hw, hv, hr⟩ | ⟨hf, hr⟩ :=
    t.cache.request_cases key (t.cache.windowAt now)
  · left
    use e, v, hf, hw, hv
    simp only [hr, hw]
  · right; left
    use e, hf, hw, hv
    simp only [hr, hw]
  · right; right
    use hf
    simp only [hr]

/-! ### What an event does -/

/-- The event is a call that starts a computation for a key in a window. -/
def Starts (t : Traffic γ κ α) : CacheEvent γ κ α → Nat → κ → Int → Prop
  | .call _ key now, job, key', window =>
    key' = key ∧ window = t.cache.windowAt now ∧ (t.cache.request key window).1 = .start job
  | _, _, _, _ => False

/-- The event is the end of a running computation. -/
def Ends (t : Traffic γ κ α) : CacheEvent γ κ α → Nat → Outcome α → Prop
  | .finish job o, job', o' => job' = job ∧ o' = o ∧ t.isRunning job = true
  | _, _, _ => False

/-- A computation is started where the key has no entry for the window. -/
theorem starts_call_iff
    {t : Traffic γ κ α} {caller : γ} {key key' : κ} {now window : Int} {job : Nat} :
  t.Starts (.call caller key now) job key' window
    ↔ (key' = key ∧ window = t.cache.windowAt now ∧ job = t.cache.started + 1)
      ∧ ∀ e, t.cache.find? key = some e → e.window ≠ t.cache.windowAt now
  := by
  constructor
  · rintro ⟨rfl, rfl, hr⟩
    obtain ⟨e, v, -, -, -, h⟩ | ⟨e, -, -, -, h⟩ | ⟨hf, h⟩ :=
      t.cache.request_cases key' (t.cache.windowAt now)
    · simp [h] at hr
    · simp [h] at hr
    · rw [h] at hr
      cases hr
      use ⟨rfl, rfl, rfl⟩
  · rintro ⟨⟨rfl, rfl, rfl⟩, hf⟩
    use rfl, rfl
    obtain ⟨e, v, he, hw, -, -⟩ | ⟨e, he, hw, -, -⟩ | ⟨-, h⟩ :=
      t.cache.request_cases key' (t.cache.windowAt now)
    · exact absurd hw (hf e he)
    · exact absurd hw (hf e he)
    · rw [h]

theorem not_starts_of_find?
    {t : Traffic γ κ α} {caller : γ} {key : κ} {now : Int} {e : Entry κ α}
    (he : t.cache.find? key = some e) (hw : e.window = t.cache.windowAt now)
    (job : Nat) (key' : κ) (window : Int) :
  ¬ t.Starts (.call caller key now) job key' window
  := by
  intro h
  apply (starts_call_iff.mp h).2 e he hw

theorem Starts.job_eq
    {t : Traffic γ κ α} {x : CacheEvent γ κ α} {job : Nat} {key : κ} {window : Int}
    (h : t.Starts x job key window) :
  job = t.cache.started + 1
  := by
  cases x with
  | call caller key' now => apply (starts_call_iff.mp h).1.2.2
  | _ => cases h

/-- A computation is started for another window than that of the entry of its key. -/
theorem Starts.window_ne
    {t : Traffic γ κ α} {x : CacheEvent γ κ α} {job : Nat} {key : κ} {window : Int}
    (h : t.Starts x job key window) {e : Entry κ α} (he : t.cache.find? key = some e) :
  e.window ≠ window
  := by
  cases x with
  | call caller key' now =>
    obtain ⟨⟨rfl, rfl, -⟩, hne⟩ := starts_call_iff.mp h
    apply hne e he
  | _ => cases h

variable [BEq γ]

/-- A running computation after an event ran before and does not end with the event, or
was started by it. -/
theorem mem_flights_step
    {t : Traffic γ κ α} {x : CacheEvent γ κ α} {f : Flight κ} :
  f ∈ (t.step x).1.flights
    ↔ (f ∈ t.flights ∧ ∀ o, ¬ t.Ends x f.job o) ∨ t.Starts x f.job f.key f.window
  := by
  cases x with
  | call caller key now =>
    obtain ⟨e, v, he, hw, hv, h⟩ | ⟨e, he, hw, hv, h⟩ | ⟨hf, h⟩ := t.call_cases caller key now
    · simp [step, h, Ends, not_starts_of_find? he hw]
    · simp [step, h, Ends, not_starts_of_find? he hw]
    · obtain ⟨job, key', window⟩ := f
      simp only [step, h, Ends, starts_call_iff, List.mem_append, List.mem_singleton,
        Flight.mk.injEq, not_false_eq_true, implies_true, and_true]
      constructor
      · rintro (hmem | ⟨hj, hk, hw⟩)
        · left
          apply hmem
        · right
          use ⟨hk, hw, hj⟩
      · rintro (hmem | ⟨⟨hk, hw, hj⟩, -⟩)
        · left
          apply hmem
        · right
          use hj, hk
  | finish job o =>
    by_cases hr : t.isRunning job = true
    · simp [step, finish, Starts, Ends, hr]
    · simp [step, finish, Starts, Ends, hr]
  | cancel caller => simp [step, cancel, Starts, Ends]
  | clear key => simp [step, Starts, Ends]
  | flush => simp [step, Starts, Ends]

/-- An entry after an event was there before, for a key that the event does not drop and a
computation that does not end with it; or it was made for a computation that the event
started; or the event ended its computation with the value that it now has. -/
theorem mem_entries_step
    {t : Traffic γ κ α} {x : CacheEvent γ κ α} {e : Entry κ α}
    (he : e ∈ (t.step x).1.cache.entries) :
  (e ∈ t.cache.entries ∧ ¬ x.Drops e.key ∧ ∀ o, ¬ t.Ends x e.job o)
    ∨ (e.value = none ∧ t.Starts x e.job e.key e.window)
    ∨ ∃ d ∈ t.cache.entries, ∃ v, t.Ends x d.job (.value v) ∧ e = { d with value := some v }
  := by
  cases x with
  | call caller key now =>
    obtain ⟨d, v, hd, hw, hv, h⟩ | ⟨d, hd, hw, hv, h⟩ | ⟨hf, h⟩ := t.call_cases caller key now
    · left
      simpa [step, h, Ends, CacheEvent.Drops] using he
    · left
      simpa [step, h, Ends, CacheEvent.Drops] using he
    · simp only [step, h, Cache.start, List.mem_append, List.mem_singleton] at he
      obtain he | rfl := he
      · left
        simpa [Ends, CacheEvent.Drops] using (Cache.mem_others.mp he).1
      · right; left
        use rfl
        apply starts_call_iff.mpr
        use ⟨rfl, rfl, rfl⟩
  | finish job o =>
    by_cases hr : t.isRunning job = true
    · simp only [step, finish, hr, if_true] at he
      obtain ⟨he, hj⟩ | ⟨d, hd, v, hj, rfl, rfl⟩ := Cache.mem_settle he
      · left
        simp [he, hj, Ends, CacheEvent.Drops]
      · right; right
        use d, hd, v
        simp [Ends, hj, hr]
    · left
      simp only [step, finish, hr] at he
      simpa [Ends, CacheEvent.Drops, hr] using he
  | cancel caller =>
    left
    use he
    simp [Ends, CacheEvent.Drops]
  | clear key =>
    left
    use (Cache.mem_others.mp he).1
    simpa [Ends, CacheEvent.Drops] using (Cache.mem_others.mp he).2
  | flush => cases he

/-- A caller who waits after an event waited before, for a computation that does not end
with the event; or the event is the call, which joins the computation of the entry of its
key and window or starts one. -/
theorem mem_waiters_step
    {t : Traffic γ κ α} {x : CacheEvent γ κ α} {w : Waiter γ κ}
    (hw : w ∈ (t.step x).1.waiters) :
  (w ∈ t.waiters ∧ ∀ o, ¬ t.Ends x w.job o)
    ∨ ∃ now, x = .call w.caller w.key now ∧ w.window = t.cache.windowAt now
      ∧ (t.Starts x w.job w.key w.window
        ∨ ∃ e ∈ t.cache.entries, e.value = none ∧ e.key == w.key ∧ e.window = w.window
          ∧ e.job = w.job)
  := by
  cases x with
  | call caller key now =>
    obtain ⟨d, v, hd, hdw, hv, h⟩ | ⟨d, hd, hdw, hv, h⟩ | ⟨hf, h⟩ :=
      t.call_cases caller key now
    · left
      simpa [step, h, Ends] using hw
    · simp only [step, h, List.mem_append, List.mem_singleton] at hw
      obtain hw | rfl := hw
      · left
        simpa [Ends] using hw
      · right
        use now, rfl, hdw
        right
        use d, Cache.mem_of_find? hd, hv, Cache.key_of_find? hd
    · simp only [step, h, List.mem_append, List.mem_singleton] at hw
      obtain hw | rfl := hw
      · left
        simpa [Ends] using hw
      · right
        use now, rfl, rfl
        left
        apply starts_call_iff.mpr
        use ⟨rfl, rfl, rfl⟩
  | finish job o =>
    left
    by_cases hr : t.isRunning job = true
    · simpa [step, finish, Ends, hr] using hw
    · simpa [step, finish, Ends, hr] using hw
  | cancel caller =>
    left
    simp only [step, cancel, List.mem_filter] at hw
    simpa [Ends] using hw.1
  | clear key =>
    left
    simpa [step, Ends] using hw
  | flush =>
    left
    simpa [step, Ends] using hw

/-- A caller who ends with an event called with it and found a stored value, or waited for
a computation that ends with it, or was cancelled. -/
theorem mem_ended_step
    {t : Traffic γ κ α} {x : CacheEvent γ κ α} {d : Ended γ κ α} (hd : d ∈ (t.step x).2) :
  (∃ now, x = .call d.caller d.key now ∧ d.window = t.cache.windowAt now
      ∧ ∃ e ∈ t.cache.entries, ∃ v, e.value = some v ∧ e.key == d.key ∧ e.window = d.window
        ∧ d.outcome = .value v)
    ∨ (∃ job, t.Ends x job d.outcome ∧ ⟨d.caller, d.key, d.window, job⟩ ∈ t.waiters)
    ∨ d.outcome = .cancelled
  := by
  cases x with
  | call caller key now =>
    obtain ⟨e, v, he, hw, hv, h⟩ | ⟨e, he, hw, hv, h⟩ | ⟨hf, h⟩ := t.call_cases caller key now
    · simp only [step, h, List.mem_singleton] at hd
      subst hd
      left
      use now, rfl, hw, e, Cache.mem_of_find? he, v, hv, Cache.key_of_find? he
    · simp [step, h] at hd
    · simp [step, h] at hd
  | finish job o =>
    by_cases hr : t.isRunning job = true
    · simp only [step, finish, hr, if_true, List.mem_map, List.mem_filter] at hd
      obtain ⟨w, ⟨hw, hj⟩, rfl⟩ := hd
      right; left
      obtain rfl : w.job = job := by simpa using hj
      use w.job
      simpa [Ends, hr] using hw
    · simp [step, finish, hr] at hd
  | cancel caller =>
    right; right
    simp only [step, cancel, List.mem_map] at hd
    obtain ⟨w, -, rfl⟩ := hd
    rfl
  | clear key => cases hd
  | flush => cases hd

/-- No event changes the timeframe or the bound. -/
theorem settings_step
    (t : Traffic γ κ α) (x : CacheEvent γ κ α) :
  (t.step x).1.cache.timeframe = t.cache.timeframe
    ∧ (t.step x).1.cache.bound = t.cache.bound
  := by
  cases x with
  | call caller key now =>
    obtain ⟨e, v, -, -, -, h⟩ | ⟨e, -, -, -, h⟩ | ⟨-, h⟩ := t.call_cases caller key now <;>
      simp [step, h, Cache.start]
  | finish job o =>
    simp only [step, finish]
    split <;> simp
  | _ => constructor <;> rfl

theorem started_le_step
    (t : Traffic γ κ α) (x : CacheEvent γ κ α) :
  t.cache.started ≤ (t.step x).1.cache.started
  := by
  cases x with
  | call caller key now =>
    obtain ⟨e, v, -, -, -, h⟩ | ⟨e, -, -, -, h⟩ | ⟨-, h⟩ := t.call_cases caller key now <;>
      simp [step, h, Cache.start]
  | finish job o =>
    simp only [step, finish]
    split <;> simp
  | _ => apply Nat.le_refl

/-- A started computation is the latest. -/
theorem Starts.started_step
    {t : Traffic γ κ α} {x : CacheEvent γ κ α} {job : Nat} {key : κ} {window : Int}
    (h : t.Starts x job key window) :
  (t.step x).1.cache.started = job
  := by
  rw [h.job_eq]
  cases x with
  | call caller key' now =>
    obtain ⟨e, v, he, hw, -, -⟩ | ⟨e, he, hw, -, -⟩ | ⟨-, hcall⟩ :=
      t.call_cases caller key' now
    · exact absurd h (not_starts_of_find? he hw job key window)
    · exact absurd h (not_starts_of_find? he hw job key window)
    · simp [step, hcall, Cache.start]
  | _ => cases h

end Traffic

end TradeGate
