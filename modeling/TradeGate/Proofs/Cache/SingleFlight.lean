import TradeGate.Proofs.Cache.Eviction

/-!
# Single flight

In a history without a bound on the entries, in which no key is dropped and the clock
never returns to an earlier window, at most one computation for a key and a window
succeeds, and at most one runs at a time.  For the entry of a started computation stays
until the computation fails or is cancelled, or until a call in a later window replaces
it; and while it is there, no other computation is started for its key and window.
-/

namespace TradeGate

namespace Traffic

variable {γ κ α : Type} [BEq γ] [BEq κ]

/-- A started computation has an entry. -/
theorem Starts.mem_entries_step
    {t : Traffic γ κ α} {x : CacheEvent γ κ α} {job : Nat} {key : κ} {window : Int}
    (hs : t.Starts x job key window) :
  ⟨key, window, job, none⟩ ∈ (t.step x).1.cache.entries
  := by
  cases x with
  | call caller key' now =>
    obtain ⟨⟨rfl, rfl, rfl⟩, -⟩ := starts_call_iff.mp hs
    obtain ⟨e, v, he, hw, -, -⟩ | ⟨e, he, hw, -, -⟩ | ⟨-, h⟩ := t.call_cases caller key now
    · exact absurd hs (not_starts_of_find? he hw _ _ _)
    · exact absurd hs (not_starts_of_find? he hw _ _ _)
    · simp [step, h, Cache.start]
  | _ => cases hs

variable [EquivBEq κ]

/-- Without a bound, an entry stays unless its key is dropped, its computation ends without
a value, or a call for its key in another window starts a computation. -/
theorem mem_entries_step_of_mem
    {t : Traffic γ κ α} (ht : t.cache.WellFormed) (hb : t.cache.bound ≤ 0)
    {e : Entry κ α} (he : e ∈ t.cache.entries) (x : CacheEvent γ κ α) :
  (∃ d ∈ (t.step x).1.cache.entries, d.job = e.job ∧ d.key = e.key ∧ d.window = e.window)
    ∨ x.Drops e.key
    ∨ (∃ o, t.Ends x e.job o ∧ ∀ v, o ≠ .value v)
    ∨ ∃ job key window, t.Starts x job key window ∧ window ≠ e.window
  := by
  obtain hstays | hd | hends | ⟨job, key, window, hs, hk⟩ | ⟨job, v, d, hends, hcur, hd, -, hgone⟩ :=
    stays_or_leaves he x
  · left
    exact hstays
  · right; left
    exact hd
  · right; right; left
    exact hends
  · right; right; right
    use job, key, window, hs
    exact (hs.window_ne (ht.find?_eq_some he hk)).symm
  · rw [hends.entries_step hcur, Cache.evict_of_nonpos hb] at hgone
    exact absurd hd hgone

end Traffic

namespace CacheHistory

variable {γ κ α : Type} [BEq γ] [BEq κ] (h : CacheHistory γ κ α)

/-- The clock never returns to an earlier window. -/
def ClockForward : Prop :=
  ∀ m n, m < n → ∀ caller caller' key key' window window',
    h.Calls m caller key window → h.Calls n caller' key' window' → window ≤ window'

variable {h}

section Unbounded

variable [EquivBEq κ]
variable (hbound : h.bound ≤ 0) (hdrop : ∀ n key, ¬ h.Drops n key) (hclock : h.ClockForward)

include hbound hdrop hclock

/-- A started computation has its entry, or has ended without a value, or there was a call
in a later window. -/
theorem Starts.followed
    {p job : Nat} {key : κ} {window : Int} (hs : h.Starts p job key window) {n : Nat}
    (hn : n ≤ h.events.length) (hp : p < n) :
  (∃ e ∈ (h.after n).cache.entries, e.job = job ∧ e.key = key ∧ e.window = window)
    ∨ (∃ f o, p < f ∧ f < n ∧ h.Ends f job o ∧ ∀ v, o ≠ .value v)
    ∨ ∃ q caller key' window', q < n ∧ h.Calls q caller key' window' ∧ window < window'
  := by
  revert hp
  apply always (P := fun n => p < n →
    (∃ e ∈ (h.after n).cache.entries, e.job = job ∧ e.key = key ∧ e.window = window)
    ∨ (∃ f o, p < f ∧ f < n ∧ h.Ends f job o ∧ ∀ v, o ≠ .value v)
    ∨ ∃ q caller key' window', q < n ∧ h.Calls q caller key' window' ∧ window < window') _ _ hn
  · intro hp
    cases hp
  · intro n x hx ih hp
    rw [after_succ hx]
    obtain hlt | rfl := Nat.lt_succ_iff_lt_or_eq.mp hp
    · obtain ⟨e, he, rfl, rfl, rfl⟩ | ⟨f, o, hpf, hf, hends⟩ | ⟨q, c, k, w, hq, hcall⟩ :=
        ih hlt
      · obtain hd | hd | ⟨o, hends, ho⟩ | ⟨job', key', window', hs', hne⟩ :=
          Traffic.mem_entries_step_of_mem (consistent_after n).cache
            (by rwa [bound_after]) he x
        · left
          apply hd
        · exact absurd ⟨x, hx, hd⟩ (hdrop n e.key)
        · right; left
          use n, o, hlt, Nat.lt_succ_self n, ⟨x, hx, hends⟩
        · right; right
          obtain ⟨c, hc⟩ := hs.calls
          obtain ⟨c', hc'⟩ := Starts.calls (h := h) ⟨x, hx, hs'⟩
          have hle := hclock p n hlt _ _ _ _ _ _ hc hc'
          use n, c', key', window', Nat.lt_succ_self n, hc'
          omega
      · right; left
        use f, o, hpf, Nat.lt_succ_of_lt hf
      · right; right
        use q, c, k, w, Nat.lt_succ_of_lt hq
    · obtain ⟨y, hy, hs⟩ := hs
      obtain rfl : x = y := by simpa using hx.symm.trans hy
      left
      use ⟨key, window, job, none⟩, hs.mem_entries_step

/-- A later computation for a key and a window starts only after the earlier one has ended
without a value. -/
theorem Starts.ended_of_starts
    {p p' job job' : Nat} {key key' : κ} {window : Int} (hs : h.Starts p job key window)
    (hs' : h.Starts p' job' key' window) (hk : key == key') (hp : p < p') :
  ∃ f o, p < f ∧ f < p' ∧ h.Ends f job o ∧ ∀ v, o ≠ .value v
  := by
  obtain ⟨c', hc'⟩ := hs'.calls
  obtain ⟨x, hx, hs'⟩ := hs'
  obtain ⟨e, he, rfl, rfl, rfl⟩ | hends | ⟨q, c, k, w, hq, hcall, hlt⟩ :=
    hs.followed hbound hdrop hclock (Nat.le_of_lt (lt_length hx)) hp
  · have hfind := (consistent_after p').cache.find?_eq_some he hk
    exact absurd rfl (hs'.window_ne hfind)
  · apply hends
  · have := hclock q p' hq _ _ _ _ _ _ hcall hc'
    omega

omit hbound hdrop hclock [EquivBEq κ] in
/-- A computation ends after it was started. -/
theorem Starts.lt_of_ends
    {p f job : Nat} {key : κ} {window : Int} {o : Outcome α}
    (hs : h.Starts p job key window) (he : h.Ends f job o) :
  p < f
  := by
  obtain ⟨hx, hr⟩ := ends_iff.mp he
  obtain ⟨g, hg, rfl⟩ := Traffic.isRunning_iff.mp hr
  obtain ⟨q, hq, hs'⟩ := exists_starts_of_mem_flights (Nat.le_of_lt (lt_length hx)) g hg
  obtain rfl := hs.place_eq hs'
  apply hq

/-- Two running computations for one key and window are the same. -/
theorem flight_eq_of_key
    {n : Nat} (hn : n ≤ h.events.length) {f g : Flight κ} (hf : f ∈ (h.after n).flights)
    (hg : g ∈ (h.after n).flights) (hk : f.key == g.key) (hw : f.window = g.window) :
  f = g
  := by
  obtain ⟨p, hp, hs⟩ := exists_starts_of_mem_flights hn f hf
  obtain ⟨q, hq, hs'⟩ := exists_starts_of_mem_flights hn g hg
  rw [hw] at hs
  obtain hlt | rfl | hlt := Nat.lt_trichotomy p q
  · obtain ⟨e, o, -, he, hends, -⟩ := hs.ended_of_starts hbound hdrop hclock hs' hk hlt
    exact absurd rfl (hends.not_running (Nat.lt_trans he hq) f hf)
  · apply (consistent_after n).flight_eq hf hg
    rw [hs.job_eq, hs'.job_eq]
  · obtain ⟨e, o, -, he, hends, -⟩ :=
      hs'.ended_of_starts hbound hdrop hclock hs (BEq.symm hk) hlt
    exact absurd rfl (hends.not_running (Nat.lt_trans he hp) g hg)

/-- At most one computation for a key and a window succeeds. -/
theorem Starts.job_eq_of_success
    {p p' f f' job job' : Nat} {key key' : κ} {window : Int} {v v' : α}
    (hs : h.Starts p job key window) (hs' : h.Starts p' job' key' window)
    (hk : key == key') (he : h.Ends f job (.value v)) (he' : h.Ends f' job' (.value v')) :
  job = job'
  := by
  obtain hlt | rfl | hlt := Nat.lt_trichotomy p p'
  · obtain ⟨g, o, -, -, hends, ho⟩ := hs.ended_of_starts hbound hdrop hclock hs' hk hlt
    exact absurd (hends.outcome_eq he) (ho v)
  · rw [hs.job_eq, hs'.job_eq]
  · obtain ⟨g, o, -, -, hends, ho⟩ :=
      hs'.ended_of_starts hbound hdrop hclock hs (BEq.symm hk) hlt
    exact absurd (hends.outcome_eq he') (ho v')

/-- The value of a computation that has succeeded stays in the entry of its key as long as
calls in its window arrive. -/
theorem Starts.find?_of_success
    {p f q job : Nat} {key key' : κ} {window : Int} {v : α} {caller : γ}
    (hs : h.Starts p job key window) (he : h.Ends f job (.value v)) (hf : f < q)
    (hcall : h.Calls q caller key' window) (hk : key == key') :
  ∃ e, (h.after q).cache.find? key' = some e ∧ e.window = window ∧ e.value = some v
  := by
  have hp := hs.lt_of_ends he
  have hn : q ≤ h.events.length := by
    obtain ⟨now, hx, -⟩ := hcall
    apply Nat.le_of_lt (lt_length hx)
  have hcons := consistent_after (h := h) q
  obtain ⟨e, hmem, rfl, rfl, rfl⟩ | ⟨g, o, -, -, hends, ho⟩ | ⟨r, c, k, w, hr, hcall', hlt⟩ :=
    hs.followed hbound hdrop hclock hn (Nat.lt_trans hp hf)
  · use e, hcons.cache.find?_eq_some hmem hk, rfl
    cases hv : e.value with
    | none => exact absurd rfl (he.not_running hf _ (hcons.inFlight e hmem hv))
    | some v' =>
      obtain ⟨_, -, -, -, hval⟩ := origin_of_mem_entries hn e hmem
      obtain ⟨g, -, -, hends⟩ := hval v' hv
      obtain rfl : v' = v := by simpa using hends.outcome_eq he
      rfl
  · exact absurd (hends.outcome_eq he) (ho v)
  · have := hclock r q hr _ _ _ _ _ _ hcall' hcall
    omega

omit hbound hdrop hclock [EquivBEq κ] in
/-- A call that finds a value ends with it at once and starts nothing. -/
theorem endings_of_find?
    {q : Nat} {key : κ} {window : Int} {v : α} {caller : γ} {e : Entry κ α}
    (hcall : h.Calls q caller key window) (hfind : (h.after q).cache.find? key = some e)
    (hw : e.window = window) (hv : e.value = some v) :
  h.endings q = [⟨caller, key, window, .value v⟩]
    ∧ (h.after (q + 1)).flights = (h.after q).flights
    ∧ (h.after (q + 1)).cache.started = (h.after q).cache.started
  := by
  obtain ⟨now, hx, hwin⟩ := hcall
  rw [after_succ hx]
  simp only [endings, hx, Traffic.step]
  rw [← windowAt_after q now] at hwin
  obtain ⟨d, v', hd, -, hv', hstep⟩ | ⟨d, hd, -, hv', -⟩ | ⟨hne, -⟩ :=
    (h.after q).call_cases caller key now
  · obtain rfl : e = d := by simpa [hfind] using hd
    obtain rfl : v = v' := by simpa [hv] using hv'
    simp [hstep, hw]
  · obtain rfl : e = d := by simpa [hfind] using hd
    simp [hv] at hv'
  · exact absurd (hw.trans hwin) (hne e hfind)

end Unbounded

variable [EquivBEq κ] (h)

/-- In a history without a bound, in which no key is dropped and the clock never returns
to an earlier window, for every key and window: at most one computation runs at a time; a
second one is started only after the one before has failed or was cancelled; so at most
one succeeds; and once it has succeeded, every later call ends at once with its value and
starts no computation. -/
theorem single_flight
    (hbound : h.bound ≤ 0) (hdrop : ∀ n key, ¬ h.Drops n key) (hclock : h.ClockForward) :
  (∀ n ≤ h.events.length, ∀ f ∈ (h.after n).flights, ∀ g ∈ (h.after n).flights,
      f.key == g.key → f.window = g.window → f = g)
  ∧ (∀ p p' job job' key key' window, h.Starts p job key window →
      h.Starts p' job' key' window → key == key' → p < p' →
      ∃ f o, p < f ∧ f < p' ∧ h.Ends f job o ∧ ∀ v, o ≠ .value v)
  ∧ (∀ p p' f f' job job' key key' window v v', h.Starts p job key window →
      h.Starts p' job' key' window → key == key' → h.Ends f job (.value v) →
      h.Ends f' job' (.value v') → job = job')
  ∧ ∀ p f q job key key' window v caller, h.Starts p job key window →
      h.Ends f job (.value v) → f < q → h.Calls q caller key' window → key == key' →
      h.endings q = [⟨caller, key', window, .value v⟩]
        ∧ (h.after (q + 1)).flights = (h.after q).flights
        ∧ (h.after (q + 1)).cache.started = (h.after q).cache.started
  := by
  constructor
  · intro n hn f hf g hg hk hw
    apply flight_eq_of_key hbound hdrop hclock hn hf hg hk hw
  constructor
  · intro p p' job job' key key' window hs hs' hk hp
    apply hs.ended_of_starts hbound hdrop hclock hs' hk hp
  constructor
  · intro p p' f f' job job' key key' window v v' hs hs' hk he he'
    apply hs.job_eq_of_success hbound hdrop hclock hs' hk he he'
  · intro p f q job key key' window v caller hs he hf hcall hk
    obtain ⟨e, hfind, hw, hv⟩ := hs.find?_of_success hbound hdrop hclock he hf hcall hk
    apply endings_of_find? hcall hfind hw hv

/-- A computation that fails while two callers wait, and a second one that succeeds after
its caller was cancelled. -/
def failedOnce : CacheHistory Nat Nat Nat where
  timeframe := .m1
  bound := 0
  events := [.call 1 7 0, .call 2 7 5, .finish 1 (.failure .exhausted), .call 3 7 10, .cancel 3,
    .finish 2 (.value 20), .call 4 7 15]

/-- A caller after the success gets its value at once. -/
theorem single_flight_failedOnce :
  failedOnce.bound ≤ 0 ∧ (∀ n key, ¬ failedOnce.Drops n key) ∧ failedOnce.ClockForward
    ∧ failedOnce.endings 6 = [⟨4, 7, 0, .value 20⟩]
    ∧ (failedOnce.after 7).flights = (failedOnce.after 6).flights
    ∧ (failedOnce.after 7).cache.started = (failedOnce.after 6).cache.started
  := by
  have hbound : failedOnce.bound ≤ 0 := Int.le_refl 0
  have hdrop : ∀ n key, ¬ failedOnce.Drops n key := by
    rintro n key ⟨x, hx, hd⟩
    have hmem : x ∈ failedOnce.events := List.mem_of_getElem? hx
    simp only [failedOnce, List.mem_cons, List.not_mem_nil, or_false] at hmem
    obtain rfl | rfl | rfl | rfl | rfl | rfl | rfl := hmem <;> cases hd
  have hwindow : ∀ q caller key window, failedOnce.Calls q caller key window → window = 0 := by
    rintro q caller key window ⟨now, hx, rfl⟩
    have hmem := List.mem_of_getElem? hx
    simp only [failedOnce, List.mem_cons, List.not_mem_nil, or_false, CacheEvent.call.injEq,
      reduceCtorEq, false_or] at hmem
    obtain ⟨-, -, rfl⟩ | ⟨-, -, rfl⟩ | ⟨-, -, rfl⟩ | ⟨-, -, rfl⟩ := hmem <;> decide
  have hclock : failedOnce.ClockForward := by
    intro m n _ caller caller' key key' window window' hm hn
    apply Int.le_of_eq
    rw [hwindow _ _ _ _ hm, hwindow _ _ _ _ hn]
  use hbound, hdrop, hclock
  apply (single_flight failedOnce hbound hdrop hclock).2.2.2 3 5 6 2 7 7 0 20 4
  · use .call 3 7 10, rfl, rfl, rfl
    rfl
  · use .finish 2 (.value 20), rfl, rfl, rfl
    rfl
  · decide
  · use 15, rfl
    rfl
  · rfl

end CacheHistory

end TradeGate
