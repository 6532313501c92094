import TradeGate.Proofs.Cache.History

/-!
# Where cached values come from

A value that a call returns was computed for it: by a computation that was started for
its key and its window, and not before its key was last dropped.  An entry carries this
history from the start of its computation until it leaves the cache, and a waiting caller
carries it from the call until the computation ends, wherever the entry may be by then.
-/

namespace TradeGate

namespace CacheHistory

variable {γ κ α : Type} [BEq γ] [BEq κ] [EquivBEq κ] (h : CacheHistory γ κ α)

/-- From a place on, the entry of a key is not dropped before another place. -/
def Undropped (p q : Nat) (key : κ) : Prop :=
  ∀ r < q, h.Drops r key → r < p

variable {h}

omit [BEq γ] in
theorem Drops.congr
    {n : Nat} {key key' : κ} (hk : key == key') (hd : h.Drops n key') :
  h.Drops n key
  := by
  obtain ⟨x, hx, hd⟩ := hd
  use x, hx
  cases x with
  | clear key'' => apply BEq.trans hk hd
  | flush => apply hd
  | _ => cases hd

omit [BEq γ] in
theorem Undropped.congr
    {p q : Nat} {key key' : κ} (hk : key == key') (hu : h.Undropped p q key) :
  h.Undropped p q key'
  := by
  intro r hr hd
  apply hu r hr (hd.congr hk)

omit [BEq γ] [EquivBEq κ] in
/-- An event that does not drop a key prolongs the time since it was dropped. -/
theorem Undropped.succ
    {p n : Nat} {key : κ} {x : CacheEvent γ κ α} (hx : h.events[n]? = some x)
    (hu : h.Undropped p n key) (hd : ¬ x.Drops key) :
  h.Undropped p (n + 1) key
  := by
  intro r hr hdr
  obtain hlt | rfl := Nat.lt_succ_iff_lt_or_eq.mp hr
  · apply hu r hlt hdr
  · obtain ⟨y, hy, hdr⟩ := hdr
    obtain rfl : x = y := by simpa using hx.symm.trans hy
    exact absurd hdr hd

omit [BEq γ] [EquivBEq κ] in
theorem undropped_self
    (n : Nat) (key : κ) :
  h.Undropped n n key
  := fun _ hr _ => hr

omit [EquivBEq κ] in
/-- The computation of an entry was started for its key and window, and the key was not
dropped since.  Its value, once it is there, is the one with which the computation
ended. -/
theorem origin_of_mem_entries
    {n : Nat} (hn : n ≤ h.events.length) :
  ∀ e ∈ (h.after n).cache.entries, ∃ p < n, h.Starts p e.job e.key e.window
    ∧ h.Undropped p n e.key
    ∧ ∀ v, e.value = some v → ∃ f, p < f ∧ f < n ∧ h.Ends f e.job (.value v)
  := by
  apply always (P := fun n => ∀ e ∈ (h.after n).cache.entries, ∃ p < n,
    h.Starts p e.job e.key e.window ∧ h.Undropped p n e.key
      ∧ ∀ v, e.value = some v → ∃ f, p < f ∧ f < n ∧ h.Ends f e.job (.value v)) _ _ hn
  · rintro e ⟨⟩
  · intro n x hx ih e he
    rw [after_succ hx] at he
    obtain ⟨he, hd, -⟩ | ⟨hv, hs⟩ | ⟨d, hd, v, hends, rfl⟩ := Traffic.mem_entries_step he
    · obtain ⟨p, hp, hs, hu, hv⟩ := ih e he
      use p, Nat.lt_succ_of_lt hp, hs, hu.succ hx hd
      intro v hev
      obtain ⟨f, hpf, hf, hends⟩ := hv v hev
      use f, hpf, Nat.lt_succ_of_lt hf
    · use n, Nat.lt_succ_self n, ⟨x, hx, hs⟩
      constructor
      · apply (undropped_self n e.key).succ hx
        cases x with
        | call caller key now => simp [CacheEvent.Drops]
        | _ => cases hs
      · simp [hv]
    · obtain ⟨p, hp, hs, hu, -⟩ := ih d hd
      use p, Nat.lt_succ_of_lt hp, hs
      constructor
      · apply hu.succ hx
        cases x with
        | finish job o => simp [CacheEvent.Drops]
        | _ => cases hends
      · rintro _ ⟨⟩
        use n, hp, Nat.lt_succ_self n, x

/-- A waiting caller called for the key and the window for which the computation was
started, and the key was not dropped between the start and the call. -/
theorem origin_of_mem_waiters
    {n : Nat} (hn : n ≤ h.events.length) :
  ∀ w ∈ (h.after n).waiters, ∃ p q key, p ≤ q ∧ q < n
    ∧ h.Calls q w.caller w.key w.window ∧ h.Starts p w.job key w.window ∧ key == w.key
    ∧ h.Undropped p q w.key
  := by
  apply always (P := fun n => ∀ w ∈ (h.after n).waiters, ∃ p q key, p ≤ q ∧ q < n
    ∧ h.Calls q w.caller w.key w.window ∧ h.Starts p w.job key w.window ∧ key == w.key
    ∧ h.Undropped p q w.key) _ _ hn
  · rintro w ⟨⟩
  · intro n x hx ih w hw
    rw [after_succ hx] at hw
    obtain ⟨hw, -⟩ | ⟨now, rfl, hwin, hs | ⟨e, he, hv, hk, hew, hj⟩⟩ :=
      Traffic.mem_waiters_step hw
    · obtain ⟨p, q, key, hpq, hq, hrest⟩ := ih w hw
      use p, q, key, hpq, Nat.lt_succ_of_lt hq
    · use n, n, w.key, Nat.le_refl n, Nat.lt_succ_self n
      use ⟨now, hx, by rw [hwin, windowAt_after]⟩, ⟨_, hx, hs⟩, BEq.rfl
      apply undropped_self
    · obtain ⟨p, hp, hs, hu, -⟩ := origin_of_mem_entries (Nat.le_of_lt (lt_length hx)) e he
      use p, n, e.key, Nat.le_of_lt hp, Nat.lt_succ_self n
      use ⟨now, hx, by rw [hwin, windowAt_after]⟩, by rwa [← hj, ← hew], hk
      apply hu.congr hk

variable (h)

/-- Every value that a call returns is the one with which a computation ended that was
started for the key of the call and for the window of the call's time, and the key was not
dropped between that start and the call.  Every entry is found under its own key, is for a
window that begins at a multiple of the interval, and if it has a value, then that is the
one with which the computation ended that was started for its key and its window. -/
theorem returned_values_are_fresh :
  (∀ n d v, d ∈ h.endings n → d.outcome = .value v →
    ∃ p q f job key, p ≤ q ∧ q ≤ n ∧ p < f ∧ f ≤ n
      ∧ h.Calls q d.caller d.key d.window ∧ h.Starts p job key d.window ∧ key == d.key
      ∧ h.Ends f job (.value v) ∧ ∀ r < q, h.Drops r d.key → r < p)
  ∧ ∀ n ≤ h.events.length, ∀ e ∈ (h.after n).cache.entries,
    (h.after n).cache.find? e.key = some e ∧ h.timeframe.millis ∣ e.window
      ∧ ∀ v, e.value = some v → ∃ p f, p < f ∧ f < n ∧ h.Starts p e.job e.key e.window
        ∧ h.Ends f e.job (.value v)
  := by
  constructor
  · intro n d v hd hv
    unfold endings at hd
    split at hd
    next x hx =>
      have hn := Nat.le_of_lt (lt_length hx)
      obtain ⟨now, rfl, hwin, e, he, v', hev, hk, hew, ho⟩ | ⟨job, hends, hw⟩ | ho :=
        Traffic.mem_ended_step hd
      · obtain rfl : v' = v := by simpa [ho] using hv
        obtain ⟨p, hp, hs, hu, hval⟩ := origin_of_mem_entries hn e he
        obtain ⟨f, hpf, hf, hends⟩ := hval v' hev
        use p, n, f, e.job, e.key, Nat.le_of_lt hp, Nat.le_refl n, hpf, Nat.le_of_lt hf
        use ⟨now, hx, by rw [hwin, windowAt_after]⟩, by rwa [← hew], hk, hends
        apply hu.congr hk
      · obtain ⟨p, q, key, hpq, hq, hcall, hs, hk, hu⟩ := origin_of_mem_waiters hn _ hw
        use p, q, n, job, key, hpq, Nat.le_of_lt hq, Nat.lt_of_le_of_lt hpq hq, Nat.le_refl n
        use hcall, hs, hk, ⟨x, hx, by rwa [hv] at hends⟩
        apply hu
      · rw [ho] at hv
        cases hv
    next => cases hd
  · intro n hn e he
    have hc := (consistent_after (h := h) n).cache
    use hc.find?_eq_some he BEq.rfl
    constructor
    · have hdvd := hc.windows e he
      rwa [timeframe_after] at hdvd
    · intro v hv
      obtain ⟨p, -, hs, -, hval⟩ := origin_of_mem_entries hn e he
      obtain ⟨f, hpf, hf, hends⟩ := hval v hv
      use p, f

/-- Two computations for one key and window, the second after the key was cleared while
the first was still running. -/
def clearedMeanwhile : CacheHistory Nat Nat Nat where
  timeframe := .m1
  bound := 0
  events := [.call 1 7 0, .clear 7, .call 2 7 5, .finish 2 (.value 20), .finish 1 (.value 10)]

/-- The later caller gets the value of the computation that was started after the key was
cleared. -/
theorem returned_value_of_clearedMeanwhile :
  (⟨2, 7, 0, .value 20⟩ : Ended Nat Nat Nat) ∈ clearedMeanwhile.endings 3
    ∧ ∃ p q f job key, p ≤ q ∧ q ≤ 3 ∧ p < f ∧ f ≤ 3
      ∧ clearedMeanwhile.Calls q 2 7 0 ∧ clearedMeanwhile.Starts p job key 0 ∧ key == 7
      ∧ clearedMeanwhile.Ends f job (.value 20)
      ∧ ∀ r < q, clearedMeanwhile.Drops r 7 → r < p
  := by
  have hd : (⟨2, 7, 0, .value 20⟩ : Ended Nat Nat Nat) ∈ clearedMeanwhile.endings 3 :=
    List.mem_cons_self
  use hd
  apply (returned_values_are_fresh clearedMeanwhile).1 3 _ 20 hd rfl

end CacheHistory

end TradeGate
