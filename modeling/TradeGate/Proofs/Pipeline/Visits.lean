import TradeGate.Proofs.Pipeline.Origin

/-!
# The way of a tick

A tick that has gone beyond its request made it at one place, the latest at which its task
made one.  It waits for a computation for its own key and window, which is due or has ended,
so that it can go on; and the indicators that it gets are the value with which a computation
for its own key and window ended, whatever became of the cache meanwhile.
-/

namespace TradeGate

namespace FloorHistory

variable {γ ι σ : Type} [DecidableEq γ] (h : FloorHistory γ ι σ)

/-- The latest request of a task before a place is made for its tick, at another place. -/
def LastAsked (m n : Nat) (g : γ) (v : Visit) : Prop :=
  m < n ∧ h.Asks m g { v with stage := .handed } ∧ ∀ k, m < k → k < n → ∀ v', ¬ h.Asks k g v'

variable {h} {n : Nat} {g : γ} {v : Visit}

/-! ### Steps of a tick -/

/-- A tick is where it was, or was just handed in, or went to its next stage, or was
cancelled. -/
theorem visit_succ
    (hv : h.visit (n + 1) g = some v) :
  (h.events[n]? ≠ some (.advance g) ∧ h.visit n g = some v)
    ∨ v.stage = .handed
    ∨ (∃ s, h.events[n]? = some (.advance g) ∧ h.visit n g = some { v with stage := s }
      ∧ h.pipeline.Moves v.stack v.tick (h.desk n) s v.stage)
    ∨ (∃ s, h.events[n]? = some (.cancel g) ∧ h.visit n g = some { v with stage := s }
      ∧ v.stage = .ended (.error .cancelled))
  := by
  cases he : h.events[n]? with
  | none =>
    left
    rw [visit, after_succ_of_none he] at hv
    use (Option.some_ne_none _).symm, hv
  | some e =>
    rw [visit, after_succ he] at hv
    obtain ⟨hne, hv⟩ | hv | ⟨s, rfl, hv, hs, -⟩ | ⟨s, rfl, hv, hs⟩ := Floor.visits_step hv
    · left
      use fun h => hne (Option.some.inj h), hv
    · right; left
      exact hv
    · right; right; left
      use s, rfl, hv
      rw [hs]
      apply Pipeline.moves_advance
    · right; right; right
      use s, rfl, hv, hs

/-- What holds of ticks that were just handed in and of cancelled ones, and is kept while a
tick stays and when it goes to its next stage, holds of every tick. -/
theorem visit_induction
    {P : Nat → Visit → Prop} (handed : ∀ n v, v.stage = .handed → P n v)
    (stay : ∀ n v, h.visit n g = some v → h.events[n]? ≠ some (.advance g) → P n v → P (n + 1) v)
    (move : ∀ n v s, h.events[n]? = some (.advance g) → h.visit n g = some { v with stage := s } →
      h.pipeline.Moves v.stack v.tick (h.desk n) s v.stage → P n { v with stage := s } →
      P (n + 1) v)
    (cancel : ∀ n v s, h.events[n]? = some (.cancel g) → h.visit n g = some { v with stage := s } →
      v.stage = .ended (.error .cancelled) → P (n + 1) v) :
  ∀ n v, h.visit n g = some v → P n v
  := by
  intro n
  induction n with
  | zero =>
    rintro v ⟨⟩
  | succ n ih =>
    intro v hv
    obtain ⟨hne, hv⟩ | hs | ⟨s, he, hv, hmoves⟩ | ⟨s, he, hv, hs⟩ := visit_succ hv
    · apply stay n v hv hne (ih v hv)
    · apply handed _ v hs
    · apply move n v s he hv hmoves (ih _ hv)
    · apply cancel n v s he hv hs

theorem LastAsked.of_asks
    (ha : h.Asks n g { v with stage := .handed }) :
  h.LastAsked n (n + 1) g v
  := by
  use Nat.lt_succ_self n, ha
  intro k hk hk'
  omega

/-- A request stays the latest while the tick is beyond it. -/
theorem LastAsked.succ
    {m : Nat} (hm : h.LastAsked m n g v) (hn : ∀ v', ¬ h.Asks n g v') :
  h.LastAsked m (n + 1) g v
  := by
  obtain ⟨hlt, ha, hlast⟩ := hm
  use Nat.lt_succ_of_lt hlt, ha
  intro k hk hk'
  obtain hk' | rfl := Nat.lt_succ_iff_lt_or_eq.mp hk'
  · apply hlast k hk hk'
  · apply hn

theorem not_asks_of_visit
    (hv : h.visit n g = some v) (hs : v.stage ≠ .handed) (v' : Visit) :
  ¬ h.Asks n g v'
  := by
  rintro ⟨-, hv', hs'⟩
  obtain rfl : v = v' := by simpa using hv.symm.trans hv'
  exact hs hs'

theorem not_asks_of_events
    (he : h.events[n]? ≠ some (.advance g)) (v' : Visit) :
  ¬ h.Asks n g v'
  := fun ha => he ha.1

/-! ### Waiting -/

/-- What is due stays due when a tick asks. -/
theorem Reads.mem_queue_succ
    {now : Int} {d : Desk ι σ} (hr : h.Reads n g v now d) {due : Due}
    (hdue : due ∈ (h.desk n).queue) :
  due ∈ (h.desk (n + 1)).queue
  := by
  rw [hr.desk_succ]
  rw [← hr.spares.queue] at hdue
  obtain hqueue | hqueue := d.queue_serve v.stack v.tick.symbol now
  · rwa [hqueue]
  · rw [hqueue]
    apply List.mem_append_left _ hdue

/-- A computation that is due stays due until it has ended, and then it has an outcome. -/
theorem due_or_ended_succ
    {job : Nat} (hj : (∃ due ∈ (h.desk n).queue, due.job = job)
      ∨ ∃ o, (h.desk n).outcome? job = some o) :
  (∃ due ∈ (h.desk (n + 1)).queue, due.job = job)
    ∨ ∃ o, (h.desk (n + 1)).outcome? job = some o
  := by
  obtain hspares | ⟨due, window, d, -, hspares, -, hdesk⟩ | ⟨due, o, w, -, hdesk⟩ :=
    desk_succ (h := h) n
  · rw [Desk.outcome?, hspares.queue, hspares.outcomes]
    exact hj
  · rw [hdesk, Desk.outcome?]
    dsimp only
    rw [hspares.queue, hspares.outcomes]
    apply hj.imp_left
    rintro ⟨due', hdue', hj⟩
    use due', List.mem_append_left _ hdue'
  · rw [hdesk]
    by_cases heq : due.job = job
    · right
      use o
      simp [Desk.outcome?, heq]
    · obtain ⟨due', hdue', rfl⟩ | ⟨o', ho'⟩ := hj
      · left
        use due', List.mem_filter.mpr ⟨hdue', by simpa using fun h => heq h.symm⟩
      · right
        use o'
        simpa [Desk.outcome?, heq] using ho'

/-- A request is served by a computation that was started for its key and its window. -/
theorem Requests.starts
    {window : Int} {job : Nat} (hr : h.Requests n g v window job) :
  ∃ m ≤ n, ∃ due, h.Starts m due window ∧ due.job = job ∧ due.key = v.key
  := by
  obtain ⟨now, d, hr, rfl, rfl⟩ := hr
  have hold : ∀ e ∈ d.cache.entries, e.key = v.key → e.window = h.timeframe.window now →
      ∃ m ≤ n, ∃ due, h.Starts m due (h.timeframe.window now) ∧ due.job = e.job
        ∧ due.key = v.key := by
    intro e he hk hw
    obtain ⟨m, hm, due, hs, hj, hk', -⟩ := starts_of_mem_entries e (hr.spares.entries e he)
    use m, Nat.le_of_lt hm, due
    rw [← hw, ← hk]
    use hs, hj
  have hcases := d.serve_cases v.stack v.tick.symbol now
  rw [hr.windowAt] at hcases
  obtain ⟨e, he, x, stats, hk, hw, -, hj, -⟩ | ⟨e, he, stats, hk, hw, -, hj, -⟩ | ⟨hj, hserve⟩ :=
    hcases
  · change d.jobFor v.key _ = _ at hj
    rw [hj]
    apply hold e he hk hw
  · change d.jobFor v.key _ = _ at hj
    rw [hj]
    apply hold e he hk hw
  · change d.jobFor v.key _ = _ at hj
    use n, Nat.le_refl n, ⟨d.jobFor v.key (h.timeframe.window now), v.tick.symbol, v.stack⟩
    use ⟨g, v, now, d, hr, rfl, by rw [hserve, hj], rfl, rfl⟩, rfl
    rfl

/-- A tick that waits has made a request that is served by the computation it waits for,
and this computation is due or has ended. -/
theorem waiting_visit
    {key : String} {window : Int} {job : Nat} (hv : h.visit n g = some v)
    (hs : v.stage = .waiting key window job) :
  (∃ m, h.LastAsked m n g v ∧ h.Requests m g { v with stage := .handed } window job)
    ∧ key = v.key
    ∧ ((∃ due ∈ (h.desk n).queue, due.job = job) ∨ ∃ o, (h.desk n).outcome? job = some o)
  := by
  revert n v
  apply visit_induction
  case handed =>
    intro n v hhanded hs
    rw [hhanded] at hs
    cases hs
  case stay =>
    intro n v hv hne ih hs
    obtain ⟨⟨m, hm, hr⟩, hk, hdue⟩ := ih hs
    use ⟨m, hm.succ (not_asks_of_events hne), hr⟩, hk
    apply due_or_ended_succ hdue
  case move =>
    intro n v s he hv hmoves ih hs
    rw [hs] at hmoves
    cases hmoves with
    | @queued now d _ hread hj hdue =>
      have hr : h.Reads n g { v with stage := .handed } now d := ⟨⟨he, hv, rfl⟩, hread⟩
      use ⟨n, .of_asks hr.1, now, d, hr, (hr.windowAt now).symm, hj⟩, rfl
      left
      obtain ⟨e, he, hvalue, hj⟩ | hdue := hdue
      · obtain ⟨due, hdue, hj'⟩ := due_of_inFlight e (hr.spares.entries e he) hvalue
        use due, hr.mem_queue_succ hdue, hj'.trans hj
      · rw [hr.desk_succ]
        exact ⟨_, hdue, rfl⟩
    | patient ho =>
      obtain ⟨⟨m, hm, hr⟩, hk, hdue⟩ := ih rfl
      use ⟨m, hm.succ (not_asks_of_visit hv nofun), hr⟩, hk
      apply due_or_ended_succ hdue
  case cancel =>
    intro n v s he hv hcancelled hs
    rw [hcancelled] at hs
    cases hs

/-! ### Indicators -/

variable (h) in
/-- A computation that was started for a key and a window, and ended with a value before a
place. -/
def Yields (n : Nat) (job : Nat) (key : String) (window : Int) (x : Value) : Prop :=
  ∃ m c due, c < n ∧ h.Starts m due window ∧ due.job = job ∧ due.key = key
    ∧ h.Computes c due (.value x)

theorem Yields.succ
    {job : Nat} {key : String} {window : Int} {x : Value} (hy : h.Yields n job key window x) :
  h.Yields (n + 1) job key window x
  := by
  obtain ⟨m, c, due, hc, hrest⟩ := hy
  use m, c, due, Nat.lt_succ_of_lt hc

/-- A computation that serves a request and has ended was started for the key and the window
of the request. -/
theorem Requests.computes
    {m : Nat} {window : Int} {job : Nat} {o : Outcome Value} (hr : h.Requests m g v window job)
    (ho : (h.desk n).outcome? job = some o) :
  ∃ k c due, c < n ∧ h.Starts k due window ∧ due.job = job ∧ due.key = v.key
    ∧ h.Computes c due o
  := by
  obtain ⟨c, hc, due, hj, hcomputes⟩ := computes_of_outcome? ho
  obtain ⟨k, -, due', hs', hj', hk⟩ := hr.starts
  obtain ⟨k', -, window', hs⟩ := hcomputes.starts
  obtain ⟨-, rfl, -⟩ := hs.unique hs' (hj.trans hj'.symm)
  use k, c, due

/-- The indicators of a tick are the value with which the computation ended that served its
request. -/
theorem indicated_visit
    {x : Value} (hv : h.visit n g = some v) (hs : v.stage = .indicated x) :
  ∃ m window job, h.LastAsked m n g v
    ∧ h.Requests m g { v with stage := .handed } window job ∧ h.Yields n job v.key window x
  := by
  revert n v
  apply visit_induction
  case handed =>
    intro n v hhanded hs
    rw [hhanded] at hs
    cases hs
  case stay =>
    intro n v hv hne ih hs
    obtain ⟨m, window, job, hm, hr, hy⟩ := ih hs
    exact ⟨m, window, job, hm.succ (not_asks_of_events hne), hr, hy.succ⟩
  case move =>
    intro n v s he hv hmoves ih hs
    rw [hs] at hmoves
    cases hmoves with
    | @hit now d e _ hread hmem hk hw hx hj =>
      have hr : h.Reads n g { v with stage := .handed } now d := ⟨⟨he, hv, rfl⟩, hread⟩
      rw [hr.windowAt] at hw hj
      use n, h.timeframe.window now, e.job, .of_asks hr.1, ⟨now, d, hr, rfl, hj⟩
      obtain ⟨m, -, due, hs, hj, hk', hvalue⟩ :=
        starts_of_mem_entries e (hr.spares.entries e hmem)
      obtain ⟨c, hc, hcomputes⟩ := hvalue x hx
      use m, c, due, Nat.lt_succ_of_lt hc, by rwa [← hw], hj, hk'.trans hk
    | @received key window job _ ho =>
      obtain ⟨⟨m, hm, hr⟩, -, -⟩ := waiting_visit hv rfl
      obtain ⟨k, c, due, hc, hrest⟩ := hr.computes ho
      use m, window, job, hm.succ (not_asks_of_visit hv nofun), hr
      exact ⟨k, c, due, Nat.lt_succ_of_lt hc, hrest⟩
  case cancel =>
    intro n v s he hv hcancelled hs
    rw [hcancelled] at hs
    cases hs

end FloorHistory

end TradeGate
