import TradeGate.Proofs.Pipeline.FloorHistory

/-!
# Where indicators come from

What is due, what the cache keeps and what has ended all goes back to computations that were
started, each at one place, for the key and the window of a request.  A computation ends with
what the indicator function gave it at the place at which it was called.
-/

namespace TradeGate

namespace FloorHistory

variable {γ ι σ : Type} [DecidableEq γ] {h : FloorHistory γ ι σ} {n : Nat}

/-! ### Requests and what they lead to -/

/-- A tick that has read the clock is served. -/
theorem Reads.outcome_advance
    {g : γ} {v : Visit} {now : Int} {d : Desk ι σ} (hr : h.Reads n g v now d) :
  (h.pipeline.advance v.tick v.stage).outcome v.stack (h.desk n)
    = (.ok (.ofServed v.key (h.timeframe.window now) (d.serve v.stack v.tick.symbol now).1),
        (d.serve v.stack v.tick.symbol now).2)
  := by
  rw [hr.1.2.2, Pipeline.outcome_advance_handed, hr.2]
  dsimp only
  rw [hr.windowAt]
  rfl

theorem Reads.desk_succ
    {g : γ} {v : Visit} {now : Int} {d : Desk ι σ} (hr : h.Reads n g v now d) :
  h.desk (n + 1) = (d.serve v.stack v.tick.symbol now).2
  := by
  have hrun := hr.outcome_advance
  obtain ⟨⟨he, hv, -⟩, -⟩ := hr
  rw [desk, after_succ he, Floor.desk_advance hv]
  change ((h.pipeline.advance v.tick v.stage).outcome v.stack (h.desk n)).2 = _
  rw [hrun]

theorem Reads.visit_succ
    {g : γ} {v : Visit} {now : Int} {d : Desk ι σ} (hr : h.Reads n g v now d) :
  h.visit (n + 1) g = some { v with
    stage := .ofServed v.key (h.timeframe.window now) (d.serve v.stack v.tick.symbol now).1 }
  := by
  have hrun := hr.outcome_advance
  obtain ⟨⟨he, hv, -⟩, -⟩ := hr
  rw [visit, after_succ he, Floor.visits_advance hv]
  change some { v with
    stage := .ofResult ((h.pipeline.advance v.tick v.stage).outcome v.stack (h.desk n)).1 } = _
  rw [hrun]
  rfl

/-- The number of a computation that starts is the next one. -/
theorem Starts.job_eq
    {due : Due} {window : Int} (hs : h.Starts n due window) :
  due.job = (h.desk n).cache.started + 1
  := by
  obtain ⟨g, v, now, d, hr, -, hserve, -, -⟩ := hs
  rw [← hr.spares.started]
  obtain ⟨e, -, x, stats, -, -, -, -, hd⟩ | ⟨e, -, stats, -, -, -, -, hd⟩ | ⟨-, hd⟩ :=
    d.serve_cases v.stack v.tick.symbol now
  · rw [hd] at hserve
    cases hserve
  · rw [hd] at hserve
    cases hserve
  · rw [hd] at hserve
    exact (Served.start.inj hserve).symm

theorem Starts.started_succ
    {due : Due} {window : Int} (hs : h.Starts n due window) :
  (h.desk (n + 1)).cache.started = due.job
  := by
  obtain ⟨g, v, now, d, hr, -, hserve, -, -⟩ := hs
  rw [hr.desk_succ]
  obtain ⟨e, -, x, stats, -, -, -, -, hd⟩ | ⟨e, -, stats, -, -, -, -, hd⟩ | ⟨-, hd⟩ :=
    d.serve_cases v.stack v.tick.symbol now
  · rw [hd] at hserve
    cases hserve
  · rw [hd] at hserve
    cases hserve
  · rw [hd] at hserve ⊢
    exact Served.start.inj hserve

theorem started_succ_le
    (n : Nat) :
  (h.desk n).cache.started ≤ (h.desk (n + 1)).cache.started
  := by
  obtain hspares | ⟨due, window, d, hs, -⟩ | ⟨due, o, w, -, hdesk⟩ := desk_succ (h := h) n
  · apply Nat.le_of_eq hspares.started.symm
  · have := hs.job_eq
    have := hs.started_succ
    omega
  · rw [hdesk]
    apply Nat.le_of_eq (Cache.started_settle _ _ _).symm

theorem started_mono
    {m n : Nat} (hmn : m ≤ n) :
  (h.desk m).cache.started ≤ (h.desk n).cache.started
  := by
  induction hmn with
  | refl => apply Nat.le_refl
  | @step n _ ih => apply Nat.le_trans ih (started_succ_le n)

/-- Computations are numbered in the order of their start. -/
theorem Starts.job_lt
    {m n : Nat} {due due' : Due} {window window' : Int} (hs : h.Starts m due window)
    (hs' : h.Starts n due' window') (hmn : m < n) :
  due.job < due'.job
  := by
  have hle : (h.desk (m + 1)).cache.started ≤ (h.desk n).cache.started := started_mono hmn
  have := hs.started_succ
  have := hs'.job_eq
  omega

/-- A computation starts once, under one stack, for one symbol and in one window. -/
theorem Starts.unique
    {m n : Nat} {due due' : Due} {window window' : Int} (hs : h.Starts m due window)
    (hs' : h.Starts n due' window') (hj : due.job = due'.job) :
  m = n ∧ due = due' ∧ window = window'
  := by
  obtain rfl : m = n := by
    obtain hlt | rfl | hlt := Nat.lt_trichotomy m n
    · exact absurd hj (Nat.ne_of_lt (hs.job_lt hs' hlt))
    · rfl
    · exact absurd hj.symm (Nat.ne_of_lt (hs'.job_lt hs hlt))
  obtain ⟨g, v, now, d, ⟨⟨he, hv, -⟩, hread⟩, hw, -, hsymbol, hstack⟩ := hs
  obtain ⟨g', v', now', d', ⟨⟨he', hv', -⟩, hread'⟩, hw', -, hsymbol', hstack'⟩ := hs'
  obtain rfl : g = g' := by simpa using he.symm.trans he'
  obtain rfl : v = v' := by simpa using hv.symm.trans hv'
  obtain ⟨rfl, -⟩ : now = now' ∧ d = d' := by simpa using hread.symm.trans hread'
  obtain ⟨job, symbol, stack⟩ := due
  obtain ⟨job', symbol', stack'⟩ := due'
  simp only at hj hsymbol hstack hsymbol' hstack'
  simp [hj, hsymbol, hstack, hsymbol', hstack', ← hw, ← hw']

/-! ### What the desk holds -/

/-- A computation that is due was started. -/
theorem starts_of_mem_queue :
    ∀ {n : Nat}, ∀ due ∈ (h.desk n).queue, ∃ m < n, ∃ window, h.Starts m due window
  := by
  intro n
  induction n with
  | zero =>
    rintro due ⟨⟩
  | succ n ih =>
    intro due hdue
    obtain hspares | ⟨due', window, d, hs, hspares, -, hdesk⟩ | ⟨due', o, w, -, hdesk⟩ :=
      desk_succ (h := h) n
    · rw [hspares.queue] at hdue
      obtain ⟨m, hm, hrest⟩ := ih due hdue
      use m, Nat.lt_succ_of_lt hm
    · rw [hdesk] at hdue
      obtain hdue | hdue := List.mem_append.mp hdue
      · rw [hspares.queue] at hdue
        obtain ⟨m, hm, hrest⟩ := ih due hdue
        use m, Nat.lt_succ_of_lt hm
      · obtain rfl := List.mem_singleton.mp hdue
        use n, Nat.lt_succ_self n, window
    · rw [hdesk] at hdue
      obtain ⟨m, hm, hrest⟩ := ih due (List.mem_filter.mp hdue).1
      use m, Nat.lt_succ_of_lt hm

theorem Computes.starts
    {due : Due} {o : Outcome Value} (hc : h.Computes n due o) :
  ∃ m < n, ∃ window, h.Starts m due window
  := starts_of_mem_queue due hc.2.1

/-- What the indicator function gave to a computation, it gave at a place. -/
theorem evaluates_of_evaluated :
    ∀ {n : Nat} {job : Nat} {o : Outcome Value}, (h.after n).evaluated job = some o →
      ∃ k < n, ∃ due, due.job = job ∧ h.Evaluates k due o
  := by
  intro n
  induction n with
  | zero =>
    rintro job o ⟨⟩
  | succ n ih =>
    intro job o ho
    have hold : (h.after n).evaluated job = some o →
        ∃ k < n + 1, ∃ due, due.job = job ∧ h.Evaluates k due o := by
      intro ho
      obtain ⟨k, hk, hrest⟩ := ih ho
      use k, Nat.lt_succ_of_lt hk
    cases he : h.events[n]? with
    | none =>
      rw [after_succ_of_none he] at ho
      apply hold ho
    | some e =>
      rw [after_succ he] at ho
      obtain ho | ⟨due, rfl, hj, hdue, hnone, ho⟩ := Floor.evaluated_step ho
      · apply hold ho
      · use n, Nat.lt_succ_self n, due, hj
        exact ⟨.inl he, hdue, hnone, ho⟩

/-- A computation ends with what the indicator function gave it, there or before. -/
theorem Computes.evaluates
    {due : Due} {o : Outcome Value} (hc : h.Computes n due o) :
  ∃ k ≤ n, h.Evaluates k due o
  := by
  obtain ⟨m, -, window, hs⟩ := hc.starts
  obtain ⟨he, hdue, ho⟩ := hc
  unfold Floor.ending at ho
  split at ho
  next o' ho' =>
    obtain ⟨k, hk, due', hj, hevaluates⟩ := evaluates_of_evaluated ho'
    obtain ⟨m', -, window', hs'⟩ := starts_of_mem_queue due' hevaluates.2.1
    obtain ⟨-, rfl, -⟩ := hs'.unique hs hj
    obtain rfl : o' = o := ho
    use k, Nat.le_of_lt hk
  next hnone =>
    use n, Nat.le_refl n
    exact ⟨.inr he, hdue, hnone, ho⟩

/-- A computation that has ended was run. -/
theorem computes_of_mem_outcomes :
    ∀ {n : Nat}, ∀ x ∈ (h.desk n).outcomes, ∃ c < n, ∃ due, due.job = x.1 ∧ h.Computes c due x.2
  := by
  intro n
  induction n with
  | zero =>
    rintro x ⟨⟩
  | succ n ih =>
    intro x hx
    have hold : x ∈ (h.desk n).outcomes →
        ∃ c < n + 1, ∃ due, due.job = x.1 ∧ h.Computes c due x.2 := by
      intro hx
      obtain ⟨c, hc, hrest⟩ := ih x hx
      use c, Nat.lt_succ_of_lt hc
    obtain hspares | ⟨due, window, d, -, hspares, -, hdesk⟩ | ⟨due, o, w, hc, hdesk⟩ :=
      desk_succ (h := h) n
    · rw [hspares.outcomes] at hx
      apply hold hx
    · rw [hdesk] at hx
      apply hold
      rwa [← hspares.outcomes]
    · rw [hdesk] at hx
      obtain rfl | hx := List.mem_cons.mp hx
      · use n, Nat.lt_succ_self n, due
      · apply hold hx

theorem computes_of_outcome?
    {job : Nat} {o : Outcome Value} (ho : (h.desk n).outcome? job = some o) :
  ∃ c < n, ∃ due, due.job = job ∧ h.Computes c due o
  := by
  obtain ⟨x, hx, rfl⟩ := Option.map_eq_some_iff.mp ho
  have hj : x.1 = job := by simpa using List.find?_some hx
  rw [← hj]
  apply computes_of_mem_outcomes x (List.mem_of_find?_eq_some hx)

/-- An entry of the cache is that of a computation that was started for its key and window.
Its value, once it is there, is the one with which that computation ended. -/
theorem starts_of_mem_entries :
    ∀ {n : Nat}, ∀ e ∈ (h.desk n).cache.entries,
      ∃ m < n, ∃ due, h.Starts m due e.window ∧ due.job = e.job ∧ due.key = e.key
        ∧ ∀ x, e.value = some x → ∃ c < n, h.Computes c due (.value x)
  := by
  intro n
  induction n with
  | zero =>
    rintro e ⟨⟩
  | succ n ih =>
    intro e he
    have hold : e ∈ (h.desk n).cache.entries →
        ∃ m < n + 1, ∃ due, h.Starts m due e.window ∧ due.job = e.job ∧ due.key = e.key
          ∧ ∀ x, e.value = some x → ∃ c < n + 1, h.Computes c due (.value x) := by
      intro he
      obtain ⟨m, hm, due, hs, hj, hk, hvalue⟩ := ih e he
      use m, Nat.lt_succ_of_lt hm, due, hs, hj, hk
      intro x hx
      obtain ⟨c, hc, hcomputes⟩ := hvalue x hx
      use c, Nat.lt_succ_of_lt hc
    obtain hspares | ⟨due, window, d, hs, hspares, hjob, hdesk⟩ | ⟨due, o, w, hc, hdesk⟩ :=
      desk_succ (h := h) n
    · apply hold (hspares.entries e he)
    · rw [hdesk] at he
      obtain he | he := List.mem_append.mp he
      · apply hold (hspares.entries e (Cache.mem_others.mp he).1)
      · obtain rfl := List.mem_singleton.mp he
        have hj : due.job = d.cache.started + 1 := by rw [hjob, hspares.started]
        use n, Nat.lt_succ_self n, due, hs, hj, rfl
        rintro x ⟨⟩
    · rw [hdesk] at he
      obtain ⟨he, -⟩ | ⟨e', he', x, hj', rfl, rfl⟩ := Cache.mem_settle he
      · apply hold he
      · obtain ⟨m, hm, due', hs', hj, hk, -⟩ := ih e' he'
        use m, Nat.lt_succ_of_lt hm, due', hs', hj, hk
        rintro _ ⟨⟩
        use n, Nat.lt_succ_self n
        obtain ⟨m', -, window, hs⟩ := hc.starts
        obtain ⟨-, rfl, -⟩ := hs.unique hs' (hj'.symm.trans hj.symm)
        exact hc

/-- Every computation that runs for an entry is due. -/
theorem due_of_inFlight :
    ∀ {n : Nat}, ∀ e ∈ (h.desk n).cache.entries, e.value = none →
      ∃ due ∈ (h.desk n).queue, due.job = e.job
  := by
  intro n
  induction n with
  | zero =>
    rintro e ⟨⟩
  | succ n ih =>
    intro e he hvalue
    obtain hspares | ⟨due, window, d, -, hspares, hjob, hdesk⟩ | ⟨due, o, w, -, hdesk⟩ :=
      desk_succ (h := h) n
    · rw [hspares.queue]
      apply ih e (hspares.entries e he) hvalue
    · rw [hdesk] at he ⊢
      dsimp only
      rw [hspares.queue]
      obtain he | he := List.mem_append.mp he
      · obtain ⟨due', hdue', hj⟩ := ih e (hspares.entries e (Cache.mem_others.mp he).1) hvalue
        use due', List.mem_append_left _ hdue'
      · obtain rfl := List.mem_singleton.mp he
        use due, List.mem_append_right _ List.mem_cons_self
        rw [hjob, hspares.started]
    · rw [hdesk] at he ⊢
      obtain ⟨he, hne⟩ | ⟨e', -, x, -, -, rfl⟩ := Cache.mem_settle he
      · obtain ⟨due', hdue', hj⟩ := ih e he hvalue
        use due', List.mem_filter.mpr ⟨hdue', by simpa [hj] using hne⟩
      · cases hvalue

end FloorHistory

end TradeGate
