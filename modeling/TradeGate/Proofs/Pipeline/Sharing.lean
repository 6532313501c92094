import TradeGate.Proofs.Pipeline.Visits
import TradeGate.Proofs.Text.Separated

/-!
# Indicators between strategies

Requests share a computation only if they agree in key and window, and a key joins the names
of a strategy and an exchange, the mode and a symbol by colons.  Where the names have no
colon, the key tells them apart, so that indicators never cross from one strategy,
exchange, mode or symbol to another.  A name with a colon can always be confused with other
ones: cut at the colon, its parts make up the same key.
-/

namespace TradeGate

open Text (Lacks)

namespace Frame

/-- A frame whose strategy and exchange are names without a colon. -/
def IsPlain (f : Frame) : Prop :=
  ∃ s x, f.strategy = .text s ∧ f.exchange = .text x ∧ Lacks ':' s ∧ Lacks ':' x

/-- Frames of one strategy on one exchange in one mode. -/
structure Agrees (f f' : Frame) : Prop where
  strategy : f.strategy = f'.strategy
  exchange : f.exchange = f'.exchange
  mode : f.mode = f'.mode

/-- The key of a symbol under names of a strategy and an exchange. -/
theorem cacheKey_eq
    {f : Frame} {s x : String} (hs : f.strategy = .text s) (hx : f.exchange = .text x)
    (symbol : Value) :
  f.cacheKey symbol
    = s ++ .singleton ':' ++ (x ++ .singleton ':' ++ (f.mode ++ .singleton ':' ++ symbol.plain))
  := by
  simp only [cacheKey, hs, hx, Value.plain, String.append_assoc]
  rfl

theorem lacks_mode
    (f : Frame) :
  Lacks ':' f.mode
  := by
  unfold mode
  split <;> decide

/-- Names without a colon can be read off a key. -/
theorem cacheKey_inj
    {f f' : Frame} (hf : f.IsPlain) (hf' : f'.IsPlain) {symbol symbol' : String} :
  f.cacheKey (.text symbol) = f'.cacheKey (.text symbol') ↔ f.Agrees f' ∧ symbol = symbol'
  := by
  obtain ⟨s, x, hs, hx, hls, hlx⟩ := hf
  obtain ⟨s', x', hs', hx', hls', hlx'⟩ := hf'
  rw [cacheKey_eq hs hx, cacheKey_eq hs' hx', Text.separated_inj hls hls',
    Text.separated_inj hlx hlx', Text.separated_inj f.lacks_mode f'.lacks_mode]
  constructor
  · rintro ⟨rfl, rfl, hmode, hsymbol⟩
    use ⟨hs.trans hs'.symm, hx.trans hx'.symm, hmode⟩, hsymbol
  · rintro ⟨⟨hstrategy, hexchange, hmode⟩, rfl⟩
    rw [hs, hs', Value.text.injEq] at hstrategy
    rw [hx, hx', Value.text.injEq] at hexchange
    use hstrategy, hexchange, hmode

/-- A frame with a colon in the name of its strategy or exchange has the same keys as a
frame of another strategy. -/
theorem exists_cacheKey_eq_of_not_isPlain
    {f : Frame} {s x : String} (hs : f.strategy = .text s) (hx : f.exchange = .text x)
    (hf : ¬ f.IsPlain) :
  ∃ s' x', Value.text s' ≠ f.strategy
    ∧ ∀ symbol, { f with strategy := .text s', exchange := .text x' }.cacheKey symbol
        = f.cacheKey symbol
  := by
  have hlacks : ¬ Lacks ':' s ∨ ¬ Lacks ':' x := by
    by_contra! h
    exact hf ⟨s, x, hs, hx, h.1, h.2⟩
  obtain hl | hl := hlacks
  · obtain ⟨a, b, rfl⟩ := Text.exists_separated_of_not_lacks hl
    use a, b ++ .singleton ':' ++ x
    constructor
    · rw [hs]
      apply mt Value.text.inj (Text.ne_separated _ _ _)
    · intro symbol
      rw [cacheKey_eq hs hx, cacheKey_eq rfl rfl]
      simp only [String.append_assoc]
      rfl
  · obtain ⟨a, b, rfl⟩ := Text.exists_separated_of_not_lacks hl
    use s ++ .singleton ':' ++ a, b
    constructor
    · rw [hs]
      apply mt Value.text.inj (Text.ne_separated _ _ _).symm
    · intro symbol
      rw [cacheKey_eq hs hx, cacheKey_eq rfl rfl]
      simp only [String.append_assoc]
      rfl

end Frame

namespace FloorHistory

variable {γ ι σ : Type} [DecidableEq γ] (h : FloorHistory γ ι σ)

variable {h} in
/-- Requests that are served by one computation agree in key and window. -/
theorem Requests.key_eq
    {m n : Nat} {g g' : γ} {v v' : Visit} {window window' : Int} {job : Nat}
    (hr : h.Requests m g v window job) (hr' : h.Requests n g' v' window' job) :
  v.key = v'.key ∧ window = window'
  := by
  obtain ⟨k, -, due, hs, hj, hk⟩ := hr.starts
  obtain ⟨k', -, due', hs', hj', hk'⟩ := hr'.starts
  obtain ⟨-, rfl, rfl⟩ := hs.unique hs' (hj.trans hj'.symm)
  use hk.symm.trans hk'

/-- Plain frames tell their keys apart, and no others do.  Requests that share a computation
agree in key and window, so under plain frames in strategy, exchange, mode and symbol.  The
indicators of a tick were computed under its own key, so under plain frames by the same
strategy on the same exchange, in the same mode and for the same symbol. -/
theorem indicators_stay_with_plain_frames :
  (∀ f f' : Frame, f.IsPlain → f'.IsPlain → ∀ symbol symbol' : String,
    f.cacheKey (.text symbol) = f'.cacheKey (.text symbol')
      ↔ f.Agrees f' ∧ symbol = symbol')
  ∧ (∀ (f : Frame) (s x : String), f.strategy = .text s → f.exchange = .text x → ¬ f.IsPlain →
    ∃ s' x', Value.text s' ≠ f.strategy
      ∧ ∀ symbol, { f with strategy := .text s', exchange := .text x' }.cacheKey symbol
          = f.cacheKey symbol)
  ∧ (∀ m n g g' v v' window window' job, h.Requests m g v window job →
    h.Requests n g' v' window' job → v.key = v'.key ∧ window = window'
      ∧ (v.stack.current.IsPlain → v'.stack.current.IsPlain →
        v.stack.current.Agrees v'.stack.current ∧ v.tick.symbol = v'.tick.symbol))
  ∧ ∀ n g v x, h.visit n g = some v → v.stage = .indicated x →
    ∃ c < n, ∃ due, h.Computes c due (.value x) ∧ due.key = v.key
      ∧ (due.stack.current.IsPlain → v.stack.current.IsPlain →
        due.stack.current.Agrees v.stack.current ∧ due.symbol = v.tick.symbol)
  := by
  refine ⟨fun f f' hf hf' symbol symbol' => Frame.cacheKey_inj hf hf',
    fun f s x hs hx hf => Frame.exists_cacheKey_eq_of_not_isPlain hs hx hf, ?_, ?_⟩
  · intro m n g g' v v' window window' job hr hr'
    obtain ⟨hk, hw⟩ := hr.key_eq hr'
    use hk, hw
    intro hf hf'
    apply (Frame.cacheKey_inj hf hf').mp hk
  · intro n g v x hv hs
    obtain ⟨-, -, -, -, -, -, c, due, hc, -, -, hk, hcomputes⟩ := indicated_visit hv hs
    use c, hc, due, hcomputes, hk
    intro hf hf'
    apply (Frame.cacheKey_inj hf hf').mp hk

/-! ### Two strategies at one desk -/

/-- A pipeline whose indicators are the name of the strategy that computes them. -/
def naming : Pipeline Empty Unit where
  clock := pure (.int 0)
  indicator _ := do return (← Act.stack).current.strategy
  builder _ _ := pure none
  tell := nofun
  newcomers := 0

/-- A tick of BTC at the epoch. -/
def someTick : Tick :=
  ⟨"BTC", .ofInt 100, ⟨1970, 1, 1, 0, 0, 0, 0, none⟩, none, none, none⟩

/-- Two strategies admit a tick one after the other, the second while the indicators that
were computed for the first are kept. -/
def inTurns (f f' : Frame) : FloorHistory Nat Empty Unit where
  pipeline := naming
  tells := nofun
  registry := .empty
  timeframe := .m15
  bound := 0
  world := ()
  events := [.call 0 [f] someTick, .advance 0, .compute 1, .advance 0,
    .call 1 [f'] someTick, .advance 1]

/-- The frame of a backtest by a strategy on an exchange. -/
def backtestOf (strategy exchange : String) : Frame :=
  ⟨.text strategy, .text exchange, .text "2024-q1", .bool true⟩

theorem entries_inTurns
    (f f' : Frame) :
  ((inTurns f f').desk 5).cache.entries
    = [⟨f.cacheKey (.text "BTC"), Timeframe.m15.window 0, 1, some f.strategy⟩]
  := rfl

/-- The first request starts a computation. -/
theorem requests_inTurns
    (f f' : Frame) :
  (inTurns f f').Requests 1 0 ⟨[f], someTick, .handed⟩ (Timeframe.m15.window 0) 1
  := ⟨0, (inTurns f f').desk 1, ⟨⟨rfl, rfl, rfl⟩, rfl⟩, rfl, rfl⟩

/-- Under frames with one key the second request is served by the computation of the first,
and gets the indicators of the first strategy. -/
theorem requests_inTurns_of_key_eq
    {f f' : Frame} (hk : f.cacheKey (.text "BTC") = f'.cacheKey (.text "BTC")) :
  (inTurns f f').Requests 5 1 ⟨[f'], someTick, .handed⟩ (Timeframe.m15.window 0) 1
    ∧ (inTurns f f').visit 6 1 = some ⟨[f'], someTick, .indicated f.strategy⟩
  := by
  have hr : (inTurns f f').Reads 5 1 ⟨[f'], someTick, .handed⟩ 0 ((inTurns f f').desk 5) :=
    ⟨⟨rfl, rfl, rfl⟩, rfl⟩
  have hfind : ((inTurns f f').desk 5).cache.find? (f'.cacheKey (.text "BTC"))
      = some ⟨f.cacheKey (.text "BTC"), Timeframe.m15.window 0, 1, some f.strategy⟩ := by
    simp [Cache.find?, entries_inTurns, hk]
  constructor
  · use 0, (inTurns f f').desk 5, hr, rfl
    exact Desk.jobFor_of_find? hfind rfl
  · have hserve : (((inTurns f f').desk 5).serve [f'] "BTC" 0).1 = .hit f.strategy :=
      Desk.serve_of_find? hfind (hr.windowAt 0).symm rfl
    rw [hr.visit_succ]
    change some (Visit.mk _ _ (.ofServed _ _ (((inTurns f f').desk 5).serve [f'] "BTC" 0).1)) = _
    rw [hserve]
    rfl

/-- Two runs of a strategy without a colon in its name share its indicators, and a strategy
with a colon has the keys of another one. -/
theorem indicators_stay_with_plain_frames_inTurns :
  let f := backtestOf "ema_cross" "binance"
  let f' := { f with name := .text "2024-q2" }
  let h := inTurns f f'
  let v : Visit := ⟨[f], someTick, .handed⟩
  let v' : Visit := ⟨[f'], someTick, .handed⟩
  (f.IsPlain ∧ f'.IsPlain
    ∧ (f.cacheKey (.text "BTC") = f'.cacheKey (.text "ETH") ↔ f.Agrees f' ∧ "BTC" = "ETH"))
  ∧ (¬ (backtestOf "ema:cross" "binance").IsPlain
    ∧ ∃ s' x', Value.text s' ≠ .text "ema:cross" ∧ ∀ symbol,
      (backtestOf s' x').cacheKey symbol = (backtestOf "ema:cross" "binance").cacheKey symbol)
  ∧ (h.Requests 1 0 v (Timeframe.m15.window 0) 1 ∧ h.Requests 5 1 v' (Timeframe.m15.window 0) 1
    ∧ v.key = v'.key ∧ f.Agrees f')
  ∧ ∃ c < 6, ∃ due, h.Computes c due (.value (.text "ema_cross")) ∧ due.key = v'.key
  := by
  intro f f' h v v'
  have hplain : f.IsPlain := ⟨"ema_cross", "binance", rfl, rfl, by decide, by decide⟩
  have hplain' : f'.IsPlain := ⟨"ema_cross", "binance", rfl, rfl, by decide, by decide⟩
  have hcolon : ¬ (backtestOf "ema:cross" "binance").IsPlain := by
    rintro ⟨s, x, hs, -, hl, -⟩
    rw [backtestOf, Value.text.injEq] at hs
    subst hs
    exact absurd hl (by decide)
  obtain ⟨hinj, hsharp, hshare, horigin⟩ := indicators_stay_with_plain_frames h
  have hkey : f.cacheKey (.text "BTC") = f'.cacheKey (.text "BTC") := rfl
  obtain ⟨hr', hv⟩ := requests_inTurns_of_key_eq hkey
  refine ⟨⟨hplain, hplain', hinj f f' hplain hplain' _ _⟩, ⟨hcolon, ?_⟩, ?_, ?_⟩
  · apply hsharp _ _ _ rfl rfl hcolon
  · obtain ⟨hk, -, hagrees⟩ := hshare 1 5 0 1 v v' _ _ 1 (requests_inTurns f f') hr'
    exact ⟨requests_inTurns f f', hr', hk, (hagrees hplain hplain').1⟩
  · obtain ⟨c, hc, due, hcomputes, hk, -⟩ := horigin 6 1 _ _ hv rfl
    use c, hc, due, hcomputes, hk

/-- Of two strategies on two exchanges whose names join to one key, the second one gets the
indicators that were computed for the first. -/
theorem indicators_cross_strategies :
  let f := backtestOf "ema:cross" "binance"
  let f' := backtestOf "ema" "cross:binance"
  let h := inTurns f f'
  f.strategy ≠ f'.strategy ∧ f.exchange ≠ f'.exchange
    ∧ h.Requests 1 0 ⟨[f], someTick, .handed⟩ (Timeframe.m15.window 0) 1
    ∧ h.Requests 5 1 ⟨[f'], someTick, .handed⟩ (Timeframe.m15.window 0) 1
    ∧ h.Computes 2 ⟨1, "BTC", [f]⟩ (.value f.strategy)
    ∧ h.visit 6 1 = some ⟨[f'], someTick, .indicated f.strategy⟩
  := by
  intro f f' h
  have hk : f.cacheKey (.text "BTC") = f'.cacheKey (.text "BTC") := by decide +kernel
  obtain ⟨hr', hv⟩ := requests_inTurns_of_key_eq hk
  use by simp [f, f', backtestOf], by simp [f, f', backtestOf], requests_inTurns f f', hr'
  use ⟨rfl, List.mem_cons_self, rfl⟩

end FloorHistory

end TradeGate
