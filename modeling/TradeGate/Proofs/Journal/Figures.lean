import Mathlib.Algebra.BigOperators.Group.Finset.Piecewise
import Mathlib.Algebra.GroupWithZero.Nat
import TradeGate.Journal.Basic
import TradeGate.Reading

/-!
# The figures of a journal add up

The rows stand in the order of recording, and the three queries read the same rows: the rejected
rows of a symbol, the figures of a symbol, and the number of rejections of every risk.  The symbols
and the risks each split the rows, so their figures sum to those of the whole journal.
-/

namespace TradeGate

namespace Journal

/-- What a query selects: the rows of one symbol, or all rows. -/
abbrev selection (symbol : Option String) : Value :=
  Fields.entry .text symbol

/-! ### Rejections -/

/-- A tally of names has one count per name that was met: how many times it was. -/
structure Tallies (counts : List (Option String × Nat)) (names : List (Option String)) :
    Prop where
  nodup : (counts.map Prod.fst).Nodup
  occurs : ∀ name, name ∈ counts.map Prod.fst ↔ name ∈ names
  count : ∀ c ∈ counts, 0 < c.2 ∧ c.2 = names.count c.1

theorem fst_mem_countOne
    {name k : Option String} {counts : List (Option String × Nat)} :
  k ∈ (countOne name counts).map Prod.fst ↔ k = name ∨ k ∈ counts.map Prod.fst
  := by
  induction counts with
  | nil => simp [countOne]
  | cons c counts ih =>
    rw [countOne]
    split
    · rename_i h
      simp [h]
    · simp only [List.map_cons, List.mem_cons, ih]
      tauto

theorem nodup_countOne
    {counts : List (Option String × Nat)} (h : (counts.map Prod.fst).Nodup)
    (name : Option String) :
  ((countOne name counts).map Prod.fst).Nodup
  := by
  induction counts with
  | nil => simp [countOne]
  | cons c counts ih =>
    rw [List.map_cons, List.nodup_cons] at h
    rw [countOne]
    split
    · apply List.nodup_cons.mpr h
    · rename_i hne
      apply List.nodup_cons.mpr
      rw [fst_mem_countOne]
      exact ⟨fun hmem => hmem.elim hne h.1, ih h.2⟩

/-- An entry of a new tally is an old one of another name, or the one that was counted. -/
theorem mem_countOne
    {name : Option String} {counts : List (Option String × Nat)}
    (hnodup : (counts.map Prod.fst).Nodup) {c : Option String × Nat}
    (hc : c ∈ countOne name counts) :
  (c.1 ≠ name ∧ c ∈ counts) ∨ (name ∉ counts.map Prod.fst ∧ c = (name, 1))
    ∨ ∃ n, (name, n) ∈ counts ∧ c = (name, n + 1)
  := by
  induction counts with
  | nil => exact .inr (.inl ⟨List.not_mem_nil, List.mem_singleton.mp hc⟩)
  | cons d counts ih =>
    rw [List.map_cons, List.nodup_cons] at hnodup
    rw [countOne] at hc
    split at hc
    · rename_i hd
      obtain rfl | hc := List.mem_cons.mp hc
      · exact .inr (.inr ⟨d.2, hd ▸ List.mem_cons_self, by rw [hd]⟩)
      · refine .inl ⟨?_, List.mem_cons_of_mem _ hc⟩
        rintro rfl
        apply hnodup.1 (hd ▸ List.mem_map_of_mem hc)
    · rename_i hd
      obtain rfl | hc := List.mem_cons.mp hc
      · exact .inl ⟨hd, List.mem_cons_self⟩
      · obtain ⟨hne, hc⟩ | ⟨hnone, rfl⟩ | ⟨n, hn, rfl⟩ := ih hnodup.2 hc
        · exact .inl ⟨hne, List.mem_cons_of_mem _ hc⟩
        · refine .inr (.inl ⟨?_, rfl⟩)
          rw [List.map_cons, List.mem_cons, not_or]
          exact ⟨Ne.symm hd, hnone⟩
        · exact .inr (.inr ⟨n, List.mem_cons_of_mem _ hn, rfl⟩)

theorem tallies_nil :
  Tallies [] []
  where
  nodup := List.nodup_nil
  occurs := by simp
  count := by simp

/-- Counting one more name. -/
theorem Tallies.countOne
    {counts : List (Option String × Nat)} {names : List (Option String)}
    (h : Tallies counts names) (name : Option String) :
  Tallies (countOne name counts) (names ++ [name])
  where
  nodup := nodup_countOne h.nodup name
  occurs k := by
    rw [fst_mem_countOne, h.occurs, List.mem_append, List.mem_singleton, or_comm]
  count c hc := by
    rw [List.count_append, List.count_singleton]
    obtain ⟨hne, hc⟩ | ⟨hnone, rfl⟩ | ⟨n, hn, rfl⟩ := mem_countOne h.nodup hc
    · simpa [Ne.symm hne] using h.count c hc
    · rw [h.occurs] at hnone
      simp [List.count_eq_zero_of_not_mem hnone]
    · simpa using (h.count _ hn).2

/-- Counting name by name, from any tally. -/
theorem Tallies.foldl
    {counts : List (Option String × Nat)} {names : List (Option String)}
    (h : Tallies counts names) (rows : List JournalRow) :
  Tallies (rows.foldl (fun counts r => Journal.countOne r.riskName counts) counts)
    (names ++ rows.map JournalRow.riskName)
  := by
  induction rows generalizing counts names with
  | nil => simpa using h
  | cons r rows ih => simpa using ih (h.countOne r.riskName)

theorem sum_countOne
    (name : Option String) (counts : List (Option String × Nat)) :
  ((countOne name counts).map Prod.snd).sum = (counts.map Prod.snd).sum + 1
  := by
  induction counts with
  | nil => rfl
  | cons c counts ih =>
    rw [countOne]
    split
    · simp only [List.map_cons, List.sum_cons]
      omega
    · rw [List.map_cons, List.sum_cons, ih, List.map_cons, List.sum_cons, Nat.add_assoc]

theorem sum_foldl_countOne
    (rows : List JournalRow) (counts : List (Option String × Nat)) :
  ((rows.foldl (fun counts r => countOne r.riskName counts) counts).map Prod.snd).sum
    = (counts.map Prod.snd).sum + rows.length
  := by
  induction rows generalizing counts with
  | nil => rfl
  | cons r rows ih => rw [List.foldl_cons, ih, sum_countOne, List.length_cons]; omega

/-- The counts of the rejections: one per risk that occurs in one, positive, and together as many
as there are rejections. -/
structure CountsRejections (j : Journal) : Prop where
  tallies : Tallies j.countByRisk ((j.rejections .null).map JournalRow.riskName)
  sum : (j.countByRisk.map Prod.snd).sum = (j.rejections .null).length

theorem countsRejections
    (j : Journal) :
  j.CountsRejections
  where
  tallies := tallies_nil.foldl (j.rejections .null)
  sum := by rw [countByRisk, sum_foldl_countOne]; simp

/-! ### Selections -/

theorem total_summary
    (j : Journal) (symbol : Value) :
  (j.summary symbol).total = j.rows.countP (JournalRow.ofSymbol symbol)
  := List.countP_eq_length_filter.symm

theorem rejected_summary
    (j : Journal) (symbol : Value) :
  (j.summary symbol).rejected = j.rows.countP fun r => r.isRejection && r.ofSymbol symbol
  := List.countP_filter

theorem admitted_summary
    (j : Journal) (symbol : Value) :
  (j.summary symbol).admitted
    = j.rows.countP fun r => r.verdict == .admitted && r.ofSymbol symbol
  := by
  have hverdict (r : JournalRow) : (r.verdict == .admitted) = !r.isRejection := by
    rw [JournalRow.isRejection]
    cases r.verdict <;> rfl
  simp only [hverdict]
  rw [← List.countP_filter]
  have hsplit := List.length_eq_countP_add_countP JournalRow.isRejection
    (l := j.rows.filter (JournalRow.ofSymbol symbol))
  simp only [summary, Bool.not_eq_true, Bool.decide_eq_false] at hsplit ⊢
  omega

/-- The figures of a selection: those of its rows, with the share of the rejected ones. -/
structure Figures (j : Journal) (symbol : Option String) : Prop where
  rows : (j.summary (selection symbol)).total
    = j.rows.countP (JournalRow.ofSymbol (selection symbol))
  total : (j.summary (selection symbol)).total
    = (j.summary (selection symbol)).admitted + (j.summary (selection symbol)).rejected
  admitted : (j.summary (selection symbol)).admitted
    = j.rows.countP fun r => r.verdict == .admitted && r.ofSymbol (selection symbol)
  rejected : (j.summary (selection symbol)).rejected = (j.rejections (selection symbol)).length
  rate_of_none : (∀ r ∈ j.rows, r.ofSymbol (selection symbol) = false) →
    (j.summary (selection symbol)).rate = 0.0
  rate_of_some : (∃ r ∈ j.rows, r.ofSymbol (selection symbol) = true) →
    (j.summary (selection symbol)).total ≠ 0
      ∧ (j.summary (selection symbol)).rate
        = Float.ofNat (j.summary (selection symbol)).rejected
          / Float.ofNat (j.summary (selection symbol)).total

theorem figures
    (j : Journal) (symbol : Option String) :
  j.Figures symbol
  where
  rows := total_summary j _
  total := by
    simp only [summary]
    have hle := List.countP_le_length (p := JournalRow.isRejection)
      (l := j.rows.filter (JournalRow.ofSymbol (selection symbol)))
    omega
  admitted := admitted_summary j _
  rejected := by rw [rejected_summary, rejections, List.countP_eq_length_filter]
  rate_of_none h := by
    rw [JournalSummary.rate, if_pos]
    rw [total_summary, List.countP_eq_zero]
    simpa using h
  rate_of_some h := by
    have hne : (j.summary (selection symbol)).total ≠ 0 := by
      rw [total_summary, ← Nat.pos_iff_ne_zero, List.countP_pos_iff]
      exact h
    exact ⟨hne, if_neg hne⟩

/-! ### Symbols -/

/-- The symbols that occur. -/
def symbols (j : Journal) : Finset String :=
  (j.rows.map JournalRow.symbol).toFinset

/-- Rows of each symbol in turn are all rows. -/
theorem sum_countP_ofSymbol
    (p : JournalRow → Bool) {S : Finset String} (rows : List JournalRow)
    (h : ∀ r ∈ rows, r.symbol ∈ S) :
  ∑ s ∈ S, rows.countP (fun r => p r && r.ofSymbol (.text s)) = rows.countP p
  := by
  induction rows with
  | nil => simp
  | cons r rows ih =>
    rw [List.forall_mem_cons] at h
    simp only [List.countP_cons, Finset.sum_add_distrib, ih h.2]
    congr 1
    cases hp : p r <;> simp [JournalRow.ofSymbol, h.1]

/-- The figures of the symbols that occur sum to those of the whole journal. -/
structure SumsOverSymbols (j : Journal) : Prop where
  total : ∑ s ∈ j.symbols, (j.summary (.text s)).total = (j.summary .null).total
  admitted : ∑ s ∈ j.symbols, (j.summary (.text s)).admitted = (j.summary .null).admitted
  rejected : ∑ s ∈ j.symbols, (j.summary (.text s)).rejected = (j.summary .null).rejected

theorem sumsOverSymbols
    (j : Journal) :
  j.SumsOverSymbols
  := by
  have hmem : ∀ r ∈ j.rows, r.symbol ∈ j.symbols := by
    intro r hr
    apply List.mem_toFinset.mpr (List.mem_map_of_mem hr)
  constructor
  · simp only [total_summary]
    have hall := sum_countP_ofSymbol (fun _ => true) j.rows hmem
    simp only [Bool.true_and] at hall
    exact hall
  · simp only [admitted_summary]
    simpa [JournalRow.ofSymbol] using
      sum_countP_ofSymbol (fun r => r.verdict == .admitted) j.rows hmem
  · simp only [rejected_summary]
    simpa [JournalRow.ofSymbol] using sum_countP_ofSymbol JournalRow.isRejection j.rows hmem

end Journal

/-! ### Recording -/

/-- A decision to be recorded: the frame that is given with it, if any, and the frames around. -/
structure Recording where
  decision : Decision
  given : Option Frame
  around : Stack

namespace Recording

/-- The row that is written: the decision is tagged with the given or else the current frame. -/
def row (r : Recording) : JournalRow :=
  .ofDecision r.decision (r.given.getD r.around.current)

/-- The journal after some recordings. -/
def journal (rs : List Recording) : Journal :=
  rs.foldl (fun j r => j.record r.decision (r.given.getD r.around.current)) .empty

/-- Whether a recording is a rejection, of a symbol if one is given. -/
def rejects (symbol : Option String) (r : Recording) : Bool :=
  r.decision.verdict == .rejected && symbol.all (· == r.decision.symbol)

theorem rows_journal
    (rs : List Recording) :
  (journal rs).rows = rs.map row
  := by
  have hfold (j : Journal) : (rs.foldl (fun j r =>
      j.record r.decision (r.given.getD r.around.current)) j).rows = j.rows ++ rs.map row := by
    induction rs generalizing j with
    | nil => simp
    | cons r rs ih => rw [List.foldl_cons, ih, Journal.rows_record, List.append_assoc]; rfl
  apply hfold .empty

theorem rejections_journal
    (rs : List Recording) (symbol : Option String) :
  (journal rs).rejections (Journal.selection symbol) = (rs.filter (rejects symbol)).map row
  := by
  rw [Journal.rejections, rows_journal, List.filter_map]
  congr 1
  apply List.filter_congr
  intro r _
  cases symbol <;> rfl

/-- Whatever is recorded, the rows stand in the order of recording, the rejections are those that
were recorded, and the figures add up over verdicts, symbols and risks. -/
theorem figures_add_up
    (rs : List Recording) :
  (journal rs).rows = rs.map row
    ∧ (∀ symbol, (journal rs).rejections (Journal.selection symbol)
        = (rs.filter (rejects symbol)).map row)
    ∧ (∀ symbol, (journal rs).Figures symbol)
    ∧ (journal rs).SumsOverSymbols
    ∧ (journal rs).CountsRejections
  := by
  refine ⟨rows_journal rs, rejections_journal rs, ?_, ?_, ?_⟩
  · intro symbol
    apply Journal.figures
  · apply Journal.sumsOverSymbols
  · apply Journal.countsRejections

end Recording

end TradeGate
