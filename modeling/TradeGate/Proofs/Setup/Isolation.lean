import TradeGate.Proofs.Setup.Loading
import Mathlib.Data.List.Infix

/-!
# One load after others

What a load puts into the environment stays there and is not changed by later loads.  So a load
finds a setting as an earlier one has left it, and only a setting that none has left does it find
as a first load would: in the environment from before, beside its document, or around.  Loads are
isolated from one another where those that set a variable agree on its value.
-/

namespace TradeGate

open Settings (variableName)

namespace Setup

variable {s t : Setup} {p : Path} {ps : List Path}

/-! ### Several loads -/

/-- The setup after loads of some paths, in order. -/
def after (s : Setup) (ps : List Path) : Setup :=
  ps.foldl (fun s p => (s.load p none).2) s

theorem after_concat
    (s : Setup) (ps : List Path) (p : Path) :
  s.after (ps ++ [p]) = ((s.after ps).load p none).2
  := by
  rw [after, List.foldl_append]
  rfl

/-- Loads change the environment and the settings that are kept, and nothing else. -/
theorem exists_after
    (s : Setup) (ps : List Path) :
  ∃ e k, s.after ps = { s with environment := e, kept := k }
  := by
  induction ps using List.reverseRecOn with
  | nil => exact ⟨s.environment, s.kept, rfl⟩
  | append_singleton ps p ih =>
    obtain ⟨e, k, h⟩ := ih
    obtain ⟨k', h'⟩ := load_eq (s.after ps) p
    use (s.after ps).entered p, k'
    rw [after_concat, h', h]

theorem beside_after
    (s : Setup) (ps : List Path) :
  (s.after ps).beside = s.beside
  := by
  obtain ⟨e, k, h⟩ := s.exists_after ps
  rw [h]
  rfl

theorem around_after
    (s : Setup) (ps : List Path) :
  (s.after ps).around = s.around
  := by
  obtain ⟨e, k, h⟩ := s.exists_after ps
  rw [h]
  rfl

theorem configAt_after
    (s : Setup) (ps : List Path) :
  (s.after ps).configAt = s.configAt
  := by
  obtain ⟨e, k, h⟩ := s.exists_after ps
  rw [h]
  rfl

theorem environment_after_concat
    (s : Setup) (ps : List Path) (p : Path) :
  (s.after (ps ++ [p])).environment = (s.after ps).entered p
  := by
  obtain ⟨k, h⟩ := load_eq (s.after ps) p
  rw [after_concat, h]

/-! ### What loads add -/

/-- The variables that loads of some paths have added to the environment. -/
def added (s : Setup) (ps : List Path) : Environment :=
  ⟨(s.after ps).environment.bindings.drop s.environment.bindings.length⟩

/-- Only what is assigned beside the document is added. -/
theorem exists_grows_entered
    (s : Setup) (p : Path) :
  ∃ vs, s.environment.Grows vs (s.entered p) ∧ vs ⊆ s.environment.offered (s.beside p)
  := by
  obtain ⟨vs, hvs, hsubset⟩ :=
    s.environment.exists_grows_setMissing (s.environment.offered (s.heeded p))
  rw [entered_eq]
  use vs, hvs
  unfold heeded at hsubset
  split at hsubset
  case isTrue => exact List.Subset.trans hsubset (List.nil_subset _)
  case isFalse => exact hsubset

theorem added_eq_of_grows
    {vs : List (String × String)} (h : s.environment.Grows vs (s.after ps).environment) :
  s.added ps = ⟨vs⟩
  := by
  rw [added, h.bindings, List.drop_left]

theorem grows_after
    (s : Setup) (ps : List Path) :
  s.environment.Grows (s.added ps).bindings (s.after ps).environment
  := by
  induction ps using List.reverseRecOn with
  | nil =>
    rw [added_eq_of_grows (.refl s.environment)]
    exact .refl s.environment
  | append_singleton ps p ih =>
    obtain ⟨vs, hvs, -⟩ := exists_grows_entered (s.after ps) p
    have hgrows := ih.trans hvs
    rw [← environment_after_concat] at hgrows
    rwa [added_eq_of_grows hgrows]

/-- What was added is missing at first, and stands beside the document of the first load that
found it missing and could give it a value. -/
theorem exists_of_mem_added
    {v : String × String} (hv : v ∈ (s.added ps).bindings) :
  ∃ qs q rs, ps = qs ++ q :: rs ∧ (s.after qs).environment.get? v.1 = none
    ∧ v ∈ (s.after qs).environment.offered (s.beside q)
  := by
  induction ps using List.reverseRecOn with
  | nil =>
    rw [added_eq_of_grows (.refl s.environment)] at hv
    cases hv
  | append_singleton ps p ih =>
    obtain ⟨vs, hvs, hsubset⟩ := exists_grows_entered (s.after ps) p
    have hgrows := (s.grows_after ps).trans hvs
    rw [← environment_after_concat] at hgrows
    rw [added_eq_of_grows hgrows] at hv
    obtain hv | hv := List.mem_append.mp hv
    · obtain ⟨qs, q, rs, rfl, hmissing, hoffered⟩ := ih hv
      exact ⟨qs, q, rs ++ [p], by simp, hmissing, hoffered⟩
    · use ps, p, [], rfl, hvs.missing v hv
      rw [← beside_after s ps]
      exact hsubset hv

/-! ### Loads that keep assignments out -/

theorem isGuarded_after
    (h : (s.added ps).get? s.guardName = none) :
  (s.after ps).isGuarded = s.isGuarded
  := by
  have hget : (s.after ps).environment.get? s.guardName = s.environment.get? s.guardName := by
    rw [(s.grows_after ps).get?, h, Option.or_none]
  have hname : (s.after ps).guardName = s.guardName := by
    obtain ⟨e, k, h⟩ := s.exists_after ps
    rw [h]
  rw [isGuarded, isGuarded, hname, hget]

/-- After others a load puts the same assignments into the environment. -/
theorem heeded_after
    (h : (s.added ps).get? s.guardName = none) (p : Path) :
  (s.after ps).heeded p = s.heeded p
  := by
  rw [heeded, heeded, isGuarded_after h, beside_after]

/-- Where assignments are kept out, the settings that are kept stay those of the environment. -/
theorem isCurrent_after_of_isGuarded
    (hguard : s.isGuarded = true) (hs : s.IsCurrent) (ps : List Path) :
  (s.after ps).isGuarded = true ∧ (s.after ps).IsCurrent
  := by
  induction ps using List.reverseRecOn with
  | nil => exact ⟨hguard, hs⟩
  | append_singleton ps p ih =>
    obtain ⟨hguard, hcurrent⟩ := ih
    rw [after_concat, snd_load_of_isGuarded hguard]
    obtain ⟨k, hk⟩ := exists_keptSettings (s.after ps)
    constructor
    · rw [hk]
      exact hguard
    · exact hcurrent.keptSettings

/-! ### Isolation -/

/-- A setting as a load finds it. -/
def finds (s : Setup) (p : Path) : String → Option Value :=
  Settings.found (s.entered p) s.around

/-- Two setups have one environment, and the same assignments beside a document and around. -/
structure Shares (s t : Setup) (p : Path) : Prop where
  guardName : s.guardName = t.guardName
  environment : s.environment = t.environment
  beside : s.beside p = t.beside p
  around : s.around = t.around

theorem Shares.refl
    (s : Setup) (p : Path) :
  s.Shares s p
  := ⟨rfl, rfl, rfl, rfl⟩

/-- A load after loads of some paths works with the settings with which a first load works in any
setup that has the same environment, and the same assignments beside the document and around. -/
def IsIsolated (s : Setup) (ps : List Path) (p : Path) : Prop :=
  ∀ t : Setup, t.IsCurrent → s.Shares t p → (s.after ps).used p = t.used p

/-- Loads of some paths and the load of another one meet in settings only, and spell a setting in
one way. -/
structure MeetInSettings (s : Setup) (ps : List Path) (p : Path) : Prop where
  /-- The variable that keeps assignments out was not added. -/
  guard : (s.added ps).get? s.guardName = none
  /-- Assignments beside the document and around refer to no variable that was added. -/
  references : ∀ name ∈ Assignment.referenced (s.beside p ++ s.around),
    (s.added ps).get? name = none
  /-- A setting that was added is not assigned under another name beside the document. -/
  spelling : ∀ n ∈ Settings.names, ∀ v ∈ (s.added ps).bindings, ∀ a ∈ s.beside p,
    Environment.folded v.1 = Environment.folded (variableName n) →
    Environment.folded a.name = Environment.folded (variableName n) → a.name = v.1

/-- What was added under the variables of settings is what a first load finds for them. -/
def Agrees (s : Setup) (ps : List Path) (p : Path) : Prop :=
  ∀ n ∈ Settings.names, ∀ v ∈ (s.added ps).last? (variableName n), s.finds p n = some (.text v)

/-- It is so if the environment of a first load has what was added. -/
theorem agrees_of_last?
    (h : ∀ v ∈ (s.added ps).bindings, (s.entered p).last? v.1 = (s.added ps).last? v.1) :
  s.Agrees ps p
  := by
  intro n _ value hvalue
  obtain ⟨v, hv, hname, -⟩ := Environment.exists_mem_of_last? hvalue
  have hlast : (s.entered p).last? (variableName n) = some value := by
    rw [Environment.last?_congr hname.symm, h v hv, Environment.last?_congr hname]
    exact hvalue
  rw [finds, Settings.found_eq, hlast]
  rfl

theorem Shares.heeded
    (h : s.Shares t p) :
  s.heeded p = t.heeded p
  := by
  rw [Setup.heeded, Setup.heeded, isGuarded, isGuarded, h.guardName, h.environment, h.beside]

/-- Setups that share what a load looks at use the same settings in their first loads. -/
theorem used_of_shares
    (hp : s.beside p ≠ []) (hok : (s.loadAssignments p false).1 = .ok ()) (ht : t.IsCurrent)
    (h : s.Shares t p) :
  t.used p = Settings.ofFound (s.finds p)
  := by
  have hp' : t.beside p ≠ [] := h.beside ▸ hp
  rw [finds, entered_eq, h.heeded, h.environment, h.around, ← entered_eq]
  apply used_eq_ofFound (fun _ => ht) hp'
  rwa [fst_loadAssignments hp', ← h.environment, ← h.heeded, ← fst_loadAssignments hp]

section
variable (hs : s.IsCurrent) (hp : s.beside p ≠ []) (hok : (s.loadAssignments p false).1 = .ok ())
  (h : s.MeetInSettings ps p)

include h in
/-- What a load puts into the environment refers to no variable that was added. -/
theorem MeetInSettings.get?_of_mem_referenced
    {name : String} (hname : name ∈ Assignment.referenced (s.heeded p)) :
  (s.added ps).get? name = none
  := by
  apply h.references
  rw [Assignment.referenced_append]
  exact List.mem_append_left _ (Assignment.referenced_subset (s.heeded_subset p) hname)

include hp hok h

/-- If a first load has no fault, then it has none after others. -/
theorem fst_loadAssignments_after :
  ((s.after ps).loadAssignments p false).1 = .ok ()
  := by
  have hp' : (s.after ps).beside p ≠ [] := by rwa [beside_after]
  rw [fst_loadAssignments hp', heeded_after h.guard]
  rw [fst_loadAssignments hp] at hok
  exact (Environment.load_of_grows (s.grows_after ps) (fun _ => h.get?_of_mem_referenced) hok).2

/-- A load finds a setting as earlier loads have left it, or else as a first load finds it. -/
theorem finds_after
    {n : String} (hn : n ∈ Settings.names) :
  (s.after ps).finds p n
    = (((s.added ps).last? (variableName n)).map Value.text).or (s.finds p n)
  := by
  rw [fst_loadAssignments hp] at hok
  have hrefs : ∀ name ∈ Assignment.referenced (s.heeded p), (s.added ps).get? name = none :=
    fun _ => h.get?_of_mem_referenced
  have hspelling : ∀ v ∈ (s.added ps).bindings, ∀ a ∈ s.heeded p,
      Environment.folded v.1 = Environment.folded (variableName n) →
      Environment.folded a.name = Environment.folded (variableName n) → a.name = v.1 :=
    fun v hv a ha => h.spelling n hn v hv a (s.heeded_subset p ha)
  have hlast := Environment.last?_load_of_grows (s.grows_after ps) hrefs hok hspelling
  have haround : Assignment.resolve ((s.after ps).entered p) false s.around
      = Assignment.resolve (s.entered p) false s.around := by
    apply Assignment.resolve_congr
    intro name hname
    rw [entered_eq, entered_eq, heeded_after h.guard]
    apply Environment.get?_load_of_grows (s.grows_after ps) hrefs hok
    apply h.references
    rw [Assignment.referenced_append]
    exact List.mem_append_right _ hname
  rw [finds, finds, around_after, Settings.found_eq, Settings.found_eq, haround, entered_eq,
    entered_eq, heeded_after h.guard, hlast, Option.map_or, Option.or_assoc]

/-- A load finds all settings as a first load does exactly if what was added agrees with them. -/
theorem finds_after_eq_iff :
  (∀ n ∈ Settings.names, (s.after ps).finds p n = s.finds p n) ↔ s.Agrees ps p
  := by
  apply forall₂_congr
  intro n hn
  rw [finds_after hp hok h hn]
  cases (s.added ps).last? (variableName n) with
  | none => simp
  | some v => simp [eq_comm]

include hs

/-- A load after others works with the settings that it finds. -/
theorem used_after :
  (s.after ps).used p = Settings.ofFound ((s.after ps).finds p)
  := by
  apply used_eq_ofFound
  · intro hguard
    rw [isGuarded_after h.guard] at hguard
    exact (isCurrent_after_of_isGuarded hguard hs ps).2
  · rwa [beside_after]
  · exact fst_loadAssignments_after hp hok h

theorem isIsolated_of_agrees
    (hagrees : s.Agrees ps p) :
  s.IsIsolated ps p
  := by
  intro t ht hst
  rw [used_after hs hp hok h, used_of_shares hp hok ht hst]
  exact Settings.ofFound_congr ((finds_after_eq_iff hp hok h).mpr hagrees)

/-- If another timeframe was added than the one that a first load uses, a load is not isolated. -/
theorem not_isIsolated_of_timeframe
    {k : Settings} (hk : s.used p = .ok k) {timeframe : String}
    (hadded : (s.added ps).last? (variableName "timeframe") = some timeframe)
    (hne : timeframe ≠ k.timeframe) :
  ¬ s.IsIsolated ps p
  := by
  intro hisolated
  have hused := hisolated s hs (.refl s p)
  rw [used_after hs hp hok h, hk] at hused
  have hfinds : (s.after ps).finds p "timeframe" = some (.text timeframe) := by
    rw [finds_after hp hok h (by simp [Settings.names]), hadded]
    rfl
  exact hne (Settings.timeframe_of_ofFound hused hfinds).symm

end

/-- A load that meets earlier ones in settings only finds each setting as they have left it, or
else as a first load finds it, whatever that one may be; and it answers for what it finds.  It
finds all settings as a first load does if and only if what was added agrees with these, and then
it is isolated; it is not where another timeframe was added than it would use.  What was added
stands beside the document of a load that found it missing. -/
theorem loads_are_isolated_where_they_agree
    (hs : s.IsCurrent) (hp : s.beside p ≠ []) (hok : (s.loadAssignments p false).1 = .ok ())
    (h : s.MeetInSettings ps p) :
  ((s.after ps).load p none).1 = (Settings.ofFound ((s.after ps).finds p)).bind (s.configAt p)
  ∧ (∀ t : Setup, t.IsCurrent → s.Shares t p →
    (t.load p none).1 = (Settings.ofFound (s.finds p)).bind (t.configAt p))
  ∧ (∀ n ∈ Settings.names, (s.after ps).finds p n
      = (((s.added ps).last? (variableName n)).map Value.text).or (s.finds p n))
  ∧ ((∀ n ∈ Settings.names, (s.after ps).finds p n = s.finds p n) ↔ s.Agrees ps p)
  ∧ (s.Agrees ps p → s.IsIsolated ps p)
  ∧ (∀ k timeframe, s.used p = .ok k →
    (s.added ps).last? (variableName "timeframe") = some timeframe →
    timeframe ≠ k.timeframe → ¬ s.IsIsolated ps p)
  ∧ ∀ v ∈ (s.added ps).bindings, s.environment.get? v.1 = none
      ∧ ∃ qs q rs, ps = qs ++ q :: rs ∧ (s.after qs).environment.get? v.1 = none
        ∧ v ∈ (s.after qs).environment.offered (s.beside q)
  := by
  refine ⟨?_, ?_, fun n hn => finds_after hp hok h hn, finds_after_eq_iff hp hok h,
    isIsolated_of_agrees hs hp hok h,
    fun k timeframe hk hadded hne => not_isIsolated_of_timeframe hs hp hok h hk hadded hne, ?_⟩
  · obtain ⟨k, hload⟩ := load_eq (s.after ps) p
    rw [hload, used_after hs hp hok h, configAt_after]
  · intro t ht hst
    obtain ⟨k, hload⟩ := load_eq t p
    rw [hload, used_of_shares hp hok ht hst]
  · intro v hv
    use (s.grows_after ps).missing v hv
    exact exists_of_mem_added hv

/-! ### Two folders -/

/-- What one load adds. -/
theorem added_of_entered
    {q : Path} {vs : List (String × String)}
    (h : (s.entered q).bindings = s.environment.bindings ++ vs) :
  s.added [q] = ⟨vs⟩
  := by
  have hafter : (s.after ([] ++ [q])).environment = s.entered q := environment_after_concat s [] q
  rw [added, ← List.nil_append [q], hafter, h, List.drop_left]

/-- A setup with assignments in some folders and no profiles. -/
def inFolders (environment : Environment) (assignments : List (String × String)) : Setup where
  guardName := "ASSIGNMENTS_OFF"
  environment := environment
  shelf :=
    { documents := assignments.map fun a =>
        (Shelf.base ++ [a.1, Settings.assignmentsName], a.2)
      folders := Shelf.empty.folders ++ assignments.map fun a => Shelf.base ++ [a.1] }
  kept := none

theorem isCurrent_inFolders
    (environment : Environment) (assignments : List (String × String)) :
  (inFolders environment assignments).IsCurrent
  := by
  rintro k ⟨⟩

/-- The path of the profiles in a folder. -/
def profilesIn (folder : String) : Path := ⟨false, [folder, profilesName]⟩

/-- Two folders with one timeframe.  A zone is there already, so that the assignment in one folder
does not change the note in the other. -/
def agreeing : Setup :=
  inFolders ⟨[("ZONE", "eu")]⟩
    [("slow", "ADMISSION_TIMEFRAME=1h\nZONE=us\n"),
      ("fast", "ADMISSION_TIMEFRAME='1h'\nNOTE=$\x7bZONE\x7d\n")]

theorem added_agreeing :
  agreeing.added [profilesIn "slow"] = ⟨[("ADMISSION_TIMEFRAME", "1h")]⟩
  := added_of_entered (by decide +kernel)

theorem meetInSettings_agreeing :
  agreeing.MeetInSettings [profilesIn "slow"] (profilesIn "fast")
  := by
  have hnames : ∀ v ∈ (agreeing.added [profilesIn "slow"]).bindings,
      ∀ a ∈ agreeing.beside (profilesIn "fast"),
      Environment.folded a.name = Environment.folded v.1 → a.name = v.1 := by
    rw [added_agreeing]
    decide +kernel
  constructor
  · rw [added_agreeing]
    decide +kernel
  · rw [added_agreeing]
    decide +kernel
  · intro n _ v hv a ha hvn han
    exact hnames v hv a ha (han.trans hvn.symm)

theorem agrees_agreeing :
  agreeing.Agrees [profilesIn "slow"] (profilesIn "fast")
  := by
  apply agrees_of_last?
  rw [added_agreeing]
  decide +kernel

/-- A load is isolated from one in another folder that names the same timeframe. -/
theorem loads_are_isolated_agreeing :
  (agreeing.IsCurrent ∧ agreeing.beside (profilesIn "fast") ≠ []
    ∧ (agreeing.loadAssignments (profilesIn "fast") false).1 = .ok ()
    ∧ agreeing.MeetInSettings [profilesIn "slow"] (profilesIn "fast"))
  ∧ agreeing.Agrees [profilesIn "slow"] (profilesIn "fast")
  ∧ agreeing.IsIsolated [profilesIn "slow"] (profilesIn "fast")
  := by
  have hs : agreeing.IsCurrent := isCurrent_inFolders _ _
  have hp : agreeing.beside (profilesIn "fast") ≠ [] := by decide +kernel
  have hok : (agreeing.loadAssignments (profilesIn "fast") false).1 = .ok () := by
    have hsome : (agreeing.loadAssignments (profilesIn "fast") false).1.toOption = some () := by
      decide +kernel
    cases h : (agreeing.loadAssignments (profilesIn "fast") false).1 with
    | error f =>
      rw [h] at hsome
      cases hsome
    | ok u => rfl
  obtain ⟨-, -, -, -, hisolated, -⟩ :=
    loads_are_isolated_where_they_agree hs hp hok meetInSettings_agreeing
  exact ⟨⟨hs, hp, hok, meetInSettings_agreeing⟩, agrees_agreeing, hisolated agrees_agreeing⟩

/-- Two folders with different timeframes. -/
def differing : Setup :=
  inFolders .empty [("slow", "ADMISSION_TIMEFRAME=1h\n"), ("fast", "ADMISSION_TIMEFRAME=4h\n")]

/-- A first load uses the timeframe that is assigned beside its document.  After a load in another
folder it uses the one that is assigned there. -/
theorem load_uses_timeframe_of_other_folder :
  differing.IsCurrent
    ∧ ((differing.load (profilesIn "fast") none).1.toOption.map GateConfig.timeframe) = some .h4
    ∧ (((differing.after [profilesIn "slow"]).load (profilesIn "fast") none).1.toOption.map
      GateConfig.timeframe) = some .h1
    ∧ ¬ differing.IsIsolated [profilesIn "slow"] (profilesIn "fast")
  := by
  have hfirst : ((differing.load (profilesIn "fast") none).1.toOption.map GateConfig.timeframe)
      = some .h4 := by decide +kernel
  have hafter : (((differing.after [profilesIn "slow"]).load (profilesIn "fast") none).1.toOption.map
      GateConfig.timeframe) = some .h1 := by decide +kernel
  refine ⟨isCurrent_inFolders _ _, hfirst, hafter, ?_⟩
  intro hisolated
  obtain ⟨k, hload⟩ := load_eq differing (profilesIn "fast")
  obtain ⟨k', hload'⟩ := load_eq (differing.after [profilesIn "slow"]) (profilesIn "fast")
  rw [hload', configAt_after, hisolated differing (isCurrent_inFolders _ _) (.refl _ _)] at hafter
  rw [hload, hafter] at hfirst
  cases hfirst

end Setup

end TradeGate
