import TradeGate.Proofs.Environment.References
import TradeGate.Proofs.Reading
import TradeGate.Setup

/-!
# Loading a configuration

A load puts the assignments beside its document into the environment, and reads its settings from
what it finds there and in the assignments around.  Settings that were kept before do not count.
Loads leave variables in the environment, and change none that is there.
-/

namespace TradeGate

/-! ### Where a setting is found -/

namespace Settings

/-- The variable that holds a setting, up to the case of letters. -/
def variableName (name : String) : String :=
  Sources.standard.lead ++ name

/-- A setting as it is found in an environment, or else in the assignments around. -/
def found (e : Environment) (around : List Assignment) (name : String) : Option Value :=
  source? [] .standard e (Assignment.resolve e false around) name

/-- The settings that are read from what is found. -/
def ofFound (found : String → Option Value) : Except Fault Settings :=
  ((read (names.filterMap fun n => (found n).map (n, ·))).finish .settings).mapError .refused

theorem ofFound_congr
    {found found' : String → Option Value} (h : ∀ n ∈ names, found n = found' n) :
  ofFound found = ofFound found'
  := by
  have hfields : (names.filterMap fun n => (found n).map (n, ·))
      = names.filterMap fun n => (found' n).map (n, ·) := by
    apply List.filterMap_congr
    intro n hn
    rw [h n hn]
  rw [ofFound, hfields, ofFound]

/-- A timeframe that is found is the one that is used. -/
theorem timeframe_of_ofFound
    {found : String → Option Value} {k : Settings} {timeframe : String}
    (h : ofFound found = .ok k) (hfound : found "timeframe" = some (.text timeframe)) :
  k.timeframe = timeframe
  := by
  have hread := Reading.mapError_finish_eq_ok.mp h
  simp only [read, Reading.seq_eq_done, Reading.map_eq_done] at hread
  obtain ⟨_, _, ⟨_, _, ⟨_, _, ⟨_, _, ⟨_, _, ⟨t, ht, rfl⟩, -, rfl⟩, -, rfl⟩, -, rfl⟩, -, rfl⟩, -, rfl⟩
    := hread
  simpa [names, Fields.optional, Value.lookup, hfound, Value.readText, Reading.below] using ht.symm

/-- Of the variables of an environment, the one that was added last counts. -/
theorem find?_standard_environment
    (e : Environment) (name : String) :
  Sources.standard.find? (e.bindings.map fun v => (v.1, some v.2)) name
    = (e.last? name).map Value.text
  := by
  simp only [Sources.find?, Sources.standard, Environment.last?, ← List.map_reverse,
    List.find?_map, Function.comp_def, Bool.false_and, Bool.not_false, Bool.true_and,
    Bool.false_eq_true, if_false]
  generalize List.find? _ e.bindings.reverse = v
  cases v <;> rfl

theorem found_eq
    (e : Environment) (around : List Assignment) (name : String) :
  found e around name
    = ((e.last? (variableName name)).map Value.text).or
        (Sources.standard.find? (Assignment.resolve e false around) (variableName name))
  := by
  rw [found, source?, find?_standard_environment]
  simp [Value.lookup, variableName]

end Settings

namespace Setup

/-! ### Assignments beside a document and around -/

/-- The assignments beside the document under a path. -/
def beside (s : Setup) (p : Path) : List Assignment :=
  (s.assignments (p.parent.child Settings.assignmentsName)).toOption.getD []

/-- The assignments in the folder that is worked in. -/
def around (s : Setup) : List Assignment :=
  (s.assignments (Path.here.child Settings.assignmentsName)).toOption.getD []

theorem assignments_around
    (s : Setup) :
  s.assignments (Path.here.child Settings.assignmentsName) = .ok s.around
  := by
  have hlocate : s.shelf.locate (Path.here.child Settings.assignmentsName)
      = .ok (Shelf.base ++ [Settings.assignmentsName]) := rfl
  have hfind : s.shelf.find (Path.here.child Settings.assignmentsName)
      = .ok (s.shelf.standing (Shelf.base ++ [Settings.assignmentsName])) := by
    rw [Shelf.find, hlocate]
  unfold around assignments
  rw [hfind]
  cases s.shelf.standing (Shelf.base ++ [Settings.assignmentsName]) <;> rfl

variable {s : Setup} {p : Path}

theorem beside_of_find
    {t : String} (h : s.shelf.find (p.parent.child Settings.assignmentsName) = .ok (.document t)) :
  s.beside p = Assignment.ofText (plain t)
  := by
  rw [beside, assignments, h]
  rfl

/-- Without a file beside the document there are no assignments. -/
theorem beside_of_find_ne
    (h : ∀ t, s.shelf.find (p.parent.child Settings.assignmentsName) ≠ .ok (.document t)) :
  s.beside p = []
  := by
  unfold beside assignments
  split
  case h_1 t ht => exact absurd ht (h t)
  case h_2 => rfl
  case h_3 => rfl

theorem exists_find_of_beside
    (hp : s.beside p ≠ []) :
  ∃ t, s.shelf.find (p.parent.child Settings.assignmentsName) = .ok (.document t)
    ∧ s.beside p = Assignment.ofText (plain t)
  := by
  by_contra hnone
  apply hp
  apply beside_of_find_ne
  intro t ht
  exact hnone ⟨t, ht, beside_of_find ht⟩

/-! ### Putting assignments into the environment -/

/-- The assignments that a load puts into the environment. -/
def heeded (s : Setup) (p : Path) : List Assignment :=
  if s.isGuarded then [] else s.beside p

theorem heeded_subset
    (s : Setup) (p : Path) :
  s.heeded p ⊆ s.beside p
  := by
  unfold heeded
  split
  · exact List.nil_subset _
  · exact List.Subset.refl _

/-- The environment in which a load looks for its settings. -/
def entered (s : Setup) (p : Path) : Environment :=
  (s.loadAssignments p false).2.environment

/-- The assignments are loaded, all of them or up to a fault. -/
theorem entered_eq
    (s : Setup) (p : Path) :
  s.entered p = (s.environment.load (s.heeded p)).2
  := by
  unfold entered loadAssignments heeded
  split
  case isTrue => rfl
  case isFalse =>
    split
    case h_1 t ht =>
      rw [beside_of_find ht]
      dsimp only
      split
      case h_1 e he => rw [he]
      case h_2 f e he => rw [he]
    case h_2 text htext =>
      rw [beside_of_find_ne (by simp [htext])]
      rfl
    case h_3 hfind _ =>
      rw [beside_of_find_ne hfind]
      rfl

theorem loadAssignments_of_isGuarded
    (hs : s.isGuarded = true) :
  s.loadAssignments p false = (.ok (), s)
  := if_pos hs

/-- Where assignments are loaded without a fault, settings that were kept are dropped. -/
theorem loadAssignments_of_beside
    (hs : s.isGuarded = false) (hp : s.beside p ≠ []) :
  s.loadAssignments p false
    = match s.environment.load (s.beside p) with
      | (.ok (), e) => (.ok (), { s with environment := e, kept := none })
      | (.error f, e) => (.error f, { s with environment := e })
  := by
  obtain ⟨t, ht, hbeside⟩ := exists_find_of_beside hp
  rw [hbeside] at hp
  rw [loadAssignments, if_neg (by simp [hs]), ht, hbeside]
  dsimp only
  obtain ⟨_ | ⟨⟨⟩⟩, e⟩ := s.environment.load (Assignment.ofText (plain t))
  · rfl
  · simp [hp]

/-- Loading assignments fails as giving values to their names does. -/
theorem fst_loadAssignments
    (hp : s.beside p ≠ []) :
  (s.loadAssignments p false).1 = (s.environment.load (s.heeded p)).1
  := by
  unfold heeded
  split
  case isTrue hs =>
    rw [loadAssignments_of_isGuarded hs]
    rfl
  case isFalse hs =>
    rw [loadAssignments_of_beside (by simpa using hs) hp]
    split
    case h_1 e he => rw [he]
    case h_2 f e he => rw [he]

theorem kept_loadAssignments
    (hs : s.isGuarded = false) (hp : s.beside p ≠ []) (hok : (s.loadAssignments p false).1 = .ok ()) :
  (s.loadAssignments p false).2.kept = none
  := by
  rw [loadAssignments_of_beside hs hp] at hok ⊢
  split at hok
  case h_1 => rfl
  case h_2 => cases hok

/-- Loading assignments changes the environment and the settings that are kept, and nothing
else. -/
theorem exists_loadAssignments
    (s : Setup) (p : Path) :
  ∃ k, (s.loadAssignments p false).2 = { s with environment := s.entered p, kept := k }
  := by
  unfold entered loadAssignments
  split
  · exact ⟨s.kept, rfl⟩
  · split
    · dsimp only
      split
      · exact ⟨_, rfl⟩
      · exact ⟨_, rfl⟩
    · exact ⟨_, rfl⟩
    · exact ⟨_, rfl⟩

/-! ### Settings that are kept -/

/-- The settings that are kept are those of the environment. -/
def IsCurrent (s : Setup) : Prop :=
  ∀ k ∈ s.kept, s.settings [] = .ok k

theorem settings_nil
    (s : Setup) :
  s.settings [] = Settings.ofFound (Settings.found s.environment s.around)
  := by
  have hfiles : Settings.Sources.standard.files.mapM s.assignments = .ok [s.around] := by
    simp only [Settings.Sources.standard, List.mapM_cons, assignments_around, List.mapM_nil]
    rfl
  have hsources : Settings.Sources.ofFields [] = .ok .standard := rfl
  rw [settings, hsources]
  change (Settings.Sources.standard.files.mapM s.assignments >>= _) = _
  rw [hfiles]
  change ((Settings.gather [] .standard s.environment [s.around]).finish .settings).mapError _ = _
  rw [Settings.gather, List.flatMap_cons, List.flatMap_nil, List.append_nil]
  rfl

theorem fst_keptSettings
    (hs : s.IsCurrent) :
  s.keptSettings.1 = s.settings []
  := by
  unfold keptSettings
  split
  case h_1 k hk => exact (hs k hk).symm
  case h_2 =>
    split
    case h_1 hk => exact hk.symm
    case h_2 he => exact he.symm

/-- Asking for the settings that are kept changes only these. -/
theorem exists_keptSettings
    (s : Setup) :
  ∃ k, s.keptSettings.2 = { s with kept := k }
  := by
  unfold keptSettings
  split
  · exact ⟨s.kept, rfl⟩
  · split
    · exact ⟨_, rfl⟩
    · exact ⟨s.kept, rfl⟩

theorem IsCurrent.keptSettings
    (hs : s.IsCurrent) :
  s.keptSettings.2.IsCurrent
  := by
  unfold Setup.keptSettings
  split
  case h_1 => exact hs
  case h_2 =>
    split
    case h_1 k hk =>
      rintro _ ⟨⟩
      exact hk
    case h_2 => exact hs

/-! ### A load -/

/-- The settings that a load works with. -/
def used (s : Setup) (p : Path) : Except Fault Settings :=
  match s.loadAssignments p false with
  | (.ok (), t) => t.keptSettings.1
  | (.error f, _) => .error f

/-- A load answers with the configuration that the document makes of its settings, and changes the
environment and the settings that are kept, and nothing else. -/
theorem load_eq
    (s : Setup) (p : Path) :
  ∃ k, s.load p none
    = ((s.used p).bind (s.configAt p), { s with environment := s.entered p, kept := k })
  := by
  obtain ⟨k, hk⟩ := exists_loadAssignments s p
  unfold load used
  rw [Option.isSome_none]
  generalize s.loadAssignments p false = r at hk
  obtain ⟨_ | ⟨⟨⟩⟩, t⟩ := r
  · exact ⟨k, Prod.ext rfl hk⟩
  · obtain rfl : t = _ := hk
    obtain ⟨k', hk'⟩ := exists_keptSettings { s with environment := s.entered p, kept := k }
    use k'
    apply Prod.ext
    · change Except.bind _ (configAt _ p) = _
      rw [hk']
      rfl
    · exact hk'

/-- Where assignments are kept out, a load only asks for the settings that are kept. -/
theorem snd_load_of_isGuarded
    (hs : s.isGuarded = true) :
  (s.load p none).2 = s.keptSettings.2
  := by
  rw [load, Option.isSome_none, loadAssignments_of_isGuarded hs]

/-- A load works with the settings that it finds, and not with those that were kept. -/
theorem used_eq_ofFound
    (hs : s.isGuarded = true → s.IsCurrent) (hp : s.beside p ≠ [])
    (hok : (s.loadAssignments p false).1 = .ok ()) :
  s.used p = Settings.ofFound (Settings.found (s.entered p) s.around)
  := by
  obtain ⟨k, hk⟩ := exists_loadAssignments s p
  have hcurrent : (s.loadAssignments p false).2.IsCurrent := by
    by_cases hguard : s.isGuarded = true
    · rw [loadAssignments_of_isGuarded hguard]
      exact hs hguard
    · rw [IsCurrent, kept_loadAssignments (by simpa using hguard) hp hok]
      rintro k ⟨⟩
  unfold used
  have hkept := fst_keptSettings hcurrent
  rw [settings_nil, hk] at hkept
  generalize s.loadAssignments p false = r at hk hok
  obtain ⟨_ | ⟨⟨⟩⟩, t⟩ := r
  · cases hok
  · obtain rfl : t = _ := hk
    exact hkept

end Setup

end TradeGate
