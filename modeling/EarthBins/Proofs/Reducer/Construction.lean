/-
Which settings make a reducer.

Settings are judged in four places: on their own, where the grid is laid
out, where the variables of the statistics are looked up, and where the
statistics are put side by side. `Settings.Valid` is one condition for all
of them, and it says nothing about the places: rows that the family of the
grid has, a number of points per pixel edge, statistics with parameters in
range whose variables are known, and no name twice where a name has to tell
things apart.

# Shape of the argument

Each place is a computation that succeeds under a condition of its own and
otherwise finds a fault in the settings (`SucceedsIff`). A chain of such
computations has the conjunction of their conditions. The rows of the grid
are looked at twice; the second look asks for nothing that the first did not
(`GridChoice.build_succeedsIff`), so it never fails.
-/
import EarthBins.Proofs.Statistic.Selection
import EarthBins.Reducer

namespace EarthBins

open Scalar Outcome

/-- Whether an error is a fault in the settings. -/
def Error.IsSettings (e : Error) : Prop := ∃ cause, e = .settings cause

theorem Error.isSettings (cause : SettingsError) :
    IsSettings (.settings cause) :=
  ⟨cause, rfl⟩

-- ========================================================== statistics

namespace StatisticSpec

variable {α : Type}

/-- The variables that a selection names. -/
def variableNames : StatisticSpec α → List String
  | logNormal name => [name]
  | onMax key payload => key :: payload
  | average name _ => [name]
  | extrema name => [name]
  | percentile name _ => [name]

/-- The names of the output features of a selection. -/
def outputNames : StatisticSpec α → List String
  | logNormal name => named name ["mean", "sigma", "median", "mode"]
  | onMax key payload => s!"{key}_max" :: payload
  | average name _ => named name ["mean", "sigma", "counts"]
  | extrema name => named name ["min", "max"]
  | percentile name percentage => named name [s!"p{percentage.toNat}"]
where
  /-- The features of a variable. -/
  named (name : String) (suffixes : List String) : List String :=
    suffixes.map fun suffix => s!"{name}_{suffix}"

variable [Scalar α]

/-- Whether the parameters of a selection are in range. -/
def InRange : StatisticSpec α → Prop
  | average _ weightCoeff => isFinite weightCoeff = true
  | percentile _ percentage => percentage.toNat ≤ 100
  | _ => True

omit [Scalar α] in
theorem requireVariable_succeedsIff (known : List String) (name : String) :
    SucceedsIff Error.IsSettings (requireVariable known name)
      (name ∈ known) := by
  unfold requireVariable
  cases h : known.findIdx? (· == name) with
  | none =>
      have absent : name ∉ known := by
        intro hn
        simpa using List.findIdx?_eq_none_iff.mp h name hn
      exact (SucceedsIff.fails (Error.isSettings _)).congr
        (iff_of_false id absent)
  | some slot =>
      obtain ⟨hslot, here, -⟩ := List.findIdx?_eq_some_iff_getElem.mp h
      have present : name ∈ known := by
        rw [← eq_of_beq here]
        exact List.getElem_mem hslot
      exact (SucceedsIff.ok slot).congr (iff_of_true trivial present)

/-- A selection is resolved if its parameters are in range and its variables
known. -/
theorem resolve_succeedsIff (spec : StatisticSpec α) (known : List String) :
    SucceedsIff Error.IsSettings (spec.resolve known)
      (spec.InRange ∧ ∀ name ∈ spec.variableNames, name ∈ known) := by
  have one (name : String) := requireVariable_succeedsIff known name
  cases spec with
  | logNormal name =>
      refine ((one name).bind fun slot _ => .ok _).congr ?_
      simp [InRange, variableNames]
  | onMax key payload =>
      refine (SucceedsIff.bind (.mapM payload fun name _ => one name)
        fun slots _ => (one key).bind fun slot _ => .ok _).congr ?_
      simp [InRange, variableNames, and_comm]
  | average name weightCoeff =>
      refine (SucceedsIff.ite (Error.isSettings .weightNotFinite)
        fun _ => (one name).bind fun slot _ => .ok _).congr ?_
      simp [InRange, variableNames]
  | extrema name =>
      refine ((one name).bind fun slot _ => .ok _).congr ?_
      simp [InRange, variableNames]
  | percentile name percentage =>
      refine (SucceedsIff.ite (Error.isSettings _)
        fun _ => (one name).bind fun slot _ => .ok _).congr ?_
      simp [InRange, variableNames, UInt32.le_iff_toNat_le, UInt32.not_lt]

/-- A resolved selection has the names that can be told before. -/
theorem output_of_resolve {spec : StatisticSpec α} {known : List String}
    {x : Statistic α} (h : spec.resolve known = .ok x) :
    x.names.output = spec.outputNames := by
  cases resolves_of_resolve h with
  | logNormal found => rfl
  | onMax recorded found => rfl
  | average finite found => rfl
  | extrema found => rfl
  | percentile range found => rfl

end StatisticSpec

/-- Statistics are put side by side if there are some, and no two of them
have an output name in common. -/
theorem Panel.ofList?_succeedsIff {α : Type}
    (statistics : List (Statistic α)) :
    SucceedsIff Error.IsSettings (Panel.ofList? statistics)
      (statistics ≠ [] ∧ (statistics.flatMap (·.names.output)).Nodup) := by
  unfold Panel.ofList?
  by_cases nonempty : statistics = []
  · rw [dif_pos nonempty]
    exact (SucceedsIff.fails (Error.isSettings _)).congr
      ⟨False.elim, fun h => h.1 nonempty⟩
  · rw [dif_neg nonempty]
    split
    · rename_i name repeated
      refine (SucceedsIff.fails (Error.isSettings _)).congr
        ⟨False.elim, fun h => ?_⟩
      rw [Text.firstRepeat?_eq_none_iff.mpr h.2] at repeated
      cases repeated
    · rename_i unique
      refine (SucceedsIff.ok _).congr (iff_of_true trivial ⟨nonempty, ?_⟩)
      exact Text.firstRepeat?_eq_none_iff.mp unique

/-- The panel of a configuration. -/
theorem Panel.ofSpecs?_succeedsIff {α : Type} [Scalar α]
    (specs : List (StatisticSpec α)) (known : List String) :
    SucceedsIff Error.IsSettings (Panel.ofSpecs? specs known)
      ((∀ spec ∈ specs, spec.InRange ∧ ∀ name ∈ spec.variableNames,
          name ∈ known)
        ∧ specs ≠ [] ∧ (specs.flatMap (·.outputNames)).Nodup) := by
  refine SucceedsIff.bind
    (.mapM specs fun spec _ => spec.resolve_succeedsIff known) ?_
  intro statistics resolved
  have each := mapM_eq_ok.mp resolved
  have outputs : statistics.map (·.names.output)
      = specs.map (·.outputNames) :=
    map_of_mapM resolved fun spec _ x hx => StatisticSpec.output_of_resolve hx
  refine (Panel.ofList?_succeedsIff statistics).congr ?_
  rw [List.flatMap_def, outputs, ← List.flatMap_def, ne_eq, ne_eq,
    ← List.length_eq_zero_iff, ← each.length_eq, List.length_eq_zero_iff]

-- ================================================================ grids

/-- A regular grid has an even number of rows, two at least. -/
theorem RegularGrid.ofRows?_succeedsIff (rows : Nat) :
    SucceedsIff Error.IsSettings (RegularGrid.ofRows? rows)
      (rows % 2 = 0 ∧ 2 ≤ rows) := by
  unfold RegularGrid.ofRows?
  split
  · rename_i even
    exact (SucceedsIff.ok _).congr (iff_of_true trivial even)
  · rename_i odd
    exact (SucceedsIff.fails (Error.isSettings _)).congr
      (iff_of_false id odd)

/-- So has an equal-area grid. -/
theorem EqualArea.ofRows?_succeedsIff {α : Type} [Scalar α] (rows : Nat) :
    SucceedsIff Error.IsSettings
      (EqualArea.ofRows? rows : Except Error (RowLayout α))
      (rows % 2 = 0 ∧ 2 ≤ rows) := by
  unfold EqualArea.ofRows?
  split
  · rename_i even
    exact (SucceedsIff.ok _).congr (iff_of_true trivial even)
  · rename_i odd
    exact (SucceedsIff.fails (Error.isSettings _)).congr
      (iff_of_false id odd)

/-- The reduced Gaussian grids are those of the known resolutions. -/
theorem Gaussian.ofRows?_succeedsIff (rows : Nat) :
    SucceedsIff Error.IsSettings (Gaussian.ofRows? rows)
      (rows ∈ Gaussian.allowedRows) := by
  unfold Gaussian.ofRows?
  split
  · rename_i fst northern found
    refine (SucceedsIff.ok _).congr (iff_of_true trivial ?_)
    have same : fst = rows := by simpa using List.find?_some found
    rw [allowedRows, ← same]
    exact List.mem_map_of_mem (List.mem_of_find?_eq_some found)
  · rename_i missing
    refine (SucceedsIff.fails (Error.isSettings _)).congr
      (iff_of_false id fun known => ?_)
    obtain ⟨resolution, hmem, rfl⟩ := List.mem_map.mp known
    exact List.find?_eq_none.mp missing resolution hmem (beq_self_eq_true _)

namespace GridChoice

/-- Whether the family of a choice has a grid with the chosen rows. -/
def Valid (g : GridChoice) : Prop :=
  match g.kind with
  | .reducedGaussian => g.rows.toNat ∈ Gaussian.allowedRows
  | .regular | .equalArea => g.rows.toNat % 2 = 0 ∧ 2 ≤ g.rows.toNat

theorem fault?_eq_none_iff (g : GridChoice) :
    g.fault? = none ↔ g.Valid := by
  unfold fault? Valid
  cases g.kind with
  | reducedGaussian => simp
  | regular =>
      simp
      omega
  | equalArea =>
      simp
      omega

/-- A grid is laid out for every valid choice. -/
theorem build_succeedsIff (g : GridChoice) :
    SucceedsIff Error.IsSettings g.build g.Valid := by
  unfold build Grid.build Valid
  cases g.kind with
  | regular => exact (RegularGrid.ofRows?_succeedsIff _).map
  | reducedGaussian => exact (Gaussian.ofRows?_succeedsIff _).map
  | equalArea => exact (EqualArea.ofRows?_succeedsIff _).map

end GridChoice

-- ============================================================= settings

/-- A usable period starts at a finite time and has a positive length, which
may be infinite. -/
theorem Period.check_succeedsIff (p : Period Float) :
    SucceedsIff Error.IsSettings p.check
      (isFinite p.startMjd = true ∧ 0 < p.durationDays) := by
  unfold Period.check
  by_cases finite : isFinite p.startMjd = true
  · by_cases positive : 0 < p.durationDays
    · simp only [finite, positive]
      exact (SucceedsIff.ok ()).congr (by simp)
    · simp only [finite, positive]
      exact (SucceedsIff.fails (Error.isSettings _)).congr (by simp)
  · simp only [finite]
    exact (SucceedsIff.fails (Error.isSettings _)).congr (by simp)

namespace Settings

/-- Whether settings can be judged usable without a look at the statistics'
variables. -/
structure Usable (s : Settings) : Prop where
  grid : s.grid.Valid
  superSampling : 1 ≤ s.superSampling.toNat ∧ s.superSampling.toNat ≤ 16
  statistics : s.statistics ≠ []
  variableNames : s.variableNames.Nodup
  period : ∀ p, s.period = some p →
    isFinite p.startMjd = true ∧ 0 < p.durationDays

/-- What can be judged of settings without laying out a grid or looking up
variables. -/
theorem check_succeedsIff (s : Settings) :
    SucceedsIff Error.IsSettings s.check s.Usable := by
  have refused {x : Except Error Unit} {cause : SettingsError}
      (hx : x = .error (.settings cause)) (h : ¬ s.Usable) :
      SucceedsIff Error.IsSettings x s.Usable := by
    rw [hx]
    exact (SucceedsIff.fails (Error.isSettings cause)).congr
      (iff_of_false id h)
  -- one fault after the other is ruled out, in the order of the check
  unfold check
  by_cases grid : s.grid.fault? = none
  case neg =>
    obtain ⟨fault, found⟩ := Option.ne_none_iff_exists'.mp grid
    rw [found]
    refine refused rfl fun usable => grid ?_
    exact s.grid.fault?_eq_none_iff.mpr usable.grid
  rw [grid]
  by_cases superSampling : s.superSampling.toNat < 1
      ∨ Sampling.maxFactor < s.superSampling.toNat
  case pos =>
    refine refused (if_pos superSampling) fun usable => ?_
    have := usable.superSampling
    simp only [Sampling.maxFactor] at superSampling
    omega
  dsimp only
  rw [if_neg superSampling]
  by_cases statistics : s.statistics = []
  case pos =>
    refine refused (if_pos (by simp [statistics])) fun usable => ?_
    exact usable.statistics statistics
  rw [if_neg (by simp [statistics])]
  by_cases names : Text.firstRepeat? s.variableNames = none
  case neg =>
    obtain ⟨name, found⟩ := Option.ne_none_iff_exists'.mp names
    rw [found]
    refine refused rfl fun usable => names ?_
    exact Text.firstRepeat?_eq_none_iff.mpr usable.variableNames
  rw [names]
  -- what is left to look at is the period
  have others (period : ∀ p, s.period = some p →
      isFinite p.startMjd = true ∧ 0 < p.durationDays) : s.Usable := {
    grid := s.grid.fault?_eq_none_iff.mp grid
    superSampling := by
      simp only [Sampling.maxFactor] at superSampling
      omega
    statistics
    variableNames := Text.firstRepeat?_eq_none_iff.mp names
    period }
  cases hp : s.period with
  | none =>
      refine (SucceedsIff.ok ()).congr (iff_of_true trivial (others ?_))
      simp [hp]
  | some p =>
      refine p.check_succeedsIff.congr ⟨fun h => others ?_, fun usable => ?_⟩
      · simpa [hp] using h
      · exact usable.period p hp

/-- Whether a reducer can be made of settings: they are usable by
themselves, their statistics have parameters in range and name no variable
that is not there, and all output features have names of their own. -/
structure Valid (s : Settings) : Prop extends s.Usable where
  inRange : ∀ spec ∈ s.statistics, spec.InRange
  known : ∀ spec ∈ s.statistics, ∀ name ∈ spec.variableNames,
    name ∈ s.variableNames
  outputs : (s.statistics.flatMap (·.outputNames)).Nodup

end Settings

namespace Reducer

theorem ofSettings?_succeedsIff (s : Settings) :
    SucceedsIff Error.IsSettings (ofSettings? s) s.Valid := by
  refine (s.check_succeedsIff.bind fun _ _ => s.grid.build_succeedsIff.bind
    fun grid _ => (Panel.ofSpecs?_succeedsIff s.statistics
      s.variableNames).bind fun panel _ => .ok _).congr ?_
  constructor
  · rintro ⟨usable, -, ⟨resolvable, -, outputs⟩, -⟩
    exact { usable with
      inRange := fun spec hspec => (resolvable spec hspec).1
      known := fun spec hspec => (resolvable spec hspec).2
      outputs }
  · intro valid
    refine ⟨valid.toUsable, valid.grid, ⟨?_, valid.statistics,
      valid.outputs⟩, trivial⟩
    intro spec hspec
    exact ⟨valid.inRange spec hspec, valid.known spec hspec⟩

/-- A reducer is made of the valid settings and of no others; what is wrong
with others is reported as a fault in the settings. Settings that were found
usable before a grid is laid out have a grid. -/
theorem ofSettings?_isOk_iff_valid (s : Settings) :
    ((∃ r, ofSettings? s = .ok r) ↔ s.Valid)
    ∧ (¬ s.Valid → ∃ cause, ofSettings? s = .error (.settings cause))
    ∧ (s.check = .ok () → ∃ grid, s.grid.build = .ok grid) := by
  have decided := ofSettings?_succeedsIff s
  refine ⟨decided.isOk_iff, ?_, ?_⟩
  · intro invalid
    obtain ⟨e, he, cause, rfl⟩ := decided.exists_error invalid
    exact ⟨cause, he⟩
  · intro usable
    have usable := s.check_succeedsIff.isOk_iff.mp ⟨(), usable⟩
    exact s.grid.build_succeedsIff.isOk_iff.mpr usable.grid

/-- Four statistics of two variables, from some day on without an end. -/
def openEnded : Settings where
  grid := ⟨.regular, 180⟩
  variableNames := ["chl", "sst"]
  statistics := [.logNormal "chl", .onMax "sst" ["chl"],
    .percentile "sst" 90, .average "sst" 0]
  superSampling := 3
  period := some ⟨58000, infinity⟩

/-- The same, with the largest temperature recorded beside itself under one
name. -/
def clashing : Settings :=
  { openEnded with statistics := [.extrema "sst", .onMax "sst" []] }

theorem openEnded_valid : openEnded.Valid where
  grid := by
    show 180 % 2 = 0 ∧ 2 ≤ 180
    decide
  superSampling := by decide
  statistics := by simp [openEnded]
  variableNames := by decide
  period := by
    rintro p ⟨⟩
    exact ⟨by decide, by decide⟩
  inRange := by
    simp [openEnded, StatisticSpec.InRange]
    decide
  known := by simp [openEnded, StatisticSpec.variableNames]
  outputs := by decide +kernel

/-- An endless period is valid, and a name for two features is not. -/
theorem ofSettings?_isOk_iff_valid_openEnded :
    openEnded.check = .ok () ∧ (∃ grid, openEnded.grid.build = .ok grid)
    ∧ openEnded.Valid ∧ (∃ r, ofSettings? openEnded = .ok r)
    ∧ ¬ clashing.Valid
    ∧ ∃ cause, ofSettings? clashing = .error (.settings cause) := by
  have valid := openEnded_valid
  have invalid : ¬ clashing.Valid := by
    intro valid
    exact absurd valid.outputs (by decide +kernel)
  have checked : openEnded.check = .ok () := by
    obtain ⟨⟨⟩, h⟩ :=
      openEnded.check_succeedsIff.isOk_iff.mpr valid.toUsable
    exact h
  obtain ⟨accepts, -, lays⟩ := ofSettings?_isOk_iff_valid openEnded
  obtain ⟨-, refuses, -⟩ := ofSettings?_isOk_iff_valid clashing
  exact ⟨checked, lays checked, valid, accepts.mpr valid, invalid,
    refuses invalid⟩

end Reducer

end EarthBins
