/-
Which passes a reducer bins.

A pass is looked at before any of its samples is read: whether it has the
times that are asked for, as many planes as there are variables, one size
for planes and mask, a slice inside that size, and no more sample positions
than can be counted. `Reducer.Accepts` says this as one condition. A pass
that meets it is binned, whatever its samples, positions and times are; any
other is refused with the cause.

# Why nothing is read beyond an end

An access beyond the end of a raster, a sample list or a vector would be the
error `outOfBounds`, and no pass ends with it. `Reducer.InBounds` says the
same of the numbers that are used as indices and divisors: they are bounded
by the check of the rasters, by the places of the variables that were found
when the reducer was made, and by the width of the panel.
-/
import EarthBins.Proofs.Binning.Features
import EarthBins.Proofs.Panel.Isolation
import EarthBins.Proofs.Reducer.Conservation
import EarthBins.Proofs.Reducer.Construction

namespace EarthBins

open Outcome

/-- Whether an error refuses a pass: times are missing, or the rasters are
not as they should be. -/
def Error.IsRefusal (e : Error) : Prop :=
  e.kind = .missingTime ∨ e.kind = .invalidInput

theorem Error.isRefusal_missingTime (pass : String) :
    IsRefusal (.missingTime pass) :=
  Or.inl rfl

theorem Error.isRefusal_input (cause : InputError) :
    IsRefusal (.input cause) :=
  Or.inr rfl

-- ============================================================= rasters

namespace Scene

variable {α : Type}

/-- The size of a raster is that of one of its planes or its mask. -/
theorem exists_of_rasterSize? {planes : List (Plane α)}
    {mask : Option (Plane α)} {width height : Nat}
    (h : rasterSize? planes mask = some (width, height)) :
    ∃ p ∈ planes ++ mask.toList, p.width = width ∧ p.height = height := by
  obtain ⟨p, hp, same⟩ := Option.map_eq_some_iff.mp h
  have hmem : p ∈ planes ++ mask.toList := by
    cases planes with
    | nil =>
        rw [List.head?_nil, Option.none_or] at hp
        simp [hp]
    | cons q planes =>
        rw [List.head?_cons, Option.some_or] at hp
        cases hp
        exact List.mem_cons_self
  injection same with hw hh
  exact ⟨p, hmem, hw, hh⟩

/-- Rasters are accepted if they are all of the first one's size and the
window is inside. -/
theorem checkRasters_succeedsIff {planes : List (Plane α)}
    {mask : Option (Plane α)} {width height : Nat} (window : Window)
    (size : rasterSize? planes mask = some (width, height)) :
    SucceedsIff Error.IsRefusal (checkRasters planes mask window)
      ((∀ p ∈ planes ++ mask.toList, p.width = width ∧ p.height = height)
        ∧ window.fitsWithin width height = true) where
  isOk_iff := by
    constructor
    · rintro ⟨⟨⟩, checked⟩
      obtain ⟨w, h, same, both⟩ := checkRasters_eq_ok.mp checked
      rw [size] at same
      cases same
      exact both
    · intro both
      exact ⟨(), checkRasters_eq_ok.mpr ⟨width, height, size, both⟩⟩
  error := by
    intro e he
    unfold checkRasters at he
    rw [size] at he
    dsimp only at he
    split at he
    · cases he
      exact Error.isRefusal_input _
    · split at he
      · cases he
      · cases he
        exact Error.isRefusal_input _

end Scene

/-- A window is sampled if its positions can be counted. -/
theorem Sampling.of?_succeedsIff (w : Window) {factor : Nat}
    (limits : 1 ≤ factor ∧ factor ≤ 16) :
    SucceedsIff Error.IsRefusal (of? w factor)
      (w.pixelCount * (factor * factor) < UInt64.size) := by
  unfold of?
  rw [dif_pos limits]
  split
  · rename_i fits
    exact (SucceedsIff.ok _).congr (iff_of_true trivial fits)
  · rename_i tooMany
    exact (SucceedsIff.fails (Error.isRefusal_input _)).congr
      (iff_of_false id tooMany)

/-- An observation has a sample of every plane. -/
theorem Scene.length_samples {s : Scene Float} {sampling : Sampling}
    (covers : s.Covers sampling.window)
    {observations : List (Observation Float)}
    (observed : s.observations sampling = .ok observations)
    {o : Observation Float} (ho : o ∈ observations) :
    o.samples.length = s.planes.length := by
  rw [observations_eq covers] at observed
  cases observed
  obtain ⟨p, -, hp⟩ := List.mem_filterMap.mp ho
  unfold yieldAt? viewAt? at hp
  split at hp
  · obtain ⟨position, -, rfl⟩ := Option.map_eq_some_iff.mp hp
    exact List.length_map _
  · cases hp

-- ======================================================= made reducers

namespace Reducer

/-- What a reducer has of the settings it is made of. -/
structure MadeOf (r : Reducer Float) (s : Settings) : Prop where
  valid : s.Valid
  variableNames : r.variableNames = s.variableNames
  superSampling : r.superSampling = s.superSampling.toNat
  period : r.rule.period = s.period
  panel : Panel.ofSpecs? s.statistics s.variableNames = .ok r.rule.panel

variable {s : Settings} {r : Reducer Float}

theorem madeOf_of_ofSettings? (made : ofSettings? s = .ok r) :
    r.MadeOf s := by
  have valid := (ofSettings?_succeedsIff s).isOk_iff.mp ⟨r, made⟩
  obtain ⟨-, -, made⟩ := bind_eq_ok.mp made
  obtain ⟨grid, -, made⟩ := bind_eq_ok.mp made
  obtain ⟨panel, hpanel, made⟩ := bind_eq_ok.mp made
  cases made
  exact ⟨valid, rfl, rfl, rfl, hpanel⟩

theorem MadeOf.limits (made : r.MadeOf s) :
    1 ≤ r.superSampling ∧ r.superSampling ≤ 16 := by
  rw [made.superSampling]
  exact made.valid.superSampling

/-- There is a variable: that of some statistic. -/
theorem MadeOf.variableNames_ne_nil (made : r.MadeOf s) :
    r.variableNames ≠ [] := by
  obtain ⟨spec, hspec⟩ := List.exists_mem_of_ne_nil _ made.valid.statistics
  have named : ∃ name, name ∈ spec.variableNames := by
    cases spec with
    | logNormal name => exact ⟨name, List.mem_singleton_self name⟩
    | onMax key payload => exact ⟨key, List.mem_cons_self⟩
    | average name weightCoeff => exact ⟨name, List.mem_singleton_self name⟩
    | extrema name => exact ⟨name, List.mem_singleton_self name⟩
    | percentile name percentage =>
        exact ⟨name, List.mem_singleton_self name⟩
  obtain ⟨name, hname⟩ := named
  have known := made.valid.known spec hspec name hname
  rw [made.variableNames]
  exact List.ne_nil_of_mem known

/-- The samples of as many planes as there are variables are all that the
panel reads. -/
theorem MadeOf.enough (made : r.MadeOf s) {samples : List Float}
    (complete : samples.length = r.variableNames.length) :
    r.rule.panel.Enough samples := by
  intro x hx slot hslot
  obtain ⟨spec, -, hspec⟩ :=
    exists_of_mem_mapM (Panel.statistics_of_ofSpecs? made.panel) hx
  rw [complete, made.variableNames]
  exact spec.slots_lt hspec slot hslot

-- ========================================================== acceptance

/-- Whether a pass is in order: it has times if a period is given and a
plane for every variable, planes and mask are of one size, the slice lies
inside, and its sample positions can be counted with 64 bits. -/
structure Accepts (r : Reducer Float) (pass : Pass Float) : Prop where
  timed : r.rule.period = none ∨ pass.scene.timing.isSome = true
  planes : pass.scene.planes.length = r.variableNames.length
  sizes : ∀ p ∈ pass.scene.planes ++ pass.scene.mask.toList,
    ∀ q ∈ pass.scene.planes ++ pass.scene.mask.toList,
      p.width = q.width ∧ p.height = q.height
  inside : ∀ p ∈ pass.scene.planes ++ pass.scene.mask.toList,
    pass.slice.x + pass.slice.width ≤ p.width
      ∧ pass.slice.y + pass.slice.height ≤ p.height
  positions : pass.slice.width * pass.slice.height
    * (r.superSampling * r.superSampling) < 2 ^ 64

/-- Where there are planes, the rasters of a pass are of one size with the
slice inside just where they have the size that is looked for. -/
theorem accepts_iff {pass : Pass Float} {width height : Nat}
    (size : Scene.rasterSize? pass.scene.planes pass.scene.mask
      = some (width, height)) :
    r.Accepts pass ↔
      (r.rule.period = none ∨ pass.scene.timing.isSome = true)
      ∧ pass.scene.planes.length = r.variableNames.length
      ∧ ((∀ p ∈ pass.scene.planes ++ pass.scene.mask.toList,
          p.width = width ∧ p.height = height)
        ∧ pass.slice.fitsWithin width height = true)
      ∧ pass.slice.pixelCount * (r.superSampling * r.superSampling)
        < UInt64.size := by
  obtain ⟨first, hfirst, rfl, rfl⟩ := Scene.exists_of_rasterSize? size
  simp only [Window.fitsWithin, Bool.and_eq_true, decide_eq_true_eq]
  constructor
  · intro accepts
    exact ⟨accepts.timed, accepts.planes,
      ⟨fun p hp => accepts.sizes p hp first hfirst,
        accepts.inside first hfirst⟩, accepts.positions⟩
  · rintro ⟨timed, planes, ⟨same, inside⟩, positions⟩
    refine ⟨timed, planes, ?_, ?_, positions⟩
    · intro p hp q hq
      obtain ⟨hpw, hph⟩ := same p hp
      obtain ⟨hqw, hqh⟩ := same q hq
      exact ⟨hpw.trans hqw.symm, hph.trans hqh.symm⟩
    · intro p hp
      obtain ⟨hw, hh⟩ := same p hp
      rw [hw, hh]
      exact inside

/-- A pass has a sampling if it is in order, and is refused otherwise. -/
theorem MadeOf.samplingOf_succeedsIff (made : r.MadeOf s)
    (pass : Pass Float) :
    SucceedsIff Error.IsRefusal (r.samplingOf pass) (r.Accepts pass) := by
  unfold samplingOf
  dsimp only
  have late : (r.rule.period.isSome && pass.scene.timing.isNone) = true
      ↔ ¬ (r.rule.period = none ∨ pass.scene.timing.isSome = true) := by
    cases r.rule.period <;> cases pass.scene.timing <;> simp
  by_cases timed : r.rule.period = none ∨ pass.scene.timing.isSome = true
  case neg =>
    rw [if_pos (late.mpr timed)]
    exact (SucceedsIff.fails (Error.isRefusal_missingTime _)).congr
      (iff_of_false id fun accepts => timed accepts.timed)
  rw [if_neg fun h => late.mp h timed]
  by_cases planes : pass.scene.planes.length = r.variableNames.length
  case neg =>
    rw [if_pos planes]
    exact (SucceedsIff.fails (Error.isRefusal_input _)).congr
      (iff_of_false id fun accepts => planes accepts.planes)
  rw [if_neg (not_not.mpr planes)]
  -- as many planes as variables are some, so there is a raster
  have nonempty : pass.scene.planes ≠ [] := by
    rw [← List.length_pos_iff, planes, List.length_pos_iff]
    exact made.variableNames_ne_nil
  obtain ⟨first, others, hplanes⟩ := List.exists_cons_of_ne_nil nonempty
  have size : Scene.rasterSize? pass.scene.planes pass.scene.mask
      = some (first.width, first.height) := by
    rw [hplanes]
    rfl
  have slice : pass.window.getD (Window.full first.width first.height)
      = pass.slice := by
    unfold Pass.slice
    rw [size]
    rfl
  rw [size]
  dsimp only
  rw [slice]
  refine ((Scene.checkRasters_succeedsIff _ size).bind fun _ _ =>
    Sampling.of?_succeedsIff _ made.limits).congr ?_
  rw [accepts_iff size]
  exact ⟨fun h => ⟨timed, planes, h⟩, fun h => h.2.2⟩

-- ======================================================= inside all ends

/-- Whether what is used as an index or a divisor while a pass is binned is
within its bounds: at every sample position of the walk and after any number
of observations. -/
structure InBounds (r : Reducer Float) (pass : Pass Float)
    (sampling : Sampling) : Prop where
  /-- The number of a position is divided by these two. -/
  divisors : ∀ n < sampling.size,
    0 < sampling.perPixel ∧ 0 < sampling.window.width
  /-- A position has one of the places in the subdivision of a pixel. -/
  places : ∀ n < sampling.size,
    n % sampling.perPixel < r.superSampling * r.superSampling
  /-- A position belongs to a pixel of every plane and of the mask. -/
  pixels : ∀ n < sampling.size,
    ∀ p ∈ pass.scene.planes ++ pass.scene.mask.toList,
      (sampling.point n : SamplePoint Float).x < p.width
        ∧ (sampling.point n : SamplePoint Float).y < p.height
  /-- Statistics find their variables among the samples. -/
  samples : ∀ observations, pass.scene.observations sampling
    = .ok observations → ∀ o ∈ observations, r.rule.panel.Enough o.samples
  /-- The vectors of all bins have a part for every statistic. -/
  features : ∀ observations, pass.scene.observations sampling
    = .ok observations → ∀ done, done <+: observations →
      ∃ b, PassBinner.empty.addAll r.rule done = .ok b
        ∧ b.Wide r.rule.panel

theorem MadeOf.inBounds (made : r.MadeOf s) {pass : Pass Float}
    (accepts : r.Accepts pass) {sampling : Sampling}
    (sampled : r.samplingOf pass = .ok sampling) :
    r.InBounds pass sampling := by
  obtain ⟨window, factor, checked⟩ := samplingOf_eq_ok sampled
  have covers := Scene.covers_of_checkRasters checked
  have inside {n : Nat} (hn : n < sampling.size) :=
    sampling.contains_point (α := Float) hn
  have positive : 0 < sampling.perPixel :=
    Nat.mul_pos sampling.one_le_factor sampling.one_le_factor
  have enough {observations : List (Observation Float)}
      (observed : pass.scene.observations sampling = .ok observations) :
      ∀ o ∈ observations, r.rule.panel.Enough o.samples := by
    intro o ho
    refine made.enough ?_
    rw [Scene.length_samples covers observed ho, accepts.planes]
  constructor
  case divisors =>
    intro n hn
    have column := (inside hn).1
    exact ⟨positive, by omega⟩
  case places =>
    intro n _
    rw [← factor]
    exact Nat.mod_lt n positive
  case pixels =>
    intro n hn p hp
    exact (inside hn).lt (covers p hp)
  case samples =>
    intro observations observed
    exact enough observed
  case features =>
    intro observations observed done begun
    exact PassBinner.addAll_isOk fun o ho =>
      enough observed o (begun.subset ho)

/-- A pass that is in order is binned. -/
theorem MadeOf.binPass_isOk (made : r.MadeOf s) {pass : Pass Float}
    (accepts : r.Accepts pass) {sampling : Sampling}
    (sampled : r.samplingOf pass = .ok sampling) :
    ∃ bins, r.binPass pass = .ok bins := by
  obtain ⟨-, -, checked⟩ := samplingOf_eq_ok sampled
  obtain ⟨observations, observed⟩ := Scene.observations_isOk checked
  have bounds := made.inBounds accepts sampled
  obtain ⟨bins, binned⟩ :=
    BinningRule.binPass_isOk (bounds.samples observations observed)
  refine ⟨bins, ?_⟩
  rw [binPass, sampled, ok_bind, observed, ok_bind]
  exact binned

/-- A reducer bins the passes that are in order and no others. While it does,
no sample is read outside its plane, none is looked for behind the last one,
no part of a vector is missing and nothing is divided by a width of zero.
Any other pass is refused before a sample is read. -/
theorem binPass_isOk_iff_accepts (made : ofSettings? s = .ok r)
    (pass : Pass Float) :
    ((∃ bins, r.binPass pass = .ok bins) ↔ r.Accepts pass)
    ∧ (r.Accepts pass → ∃ sampling, r.samplingOf pass = .ok sampling
      ∧ r.InBounds pass sampling)
    ∧ (¬ r.Accepts pass → ∃ e, r.samplingOf pass = .error e
      ∧ r.binPass pass = .error e ∧ e.IsRefusal) := by
  have made := madeOf_of_ofSettings? made
  have decided := made.samplingOf_succeedsIff pass
  refine ⟨⟨?_, ?_⟩, ?_, ?_⟩
  · rintro ⟨bins, binned⟩
    obtain ⟨sampling, sampled, -⟩ := bind_eq_ok.mp binned
    exact decided.isOk_iff.mp ⟨sampling, sampled⟩
  · intro accepts
    obtain ⟨sampling, sampled⟩ := decided.isOk_iff.mpr accepts
    exact made.binPass_isOk accepts sampled
  · intro accepts
    obtain ⟨sampling, sampled⟩ := decided.isOk_iff.mpr accepts
    exact ⟨sampling, sampled, made.inBounds accepts sampled⟩
  · intro refused
    obtain ⟨e, he, refusal⟩ := decided.exists_error refused
    refine ⟨e, he, ?_, refusal⟩
    rw [binPass, he, error_bind]

/-- The last columns of a raster for two variables, masked in part. -/
def edgePass : Pass Float where
  name := "edge"
  scene := {
    planes := [Plane.filled 3 2 4, Plane.filled 3 2 280]
    mask := some ⟨3, 2, #[1, 1, 0, 1, 1, 1], rfl⟩
    geolocation := .affine ⟨10, 1, -1, 1⟩
    timing := some (.constant 58000.5) }
  window := some ⟨1, 0, 2, 2⟩

/-- The same without times. -/
def untimedPass : Pass Float :=
  { edgePass with scene := { edgePass.scene with timing := none } }

/-- A slice at the edge of its raster is binned; where a period selects by
time, a pass without times is refused. -/
theorem binPass_isOk_iff_accepts_edgePass : ∃ r,
    ofSettings? openEnded = .ok r
    ∧ r.Accepts edgePass ∧ (∃ bins, r.binPass edgePass = .ok bins)
    ∧ ¬ r.Accepts untimedPass
    ∧ ∃ e, r.binPass untimedPass = .error e ∧ e.IsRefusal := by
  obtain ⟨r, made⟩ :=
    (ofSettings?_succeedsIff openEnded).isOk_iff.mpr openEnded_valid
  have parts := madeOf_of_ofSettings? made
  have accepts : r.Accepts edgePass := {
    timed := Or.inr rfl
    planes := by
      rw [parts.variableNames]
      rfl
    sizes := by simp [edgePass, Plane.filled]
    inside := by simp [edgePass, Plane.filled, Pass.slice]
    positions := by
      rw [parts.superSampling]
      decide }
  have late : ¬ r.Accepts untimedPass := by
    intro accepts
    rcases accepts.timed with always | timed
    · rw [parts.period] at always
      cases always
    · cases timed
  obtain ⟨binned, -, -⟩ := binPass_isOk_iff_accepts made edgePass
  obtain ⟨-, -, refused⟩ := binPass_isOk_iff_accepts made untimedPass
  obtain ⟨e, -, he, refusal⟩ := refused late
  exact ⟨r, made, accepts, binned.mpr accepts, late, e, he, refusal⟩

end Reducer

end EarthBins
