/-
Panels that a configuration selects.

A configuration is resolved statistic by statistic, each against the
variables of the run, and the slots it finds lie in every vector of samples
of these variables. A statistic that was accepted among others is accepted
alone. With this the two runs of a workspace become two runs of
configurations, and `calls_part` says what a user of a panel relies on:
adding statistics to a configuration does not change the numbers of those
it had.
-/
import EarthBins.Proofs.Panel.Workspace
import EarthBins.Proofs.Statistic.Selection

namespace EarthBins

open Outcome

variable {α : Type} [Scalar α]

-- ============================================================ resolving

namespace Panel

omit [Scalar α] in
theorem statistics_of_ofList? {statistics : List (Statistic α)}
    {panel : Panel α} (h : ofList? statistics = .ok panel) :
    panel.statistics = statistics := by
  unfold ofList? at h
  split at h
  · cases h
  · split at h
    · cases h
    · cases h
      rfl

omit [Scalar α] in
/-- Statistics with distinct output names make a panel. -/
theorem ofList?_isOk {statistics : List (Statistic α)}
    (nonempty : statistics ≠ [])
    (nodup : (statistics.flatMap (·.names.output)).Nodup) :
    ∃ panel, ofList? statistics = .ok panel
      ∧ panel.statistics = statistics := by
  have unique := Text.firstRepeat?_eq_none_iff.mpr nodup
  cases h : ofList? statistics with
  | ok panel => exact ⟨panel, rfl, statistics_of_ofList? h⟩
  | error e =>
      exfalso
      unfold ofList? at h
      rw [dif_neg nonempty] at h
      split at h
      · rename_i name repeated
        rw [unique] at repeated
        cases repeated
      · cases h

/-- The statistics of a configured panel are those of the configuration,
resolved. -/
theorem statistics_of_ofSpecs? {specs : List (StatisticSpec α)}
    {known : List String} {panel : Panel α}
    (h : ofSpecs? specs known = .ok panel) :
    specs.mapM (·.resolve known) = .ok panel.statistics := by
  obtain ⟨statistics, hs, h⟩ := bind_eq_ok.mp h
  rw [statistics_of_ofList? h]
  exact hs

/-- A selection that is accepted among others is accepted alone. -/
theorem ofSpecs?_singleton {specs : List (StatisticSpec α)}
    {known : List String} {panel : Panel α}
    (accepted : ofSpecs? specs known = .ok panel) {i : Nat}
    (hi : i < specs.length) :
    ∃ x alone, panel.statistics[i]? = some x
      ∧ ofSpecs? [specs[i]] known = .ok alone ∧ alone.statistics = [x] := by
  obtain ⟨x, hx, hspec⟩ :=
    getElem_of_mapM (statistics_of_ofSpecs? accepted) hi
  have nodup : ([x].flatMap (·.names.output)).Nodup := by
    rw [List.flatMap_singleton]
    exact (List.nodup_flatMap.mp panel.nodup_output).1 x
      (List.mem_of_getElem? hx)
  obtain ⟨alone, halone, single⟩ :=
    ofList?_isOk (List.cons_ne_nil x []) nodup
  refine ⟨x, alone, hx, ?_, single⟩
  unfold ofSpecs?
  rw [List.mapM_cons, hspec, ok_bind]
  exact halone

omit [Scalar α] in
/-- Where the part of the `i`-th statistic begins. -/
def offset (p : Panel α) (role : Role) (i : Nat) : Nat :=
  (namesOf role (p.statistics.take i)).length

omit [Scalar α] in
/-- The part of the `i`-th statistic in a vector. -/
def partOf (p : Panel α) (role : Role) (i : Nat) (v : FeatureVector α) :
    FeatureVector α :=
  slice (p.offset role i) (p.offset role (i + 1) - p.offset role i) v

omit [Scalar α] in
theorem partOf_eq {p : Panel α} {i : Nat} {x : Statistic α}
    (hx : p.statistics[i]? = some x) (role : Role) :
    p.partOf role i = partAt role (p.statistics.take i) x := by
  funext v
  have next : p.offset role (i + 1) = p.offset role i + width role x := by
    rw [offset, List.take_add_one, hx, length_namesOf_append,
      Option.toList_some, length_namesOf_cons]
    rfl
  rw [partOf, next, Nat.add_sub_cancel_left]
  rfl

end Panel

/-- Statistics that share a panel do not interfere. Whatever calls are made
on the bins and storages of a panel, and in whatever order, the part of a
statistic in every vector is the vector which the same calls make of that
statistic alone, and under its names the storages hold the same. No other
statistic of the panel owns one of these names. -/
theorem calls_part {specs : List (StatisticSpec Float)}
    {known : List String} {panel : Panel Float}
    (accepted : Panel.ofSpecs? specs known = .ok panel) {i : Nat}
    (hi : i < specs.length) :
    ∃ x alone, panel.statistics[i]? = some x
      ∧ Panel.ofSpecs? [specs[i]] known = .ok alone
      ∧ alone.statistics = [x]
      ∧ (∀ j y, j ≠ i → panel.statistics[j]? = some y →
        ∀ name ∈ x.storageNames, name ∉ y.storageNames)
      ∧ ∀ cs : List (PanelCall Float), (∀ c ∈ cs, c.Fits known.length) →
        ∃ w w', panel.calls .empty cs = .ok w
          ∧ alone.calls .empty cs = .ok w'
          ∧ (∀ j, w'.passBins j = (w.passBins j).map fun bin =>
            { bin with features := panel.partOf .spatial i bin.features })
          ∧ (∀ j, w'.runBins j = (w.runBins j).map fun bin =>
            { bin with features := panel.partOf .temporal i bin.features })
          ∧ (∀ j, w'.outputs j = (w.outputs j).map fun bin =>
            { bin with features := panel.partOf .output i bin.features })
          ∧ ∀ j, ∀ name ∈ x.storageNames,
            (w.storages j).entries[name]? = (w'.storages j).entries[name]?
    := by
  obtain ⟨x, alone, hx, halone, single⟩ :=
    Panel.ofSpecs?_singleton accepted hi
  obtain ⟨hlt, hget⟩ := List.getElem?_eq_some_iff.mp hx
  have whole : panel.statistics = panel.statistics.take i
      ++ x :: panel.statistics.drop (i + 1) := by
    rw [← hget, List.getElem_cons_drop, List.take_append_drop]
  have among : Among panel alone (panel.statistics.take i) x
      (panel.statistics.drop (i + 1)) :=
    ⟨whole, single⟩
  refine ⟨x, alone, hx, halone, single, ?_, ?_⟩
  · intro j y hj hy
    -- `y` is one of the statistics before or behind the `i`-th
    refine panel.storageNames_apart whole y (List.mem_append.mpr ?_)
    rcases Nat.lt_or_gt_of_ne hj with hlt' | hgt
    · refine Or.inl (List.mem_of_getElem? (i := j) ?_)
      rw [List.getElem?_take_of_lt hlt', hy]
    · refine Or.inr (List.mem_of_getElem? (i := j - (i + 1)) ?_)
      rw [List.getElem?_drop, Nat.add_sub_cancel' hgt, hy]
  · intro cs fits
    have slots : ∀ y ∈ panel.statistics, ∀ slot ∈ y.slots,
        slot < known.length := by
      intro y hy
      obtain ⟨spec, -, hspec⟩ :=
        exists_of_mem_mapM (Panel.statistics_of_ofSpecs? accepted) hy
      exact spec.slots_lt hspec
    -- empty workspaces are alike, and they have no vector to be too short
    have start : Workspace.Alike (panel.statistics.take i) x
        (.empty : Workspace Float) .empty :=
      ⟨fun _ => ⟨Scratch.AgreeOn.refl _ _, rfl⟩, fun _ => rfl,
        fun _ => rfl, fun _ => rfl⟩
    have wide : Workspace.Wide panel .empty :=
      ⟨fun _ _ made => (Option.some_ne_none _ made.symm).elim,
        fun _ _ made => (Option.some_ne_none _ made.symm).elim⟩
    obtain ⟨w, w', hw, hw', alike⟩ := among.calls_alike slots start wide fits
    simp only [Panel.partOf_eq hx]
    exact ⟨w, w', hw, hw', alike.passBins, alike.runBins, alike.outputs,
      fun j => (alike.storages j).1⟩

/-- Two percentiles of one variable. -/
def twoPercentiles : List (StatisticSpec Float) :=
  [.percentile "a" 50, .percentile "a" 90]

/-- One bin with one observation, on its way to the output. -/
def oneObservation : List (PanelCall Float) :=
  [.openStorage 0 7, .createPassBin 0 0, .observe 0 0 [3],
    .completePassBin 0 0, .openStorage 1 7, .createRunBin 1 0,
    .addPass 1 0 0, .completeRunBin 1 0, .output 0]

/-- The second of two percentiles keeps its values to itself. -/
theorem calls_part_percentiles : ∃ panel alone w w' out,
    Panel.ofSpecs? twoPercentiles ["a"] = .ok panel
    ∧ Panel.ofSpecs? [StatisticSpec.percentile "a" 90] ["a"] = .ok alone
    ∧ panel.calls .empty oneObservation = .ok w
    ∧ alone.calls .empty oneObservation = .ok w'
    ∧ w.outputs 0 = some out
    ∧ w'.outputs 0 = some { out with
      features := panel.partOf .output 1 out.features } := by
  have made : ((Panel.ofSpecs? twoPercentiles ["a"]).bind fun panel =>
      (panel.calls .empty oneObservation).map fun w =>
        (w.outputs 0).isSome).toOption = some true := by
    decide +kernel
  obtain ⟨panel, accepted⟩ :
      ∃ panel, Panel.ofSpecs? twoPercentiles ["a"] = .ok panel := by
    cases h : Panel.ofSpecs? twoPercentiles ["a"] with
    | ok panel => exact ⟨panel, rfl⟩
    | error e =>
        rw [h] at made
        cases made
  rw [accepted] at made
  obtain ⟨x, alone, -, halone, -, -, total⟩ :=
    calls_part accepted (i := 1) (by decide)
  have fits : ∀ c ∈ oneObservation, c.Fits ["a"].length := by
    simp [oneObservation, PanelCall.Fits]
  obtain ⟨w, w', hw, hw', -, -, outputs, -⟩ := total oneObservation fits
  change ((panel.calls .empty oneObservation).map fun w =>
    (w.outputs 0).isSome).toOption = some true at made
  rw [hw] at made
  obtain ⟨out, hout⟩ := Option.isSome_iff_exists.mp (Option.some.inj made)
  exact ⟨panel, alone, w, w', out, accepted, halone, hw, hw', hout,
    by rw [outputs, hout, Option.map_some]⟩

end EarthBins
