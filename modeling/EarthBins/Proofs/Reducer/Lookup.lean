/-
Output features by their names.

A report keeps the output features of a bin as one vector and their names
in a list of its own. A feature is looked up at the place of the first name
that matches, while the values were written at the offset of their
statistic. The two places are one: names and values are put together in the
same order and in the same lengths, and no name is there twice.

# The lookup

`findIdx?_namesOf` is about the names alone, `getElem?_partOf` about the
vectors; both speak of the offset of the statistic. That a place in the
names is a place in the vector is what the widths are for: every vector of
a run has the length of its schema (`Reducer.measured`).
-/
import EarthBins.Proofs.Binning.Widths
import EarthBins.Proofs.Reducer.Acceptance

namespace EarthBins

open Outcome

-- ================================================================ names

namespace Panel

variable {α : Type}

/-- A list of statistics makes a panel if it has one and no output name
twice. -/
theorem ofList?_isOk_iff {statistics : List (Statistic α)} :
    (∃ p, ofList? statistics = .ok p)
      ↔ statistics ≠ [] ∧ (namesOf .output statistics).Nodup := by
  constructor
  · rintro ⟨p, hp⟩
    have same := statistics_of_ofList? hp
    rw [← same]
    exact ⟨p.nonempty, p.nodup_output⟩
  · rintro ⟨nonempty, nodup⟩
    obtain ⟨p, hp, -⟩ := ofList?_isOk nonempty nodup
    exact ⟨p, hp⟩

variable {p : Panel α} {i : Nat} {x : Statistic α}

/-- The statistics before and behind the `i`-th. -/
theorem statistics_split (hx : p.statistics[i]? = some x) :
    p.statistics
      = p.statistics.take i ++ x :: p.statistics.drop (i + 1) := by
  obtain ⟨hi, rfl⟩ := List.getElem?_eq_some_iff.mp hx
  rw [List.getElem_cons_drop, List.take_append_drop]

/-- The names of a statistic stand at its offset. -/
theorem getElem?_namesOf (hx : p.statistics[i]? = some x) (role : Role)
    {j : Nat} (hj : j < width role x) :
    (namesOf role p.statistics)[p.offset role i + j]?
      = (x.names.ofRole role)[j]? := by
  have names : namesOf role p.statistics
      = namesOf role (p.statistics.take i)
        ++ (x.names.ofRole role
          ++ namesOf role (p.statistics.drop (i + 1))) := by
    conv_lhs => rw [statistics_split hx]
    rw [namesOf, List.flatMap_append, List.flatMap_cons]
    rfl
  rw [names, offset, List.getElem?_append_right (Nat.le_add_right ..),
    Nat.add_sub_cancel_left, List.getElem?_append_left hj]

/-- An output name is found at its place in the names of its statistic. -/
theorem findIdx?_namesOf (hx : p.statistics[i]? = some x) {j : Nat}
    {name : String} (hname : x.names.output[j]? = some name) :
    (namesOf .output p.statistics).findIdx? (· == name)
      = some (p.offset .output i + j) := by
  have found : (namesOf .output p.statistics)[p.offset .output i + j]?
      = some name := by
    rw [getElem?_namesOf hx .output (List.getElem?_eq_some_iff.mp hname).1]
    exact hname
  obtain ⟨inside, here⟩ := List.getElem?_eq_some_iff.mp found
  refine List.findIdx?_eq_some_iff_getElem.mpr
    ⟨inside, beq_iff_eq.mpr here, fun k hk same => ?_⟩
  -- a match before it would be the same name at another place
  have twice := p.nodup_output.getElem_inj_iff.mp
    ((beq_iff_eq.mp same).trans here.symm)
  exact absurd twice (Nat.ne_of_lt hk)

/-- A slot of the part of a statistic is a slot of the vector. -/
theorem getElem?_partOf (hx : p.statistics[i]? = some x) (role : Role)
    (v : FeatureVector α) {j : Nat} (hj : j < width role x) :
    (p.partOf role i v)[j]? = v[p.offset role i + j]? := by
  rw [partOf_eq hx, partAt, slice, List.getElem?_take_of_lt hj,
    List.getElem?_drop]
  rfl

end Panel

-- ============================================================ the widths

namespace Reducer

variable {r : Reducer Float}

/-- Whether the vectors of the runs of a reducer have the lengths of their
schemas, whatever is binned. -/
structure Measured (r : Reducer Float) : Prop where
  /-- Before the first observation of a pass. -/
  opened : ∀ s s' bin, r.rule.panel.createPassBin s = .ok (s', bin) →
    bin.features.length = (r.rule.panel.schema .spatial).names.length
  /-- While the observations of a pass are folded. -/
  reading : ∀ observations b,
    PassBinner.empty.addAll r.rule observations = .ok b →
    ∀ (k : Nat) entry, b.bins[k]? = some entry →
      entry.2.features.length = (r.rule.panel.schema .spatial).names.length
  /-- When the pass has been read. -/
  read : ∀ pass bins, r.binPass pass = .ok bins → ∀ bin ∈ bins,
    bin.features.length = (r.rule.panel.schema .spatial).names.length
  /-- Before the first completed bin of a pass. -/
  begun : ∀ s s' bin, r.rule.panel.createRunBin s = .ok (s', bin) →
    bin.features.length = (r.rule.panel.schema .temporal).names.length
  /-- While completed bins of passes are folded. -/
  merging : ∀ bins b, RunBinner.empty.addAll r.rule.panel bins = .ok b →
    ∀ (k : Nat) entry, b.bins[k]? = some entry →
      entry.2.features.length = (r.rule.panel.schema .temporal).names.length
  /-- When all of them have been folded. -/
  merged : ∀ bins k done, r.rule.panel.Completes bins k done →
    done.features.length = (r.rule.panel.schema .temporal).names.length
  /-- When the outputs have been computed. -/
  reported : ∀ bins m, r.merge bins = .ok m →
    ∀ (k : Nat) out, m[k]? = some out →
      out.features.length = (r.rule.panel.schema .output).names.length

theorem measured (r : Reducer Float) : r.Measured where
  opened _ _ _ h := Panel.length_createPassBin h
  reading _ _ h := PassBinner.wide_of_addAll h
  read pass bins h := by
    obtain ⟨sampling, -, h⟩ := bind_eq_ok.mp h
    obtain ⟨observations, -, h⟩ := bind_eq_ok.mp h
    obtain ⟨b, folded, completed⟩ := bind_eq_ok.mp h
    exact PassBinner.length_of_complete (PassBinner.wide_of_addAll folded)
      completed
  begun _ _ _ h := Panel.length_createRunBin h
  merging _ _ h := RunBinner.wide_of_addAll h
  merged _ _ _ h := h.width
  reported bins m h k out hout := by
    rw [merge_eq_mergePasses] at h
    obtain ⟨done, completes, output⟩ := completes_of_mergePasses h hout
    exact Panel.length_output completes.width output

-- ======================================================== inside all ends

/-- A refusal is no access out of bounds. -/
theorem not_isRefusal_outOfBounds : ¬ Error.outOfBounds.IsRefusal := by
  rintro (h | h) <;> cases h

/-- A pass is refused for what is wrong with it, never for an access out of
bounds. -/
theorem samplingOf_ne_outOfBounds (pass : Pass Float) :
    r.samplingOf pass ≠ .error .outOfBounds := by
  intro h
  unfold samplingOf at h
  dsimp only at h
  split at h
  · cases h
  split at h
  · cases h
  split at h
  · cases h
  · rename_i width height size
    rcases bind_eq_error.mp h with checked | ⟨-, -, sampled⟩
    · exact not_isRefusal_outOfBounds
        ((Scene.checkRasters_succeedsIff _ size).error _ checked)
    · unfold Sampling.of? at sampled
      split at sampled
      · split at sampled <;> cases sampled
      · cases sampled

/-- A pass in order has a plane for every variable. -/
theorem planes_of_samplingOf {pass : Pass Float} {sampling : Sampling}
    (h : r.samplingOf pass = .ok sampling) :
    pass.scene.planes.length = r.variableNames.length := by
  unfold samplingOf at h
  dsimp only at h
  split at h
  · cases h
  split at h
  · cases h
  · rename_i planes
    exact not_not.mp planes

/-- Whether the statistics of a reducer find their variables among those of
the reducer. -/
def Finds (r : Reducer Float) : Prop :=
  ∀ x ∈ r.rule.panel.statistics, ∀ slot ∈ x.slots,
    slot < r.variableNames.length

/-- Settings make no reducer whose statistics lack a variable. -/
theorem MadeOf.finds {s : Settings} (made : r.MadeOf s) : r.Finds := by
  intro x hx slot hslot
  have samples := made.enough
    (List.length_replicate : (List.replicate _ (0 : Float)).length = _)
  simpa using samples x hx slot hslot

/-- Nothing is accessed out of bounds while a pass is binned: a pass that
has a sampling is binned, and the others are refused. -/
theorem binPass_ne_outOfBounds (finds : r.Finds) (pass : Pass Float) :
    r.binPass pass ≠ .error .outOfBounds := by
  intro h
  rcases bind_eq_error.mp h with refused | ⟨sampling, sampled, h⟩
  · exact samplingOf_ne_outOfBounds pass refused
  obtain ⟨-, -, checked⟩ := samplingOf_eq_ok sampled
  obtain ⟨observations, observed⟩ := Scene.observations_isOk checked
  have enough : ∀ o ∈ observations, r.rule.panel.Enough o.samples := by
    intro o ho x hx slot hslot
    rw [Scene.length_samples (Scene.covers_of_checkRasters checked) observed
      ho, planes_of_samplingOf sampled]
    exact finds x hx slot hslot
  obtain ⟨bins, binned⟩ := BinningRule.binPass_isOk enough
  have binned : (PassBinner.empty.addAll r.rule observations
      >>= fun b => b.complete r.rule) = .ok bins := binned
  rw [observed, ok_bind, binned] at h
  cases h

theorem run_ne_outOfBounds (finds : r.Finds) (passes : List (Pass Float))
    (cancelled : Bool) : r.run passes cancelled ≠ .error .outOfBounds := by
  intro h
  rcases bind_eq_error.mp h with h | ⟨bins, hbins, h⟩
  · obtain ⟨pass, -, h⟩ := mapM_eq_error h
    unfold binPassUnless at h
    split at h
    · cases h
    · exact binPass_ne_outOfBounds finds pass h
  -- the completed bins are as wide as the panel, so they can be merged
  have wide : ∀ bin ∈ bins.flatten, bin.numObs ≠ 0 →
      r.rule.panel.totalWidth .spatial ≤ bin.features.length := by
    intro bin hbin _
    obtain ⟨ofPass, hofPass, hbin⟩ := List.mem_flatten.mp hbin
    obtain ⟨pass, -, made⟩ := exists_of_mem_mapM hbins hofPass
    unfold binPassUnless at made
    split at made
    · cases made
    · exact (r.measured.read pass ofPass made bin hbin).ge
  obtain ⟨m, merged⟩ := (mergePasses_tabulates _ bins.flatten).isOk
    (outputOf_isOk r.rule.panel wide)
  rw [merge_eq_mergePasses, merged] at h
  cases h

-- ============================================================ the lookup

/-- The completed bins of passes that are merged with those of a number:
all of them, or those of its shard. -/
def mergedWith (r : Reducer Float) (bins : List (PassBin Float)) (k : Nat) :
    List (PassBin Float) :=
  if r.parallel then
    bins.filter fun b => b.index % shardCount == k % shardCount
  else bins

/-- An output bin of a merge is the output of a completed bin of it. -/
theorem completes_of_merge {bins : List (PassBin Float)}
    {m : OutputMap Float} (h : r.merge bins = .ok m) {k : Nat}
    {out : OutputBin Float} (hout : m[k]? = some out) :
    ∃ done, r.rule.panel.Completes (r.mergedWith bins k) k done
      ∧ r.rule.panel.output done = .ok out := by
  unfold merge at h
  unfold mergedWith
  split at h
  · rename_i split
    rw [if_pos split]
    obtain ⟨part, merged, same⟩ := mergePasses_shard (by decide) h k
    exact completes_of_mergePasses merged (same.trans hout)
  · rename_i whole
    rw [if_neg whole]
    exact completes_of_mergePasses h hout

/-- Whether a bin is what a run has under a number after the last pass. -/
def Completes (r : Reducer Float) (passes : List (Pass Float))
    (cancelled : Bool) (k : Nat) (done : RunBin Float) : Prop :=
  ∃ bins, passes.mapM (r.binPassUnless cancelled) = .ok bins
    ∧ r.rule.panel.Completes (r.mergedWith bins.flatten k) k done

variable {passes : List (Pass Float)} {cancelled : Bool}
  {report : Report Float}

theorem featureNames_of_run (h : r.run passes cancelled = .ok report) :
    report.featureNames
      = Panel.namesOf .output r.rule.panel.statistics := by
  obtain ⟨bins, -, h⟩ := bind_eq_ok.mp h
  obtain ⟨merged, -, h⟩ := bind_eq_ok.mp h
  cases h
  rfl

/-- An output bin of a report is the output of a completed bin. -/
theorem completes_of_run (h : r.run passes cancelled = .ok report) {k : Nat}
    {out : OutputBin Float} (hout : report.bins[k]? = some out) :
    ∃ done, r.Completes passes cancelled k done
      ∧ r.rule.panel.output done = .ok out := by
  obtain ⟨bins, binned, h⟩ := bind_eq_ok.mp h
  obtain ⟨merged, hmerged, h⟩ := bind_eq_ok.mp h
  cases h
  obtain ⟨done, completes, output⟩ := completes_of_merge hmerged hout
  exact ⟨done, ⟨bins, binned, completes⟩, output⟩

/-- The output vectors of a report are as long as its names. -/
theorem length_of_run (h : r.run passes cancelled = .ok report) {k : Nat}
    {out : OutputBin Float} (hout : report.bins[k]? = some out) :
    out.features.length = report.featureNames.length := by
  rw [featureNames_of_run h]
  obtain ⟨done, ⟨bins, -, completes⟩, output⟩ := completes_of_run h hout
  exact Panel.length_output completes.width output

end Reducer

namespace Report

variable {α : Type} {report : Report α}

/-- A feature of a bin that is there, by the place of its name. -/
theorem feature?_of_bin {k : Nat} {out : OutputBin α}
    (hout : report.bins[k]? = some out) (name : String) :
    report.feature? k name
      = match report.featureNames.findIdx? (· == name) with
        | some slot => some <$> out.features.value slot
        | none => .ok none := by
  unfold feature?
  rw [hout]
  cases report.featureNames.findIdx? (· == name) <;> rfl

/-- Every feature can be looked up, where the vectors are as long as the
names; it is not found if the name or the bin is not in the report. -/
theorem feature?_isOk
    (wide : ∀ (k : Nat) out, report.bins[k]? = some out →
      out.features.length = report.featureNames.length)
    (k : Nat) (name : String) :
    ∃ found, report.feature? k name = .ok found
      ∧ (found = none
        ↔ name ∉ report.featureNames ∨ k ∉ report.bins) := by
  cases hout : report.bins[k]? with
  | none =>
      have absent : k ∉ report.bins := by
        simp [Std.ExtTreeMap.mem_iff_isSome_getElem?, hout]
      refine ⟨none, ?_, iff_of_true rfl (Or.inr absent)⟩
      unfold feature?
      rw [hout]
      cases report.featureNames.findIdx? (· == name) <;> rfl
  | some out =>
      have present : k ∈ report.bins := by
        simp [Std.ExtTreeMap.mem_iff_isSome_getElem?, hout]
      rw [feature?_of_bin hout]
      cases slot : report.featureNames.findIdx? (· == name) with
      | none =>
          have unknown : name ∉ report.featureNames := fun known => by
            have := List.findIdx?_eq_none_iff.mp slot name known
            simp at this
          exact ⟨none, rfl, iff_of_true rfl (Or.inl unknown)⟩
      | some j =>
          obtain ⟨inside, here, -⟩ :=
            List.findIdx?_eq_some_iff_getElem.mp slot
          have known : name ∈ report.featureNames :=
            beq_iff_eq.mp here ▸ List.getElem_mem inside
          rw [← wide k out hout] at inside
          refine ⟨some out.features[j], ?_, iff_of_false nofun ?_⟩
          · show some <$> out.features.value j = _
            rw [FeatureVector.value_eq_ok _ inside, Outcome.map_ok]
          · rintro (unknown | absent)
            · exact unknown known
            · exact absent present

end Report

namespace Reducer

variable {r : Reducer Float} {passes : List (Pass Float)} {cancelled : Bool}
  {report : Report Float}

/-- Under its name a feature has the value that its statistic computed. -/
theorem feature?_of_run (h : r.run passes cancelled = .ok report) {k : Nat}
    {out : OutputBin Float} (hout : report.bins[k]? = some out)
    {done : RunBin Float} (width : done.features.length
      = r.rule.panel.totalWidth .temporal)
    (computed : r.rule.panel.output done = .ok out) {i : Nat}
    {x : Statistic Float} (hx : r.rule.panel.statistics[i]? = some x) :
    ∃ made, x.phases.output (r.rule.panel.partOf .temporal i done.features)
        = .ok made
      ∧ made.length = x.names.output.length
      ∧ ∀ (j : Nat) name, x.names.output[j]? = some name →
        ∃ value, made[j]? = some value
          ∧ report.feature? k name = .ok (some value) := by
  have whole := Panel.statistics_split hx
  obtain ⟨v, outputs, made⟩ := bind_eq_ok.mp computed
  cases made
  have own := output_part whole width outputs
  rw [← Panel.partOf_eq hx, ← Panel.partOf_eq hx] at own
  have wide := Panel.length_output width computed
  rw [Panel.totalWidth, whole] at wide
  have long : (r.rule.panel.partOf .output i v).length
      = x.names.output.length := by
    rw [Panel.partOf_eq hx]
    exact length_partAt wide
  refine ⟨_, own, long, fun j name hname => ?_⟩
  have hj : j < x.names.output.length :=
    (List.getElem?_eq_some_iff.mp hname).1
  have slot := Panel.getElem?_partOf hx .output v hj
  rw [List.getElem?_eq_getElem (long ▸ hj)] at slot
  refine ⟨_, List.getElem?_eq_getElem (long ▸ hj), ?_⟩
  rw [Report.feature?_of_bin hout, featureNames_of_run h,
    Panel.findIdx?_namesOf hx hname]
  show some <$> FeatureVector.value v _ = _
  rw [FeatureVector.value, ← slot]
  rfl

/-- Output features are looked up by unambiguous names. Statistics make a
panel if there is one and no output name occurs twice among all of them. In
the runs of a reducer with that panel every vector has, at any time, the
length of its schema. Where the statistics find their variables, as they do
in a reducer that settings make, nothing is accessed out of bounds. In the
report every feature can be looked up: nothing is found for a name or a bin
that is not in it, and for a bin and an output name of a statistic the value
is found that the statistic computed for this name from its part of the
completed bin. -/
theorem features_by_name (statistics : List (Statistic Float)) :
    ((∃ p, Panel.ofList? statistics = .ok p)
      ↔ statistics ≠ [] ∧ (Panel.namesOf .output statistics).Nodup)
    ∧ ∀ r : Reducer Float, Panel.ofList? statistics = .ok r.rule.panel →
      r.Measured
      ∧ (∀ s, ofSettings? s = .ok r → r.Finds)
      ∧ (r.Finds → ∀ passes cancelled,
        r.run passes cancelled ≠ .error .outOfBounds)
      ∧ ∀ passes cancelled report, r.run passes cancelled = .ok report →
        report.featureNames = Panel.namesOf .output statistics
        ∧ (∀ k name, ∃ found, report.feature? k name = .ok found
          ∧ (found = none
            ↔ name ∉ report.featureNames ∨ k ∉ report.bins))
        ∧ ∀ (k : Nat) out, report.bins[k]? = some out →
          ∃ done, r.Completes passes cancelled k done
            ∧ r.rule.panel.output done = .ok out
            ∧ ∀ (i : Nat) x, statistics[i]? = some x →
              ∃ made, x.phases.output
                  (r.rule.panel.partOf .temporal i done.features) = .ok made
                ∧ made.length = x.names.output.length
                ∧ ∀ (j : Nat) name, x.names.output[j]? = some name →
                  ∃ value, made[j]? = some value
                    ∧ report.feature? k name = .ok (some value) := by
  refine ⟨Panel.ofList?_isOk_iff, fun r hr => ?_⟩
  obtain rfl := Panel.statistics_of_ofList? hr
  refine ⟨r.measured, fun s made => (madeOf_of_ofSettings? made).finds,
    run_ne_outOfBounds, fun passes cancelled report h => ?_⟩
  refine ⟨featureNames_of_run h,
    Report.feature?_isOk fun k out => length_of_run h, fun k out hout => ?_⟩
  obtain ⟨done, completes, computed⟩ := completes_of_run h hout
  have width : done.features.length = r.rule.panel.totalWidth .temporal := by
    obtain ⟨bins, -, completes⟩ := completes
    exact completes.width
  exact ⟨done, completes, computed,
    fun i x hx => feature?_of_run h hout width computed hx⟩

/-- The extrema of a variable and its median. -/
def extremaAndMedian : List (Statistic Float) :=
  [.extrema ⟨"a", 0⟩, .percentile ⟨"a", 0, 50⟩]

/-- The panel of the two. -/
def threeFeatures : Panel Float where
  statistics := extremaAndMedian
  nonempty := List.cons_ne_nil _ _
  nodup_output := by decide +kernel

theorem ofList?_extremaAndMedian :
    Panel.ofList? extremaAndMedian = .ok threeFeatures := by
  obtain ⟨⟨_, _, _⟩, hp, rfl⟩ :=
    Panel.ofList?_isOk threeFeatures.nonempty threeFeatures.nodup_output
  exact hp

/-- The two on two rows, four points a pixel, merged by shards. -/
def coarseMedian : Reducer Float :=
  { coarse with rule := { coarse.rule with panel := threeFeatures } }

/-- The two find their variable, and the median of a bin is found behind its
extrema; another percentile is not. -/
theorem features_by_name_median :
    (∀ passes cancelled,
      coarseMedian.run passes cancelled ≠ .error .outOfBounds)
    ∧ ∃ report done made value,
      coarseMedian.run [maskedPass] false = .ok report
      ∧ coarseMedian.Completes [maskedPass] false 2 done
      ∧ Percentile.output (threeFeatures.partOf .temporal 1 done.features)
        = .ok made
      ∧ made[0]? = some value
      ∧ report.feature? 2 "a_p50" = .ok (some value)
      ∧ report.feature? 2 "a_p90" = .ok none := by
  obtain ⟨-, total⟩ := features_by_name extremaAndMedian
  obtain ⟨-, -, inside, lookup⟩ := total coarseMedian ofList?_extremaAndMedian
  have finds : coarseMedian.Finds := by
    intro x hx slot hslot
    have hx : x ∈ extremaAndMedian := hx
    simp only [extremaAndMedian, List.mem_cons, List.not_mem_nil,
      or_false] at hx
    rcases hx with rfl | rfl <;> cases hslot with
    | head => decide
    | tail _ never => cases never
  have reached : (coarseMedian.run [maskedPass] false).toOption.map
      (fun report => report.bins.contains 2) = some true := by
    decide +kernel
  cases h : coarseMedian.run [maskedPass] false with
  | error e =>
      rw [h] at reached
      cases reached
  | ok report =>
      rw [h] at reached
      have here : report.bins.contains 2 = true := Option.some.inj reached
      rw [Std.ExtTreeMap.contains_eq_isSome_getElem?] at here
      obtain ⟨out, hout⟩ := Option.isSome_iff_exists.mp here
      obtain ⟨names, total, values⟩ := lookup [maskedPass] false report h
      obtain ⟨done, completes, -, own⟩ := values 2 out hout
      obtain ⟨made, output, -, found⟩ := own 1 _ rfl
      obtain ⟨value, first, median⟩ := found 0 _ rfl
      obtain ⟨other, hother, nothing⟩ := total 2 "a_p90"
      have unknown : "a_p90" ∉ report.featureNames := by
        rw [names]
        decide +kernel
      rw [nothing.mpr (Or.inl unknown)] at hother
      exact ⟨inside finds, report, done, made, value, rfl, completes, output,
        first, median, hother⟩

end Reducer

end EarthBins
