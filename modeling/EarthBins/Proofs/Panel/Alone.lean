/-
A statistic among others and the same statistic alone.

The combined vector of a panel holds the vector of each statistic from the
offset of its names on. The rows of two panels are run side by side, that
of some statistics and that of one of them alone, on storages that agree
under the names of the one. Its part of the combined vector stays the whole
vector of the other row, through spatial and temporal steps and into the
output.
-/
import EarthBins.Proofs.Panel.Names

namespace EarthBins

open Outcome

variable {α : Type}

theorem length_slice {offset width : Nat} {v : FeatureVector α}
    (h : offset + width ≤ v.length) :
    (slice offset width v).length = width := by
  rw [slice, List.length_take, List.length_drop]
  omega

/-- The part of a statistic in a vector, where `before` come before it. -/
def partAt (role : Role) (before : List (Statistic α)) (x : Statistic α)
    (v : FeatureVector α) : FeatureVector α :=
  slice (Panel.namesOf role before).length (Panel.width role x) v

variable {before after : List (Statistic α)} {x : Statistic α}

theorem length_namesOf_append (role : Role)
    (before after : List (Statistic α)) :
    (Panel.namesOf role (before ++ after)).length
      = (Panel.namesOf role before).length
        + (Panel.namesOf role after).length := by
  rw [Panel.namesOf, List.flatMap_append, List.length_append]
  rfl

theorem length_partAt {role : Role} {v : FeatureVector α}
    (hv : v.length
      = (Panel.namesOf role (before ++ x :: after)).length) :
    (partAt role before x v).length = Panel.width role x := by
  rw [length_namesOf_append, length_namesOf_cons] at hv
  exact length_slice (by omega)

/-- One part is a row of its own. -/
theorem runParts_singleton {p : Part α} {s s' : Scratch α}
    {v v' : FeatureVector α} (hv : v.length = p.width)
    (h : p.step s v = .ok (s', v')) : runParts [p] s v = .ok (s', v') := by
  have whole : v.take p.width = v := by
    rw [← hv, List.take_length]
  have nothing : v.drop p.width = [] := by
    rw [← hv, List.drop_length]
  have first : p.step s (v.take p.width) = .ok (s', v') := by
    rw [whole, h]
  -- the empty row behind the part adds the empty vector
  rw [← List.append_nil v']
  refine runParts_cons (by rw [hv]; rfl) first ?_
  rw [nothing]
  rfl

/-- A vector of a width is its own part. -/
theorem splitPart_self {width : Nat} {v : FeatureVector α}
    (hv : v.length = width) : Panel.splitPart width v = .ok (v, []) := by
  have hv' : v.length = width + 0 := hv
  rw [(splitPart_of_length hv').1, ← hv, List.take_length, List.drop_length]

/-- A step with one statistic is its step. -/
theorem stepEach_singleton {role : Role} {step : Statistic α → Phase α}
    {v : FeatureVector α} (hv : v.length = Panel.width role x)
    (s : Scratch α) : Panel.stepEach role step [x] s v = step x s v := by
  rw [Panel.stepEach, splitPart_self hv, ok_bind]
  dsimp only
  cases step x s v with
  | error e => rfl
  | ok made =>
      show Except.ok (made.1, made.2 ++ []) = _
      rw [List.append_nil]

/-- A step with every statistic does to the part of one what the step with
that one alone does to its vector. -/
theorem stepEach_alone {role : Role} {step : Statistic α → Phase α}
    (confined : ∀ y ∈ before ++ x :: after,
      Phase.Confined y.storageNames (Panel.width role y) (step y))
    (apart : ∀ y ∈ before ++ after, ∀ name ∈ x.storageNames,
      name ∉ y.storageNames)
    {s t : Scratch α} {v : FeatureVector α}
    (hv : v.length = (Panel.namesOf role (before ++ x :: after)).length)
    (agree : s.AgreeOn x.storageNames t) :
    ∃ s' t' v', Panel.stepEach role step (before ++ x :: after) s v
        = .ok (s', v')
      ∧ Panel.stepEach role step [x] t (partAt role before x v)
        = .ok (t', partAt role before x v')
      ∧ v'.length = v.length ∧ s'.AgreeOn x.storageNames t'
      ∧ s'.bin = s.bin ∧ t'.bin = t.bin := by
  have hpart := length_partAt hv
  have row : partsOf role step (before ++ x :: after)
      = partsOf role step before
        ++ ⟨x.storageNames, Panel.width role x, step x⟩
        :: partsOf role step after := by
    rw [partsOf, List.map_append, List.map_cons]
    rfl
  -- the names before `x` say where its slots begin
  have offset := totalWidth_partsOf role step before
  have parts := partsOf_confined confined
  rw [← totalWidth_partsOf role step, row] at hv
  rw [row] at parts
  have others : ∀ q ∈ partsOf role step before ++ partsOf role step after,
      ∀ name ∈ x.storageNames, name ∉ q.names := by
    intro q hq
    rw [partsOf, partsOf, ← List.map_append] at hq
    obtain ⟨y, hy, rfl⟩ := List.mem_map.mp hq
    exact apart y hy
  obtain ⟨s', t', v', w', hs, ht, hv', hw', hslice, agree', bins⟩ :=
    runParts_slice parts others hv agree
  rw [offset] at ht hslice
  refine ⟨s', t', v', ?_, ?_, hv', agree', bins⟩
  · rw [stepEach_eq_runParts, row, hs]
  · have whole : partAt role before x v' = w' := hslice
    rw [stepEach_eq_runParts, whole]
    exact runParts_singleton hpart ht

variable [Scalar α]

/-- The rows of temporal steps of some statistics and of others behind
them. -/
theorem mergeParts_append (numObs : Nat) (before after : List (Statistic α))
    (pass : FeatureVector α) :
    mergeParts numObs (before ++ after) pass
      = mergeParts numObs before pass
        ++ mergeParts numObs after
          (pass.drop (Panel.namesOf .spatial before).length) := by
  induction before generalizing pass with
  | nil => rfl
  | cons y before ih =>
      rw [List.cons_append, mergeParts, mergeParts, ih, List.drop_drop,
        length_namesOf_cons, List.cons_append]

theorem names_of_mem_mergeParts {numObs : Nat}
    {statistics : List (Statistic α)} {pass : FeatureVector α} {q : Part α}
    (hq : q ∈ mergeParts numObs statistics pass) :
    ∃ y ∈ statistics, q.names = y.storageNames := by
  induction statistics generalizing pass with
  | nil => cases hq
  | cons y rest ih =>
      rcases List.mem_cons.mp hq with rfl | hq
      · exact ⟨y, List.mem_cons_self, rfl⟩
      · obtain ⟨z, hz, hn⟩ := ih hq
        exact ⟨z, List.mem_cons_of_mem _ hz, hn⟩

/-- Adding a pass with one statistic is its step. -/
theorem mergeEach_singleton (numObs : Nat) {pass v : FeatureVector α}
    (hpass : pass.length = Panel.width .spatial x)
    (hv : v.length = Panel.width .temporal x) (s : Scratch α) :
    Panel.mergeEach numObs [x] pass s v
      = x.phases.addPass pass numObs s v := by
  rw [Panel.mergeEach, splitPart_self hpass, splitPart_self hv, ok_bind]
  dsimp only
  rw [ok_bind]
  dsimp only
  cases x.phases.addPass pass numObs s v with
  | error e => rfl
  | ok made =>
      show Except.ok (made.1, made.2 ++ []) = _
      rw [List.append_nil]

variable [LawfulIndex α]

/-- Adding a pass does to the part of one statistic what adding the part of
the pass does to the vector of that one alone. -/
theorem mergeEach_alone
    (apart : ∀ y ∈ before ++ after, ∀ name ∈ x.storageNames,
      name ∉ y.storageNames)
    (numObs : Nat) {pass : FeatureVector α}
    (hpass : pass.length
      = (Panel.namesOf .spatial (before ++ x :: after)).length)
    {s t : Scratch α} {v : FeatureVector α}
    (hv : v.length
      = (Panel.namesOf .temporal (before ++ x :: after)).length)
    (agree : s.AgreeOn x.storageNames t) :
    ∃ s' t' v',
      Panel.mergeEach numObs (before ++ x :: after) pass s v = .ok (s', v')
      ∧ Panel.mergeEach numObs [x] (partAt .spatial before x pass) t
          (partAt .temporal before x v)
        = .ok (t', partAt .temporal before x v')
      ∧ v'.length = v.length ∧ s'.AgreeOn x.storageNames t'
      ∧ s'.bin = s.bin ∧ t'.bin = t.bin := by
  have hpart := length_partAt hv
  have hpassPart := length_partAt hpass
  have parts : ∀ p ∈ mergeParts numObs (before ++ x :: after) pass,
      p.Confined :=
    mergeParts_confined hpass.ge
  -- the row of the panel, cut at `x`
  have row := mergeParts_append numObs before (x :: after) pass
  rw [mergeParts] at row
  have others : ∀ q ∈ mergeParts numObs before pass
        ++ mergeParts numObs after
          ((pass.drop (Panel.namesOf .spatial before).length).drop
            (Panel.width .spatial x)),
      ∀ name ∈ x.storageNames, name ∉ q.names := by
    intro q hq
    rcases List.mem_append.mp hq with hq | hq
    · obtain ⟨y, hy, hn⟩ := names_of_mem_mergeParts hq
      rw [hn]
      exact apart y (List.mem_append_left _ hy)
    · obtain ⟨y, hy, hn⟩ := names_of_mem_mergeParts hq
      rw [hn]
      exact apart y (List.mem_append_right _ hy)
  have offset := totalWidth_mergeParts numObs before pass
  have single : (Panel.namesOf .spatial [x]).length
      ≤ (partAt .spatial before x pass).length := by
    rw [length_namesOf_cons, hpassPart]
    exact Nat.le_refl _
  -- the row of `x` alone folds the same slots of the pass
  have alone : mergeParts numObs [x] (partAt .spatial before x pass)
      = [⟨x.storageNames, Panel.width .temporal x,
          x.phases.addPass (partAt .spatial before x pass) numObs⟩] := by
    rw [mergeParts, ← hpassPart, List.take_length]
    rfl
  rw [mergeEach_eq_runParts hpass.ge, mergeEach_eq_runParts single, alone,
    row]
  rw [row] at parts
  rw [← totalWidth_mergeParts numObs _ pass, row] at hv
  obtain ⟨s', t', v', w', hs, ht, hv', hw', hslice, agree', bins⟩ :=
    runParts_slice parts others hv agree
  rw [offset] at ht hslice
  refine ⟨s', t', v', hs, ?_, hv', agree', bins⟩
  have whole : partAt .temporal before x v' = w' := hslice
  rw [whole]
  exact runParts_singleton hpart ht

omit [LawfulIndex α] in
/-- The output of a statistic is a row of its own. -/
theorem outputEach_singleton {v out : FeatureVector α}
    (hv : v.length = Panel.width .temporal x)
    (h : x.phases.output v = .ok out) :
    Panel.outputEach [x] v = .ok out := by
  have whole : v.take (Panel.width .temporal x) = v := by
    rw [← hv, List.take_length]
  have hv' : v.length = Panel.width .temporal x + 0 := hv
  rw [Panel.outputEach, (splitPart_of_length hv').1, ok_bind]
  simp only [whole, h, ok_bind]
  show Except.ok (out ++ []) = _
  rw [List.append_nil]

/-- The part of one statistic in the outputs is the output of its part. -/
theorem outputEach_alone {v : FeatureVector α}
    (hv : v.length
      = (Panel.namesOf .temporal (before ++ x :: after)).length) :
    ∃ out, Panel.outputEach (before ++ x :: after) v = .ok out
      ∧ Panel.outputEach [x] (partAt .temporal before x v)
        = .ok (partAt .output before x out) := by
  induction before generalizing v with
  | nil =>
      rw [List.nil_append, length_namesOf_cons] at hv
      obtain ⟨hsplit, htake, hdrop⟩ := splitPart_of_length hv
      obtain ⟨part, hp, hlen⟩ := x.confined.output htake
      obtain ⟨others, ho, -⟩ := outputEach_isOk hdrop
      refine ⟨part ++ others, ?_, ?_⟩
      · rw [List.nil_append, Panel.outputEach, hsplit, ok_bind]
        simp only [hp, ok_bind, ho]
        rfl
      -- the part is at the front, and its output is at the front
      · have mine : partAt .temporal [] x v
            = v.take (Panel.width .temporal x) :=
          rfl
        have theirs : partAt .output [] x (part ++ others) = part := by
          show (part ++ others).take x.names.output.length = part
          rw [← hlen, List.take_left]
        rw [mine, theirs]
        exact outputEach_singleton htake hp
  | cons y before ih =>
      rw [List.cons_append, length_namesOf_cons] at hv
      obtain ⟨hsplit, htake, hdrop⟩ := splitPart_of_length hv
      obtain ⟨part, hp, hlen⟩ := y.confined.output htake
      obtain ⟨others, ho, halone⟩ := ih hdrop
      refine ⟨part ++ others, ?_, ?_⟩
      · rw [List.cons_append, Panel.outputEach, hsplit, ok_bind]
        simp only [hp, ok_bind, ho]
        rfl
      -- both parts lie behind what belongs to `y`
      · have mine : partAt .temporal (y :: before) x v
            = partAt .temporal before x
              (v.drop (Panel.width .temporal y)) := by
          rw [partAt, partAt, slice, slice, length_namesOf_cons,
            List.drop_drop]
        have theirs : partAt .output (y :: before) x (part ++ others)
            = partAt .output before x others := by
          rw [partAt, partAt, slice, slice, length_namesOf_cons,
            ← List.drop_drop]
          show ((List.drop y.names.output.length _).drop _).take _ = _
          rw [← hlen, List.drop_left]
        rw [mine, theirs, halone]

end EarthBins
