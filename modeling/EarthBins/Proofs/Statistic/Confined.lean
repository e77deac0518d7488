/-
What a statistic can touch.

The statistics of a bin share one storage. A step of one of them reads and
writes the storage under the names it owns and nowhere else, and takes a
vector of its width to a vector of its width. `Phase.Confined` says both in
one sentence: on two storages that agree on the owned names the step
answers the same, the storages agree on them again, and the rest of the
storage is as it was.

# Total

The sentence has no hypothesis that the step succeeds. On a vector of its
width, and on samples that its slots are in, a step always does.
-/
import EarthBins.Proofs.Outcome
import EarthBins.Statistic.Spec

namespace EarthBins

open Scalar Outcome

variable {α : Type}

-- ========================================================== the storage

namespace Scratch

/-- Two storages hold the same under some names. -/
def AgreeOn (names : List String) (s t : Scratch α) : Prop :=
  ∀ name ∈ names, s.entries[name]? = t.entries[name]?

/-- A storage belongs to the bin of another and differs from it at most
under some names. -/
def ChangedOn (names : List String) (s t : Scratch α) : Prop :=
  t.bin = s.bin ∧ ∀ name, name ∉ names → t.entries[name]? = s.entries[name]?

variable {names : List String} {s t u : Scratch α} {name : String}

theorem AgreeOn.refl (names : List String) (s : Scratch α) :
    AgreeOn names s s :=
  fun _ _ => rfl

theorem ChangedOn.refl (names : List String) (s : Scratch α) :
    ChangedOn names s s :=
  ⟨rfl, fun _ _ => rfl⟩

theorem ChangedOn.trans (h : ChangedOn names s t) (h' : ChangedOn names t u) :
    ChangedOn names s u :=
  ⟨h'.1.trans h.1, fun name hn => (h'.2 name hn).trans (h.2 name hn)⟩

theorem ChangedOn.mono {more : List String} (h : ChangedOn names s t)
    (sub : names ⊆ more) : ChangedOn more s t :=
  ⟨h.1, fun name hn => h.2 name fun hin => hn (sub hin)⟩

/-- Agreement survives changes under other names. -/
theorem AgreeOn.of_changedOn {others : List String}
    (h : AgreeOn names s u) (changed : ChangedOn others s t)
    (apart : ∀ name ∈ names, name ∉ others) : AgreeOn names t u :=
  fun name hn => (changed.2 name (apart name hn)).trans (h name hn)

/-- Storages that agree on a name look the same under it. -/
theorem AgreeOn.get? {β : Type} (h : AgreeOn names s t) (hn : name ∈ names)
    (view : Entry α → Option β) : s.get? view name = t.get? view name := by
  unfold Scratch.get?
  rw [h name hn]

theorem AgreeOn.put (h : AgreeOn names s t) (name : String)
    (entry : Entry α) : AgreeOn names (s.put name entry) (t.put name entry) := by
  intro other ho
  simp only [Scratch.put, Std.ExtTreeMap.getElem?_insert, h other ho]

theorem changedOn_put (hn : name ∈ names) (entry : Entry α) :
    ChangedOn names s (s.put name entry) := by
  refine ⟨rfl, fun other ho => ?_⟩
  have hne : name ≠ other := fun h => ho (h ▸ hn)
  simp [Scratch.put, Std.ExtTreeMap.getElem?_insert, hne]

/-- What is taken is the same in storages that agree, and so is the
rest. -/
theorem AgreeOn.take? {β : Type} (h : AgreeOn names s t) (hn : name ∈ names)
    (view : Entry α → Option β) :
    (s.take? view name).1 = (t.take? view name).1
    ∧ AgreeOn names (s.take? view name).2 (t.take? view name).2 := by
  refine ⟨by rw [fst_take?, fst_take?, h.get? hn], ?_⟩
  unfold Scratch.take?
  rw [h.get? hn]
  cases t.get? view name with
  | none => exact h
  | some b =>
      intro other ho
      simp only [Std.ExtTreeMap.getElem?_erase, h other ho]

theorem changedOn_take? {β : Type} (hn : name ∈ names)
    (view : Entry α → Option β) :
    ChangedOn names s (s.take? view name).2 := by
  unfold Scratch.take?
  cases s.get? view name with
  | none => exact ChangedOn.refl names s
  | some b =>
      refine ⟨rfl, fun other ho => ?_⟩
      have hne : name ≠ other := fun h => ho (h ▸ hn)
      simp [Std.ExtTreeMap.getElem?_erase, hne]

theorem AgreeOn.increment (h : AgreeOn names s t) (hn : name ∈ names) :
    AgreeOn names (s.increment name) (t.increment name) := by
  unfold Scratch.increment
  rw [h.get? hn]
  cases t.get? Entry.count? name with
  | none => exact h
  | some n => exact h.put name _

theorem changedOn_increment (hn : name ∈ names) :
    ChangedOn names s (s.increment name) := by
  unfold Scratch.increment
  cases s.get? Entry.count? name with
  | none => exact ChangedOn.refl names s
  | some n => exact changedOn_put hn _

theorem AgreeOn.push (h : AgreeOn names s t) (hn : name ∈ names) (x : α) :
    AgreeOn names (s.push name x) (t.push name x) := by
  unfold Scratch.push Scratch.push?
  rw [h.get? hn]
  cases t.get? Entry.numbers? name with
  | none => exact h
  | some xs => exact h.put name _

theorem changedOn_push (hn : name ∈ names) (x : α) :
    ChangedOn names s (s.push name x) := by
  unfold Scratch.push Scratch.push?
  cases s.get? Entry.numbers? name with
  | none => exact ChangedOn.refl names s
  | some xs => exact changedOn_put hn _

end Scratch

-- ============================================================ the steps

/-- A step that takes vectors of its width to such, reads and changes the
storage under its names alone, and always succeeds. -/
def Phase.Confined (names : List String) (width : Nat) (f : Phase α) :
    Prop :=
  ∀ ⦃s t : Scratch α⦄ ⦃v : FeatureVector α⦄, v.length = width →
    s.AgreeOn names t →
    ∃ s' t' v', f s v = .ok (s', v') ∧ f t v = .ok (t', v')
      ∧ v'.length = width ∧ s'.AgreeOn names t' ∧ s.ChangedOn names s'
      ∧ t.ChangedOn names t'

/-- A function of vectors that keeps a width, and always succeeds. -/
def KeepsWidth (width : Nat)
    (f : FeatureVector α → Except Error (FeatureVector α)) : Prop :=
  ∀ ⦃v : FeatureVector α⦄, v.length = width →
    ∃ v', f v = .ok v' ∧ v'.length = width

namespace Phase.Confined

theorem skip (names : List String) (width : Nat) :
    Confined names width (Phase.skip : Phase α) :=
  fun s t v hv agree => ⟨s, t, v, rfl, rfl, hv, agree,
    Scratch.ChangedOn.refl names s, Scratch.ChangedOn.refl names t⟩

/-- A step that does without storage. -/
theorem ofVector {width : Nat}
    {f : FeatureVector α → Except Error (FeatureVector α)}
    (h : KeepsWidth width f) (names : List String) :
    Confined names width (Phase.ofVector f) := by
  intro s t v hv agree
  obtain ⟨v', hf, hv'⟩ := h hv
  refine ⟨s, t, v', ?_, ?_, hv', agree, Scratch.ChangedOn.refl names s,
    Scratch.ChangedOn.refl names t⟩
  · simp only [Phase.ofVector, hf, ok_bind]
    rfl
  · simp only [Phase.ofVector, hf, ok_bind]
    rfl

end Phase.Confined

/-- All phases of a statistic with these feature names keep to some names
of the storage; its slots say which samples it reads. -/
structure Phases.Confined (names : List String) (slots : List Nat)
    (features : FeatureNames) (p : Phases α) : Prop where
  initSpatial :
    Phase.Confined names features.spatial.length p.initSpatial
  observe : ∀ {samples : List α}, (∀ slot ∈ slots, slot < samples.length) →
    Phase.Confined names features.spatial.length (p.observe samples)
  completeSpatial : ∀ n,
    Phase.Confined names features.spatial.length (p.completeSpatial n)
  initTemporal :
    Phase.Confined names features.temporal.length p.initTemporal
  addPass : ∀ {pass : FeatureVector α} (n : Nat),
    pass.length = features.spatial.length →
    Phase.Confined names features.temporal.length (p.addPass pass n)
  completeTemporal : ∀ n,
    Phase.Confined names features.temporal.length (p.completeTemporal n)
  output : ∀ {v : FeatureVector α}, v.length = features.temporal.length →
    ∃ out, p.output v = .ok out ∧ out.length = features.output.length

end EarthBins
