/-
What becomes of a selection.

Resolving a selection finds its variables among those of the run and checks
its parameter. `StatisticSpec.Resolves` has a case for each kind, with all
that was found and checked; what is known of statistics that a configuration
selects is told from these cases.
-/
import EarthBins.Proofs.Statistic.Kinds

namespace EarthBins

open Scalar Outcome

theorem requireVariable_lt {known : List String} {name : String}
    {slot : Nat} (h : requireVariable known name = .ok slot) :
    slot < known.length := by
  unfold requireVariable at h
  cases hf : known.findIdx? (· == name) with
  | none =>
      rw [hf] at h
      cases h
  | some found =>
      rw [hf] at h
      cases h
      exact (List.findIdx?_eq_some_iff_getElem.mp hf).1

/-- A variable is found where the variables of the run have it first. -/
theorem eq_idxOf_of_requireVariable {known : List String} {name : String}
    {slot : Nat} (h : requireVariable known name = .ok slot) :
    slot = known.idxOf name := by
  unfold requireVariable at h
  cases hf : known.findIdx? (· == name) with
  | none =>
      rw [hf] at h
      cases h
  | some found =>
      rw [hf] at h
      cases h
      exact (List.findIdx?_eq_some_iff_findIdx_eq.mp hf).2.symm

namespace StatisticSpec

variable {α : Type} [Scalar α] {known : List String}

/-- What a selection is resolved to. -/
inductive Resolves (known : List String) :
    StatisticSpec α → Statistic α → Prop
  | logNormal {name : String} {slot : Nat}
      (found : requireVariable known name = .ok slot) :
      Resolves known (.logNormal name) (.logNormal ⟨name, slot⟩)
  | onMax {key : String} {payload : List String} {slot : Nat}
      {slots : List Nat}
      (recorded : payload.mapM (requireVariable known) = .ok slots)
      (found : requireVariable known key = .ok slot) :
      Resolves known (.onMax key payload) (.onMax ⟨key, slot, payload, slots⟩)
  | average {name : String} {weightCoeff : α} {slot : Nat}
      (finite : isFinite weightCoeff = true)
      (found : requireVariable known name = .ok slot) :
      Resolves known (.average name weightCoeff)
        (.average ⟨name, slot, weightCoeff⟩)
  | extrema {name : String} {slot : Nat}
      (found : requireVariable known name = .ok slot) :
      Resolves known (.extrema name) (.extrema ⟨name, slot⟩)
  | percentile {name : String} {percentage : UInt32} {slot : Nat}
      (range : ¬ 100 < percentage)
      (found : requireVariable known name = .ok slot) :
      Resolves known (.percentile name percentage)
        (.percentile ⟨name, slot, percentage.toNat⟩)

variable {spec : StatisticSpec α} {x : Statistic α}

theorem resolves_of_resolve (h : spec.resolve known = .ok x) :
    spec.Resolves known x := by
  cases spec with
  | logNormal name =>
      obtain ⟨slot, found, h⟩ := bind_eq_ok.mp h
      cases h
      exact .logNormal found
  | onMax key payload =>
      obtain ⟨slots, recorded, h⟩ := bind_eq_ok.mp h
      obtain ⟨slot, found, h⟩ := bind_eq_ok.mp h
      cases h
      exact .onMax recorded found
  | average name weightCoeff =>
      simp only [resolve] at h
      split at h
      · cases h
      · rename_i finite
        obtain ⟨slot, found, h⟩ := bind_eq_ok.mp h
        cases h
        rw [Bool.not_eq_true, Bool.not_eq_false'] at finite
        exact .average finite found
  | extrema name =>
      obtain ⟨slot, found, h⟩ := bind_eq_ok.mp h
      cases h
      exact .extrema found
  | percentile name percentage =>
      simp only [resolve] at h
      split at h
      · cases h
      · rename_i range
        obtain ⟨slot, found, h⟩ := bind_eq_ok.mp h
        cases h
        exact .percentile range found

/-- The slots of a resolved statistic lie in the sample vectors. -/
theorem slots_lt (h : spec.resolve known = .ok x) :
    ∀ slot ∈ x.slots, slot < known.length := by
  have one {name : String} {slot : Nat}
      (found : requireVariable known name = .ok slot) :
      ∀ i ∈ [slot], i < known.length :=
    List.forall_mem_singleton.mpr (requireVariable_lt found)
  cases resolves_of_resolve h with
  | logNormal found => exact one found
  | onMax recorded found =>
      intro i hi
      rcases List.mem_cons.mp hi with rfl | hi
      · exact requireVariable_lt found
      · obtain ⟨name, -, hname⟩ := exists_of_mem_mapM recorded hi
        exact requireVariable_lt hname
  | average finite found => exact one found
  | extrema found => exact one found
  | percentile range found => exact one found

end StatisticSpec

end EarthBins
