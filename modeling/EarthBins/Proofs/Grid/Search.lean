/-
Where a search by halving ends.

If the items that pass the test are the first ones and no other, the search
ends at their number. The range that is halved keeps this number between its
ends: its first item passes, unless the range starts with the array, and no
item behind the range does.
-/
import EarthBins.Grid.RowLayout
import Mathlib.Data.Nat.Find

namespace EarthBins

variable {β : Type} {test : β → Bool} {items : Array β} {k : Nat}

/-- Whether the items that pass a test are the first `k`. -/
def Leading (test : β → Bool) (items : Array β) (k : Nat) : Prop :=
  ∀ i, (items[i]?).any test = true ↔ i < k

theorem Leading.le_size (lead : Leading test items k) : k ≤ items.size := by
  rw [← Nat.not_lt, ← lead, Array.getElem?_size]
  exact Bool.false_ne_true

/-- A test that all items before one that passes pass as well is passed by
the first items and no other. -/
theorem exists_leading
    (closed : ∀ i j : Nat, i < j → (items[j]?).any test = true →
      (items[i]?).any test = true) :
    ∃ k, Leading test items k := by
  have fails : ∃ k : Nat, ¬ (items[k]?).any test = true := by
    refine ⟨items.size, ?_⟩
    rw [Array.getElem?_size]
    exact Bool.false_ne_true
  refine ⟨Nat.find fails, fun i => ⟨fun pass => ?_, fun before => ?_⟩⟩
  · by_contra behind
    rcases Nat.lt_or_eq_of_le (Nat.not_lt.mp behind) with first | same
    · exact Nat.find_spec fails (closed _ i first pass)
    · exact Nat.find_spec fails (same ▸ pass)
  · exact not_not.mp (Nat.find_min fails before)

/-- A search ends at the last item that passes, or at the first of all. -/
theorem partitionSearch_of_leading (lead : Leading test items k)
    {base size : Nat} (low : base = 0 ∨ base < k) (high : k ≤ base + size) :
    (partitionSearch test items base size = 0
      ∨ partitionSearch test items base size < k)
    ∧ k ≤ partitionSearch test items base size + 1 := by
  fun_induction partitionSearch test items base size with
  | case1 base size h => exact ⟨low, by omega⟩
  | case2 base size h middle pass ih =>
      exact ih (Or.inr ((lead middle).mp pass)) (by omega)
  | case3 base size h middle fail ih =>
      have behind : k ≤ middle := by
        rw [← Nat.not_lt, ← lead middle]
        exact fail
      exact ih low (by omega)

/-- The search finds the number of leading items. -/
theorem partitionPoint_of_leading (lead : Leading test items k) :
    partitionPoint test items = k := by
  have inside : k ≤ 0 + items.size := by
    rw [Nat.zero_add]
    exact lead.le_size
  obtain ⟨low, high⟩ := partitionSearch_of_leading lead (Or.inl rfl) inside
  unfold partitionPoint
  dsimp only
  split
  · rename_i pass
    have := (lead _).mp pass
    omega
  · rename_i fail
    rw [lead] at fail
    omega

end EarthBins
