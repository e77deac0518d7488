/-
Grouping by number, and what becomes of one group.

Two stages of a run sort items into groups by a number: observations into
the bins of a pass, and the bins of passes into those of the run. Both keep
a map from numbers to groups. The question asked of such a map is always
the same, what stands under a number, and the answer depends on the items
of that number alone: `groupOf` is the answer, worked out without a map.

What is said of a group is said item by item, along the visits that the
items pay it: which items matter, what the group counts, when there is one
and how its steps can fail.
-/
import EarthBins.Proofs.Outcome
import Mathlib

namespace EarthBins

open Outcome

variable {ι γ δ : Type}

/-- How items are grouped: the number of an item, if it counts, the group
before its first item, and what an item does to its group. -/
structure GroupRule (ι γ : Type) where
  key : ι → Option Nat
  fresh : Nat → Except Error γ
  step : ι → γ → Except Error γ

namespace GroupRule

variable (r : GroupRule ι γ)

/-- Put an item into its group, which is new if there was none. -/
def place (groups : Std.ExtTreeMap Nat γ) (a : ι) :
    Except Error (Std.ExtTreeMap Nat γ) :=
  match r.key a with
  | none => .ok groups
  | some k => do
    let group ← groups[k]?.elim (r.fresh k) .ok
    let group ← r.step a group
    return groups.insert k group

/-- What an item does to the group of number `k`. -/
def visit (k : Nat) (group : Option γ) (a : ι) : Except Error (Option γ) :=
  if r.key a = some k then do
    let group ← group.elim (r.fresh k) .ok
    some <$> r.step a group
  else .ok group

/-- The group of number `k`, if it has an item. -/
def groupOf (k : Nat) (items : List ι) : Except Error (Option γ) :=
  items.foldlM (r.visit k) none

/-- The items of number `k`, in order. -/
def members (k : Nat) (items : List ι) : List ι :=
  items.filter fun a => r.key a = some k

variable {r}

-- ================================================== placing and visiting

/-- An item that was placed has visited every group. -/
theorem visit_of_place {m m' : Std.ExtTreeMap Nat γ} {a : ι}
    (h : r.place m a = .ok m') (k : Nat) :
    r.visit k m[k]? a = .ok m'[k]? := by
  unfold place at h
  unfold visit
  cases hk : r.key a with
  | none =>
      rw [hk] at h
      cases h
      rw [if_neg (by simp)]
  | some j =>
      simp only [hk, bind_eq_ok, pure_eq_ok] at h
      obtain ⟨g, hg, g', hg', rfl⟩ := h
      -- the group of the item took the step, any other is as it was
      by_cases same : j = k
      · subst same
        rw [if_pos rfl, hg, ok_bind, hg', map_ok,
          Std.ExtTreeMap.getElem?_insert_self]
      · rw [if_neg (by simpa using same), Std.ExtTreeMap.getElem?_insert,
          if_neg (by simpa [Std.LawfulEqCmp.compare_eq_iff_eq] using same)]

theorem visit_of_place_error {m : Std.ExtTreeMap Nat γ} {a : ι} {e : Error}
    (h : r.place m a = .error e) : ∃ k, r.visit k m[k]? a = .error e := by
  unfold place at h
  cases hk : r.key a with
  | none =>
      rw [hk] at h
      cases h
  | some k =>
      refine ⟨k, ?_⟩
      unfold visit
      rw [if_pos hk]
      simp only [hk, bind_eq_error] at h
      rcases h with h | ⟨g, hg, h | ⟨g', hg', h⟩⟩
      · rw [h, error_bind]
      · rw [hg, ok_bind, h]
        rfl
      · cases h

theorem foldlM_visit_of_place {items : List ι}
    {m m' : Std.ExtTreeMap Nat γ} (h : items.foldlM r.place m = .ok m')
    (k : Nat) : items.foldlM (r.visit k) m[k]? = .ok m'[k]? := by
  induction items generalizing m with
  | nil =>
      cases h
      rfl
  | cons a items ih =>
      rw [List.foldlM_cons, bind_eq_ok] at h
      obtain ⟨m₁, h₁, h⟩ := h
      rw [List.foldlM_cons, visit_of_place h₁ k, ok_bind]
      exact ih h

/-- Where placing fails, the items fail in the group of the first one that
could not be placed. -/
theorem foldlM_visit_of_place_error {items : List ι}
    {m : Std.ExtTreeMap Nat γ} {e : Error}
    (h : items.foldlM r.place m = .error e) :
    ∃ k, items.foldlM (r.visit k) m[k]? = .error e := by
  induction items generalizing m with
  | nil => cases h
  | cons a items ih =>
      rw [List.foldlM_cons, bind_eq_error] at h
      rcases h with h | ⟨m₁, h₁, h⟩
      · obtain ⟨k, hk⟩ := visit_of_place_error h
        exact ⟨k, by rw [List.foldlM_cons, hk, error_bind]⟩
      · obtain ⟨k, hk⟩ := ih h
        refine ⟨k, ?_⟩
        rw [List.foldlM_cons, visit_of_place h₁ k, ok_bind]
        exact hk

-- =========================================================== one group

/-- Only the members matter to a group. -/
theorem foldlM_visit_filter {k : Nat} {keep : ι → Bool} {items : List ι}
    (h : ∀ a ∈ items, r.key a = some k → keep a = true) (o : Option γ) :
    (items.filter keep).foldlM (r.visit k) o
      = items.foldlM (r.visit k) o := by
  induction items generalizing o with
  | nil => rfl
  | cons a items ih =>
      have behind := ih fun b hb => h b (List.mem_cons_of_mem _ hb)
      -- an item that is not kept has another number
      by_cases kept : keep a = true
      · rw [List.filter_cons_of_pos kept, List.foldlM_cons,
          List.foldlM_cons]
        exact bind_congr behind
      · have other : r.key a ≠ some k :=
          fun hk => kept (h a List.mem_cons_self hk)
        rw [List.filter_cons_of_neg kept, List.foldlM_cons, visit,
          if_neg other, ok_bind]
        exact behind o

/-- Items of other numbers leave a group as it is. -/
theorem foldlM_visit_of_ne {k : Nat} {items : List ι}
    (h : ∀ a ∈ items, r.key a ≠ some k) (o : Option γ) :
    items.foldlM (r.visit k) o = .ok o := by
  induction items with
  | nil => rfl
  | cons a items ih =>
      rw [List.foldlM_cons, visit, if_neg (h a List.mem_cons_self), ok_bind]
      exact ih fun b hb => h b (List.mem_cons_of_mem _ hb)

/-- A visit is a step of the group, or not of this group. -/
theorem visit_cases {k : Nat} {o o' : Option γ} {a : ι}
    (h : r.visit k o a = .ok o') :
    (r.key a ≠ some k ∧ o' = o)
    ∨ (r.key a = some k ∧ ∃ g g', o.elim (r.fresh k) .ok = .ok g
      ∧ r.step a g = .ok g' ∧ o' = some g') := by
  unfold visit at h
  by_cases hk : r.key a = some k
  · rw [if_pos hk, bind_eq_ok] at h
    obtain ⟨g, hg, h⟩ := h
    obtain ⟨g', hg', rfl⟩ := map_eq_ok.mp h
    exact Or.inr ⟨hk, g, g', hg, hg', rfl⟩
  · rw [if_neg hk] at h
    cases h
    exact Or.inl ⟨hk, rfl⟩

/-- A group that is visited is new or was there. -/
theorem of_elim_fresh {k : Nat} {o : Option γ} {g : γ} {good : γ → Prop}
    (start : ∀ g, r.fresh k = .ok g → good g)
    (ho : ∀ g, o = some g → good g)
    (h : o.elim (r.fresh k) .ok = .ok g) : good g := by
  cases o with
  | none => exact start g h
  | some g₀ =>
      cases h
      exact ho g rfl

/-- What holds of a new group and is kept by every step holds of a
group. -/
theorem of_foldlM_visit {k : Nat} {good : γ → Prop}
    (start : ∀ g, r.fresh k = .ok g → good g)
    (keep : ∀ a g g', r.step a g = .ok g' → good g → good g')
    {items : List ι} {o o' : Option γ} (ho : ∀ g, o = some g → good g)
    (h : items.foldlM (r.visit k) o = .ok o') :
    ∀ g, o' = some g → good g := by
  induction items generalizing o with
  | nil =>
      cases h
      exact ho
  | cons a items ih =>
      rw [List.foldlM_cons, bind_eq_ok] at h
      obtain ⟨o₁, h₁, h⟩ := h
      refine ih ?_ h
      rcases visit_cases h₁ with ⟨-, rfl⟩ | ⟨-, g, g', hg, hg', rfl⟩
      · exact ho
      · intro g'' same
        cases same
        exact keep a g g' hg' (of_elim_fresh start ho hg)

/-- A group has what its first state had and what its members brought. -/
theorem size_of_foldlM_visit {k : Nat} (size : γ → Nat) (weight : ι → Nat)
    (start : ∀ g, r.fresh k = .ok g → size g = 0)
    (grow : ∀ a g g', r.step a g = .ok g' → size g' = size g + weight a)
    {items : List ι} {o o' : Option γ}
    (h : items.foldlM (r.visit k) o = .ok o') :
    o'.elim 0 size = o.elim 0 size + ((r.members k items).map weight).sum := by
  induction items generalizing o with
  | nil =>
      cases h
      rfl
  | cons a items ih =>
      rw [List.foldlM_cons, bind_eq_ok] at h
      obtain ⟨o₁, h₁, h⟩ := h
      rw [ih h]
      unfold members
      rcases visit_cases h₁ with ⟨hk, rfl⟩ | ⟨hk, g, g', hg, hg', rfl⟩
      · rw [List.filter_cons_of_neg (by simpa using hk)]
      · have before : size g = o.elim 0 size := by
          cases o with
          | none => exact start g hg
          | some g₀ =>
              cases hg
              rfl
        rw [List.filter_cons_of_pos (by simpa using hk), List.map_cons,
          List.sum_cons, ← before, Option.elim_some, grow a g g' hg',
          Nat.add_assoc]

/-- There is a group where there was one or an item belongs to it. -/
theorem isSome_of_foldlM_visit {k : Nat} {items : List ι} {o o' : Option γ}
    (h : items.foldlM (r.visit k) o = .ok o') :
    o'.isSome = true ↔ o.isSome = true ∨ ∃ a ∈ items, r.key a = some k := by
  induction items generalizing o with
  | nil =>
      cases h
      simp
  | cons a items ih =>
      rw [List.foldlM_cons, bind_eq_ok] at h
      obtain ⟨o₁, h₁, h⟩ := h
      rw [ih h, List.exists_mem_cons_iff]
      rcases visit_cases h₁ with ⟨hk, rfl⟩ | ⟨hk, g, g', -, -, rfl⟩
      · simp [hk]
      · simp [hk]

theorem isSome_of_groupOf {k : Nat} {items : List ι} {o : Option γ}
    (h : r.groupOf k items = .ok o) :
    o.isSome = true ↔ r.members k items ≠ [] := by
  rw [isSome_of_foldlM_visit h]
  unfold members
  simp

/-- The items of all numbers together are the items that count. -/
theorem sum_length_members {items : List ι} {keys : List Nat}
    (distinct : keys.Nodup)
    (covers : ∀ k, k ∈ keys ↔ r.members k items ≠ []) :
    (keys.map fun k => (r.members k items).length).sum
      = (items.filterMap r.key).length := by
  have counted (k : Nat) : (r.members k items).length
      = (items.filterMap r.key).count k := by
    rw [List.count_filterMap, members, ← List.countP_eq_length_filter]
    exact List.countP_congr fun a _ => by simp
  have numbers : keys.Perm (items.filterMap r.key).dedup := by
    refine (List.perm_ext_iff_of_nodup distinct (List.nodup_dedup _)).mpr ?_
    intro k
    rw [covers, List.mem_dedup, ← List.count_pos_iff, ← counted,
      List.length_pos_iff]
  calc (keys.map fun k => (r.members k items).length).sum
      = (keys.map fun k => (items.filterMap r.key).count k).sum := by
        rw [funext counted]
    _ = ((items.filterMap r.key).dedup.map fun k =>
          (items.filterMap r.key).count k).sum := (numbers.map _).sum_eq
    _ = (items.filterMap r.key).length :=
        List.sum_map_count_dedup_eq_length _

/-- What holds of a new group and is kept by every step holds of a group,
and a group whose steps fail only for bad reasons fails only for those. -/
theorem foldlM_visit_cases {k : Nat} {good : γ → Prop} {bad : Error → Prop}
    (start : ∃ g, r.fresh k = .ok g ∧ good g)
    {items : List ι}
    (keep : ∀ a ∈ items, r.key a = some k → ∀ g, good g →
      (∃ g', r.step a g = .ok g' ∧ good g')
      ∨ ∃ e, r.step a g = .error e ∧ bad e)
    {o : Option γ} (ho : ∀ g, o = some g → good g) :
    (∃ o', items.foldlM (r.visit k) o = .ok o' ∧ ∀ g, o' = some g → good g)
    ∨ ∃ e, items.foldlM (r.visit k) o = .error e ∧ bad e := by
  induction items generalizing o with
  | nil => exact Or.inl ⟨o, rfl, ho⟩
  | cons a items ih =>
      have keep' := fun b hb => keep b (List.mem_cons_of_mem a hb)
      rw [List.foldlM_cons, visit]
      by_cases hk : r.key a = some k
      · obtain ⟨g, hg, good_g⟩ :
            ∃ g, o.elim (r.fresh k) .ok = .ok g ∧ good g := by
          cases o with
          | none => exact start
          | some g => exact ⟨g, rfl, ho g rfl⟩
        rw [if_pos hk, hg, ok_bind]
        rcases keep a List.mem_cons_self hk g good_g with
          ⟨g', hg', hgood⟩ | ⟨e, he, hbad⟩
        · rw [hg', map_ok, ok_bind]
          refine ih keep' fun g'' h => ?_
          cases h
          exact hgood
        · rw [he]
          exact Or.inr ⟨e, rfl, hbad⟩
      · rw [if_neg hk, ok_bind]
        exact ih keep' ho

end GroupRule

end EarthBins
