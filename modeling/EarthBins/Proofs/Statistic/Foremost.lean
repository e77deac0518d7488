/-
The first of the best.

A search goes through a list with the best member so far in hand and takes
another one only if the one in hand is below it. What it ends up with is a
member that is below no other, and the first of these: every member before
it is below it (`Foremost.foldl`).

# Searching in parts

A run searches every pass and then the results of the passes, and each of
these searches starts from the same member. That is one search through all
passes on end (`foldl_better_passes`), for taking the better of two is
associative (`better_assoc`) and the start, once it is beaten, is beaten for
good.

Some things may not be comparable: NaN is neither below nor above anything.
In hand it would hide what comes after it, so all of this is about things
that are ranked (`Ranks`).
-/
import EarthBins.Proofs.Scalar.Ordered

namespace EarthBins

variable {ι κ : Type}

/-- A relation that ranks things: what is not below a ranked thing is not
below what that is not below. -/
structure Ranks (below : ι → ι → Prop) (ranked : ι → Prop) : Prop where
  irrefl : ∀ x, ¬ below x x
  trans : ∀ {x y z}, below x y → below y z → below x z
  not_trans : ∀ {x y z}, ranked y → ¬ below x y → ¬ below y z → ¬ below x z

namespace Ranks

variable {below : ι → ι → Prop} {ranked : ι → Prop}

/-- The other way round. -/
theorem swap (r : Ranks below ranked) :
    Ranks (fun x y => below y x) ranked where
  irrefl := r.irrefl
  trans h h' := r.trans h' h
  not_trans hy h h' := r.not_trans hy h' h

/-- Things that are ranked by their keys. -/
theorem on (r : Ranks below ranked) (key : κ → ι) :
    Ranks (fun a b => below (key a) (key b)) (fun a => ranked (key a)) where
  irrefl a := r.irrefl (key a)
  trans := r.trans
  not_trans := r.not_trans

end Ranks

/-- Numbers are ranked by size, unless they are NaN. -/
theorem ranks_lt {α : Type} [Scalar α] [OrderedScalar α] :
    Ranks (fun x y : α => x < y) (Scalar.isNaN · = false) where
  irrefl := LawfulScalar.lt_irrefl
  trans := LawfulScalar.lt_trans
  not_trans := OrderedScalar.not_lt_trans

-- ============================================================= searching

/-- The better one of the best so far and a new one. -/
def better (below : ι → ι → Prop) [DecidableRel below] (best new : ι) : ι :=
  if below best new then new else best

section Searching

variable {below : ι → ι → Prop} [DecidableRel below] {ranked : ι → Prop}

theorem better_ranked {x y : ι} (hx : ranked x) (hy : ranked y) :
    ranked (better below x y) := by
  unfold better
  split
  · exact hy
  · exact hx

theorem better_assoc (r : Ranks below ranked) {y : ι} (hy : ranked y)
    (x z : ι) :
    better below (better below x y) z
      = better below x (better below y z) := by
  unfold better
  by_cases hxy : below x y
  · by_cases hyz : below y z
    · rw [if_pos hxy, if_pos hyz, if_pos (r.trans hxy hyz)]
    · rw [if_pos hxy, if_neg hyz, if_pos hxy]
  · by_cases hyz : below y z
    · rw [if_neg hxy, if_pos hyz]
    · rw [if_neg hxy, if_neg hyz, if_neg (r.not_trans hy hxy hyz),
        if_neg hxy]

/-- What is at hand before a search may as well be compared with its
result. -/
theorem better_foldl (r : Ranks below ranked) {s : ι} {xs : List ι}
    (hs : ranked s) (hxs : ∀ x ∈ xs, ranked x) (best : ι) :
    better below best (xs.foldl (better below) s)
      = xs.foldl (better below) (better below best s) := by
  induction xs generalizing s with
  | nil => rfl
  | cons x xs ih =>
      have hx := hxs x List.mem_cons_self
      rw [List.foldl_cons, List.foldl_cons, better_assoc r hs]
      exact ih (better_ranked hs hx)
        fun y hy => hxs y (List.mem_cons_of_mem x hy)

/-- What beats something is not below it. -/
theorem not_below_foldl (r : Ranks below ranked) {s best : ι}
    (h : ¬ below best s) (xs : List ι) :
    ¬ below (xs.foldl (better below) best) s := by
  induction xs generalizing best with
  | nil => exact h
  | cons x xs ih =>
      refine ih ?_
      unfold better
      by_cases lt : below best x
      · rw [if_pos lt]
        exact fun lt' => h (r.trans lt lt')
      · rw [if_neg lt]
        exact h

/-- A search among the results of searches is one search through all. -/
theorem foldl_better_passes (r : Ranks below ranked) {s : ι} (hs : ranked s)
    {passes : List (List ι)} (hpasses : ∀ x ∈ passes.flatten, ranked x) :
    passes.foldl
        (fun best xs => better below best (xs.foldl (better below) s)) s
      = passes.flatten.foldl (better below) s := by
  have start : ¬ below s s := r.irrefl s
  -- the best so far is never below the start
  suffices general : ∀ best, ¬ below best s →
      passes.foldl
          (fun best xs => better below best (xs.foldl (better below) s)) best
        = passes.flatten.foldl (better below) best from general s start
  induction passes with
  | nil =>
      intro best _
      rfl
  | cons xs passes ih =>
      intro best h
      rw [List.flatten_cons] at hpasses ⊢
      have hxs : ∀ x ∈ xs, ranked x :=
        fun x hx => hpasses x (List.mem_append_left _ hx)
      have keeps : better below best s = best := if_neg h
      rw [List.foldl_cons, List.foldl_append, better_foldl r hs hxs, keeps]
      exact ih (fun x hx => hpasses x (List.mem_append_right _ hx)) _
        (not_below_foldl r h xs)

end Searching

-- ============================================================== the first

/-- Whether something is the first member of a list that is below none. -/
def Foremost (below : ι → ι → Prop) (xs : List ι) (x : ι) : Prop :=
  ∃ before after, xs = before ++ x :: after
    ∧ (∀ y ∈ before, below y x) ∧ ∀ y ∈ after, ¬ below x y

namespace Foremost

variable {below : ι → ι → Prop} {ranked : ι → Prop} {xs : List ι} {x y : ι}

theorem mem (h : Foremost below xs x) : x ∈ xs := by
  obtain ⟨before, after, rfl, -, -⟩ := h
  exact List.mem_append_right _ List.mem_cons_self

/-- It is below no member. -/
theorem not_below (r : Ranks below ranked) (h : Foremost below xs x) :
    ∀ y ∈ xs, ¬ below x y := by
  obtain ⟨before, after, rfl, less, notMore⟩ := h
  intro y hy
  rcases List.mem_append.mp hy with hy | hy
  · exact fun lt => r.irrefl x (r.trans lt (less y hy))
  · rcases List.mem_cons.mp hy with rfl | hy
    · exact r.irrefl _
    · exact notMore y hy

/-- One more member is taken if it is better. -/
theorem append_singleton [DecidableRel below] (r : Ranks below ranked)
    (hxs : ∀ x ∈ xs, ranked x) (h : Foremost below xs x) (y : ι) :
    Foremost below (xs ++ [y]) (better below x y) := by
  have highest := h.not_below r
  unfold better
  by_cases lt : below x y
  · rw [if_pos lt]
    refine ⟨xs, [], rfl, ?_, nofun⟩
    intro z hz
    by_contra notLess
    exact r.not_trans (hxs z hz) (highest z hz) notLess lt
  · rw [if_neg lt]
    obtain ⟨before, after, rfl, less, notMore⟩ := h
    refine ⟨before, after ++ [y], by simp, less, ?_⟩
    intro z hz
    rcases List.mem_append.mp hz with hz | hz
    · exact notMore z hz
    · obtain rfl := List.mem_singleton.mp hz
      exact lt

/-- A search finds the first of the best. -/
theorem foldl [DecidableRel below] (r : Ranks below ranked) {s : ι}
    (hs : ranked s) (hxs : ∀ x ∈ xs, ranked x) :
    Foremost below (s :: xs) (xs.foldl (better below) s) := by
  induction xs using List.reverseRecOn with
  | nil => exact ⟨[], [], rfl, nofun, nofun⟩
  | append_singleton xs x ih =>
      have hxs' : ∀ y ∈ xs, ranked y :=
        fun y hy => hxs y (List.mem_append_left _ hy)
      have all := List.forall_mem_cons.mpr ⟨hs, hxs'⟩
      rw [List.foldl_append, ← List.cons_append]
      exact (ih hxs').append_singleton r all x

/-- The first of a longer list is its first member, if that is below no
other, or the first of the others. -/
theorem of_cons {s : ι} (h : Foremost below (s :: xs) x) :
    (x = s ∧ ∀ y ∈ xs, ¬ below s y) ∨ (below s x ∧ Foremost below xs x) := by
  obtain ⟨before, after, split, less, notMore⟩ := h
  cases before with
  | nil =>
      cases split
      exact Or.inl ⟨rfl, notMore⟩
  | cons s' before =>
      cases split
      have less' : ∀ y ∈ before, below y x :=
        fun y hy => less y (List.mem_cons_of_mem s hy)
      exact Or.inr ⟨less s List.mem_cons_self, before, after, rfl, less',
        notMore⟩

/-- A start that all members beat or are is not needed where there is a
member. -/
theorem mem_of_cons {s : ι} (h : Foremost below (s :: xs) x)
    (lowest : ∀ y ∈ xs, ¬ below s y → y = s) (nonempty : xs ≠ []) :
    x ∈ xs := by
  rcases h.of_cons with ⟨rfl, highest⟩ | ⟨-, h⟩
  · obtain ⟨y, hy⟩ := List.exists_mem_of_ne_nil xs nonempty
    rwa [← lowest y hy (highest y hy)]
  · exact h.mem

/-- The first of what is read is read somewhere; what is read before is
below it, and it is below nothing that is read after. -/
theorem of_filterMap {read : κ → Option ι} {items : List κ}
    (h : Foremost below (items.filterMap read) x) :
    ∃ before item after, items = before ++ item :: after
      ∧ read item = some x
      ∧ (∀ a ∈ before, ∀ y, read a = some y → below y x)
      ∧ ∀ a ∈ after, ∀ y, read a = some y → ¬ below x y := by
  obtain ⟨less, more, split, hless, hmore⟩ := h
  obtain ⟨before, rest, rfl, hbefore, hrest⟩ :=
    List.filterMap_eq_append_iff.mp split
  obtain ⟨between, item, after, rfl, none, read_item, hafter⟩ :=
    List.filterMap_eq_cons_iff.mp hrest
  refine ⟨before ++ between, item, after, (List.append_assoc ..).symm,
    read_item, ?_, ?_⟩
  · intro a ha y hy
    rcases List.mem_append.mp ha with ha | ha
    · apply hless
      rw [← hbefore]
      exact List.mem_filterMap.mpr ⟨a, ha, hy⟩
    · rw [none a ha] at hy
      cases hy
  · intro a ha y hy
    apply hmore
    rw [← hafter]
    exact List.mem_filterMap.mpr ⟨a, ha, hy⟩

end Foremost

end EarthBins
