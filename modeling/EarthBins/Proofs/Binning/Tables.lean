/-
Maps as tables of functions.

A computation of a map that may fail is described by the function from
numbers to entries that it tabulates. It has the entries of the function
where it succeeds, and where it fails the function fails at some number.
Two computations that tabulate one function therefore agree, provided it
fails in one way only (`Tabulates.unique`).

The steps of a run are described by what they do to the function: items
are placed into groups, groups are mapped one by one, and maps that share
no number are put together. Order plays no part in the description, and
neither does the order in which the maps are computed.
-/
import EarthBins.Proofs.Binning.Grouping

namespace EarthBins

open Outcome

variable {ι γ δ : Type}

/-- A computation that tabulates a function of numbers. -/
structure Tabulates (x : Except Error (Std.ExtTreeMap Nat γ))
    (f : Nat → Except Error (Option γ)) : Prop where
  entries : ∀ {m}, x = .ok m → ∀ k, f k = .ok m[k]?
  fails : ∀ {e}, x = .error e → ∃ k, f k = .error e

namespace Tabulates

variable {x y : Except Error (Std.ExtTreeMap Nat γ)}
  {f g : Nat → Except Error (Option γ)}

theorem isOk (hx : Tabulates x f) (h : ∀ k, ∃ o, f k = .ok o) :
    ∃ m, x = .ok m := by
  cases hm : x with
  | ok m => exact ⟨m, rfl⟩
  | error e =>
      obtain ⟨k, hk⟩ := hx.fails hm
      obtain ⟨o, ho⟩ := h k
      rw [ho] at hk
      cases hk

/-- A function that fails in one way only has one table. -/
theorem unique {reason : Error} (hx : Tabulates x f) (hy : Tabulates y f)
    (h : ∀ k e, f k = .error e → e = reason) : x = y := by
  cases hm : x with
  | error e =>
      obtain ⟨k, hk⟩ := hx.fails hm
      cases hm' : y with
      | error e' =>
          obtain ⟨k', hk'⟩ := hy.fails hm'
          rw [h k e hk, h k' e' hk']
      | ok m' =>
          rw [hy.entries hm' k] at hk
          cases hk
  | ok m =>
      cases hm' : y with
      | error e' =>
          obtain ⟨k', hk'⟩ := hy.fails hm'
          rw [hx.entries hm k'] at hk'
          cases hk'
      | ok m' =>
          refine congrArg _ (Std.ExtTreeMap.ext_getElem? fun k => ?_)
          have same := hx.entries hm k
          rw [hy.entries hm' k] at same
          exact (Except.ok.inj same).symm

theorem empty : Tabulates (γ := γ) (.ok ∅) fun _ => .ok none where
  entries := by
    intro m h k
    cases h
    rfl
  fails := by
    intro e h
    cases h

/-- Placing items tabulates their groups. -/
theorem place (r : GroupRule ι γ) (items : List ι) :
    Tabulates (items.foldlM r.place ∅) fun k => r.groupOf k items where
  entries h k := GroupRule.foldlM_visit_of_place h k
  fails h := GroupRule.foldlM_visit_of_place_error h

end Tabulates

-- ============================================================== mapping

/-- What stands for a group after a computation on it. -/
def mapEntry (f : γ → Except Error δ) :
    Option γ → Except Error (Option δ)
  | none => .ok none
  | some g => some <$> f g

/-- A computation on every group of a map. -/
def mapGroups (f : γ → Except Error δ) (m : Std.ExtTreeMap Nat γ) :
    Except Error (Std.ExtTreeMap Nat δ) := do
  let outs ← m.toList.mapM fun (k, g) => return (k, ← f g)
  return Std.ExtTreeMap.ofList outs

theorem map_fst_eq_of_forall₂ {f : γ → Except Error δ}
    {l : List (Nat × γ)} {outs : List (Nat × δ)}
    (h : List.Forall₂
      (fun a b => ∃ d, f a.2 = Except.ok d ∧ (a.1, d) = b) l outs) :
    outs.map Prod.fst = l.map Prod.fst := by
  induction h with
  | nil => rfl
  | cons hab _ ih =>
      obtain ⟨d, -, rfl⟩ := hab
      rw [List.map_cons, List.map_cons, ih]

theorem exists_mem_of_forall₂ {f : γ → Except Error δ}
    {l : List (Nat × γ)} {outs : List (Nat × δ)}
    (h : List.Forall₂
      (fun a b => ∃ d, f a.2 = Except.ok d ∧ (a.1, d) = b) l outs)
    {k : Nat} {g : γ} (hk : (k, g) ∈ l) :
    ∃ d, f g = .ok d ∧ (k, d) ∈ outs := by
  induction h with
  | nil => cases hk
  | cons hab _ ih =>
      rcases List.mem_cons.mp hk with rfl | hk
      · obtain ⟨d, hd, rfl⟩ := hab
        exact ⟨d, hd, List.mem_cons_self⟩
      · obtain ⟨d, hd, hmem⟩ := ih hk
        exact ⟨d, hd, List.mem_cons_of_mem _ hmem⟩

/-- A number without an entry is not among those of the list. -/
theorem contains_map_fst_toList {m : Std.ExtTreeMap Nat γ} {k : Nat}
    (h : m[k]? = none) : (m.toList.map Prod.fst).contains k = false := by
  rw [← Bool.not_eq_true, List.contains_iff_mem, List.mem_map]
  rintro ⟨⟨j, g⟩, hmem, rfl⟩
  rw [Std.ExtTreeMap.mem_toList_iff_getElem?_eq_some, h] at hmem
  cases hmem

/-- A map may be made of its entries in any order. -/
theorem ofList_perm {l l' : List (Nat × γ)} (perm : l'.Perm l)
    (distinct : (l.map Prod.fst).Nodup) :
    Std.ExtTreeMap.ofList l' = Std.ExtTreeMap.ofList l := by
  have apart {l : List (Nat × γ)} (distinct : (l.map Prod.fst).Nodup) :
      l.Pairwise fun a b => ¬ compare a.1 b.1 = .eq := by
    rw [List.nodup_iff_pairwise_ne, List.pairwise_map] at distinct
    exact distinct.imp fun ne eq => ne (compare_eq_iff_eq.mp eq)
  have numbers := perm.map Prod.fst
  refine Std.ExtTreeMap.ext_getElem? fun k => ?_
  by_cases here : k ∈ l.map Prod.fst
  · obtain ⟨⟨j, g⟩, hmem, rfl⟩ := List.mem_map.mp here
    rw [Std.ExtTreeMap.getElem?_ofList_of_mem Std.ReflCmp.compare_self
        (apart distinct) hmem,
      Std.ExtTreeMap.getElem?_ofList_of_mem Std.ReflCmp.compare_self
        (apart (numbers.nodup_iff.mpr distinct)) (perm.mem_iff.mpr hmem)]
  · have here' := mt numbers.mem_iff.mp here
    rw [Std.ExtTreeMap.getElem?_ofList_of_contains_eq_false
        (by simpa using here'),
      Std.ExtTreeMap.getElem?_ofList_of_contains_eq_false
        (by simpa using here)]

/-- The entries of a mapped map are those of the map, worked out. -/
theorem mapGroups_tabulates (f : γ → Except Error δ)
    (m : Std.ExtTreeMap Nat γ) :
    Tabulates (mapGroups f m) fun k => mapEntry f m[k]? where
  entries := by
    intro m' h k
    simp only [mapGroups, bind_eq_ok, pure_eq_ok, mapM_eq_ok] at h
    obtain ⟨outs, houts, rfl⟩ := h
    have keys := map_fst_eq_of_forall₂ houts
    cases hk : m[k]? with
    | none =>
        -- mapping keeps the numbers, so none is added
        have absent : (outs.map Prod.fst).contains k = false := by
          rw [keys]
          exact contains_map_fst_toList hk
        rw [Std.ExtTreeMap.getElem?_ofList_of_contains_eq_false absent]
        rfl
    | some g =>
        obtain ⟨d, hd, hmem⟩ := exists_mem_of_forall₂ houts
          (Std.ExtTreeMap.mem_toList_iff_getElem?_eq_some.mpr hk)
        have distinct : outs.Pairwise fun a b => ¬ compare a.1 b.1 = .eq := by
          have pairs := Std.ExtTreeMap.distinct_keys_toList (t := m)
          rw [← List.pairwise_map (f := Prod.fst)
            (R := fun a b => ¬ compare a b = .eq)] at pairs ⊢
          rwa [keys]
        rw [Std.ExtTreeMap.getElem?_ofList_of_mem
          Std.ReflCmp.compare_self distinct hmem]
        show some <$> f g = _
        rw [hd, map_ok]
  fails := by
    intro e h
    simp only [mapGroups, bind_eq_error] at h
    rcases h with h | ⟨outs, -, h⟩
    · obtain ⟨⟨k, g⟩, hmem, he⟩ := mapM_eq_error h
      have hk := Std.ExtTreeMap.mem_toList_iff_getElem?_eq_some.mp hmem
      refine ⟨k, ?_⟩
      show mapEntry f m[k]? = _
      rw [hk]
      simp only [bind_eq_error] at he
      rcases he with he | ⟨d, -, he⟩
      · show some <$> f g = _
        rw [he]
        rfl
      · cases he
    · cases h

namespace Tabulates

variable {x y : Except Error (Std.ExtTreeMap Nat γ)}
  {f g h : Nat → Except Error (Option γ)}

/-- Mapping the groups of a table maps the entries of its function. -/
theorem bind_mapGroups (hx : Tabulates x f)
    (finish : γ → Except Error δ) :
    Tabulates (x >>= mapGroups finish)
      fun k => f k >>= mapEntry finish where
  entries := by
    intro m' hm' k
    rw [bind_eq_ok] at hm'
    obtain ⟨m, hm, hm'⟩ := hm'
    show f k >>= mapEntry finish = _
    rw [hx.entries hm k, ok_bind]
    exact (mapGroups_tabulates finish m).entries hm' k
  fails := by
    intro e he
    rw [bind_eq_error] at he
    rcases he with he | ⟨m, hm, he⟩
    · obtain ⟨k, hk⟩ := hx.fails he
      refine ⟨k, ?_⟩
      show f k >>= mapEntry finish = _
      rw [hk, error_bind]
    · obtain ⟨k, hk⟩ := (mapGroups_tabulates finish m).fails he
      refine ⟨k, ?_⟩
      show f k >>= mapEntry finish = _
      rw [hx.entries hm k, ok_bind]
      exact hk

-- ======================================================= put together

/-- Putting the entries of one map into another keeps the others. -/
theorem getElem?_insertMany_toList (l r : Std.ExtTreeMap Nat γ) (k : Nat) :
    (l.insertMany r.toList)[k]? = r[k]?.or l[k]? := by
  cases hk : r[k]? with
  | none =>
      rw [Std.ExtTreeMap.getElem?_insertMany_list_of_contains_eq_false
        (contains_map_fst_toList hk)]
      rfl
  | some g =>
      rw [Std.ExtTreeMap.getElem?_insertMany_list_of_mem
        Std.ReflCmp.compare_self Std.ExtTreeMap.distinct_keys_toList
        (Std.ExtTreeMap.mem_toList_iff_getElem?_eq_some.mpr hk)]
      rfl

/-- Two tables of functions that nowhere both have an entry, put together,
are a table of what the two are together. -/
theorem union (hx : Tabulates x f) (hy : Tabulates y g)
    (left : ∀ k, g k = .ok none → h k = f k)
    (right : ∀ k, f k = .ok none → h k = g k)
    (apart : ∀ k, f k = .ok none ∨ g k = .ok none) :
    Tabulates (do
      let a ← x
      let b ← y
      return a.insertMany b.toList) h where
  entries := by
    intro m hm k
    simp only [bind_eq_ok, pure_eq_ok] at hm
    obtain ⟨a, ha, b, hb, rfl⟩ := hm
    have hfa := hx.entries ha k
    have hgb := hy.entries hb k
    rw [getElem?_insertMany_toList]
    -- at most one of the two has an entry, and that one counts
    rcases apart k with none_f | none_g
    · rw [none_f] at hfa
      rw [right k none_f, hgb, ← Except.ok.inj hfa, Option.or_none]
    · rw [none_g] at hgb
      rw [left k none_g, hfa, ← Except.ok.inj hgb, Option.none_or]
  fails := by
    intro e he
    simp only [bind_eq_error] at he
    rcases he with he | ⟨a, -, he | ⟨b, -, he⟩⟩
    · obtain ⟨k, hk⟩ := hx.fails he
      have none_g : g k = .ok none :=
        (apart k).resolve_left (by rw [hk]; simp)
      exact ⟨k, by rw [left k none_g, hk]⟩
    · obtain ⟨k, hk⟩ := hy.fails he
      have none_f : f k = .ok none :=
        (apart k).resolve_right (by rw [hk]; simp)
      exact ⟨k, by rw [right k none_f, hk]⟩
    · cases he

end Tabulates

end EarthBins
