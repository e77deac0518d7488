/-
Storage names do not collide.

A percentile names its entries in the storage after its variable and its
percentage. Variables may be called anything, so a name could be read in
more than one way; but the percentage is written in digits, and the last
dot before the ending is the one that the name was made with. Two
percentiles that share a storage name are therefore percentiles of one
variable and one percentage. They would have one output name as well, and
a panel has no output name twice.
-/
import EarthBins.Proofs.Panel.Phases
import Mathlib.Data.List.Nodup
import Std.Data.String.ToNat

namespace EarthBins

-- ================================================================ texts

/-- Where a separator does not occur behind itself, a text is cut there in
one way. -/
theorem append_cons_inj_of_notMem {sep : Char} {a a' b b' : List Char}
    (hb : sep ∉ b) (hb' : sep ∉ b') (h : a ++ sep :: b = a' ++ sep :: b') :
    a = a' ∧ b = b' := by
  -- read from the end, the text up to the separator is what is behind it
  have cut : ∀ front back : List Char, sep ∉ back →
      (front ++ sep :: back).reverse.takeWhile (· != sep)
        = back.reverse := by
    intro front back hback
    have clean : ∀ c ∈ back.reverse, (c != sep) = true := by
      intro c hc
      rw [bne_iff_ne]
      rintro rfl
      exact hback (List.mem_reverse.mp hc)
    rw [List.reverse_append, List.reverse_cons, List.append_assoc,
      List.takeWhile_append_of_pos clean, List.singleton_append,
      List.takeWhile_cons_of_neg (by simp), List.append_nil]
  have same : b = b' := by
    rw [← List.reverse_inj, ← cut a b hb, h, cut a' b' hb']
  subst same
  exact ⟨List.append_cancel_right h, rfl⟩

namespace Percentile

/-- The marks of percentiles hold no dot. -/
theorem dot_notMem_mark (p : Percentile) : '.' ∉ p.mark.toList := by
  show '.' ∉ ("p" ++ Nat.repr p.percentage).toList
  rw [String.toList_append, List.mem_append]
  rintro (h | h)
  · revert h
    decide
  · rw [Nat.toList_repr] at h
    have digit := Nat.isDigit_of_mem_toDigits (by decide) (by decide) h
    revert digit
    decide

/-- The mark of a percentile tells its percentage. -/
theorem percentage_of_mark {p q : Percentile} (h : p.mark = q.mark) :
    p.percentage = q.percentage := by
  have h : "p" ++ Nat.repr p.percentage = "p" ++ Nat.repr q.percentage := h
  rw [String.ext_iff, String.toList_append, String.toList_append] at h
  exact Nat.repr_inj.mp (String.ext_iff.mpr (List.append_cancel_left h))

/-- Names with one ending tell the variable and the percentage. -/
theorem eq_of_name {p q : Percentile} {ending : String}
    (h : "percentile." ++ p.source ++ "." ++ p.mark ++ ending
      = "percentile." ++ q.source ++ "." ++ q.mark ++ ending) :
    p.source = q.source ∧ p.percentage = q.percentage := by
  simp only [String.ext_iff, String.toList_append, List.append_assoc] at h
  have h := List.append_cancel_left h
  simp only [← List.append_assoc] at h
  have h := List.append_cancel_right h
  simp only [List.append_assoc] at h
  have h : p.source.toList ++ '.' :: p.mark.toList
      = q.source.toList ++ '.' :: q.mark.toList := h
  obtain ⟨source, mark⟩ :=
    append_cons_inj_of_notMem p.dot_notMem_mark q.dot_notMem_mark h
  exact ⟨String.ext_iff.mpr source,
    percentage_of_mark (String.ext_iff.mpr mark)⟩

/-- Counts and values are never stored under one name. -/
theorem countKey_ne_valuesKey (p q : Percentile) :
    p.countKey ≠ q.valuesKey := by
  intro h
  have h : "percentile." ++ p.source ++ "." ++ p.mark ++ ".count"
      = "percentile." ++ q.source ++ "." ++ q.mark ++ ".values" := h
  simp only [String.ext_iff, String.toList_append] at h
  have last := congrArg List.getLast? h
  have ends : ∀ {front back : List Char} {c : Char},
      back.getLast? = some c → (front ++ back).getLast? = some c := by
    intro front back c hc
    rw [List.getLast?_append, hc, Option.some_or]
  rw [ends (c := 't') rfl, ends (c := 's') rfl] at last
  cases last

/-- Percentiles that share a storage name are of one variable and one
percentage. -/
theorem eq_of_storageNames {p q : Percentile} {name : String}
    (hp : name ∈ p.storageNames) (hq : name ∈ q.storageNames) :
    p.source = q.source ∧ p.percentage = q.percentage := by
  simp only [storageNames, List.mem_cons, List.not_mem_nil, or_false] at hp hq
  rcases hp with rfl | rfl
  · rcases hq with h | h
    · exact eq_of_name h
    · exact absurd h (countKey_ne_valuesKey p q)
  · rcases hq with h | h
    · exact absurd h.symm (countKey_ne_valuesKey q p)
    · exact eq_of_name h

end Percentile

-- =============================================================== panels

variable {α : Type}

/-- Statistics without a common output name have no common storage name. -/
theorem Statistic.storageNames_apart {x y : Statistic α}
    (h : List.Disjoint x.names.output y.names.output) {name : String}
    (hx : name ∈ x.storageNames) : name ∉ y.storageNames := by
  intro hy
  cases x with
  | percentile p =>
      cases y with
      | percentile q =>
          obtain ⟨source, percentage⟩ :=
            Percentile.eq_of_storageNames hx hy
          have mark : p.mark = q.mark := by
            unfold Percentile.mark
            rw [percentage]
          refine h (a := s!"{p.source}_{p.mark}") List.mem_cons_self ?_
          rw [source, mark]
          exact List.mem_cons_self
      | _ => cases hy
  | _ => cases hx

/-- No statistic of a panel owns a storage name of another. -/
theorem Panel.storageNames_apart {p : Panel α}
    {before after : List (Statistic α)} {x : Statistic α}
    (h : p.statistics = before ++ x :: after) :
    ∀ y ∈ before ++ after, ∀ name ∈ x.storageNames,
      name ∉ y.storageNames := by
  have pairs := (List.nodup_flatMap.mp p.nodup_output).2
  rw [h, List.pairwise_append, List.pairwise_cons] at pairs
  obtain ⟨-, ⟨behind, -⟩, across⟩ := pairs
  intro y hy name hx
  rcases List.mem_append.mp hy with hy | hy
  · exact Statistic.storageNames_apart
      (List.disjoint_symm (across y hy x List.mem_cons_self)) hx
  · exact Statistic.storageNames_apart (behind y hy) hx

end EarthBins
