/-
Names that occur twice.

`firstRepeat?` finds the first name of a list that stood there before; a
list without one is free of duplicates.
-/

namespace EarthBins.Text

/-- The first name that was seen already or occurs earlier in the list. -/
def firstRepeatAfter? (seen : List String) : List String → Option String
  | [] => none
  | name :: rest =>
    if seen.contains name then some name
    else firstRepeatAfter? (name :: seen) rest

/-- The first name of a list that occurs earlier in it. -/
def firstRepeat? (names : List String) : Option String :=
  firstRepeatAfter? [] names

theorem firstRepeatAfter?_eq_none_iff {seen names : List String} :
    firstRepeatAfter? seen names = none ↔
      names.Nodup ∧ ∀ name ∈ names, name ∉ seen := by
  induction names generalizing seen with
  | nil => simp [firstRepeatAfter?]
  | cons name rest ih =>
    by_cases h : name ∈ seen
    · simp [firstRepeatAfter?, h]
    · simp only [firstRepeatAfter?, List.contains_eq_mem, h,
        decide_false, Bool.false_eq_true, if_false, ih, List.mem_cons,
        not_or, List.nodup_cons, forall_eq_or_imp, not_false_eq_true,
        true_and]
      constructor
      · intro ⟨nodup, fresh⟩
        exact ⟨⟨fun h => (fresh name h).1 rfl, nodup⟩,
          fun n hn => (fresh n hn).2⟩
      · intro ⟨⟨absent, nodup⟩, fresh⟩
        exact ⟨nodup, fun n hn =>
          ⟨fun e => absent (e ▸ hn), fresh n hn⟩⟩

/-- A list has no first repeat exactly when its names are distinct. -/
theorem firstRepeat?_eq_none_iff {names : List String} :
    firstRepeat? names = none ↔ names.Nodup := by
  simp [firstRepeat?, firstRepeatAfter?_eq_none_iff]

end EarthBins.Text
