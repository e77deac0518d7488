/-
Computations that may fail, read backwards: what has to have happened for a
sequence of steps to succeed.

Every operation of the library that can fail is a chain of smaller ones, so
a success is taken apart into the successes it is made of. Later modules
peel a chain with these equivalences and never look at the binding itself.
-/
import EarthBins.Error
import Mathlib.Data.List.Perm.Basic

namespace EarthBins.Outcome

variable {ε α β : Type}

@[simp]
theorem ok_bind (a : α) (f : α → Except ε β) : Except.ok a >>= f = f a :=
  rfl

@[simp]
theorem error_bind (e : ε) (f : α → Except ε β) :
    Except.error e >>= f = .error e :=
  rfl

/-- A chain succeeds when its first step does and the rest on its result. -/
theorem bind_eq_ok {x : Except ε α} {f : α → Except ε β} {b : β} :
    x >>= f = .ok b ↔ ∃ a, x = .ok a ∧ f a = .ok b := by
  cases x with
  | error e =>
      constructor
      · intro h
        cases h
      · rintro ⟨a, h, -⟩
        cases h
  | ok a =>
      constructor
      · intro h
        exact ⟨a, rfl, h⟩
      · rintro ⟨a', h, hb⟩
        cases h
        exact hb

/-- A chain fails in its first step or in the rest. -/
theorem bind_eq_error {x : Except ε α} {f : α → Except ε β} {e : ε} :
    x >>= f = .error e ↔
      x = .error e ∨ ∃ a, x = .ok a ∧ f a = .error e := by
  cases x with
  | error e' =>
      rw [error_bind]
      constructor
      · intro h
        cases h
        exact Or.inl rfl
      · rintro (h | ⟨a, h, -⟩)
        · cases h
          rfl
        · cases h
  | ok a =>
      constructor
      · intro h
        exact Or.inr ⟨a, rfl, h⟩
      · rintro (h | ⟨a', h, he⟩)
        · cases h
        · cases h
          exact he

theorem map_eq_ok {x : Except ε α} {f : α → β} {b : β} :
    f <$> x = .ok b ↔ ∃ a, x = .ok a ∧ f a = b := by
  cases x with
  | error e => simp [Functor.map, Except.map]
  | ok a => simp [Functor.map, Except.map]

theorem pure_eq_ok {a b : α} : (pure a : Except ε α) = .ok b ↔ a = b := by
  simp [pure, Except.pure]

@[simp]
theorem map_ok (f : α → β) (a : α) :
    f <$> (Except.ok a : Except ε α) = .ok (f a) :=
  rfl

-- ============================================================== lists

/-- A list is worked through when each of its members is. -/
theorem mapM_eq_ok {f : α → Except ε β} {as : List α} {bs : List β} :
    as.mapM f = .ok bs ↔ List.Forall₂ (fun a b => f a = .ok b) as bs := by
  induction as generalizing bs with
  | nil =>
      rw [List.mapM_nil, pure_eq_ok, List.forall₂_nil_left_iff]
      exact eq_comm
  | cons a as ih =>
      rw [List.mapM_cons, bind_eq_ok, List.forall₂_cons_left_iff]
      simp only [bind_eq_ok, pure_eq_ok, ih]
      constructor
      · rintro ⟨b, hb, bs', hbs, rfl⟩
        exact ⟨b, bs', hb, hbs, rfl⟩
      · rintro ⟨b, bs', hb, hbs, rfl⟩
        exact ⟨b, hb, bs', hbs, rfl⟩

/-- The results of a list are those of its members, place by place. -/
theorem getElem_of_mapM {f : α → Except ε β} {as : List α} {bs : List β}
    (h : as.mapM f = .ok bs) {i : Nat} (hi : i < as.length) :
    ∃ b, bs[i]? = some b ∧ f as[i] = .ok b := by
  have h := mapM_eq_ok.mp h
  have hi' : i < bs.length := h.length_eq ▸ hi
  refine ⟨bs[i], List.getElem?_eq_getElem hi', ?_⟩
  simpa using h.get hi hi'

/-- A result is that of some member. -/
theorem exists_of_mem_mapM {f : α → Except ε β} {as : List α}
    {bs : List β} (h : as.mapM f = .ok bs) {b : β} (hb : b ∈ bs) :
    ∃ a ∈ as, f a = .ok b := by
  obtain ⟨i, hi, rfl⟩ := List.getElem_of_mem hb
  have hi' : i < as.length := (mapM_eq_ok.mp h).length_eq ▸ hi
  obtain ⟨b, hb, hf⟩ := getElem_of_mapM h hi'
  rw [List.getElem?_eq_getElem hi] at hb
  cases hb
  exact ⟨as[i], List.getElem_mem hi', hf⟩

/-- What the results show is what their members show. -/
theorem map_of_mapM {γ : Type} {f : α → Except ε β} {as : List α}
    {bs : List β} (h : as.mapM f = .ok bs) {g : β → γ} {g' : α → γ}
    (same : ∀ a ∈ as, ∀ b, f a = .ok b → g b = g' a) :
    bs.map g = as.map g' := by
  induction as generalizing bs with
  | nil =>
      cases h
      rfl
  | cons a as ih =>
      simp only [List.mapM_cons, bind_eq_ok, pure_eq_ok] at h
      obtain ⟨b, hb, bs, hbs, rfl⟩ := h
      rw [List.map_cons, List.map_cons, same a List.mem_cons_self b hb,
        ih hbs fun a' ha' => same a' (List.mem_cons_of_mem _ ha')]

/-- A list that cannot be worked through has a member that cannot. -/
theorem mapM_eq_error {f : α → Except ε β} {as : List α} {e : ε}
    (h : as.mapM f = .error e) : ∃ a ∈ as, f a = .error e := by
  induction as with
  | nil => cases h
  | cons a as ih =>
      rw [List.mapM_cons, bind_eq_error] at h
      rcases h with h | ⟨b, -, h⟩
      · exact ⟨a, List.mem_cons_self, h⟩
      · rw [bind_eq_error] at h
        rcases h with h | ⟨bs, -, h⟩
        · obtain ⟨a', ha', he⟩ := ih h
          exact ⟨a', List.mem_cons_of_mem _ ha', he⟩
        · cases h

/-- A list in another order has its results in another order. -/
theorem mapM_perm {f : α → Except ε β} {as as' : List α} {bs : List β}
    (perm : as'.Perm as) (h : as.mapM f = .ok bs) :
    ∃ bs', as'.mapM f = .ok bs' ∧ bs'.Perm bs := by
  obtain ⟨bs', same, perm'⟩ := List.perm_comp_forall₂ perm (mapM_eq_ok.mp h)
  exact ⟨bs', mapM_eq_ok.mpr same, perm'⟩

theorem mapM_isOk {f : α → Except ε β} {as : List α}
    (h : ∀ a ∈ as, ∃ b, f a = .ok b) : ∃ bs, as.mapM f = .ok bs := by
  induction as with
  | nil => exact ⟨[], rfl⟩
  | cons a as ih =>
      obtain ⟨b, hb⟩ := h a List.mem_cons_self
      obtain ⟨bs, hbs⟩ := ih fun a' ha' => h a' (List.mem_cons_of_mem _ ha')
      refine ⟨b :: bs, ?_⟩
      rw [List.mapM_cons, hb, ok_bind, hbs]
      rfl

-- ============================================================ conditions

/-- Whether a computation succeeds just where a condition holds, and
elsewhere fails with an error of one sort. -/
structure SucceedsIff (sort : ε → Prop) (x : Except ε α) (P : Prop) :
    Prop where
  isOk_iff : (∃ a, x = .ok a) ↔ P
  error : ∀ e, x = .error e → sort e

namespace SucceedsIff

variable {sort : ε → Prop} {x : Except ε α} {P Q : Prop}

theorem ok (a : α) : SucceedsIff sort (.ok a) True where
  isOk_iff := ⟨fun _ => trivial, fun _ => ⟨a, rfl⟩⟩
  error := nofun

theorem fails {e : ε} (h : sort e) :
    SucceedsIff sort (.error e : Except ε α) False where
  isOk_iff := ⟨nofun, False.elim⟩
  error := by
    rintro e' ⟨⟩
    exact h

theorem congr (h : SucceedsIff sort x P) (same : P ↔ Q) :
    SucceedsIff sort x Q where
  isOk_iff := h.isOk_iff.trans same
  error := h.error

/-- A chain needs what its first step needs, and what the rest does. -/
theorem bind {f : α → Except ε β} (hx : SucceedsIff sort x P)
    (hf : ∀ a, x = .ok a → SucceedsIff sort (f a) Q) :
    SucceedsIff sort (x >>= f) (P ∧ Q) := by
  cases x with
  | error e =>
      have never : ¬ P := fun p => nomatch hx.isOk_iff.mpr p
      exact (fails (hx.error e rfl)).congr
        ⟨False.elim, fun h => never h.1⟩
  | ok a =>
      have always : P := hx.isOk_iff.mp ⟨a, rfl⟩
      exact (hf a rfl).congr (and_iff_right always).symm

theorem map {f : α → β} (hx : SucceedsIff sort x P) :
    SucceedsIff sort (f <$> x) P := by
  cases x with
  | error e =>
      have never : ¬ P := fun p => nomatch hx.isOk_iff.mpr p
      exact (fails (hx.error e rfl)).congr ⟨False.elim, never⟩
  | ok a => exact (ok (f a)).congr (iff_of_true trivial
      (hx.isOk_iff.mp ⟨a, rfl⟩))

/-- A refusal, and what follows where there is no reason for it. -/
theorem ite {c : Prop} [Decidable c] {e : ε} (h : sort e)
    (hx : ¬ c → SucceedsIff sort x P) :
    SucceedsIff sort (if c then .error e else x) (¬ c ∧ P) := by
  by_cases hc : c
  · rw [if_pos hc]
    exact (fails h).congr ⟨False.elim, fun h => h.1 hc⟩
  · rw [if_neg hc]
    exact (hx hc).congr (and_iff_right hc).symm

/-- A list needs what each of its members needs. -/
theorem mapM {f : α → Except ε β} {P : α → Prop} (as : List α)
    (h : ∀ a ∈ as, SucceedsIff sort (f a) (P a)) :
    SucceedsIff sort (as.mapM f) (∀ a ∈ as, P a) where
  isOk_iff := by
    constructor
    · rintro ⟨bs, hbs⟩ a ha
      obtain ⟨i, hi, rfl⟩ := List.getElem_of_mem ha
      obtain ⟨b, -, hb⟩ := getElem_of_mapM hbs hi
      exact (h _ ha).isOk_iff.mp ⟨b, hb⟩
    · intro all
      exact mapM_isOk fun a ha => (h a ha).isOk_iff.mpr (all a ha)
  error := by
    intro e he
    obtain ⟨a, ha, hfa⟩ := mapM_eq_error he
    exact (h a ha).error e hfa

/-- What can succeed or fail does one of them. -/
theorem exists_error (h : SucceedsIff sort x P) (not : ¬ P) :
    ∃ e, x = .error e ∧ sort e := by
  cases x with
  | error e => exact ⟨e, rfl, h.error e rfl⟩
  | ok a => exact absurd (h.isOk_iff.mp ⟨a, rfl⟩) not

end SucceedsIff

end EarthBins.Outcome
