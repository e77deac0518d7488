/-
A row of steps, each on its own part of one vector and all on one storage.

All phases of a panel have this form, the spatial ones as well as the
temporal ones (`stepEach_eq_runParts`, `mergeEach_eq_runParts`), so what is
to be said of them is said here, once.

# A part is not disturbed

`runParts_slice` is the frame property. A part whose names no other part
owns goes through the row as if it stood there alone: its slots hold what
they would hold on their own, and under its names the storage holds what it
would hold then. Nothing is asked of the rest of the storage.
-/
import EarthBins.Panel
import EarthBins.Proofs.Statistic.Kinds

namespace EarthBins

open Outcome

variable {α : Type}

-- ================================================================ parts

/-- A step with the width of its part of the vector and the storage names
it owns. -/
structure Part (α : Type) where
  names : List String
  width : Nat
  step : Phase α

/-- A part whose step keeps to it. -/
def Part.Confined (p : Part α) : Prop :=
  Phase.Confined p.names p.width p.step

/-- Take the step of every part. -/
def runParts : List (Part α) → Phase α
  | [], s, v => .ok (s, v)
  | p :: rest, s, v => do
    let (part, others) ← Panel.splitPart p.width v
    let (s, part) ← p.step s part
    let (s, others) ← runParts rest s others
    return (s, part ++ others)

/-- Width of a row. -/
def totalWidth (parts : List (Part α)) : Nat :=
  (parts.map (·.width)).sum

/-- The names that a row owns. -/
def allNames (parts : List (Part α)) : List String :=
  parts.flatMap (·.names)

/-- Storages that agree on more than a step touches agree on it after the
step. -/
theorem Scratch.AgreeOn.extend {names all : List String}
    {s t s' t' : Scratch α} (h : AgreeOn all s t)
    (h' : AgreeOn names s' t') (hs : ChangedOn names s s')
    (ht : ChangedOn names t t') : AgreeOn all s' t' := by
  intro name hn
  by_cases touched : name ∈ names
  · exact h' name touched
  · rw [hs.2 name touched, h name hn, ht.2 name touched]

theorem Scratch.AgreeOn.mono {names all : List String} {s t : Scratch α}
    (h : AgreeOn all s t) (sub : names ⊆ all) : AgreeOn names s t :=
  fun name hn => h name (sub hn)

theorem splitPart_of_length {v : FeatureVector α} {width others : Nat}
    (hv : v.length = width + others) :
    Panel.splitPart width v = .ok (v.take width, v.drop width)
    ∧ (v.take width).length = width ∧ (v.drop width).length = others := by
  refine ⟨if_neg (by omega), ?_, ?_⟩
  · rw [List.length_take]
    omega
  · rw [List.length_drop]
    omega

/-- The first step of a row, and the steps behind it. -/
theorem runParts_cons {p : Part α} {rest : List (Part α)}
    {s s₁ s₂ : Scratch α} {v part others : FeatureVector α}
    (hv : v.length = p.width + totalWidth rest)
    (hp : p.step s (v.take p.width) = .ok (s₁, part))
    (hr : runParts rest s₁ (v.drop p.width) = .ok (s₂, others)) :
    runParts (p :: rest) s v = .ok (s₂, part ++ others) := by
  rw [runParts, (splitPart_of_length hv).1, ok_bind]
  simp only [hp, ok_bind, hr]
  rfl

/-- A row of confined parts is confined itself. -/
theorem runParts_confined {parts : List (Part α)}
    (h : ∀ p ∈ parts, p.Confined) :
    Phase.Confined (allNames parts) (totalWidth parts) (runParts parts) := by
  induction parts with
  | nil => exact Phase.Confined.skip [] 0
  | cons p rest ih =>
      intro s t v hv agree
      have sub : p.names ⊆ allNames (p :: rest) :=
        List.subset_append_left _ _
      have sub' : allNames rest ⊆ allNames (p :: rest) :=
        List.subset_append_right _ _
      obtain ⟨-, htake, hdrop⟩ := splitPart_of_length hv
      -- the first step leaves the storages alike on the names of the row,
      -- so the rest of the row starts from storages that agree
      obtain ⟨s₁, t₁, part, hs₁, ht₁, hpart, agree₁, cs₁, ct₁⟩ :=
        h p List.mem_cons_self htake (agree.mono sub)
      obtain ⟨s₂, t₂, others, hs₂, ht₂, hothers, agree₂, cs₂, ct₂⟩ :=
        ih (fun q hq => h q (List.mem_cons_of_mem _ hq)) hdrop
          ((agree.extend agree₁ cs₁ ct₁).mono sub')
      refine ⟨s₂, t₂, part ++ others, runParts_cons hv hs₁ hs₂,
        runParts_cons hv ht₁ ht₂, ?_, ?_, ?_, ?_⟩
      · rw [List.length_append, hpart, hothers]
        rfl
      · exact (agree.extend agree₁ cs₁ ct₁).extend agree₂ cs₂ ct₂
      · exact (cs₁.mono sub).trans (cs₂.mono sub')
      · exact (ct₁.mono sub).trans (ct₂.mono sub')

/-- The slots of a vector from an offset on. -/
def slice (offset width : Nat) (v : FeatureVector α) : FeatureVector α :=
  (v.drop offset).take width

/-- A part in a row whose names no other part owns goes through the row as
it goes alone. -/
theorem runParts_slice {before : List (Part α)} {p : Part α}
    {after : List (Part α)}
    (h : ∀ q ∈ before ++ p :: after, q.Confined)
    (apart : ∀ q ∈ before ++ after, ∀ name ∈ p.names, name ∉ q.names)
    {s t : Scratch α} {v : FeatureVector α}
    (hv : v.length = totalWidth (before ++ p :: after))
    (agree : s.AgreeOn p.names t) :
    ∃ s' t' v' w',
      runParts (before ++ p :: after) s v = .ok (s', v')
      ∧ p.step t (slice (totalWidth before) p.width v) = .ok (t', w')
      ∧ v'.length = v.length ∧ w'.length = p.width
      ∧ slice (totalWidth before) p.width v' = w'
      ∧ s'.AgreeOn p.names t' ∧ s'.bin = s.bin ∧ t'.bin = t.bin := by
  induction before generalizing s v with
  | nil =>
      -- the part comes first: nothing behind it changes what it left
      obtain ⟨-, htake, hdrop⟩ := splitPart_of_length hv
      obtain ⟨s₁, t₁, part, hs₁, ht₁, hpart, agree₁, cs₁, ct₁⟩ :=
        h p List.mem_cons_self htake agree
      obtain ⟨s₂, -, others, hs₂, -, hothers, -, cs₂, -⟩ :=
        runParts_confined
          (fun q hq => h q (List.mem_cons_of_mem _ hq)) hdrop
          (Scratch.AgreeOn.refl _ s₁)
      refine ⟨s₂, t₁, part ++ others, part, runParts_cons hv hs₁ hs₂, ht₁,
        ?_, hpart, ?_, ?_, cs₂.1.trans cs₁.1, ct₁.1⟩
      · rw [List.length_append, hpart, hothers, hv]
        rfl
      · show ((part ++ others).drop 0).take p.width = part
        rw [List.drop_zero, ← hpart, List.take_left]
      · refine agree₁.of_changedOn cs₂ fun name hn hin => ?_
        obtain ⟨q, hq, hname⟩ := List.mem_flatMap.mp hin
        exact apart q hq name hn hname
  | cons q before ih =>
      -- another part comes first: it leaves the names of `p` alone
      have hv' : v.length
          = q.width + totalWidth (before ++ p :: after) := hv
      obtain ⟨-, htake, hdrop⟩ := splitPart_of_length hv'
      obtain ⟨s₁, -, part, hs₁, -, hpart, -, cs₁, -⟩ :=
        h q List.mem_cons_self htake (Scratch.AgreeOn.refl _ s)
      have agree₁ : s₁.AgreeOn p.names t :=
        agree.of_changedOn cs₁ (apart q List.mem_cons_self)
      obtain ⟨s₂, t', others, w', hs₂, ht', hothers, hw', hslice, agree₂,
          bin₂, bin'⟩ :=
        ih (fun r hr => h r (List.mem_cons_of_mem _ hr))
          (fun r hr => apart r (List.mem_cons_of_mem _ hr)) hdrop agree₁
      refine ⟨s₂, t', part ++ others, w', runParts_cons hv' hs₁ hs₂, ?_,
        ?_, hw', ?_, agree₂, bin₂.trans cs₁.1, bin'⟩
      · rw [slice, List.drop_drop] at ht'
        exact ht'
      · rw [List.length_append, hpart, hothers, hdrop, hv']
      · show ((part ++ others).drop (q.width + totalWidth before)).take _ = _
        rw [← List.drop_drop, ← hpart, List.drop_left]
        exact hslice

end EarthBins
