/-
What the rows of a table have in common once the table was read.

A line is checked by itself, for a column count and a latitude within their
ranges, and against the line before it, for a latitude farther south. So
the rows of a table that was read are proper, each of them, and no row lies
at or north of the row before it.
-/
import EarthBins.Grid.Table
import EarthBins.Proofs.Outcome
import Mathlib

namespace EarthBins.RowTable

open Outcome

/-- Whether a row has columns, counted in 32 bits, and lies between the
poles. -/
def Proper (row : Nat × Float) : Prop :=
  (1 ≤ row.1 ∧ row.1 < 2 ^ 32) ∧ inRange row.2 = true

/-- Whether no row lies at or north of the row before it. -/
def Descending (rows : List (Nat × Float)) : Prop :=
  rows.IsChain fun north south => ¬ north.2 ≤ south.2

theorem proper_of_readRow {line : List Char} {row : Nat × Float}
    (h : readRow line = .ok row) : Proper row := by
  unfold readRow at h
  split at h
  · split at h
    · cases h
    · cases h
    · rename_i columns lat _ _
      split at h
      · cases h
      · rename_i nonzero
        split at h
        · cases h
        · rename_i inside
          cases h
          have positive : columns.toNat ≠ 0 := fun zero =>
            nonzero (UInt32.toNat_inj.mp zero)
          refine ⟨⟨Nat.pos_of_ne_zero positive, columns.toNat_lt⟩, ?_⟩
          rw [Bool.not_eq_true, Bool.not_eq_false'] at inside
          exact inside
  · cases h

/-- The rows read behind a latitude are proper and descend from it. -/
theorem readRows_eq_ok {north : Option Float}
    {lines : List (Nat × List Char)} {rows : List (Nat × Float)}
    (h : readRows north lines = .ok rows) :
    (∀ row ∈ rows, Proper row) ∧ Descending rows
      ∧ ∀ row ∈ rows.head?, ∀ lat ∈ north, ¬ lat ≤ row.2 := by
  induction lines generalizing north rows with
  | nil =>
      cases h
      refine ⟨fun row hrow => absurd hrow List.not_mem_nil,
        List.isChain_nil, fun row hrow => ?_⟩
      cases hrow
  | cons line lines ih =>
      obtain ⟨number, text⟩ := line
      rw [readRows] at h
      cases hrow : readRow text with
      | error cause =>
          rw [hrow] at h
          cases h
      | ok row =>
          obtain ⟨columns, lat⟩ := row
          rw [hrow] at h
          dsimp only at h
          split at h
          · cases h
          · rename_i south
            obtain ⟨behind, hbehind, h⟩ := bind_eq_ok.mp h
            cases h
            obtain ⟨proper, chain, descends⟩ := ih hbehind
            refine ⟨?_, ?_, ?_⟩
            · intro row hmem
              rcases List.mem_cons.mp hmem with rfl | hmem
              · exact proper_of_readRow hrow
              · exact proper row hmem
            · refine List.isChain_cons.mpr ⟨?_, chain⟩
              intro row hmem
              exact descends row hmem lat rfl
            · intro row hmem previous hprevious
              cases hmem
              rw [hprevious, Option.any_some, decide_eq_true_eq] at south
              exact south

/-- A table that was read has proper rows that descend, as many as its
resolution asks for. -/
theorem read_eq_ok {hemisphereRows : Nat} {text : String} {g : GaussianGrid}
    (h : read hemisphereRows text = .ok g) :
    hemisphereRows ∈ Gaussian.allowedRows
    ∧ ∃ rows, g.layout = RowLayout.ofRows rows
      ∧ rows.length = 2 * hemisphereRows
      ∧ (∀ row ∈ rows, Proper row) ∧ Descending rows := by
  unfold read at h
  split at h
  · cases h
  · rename_i known
    dsimp only at h
    obtain ⟨rows, hrows, h⟩ := bind_eq_ok.mp h
    split at h
    · cases h
    · rename_i total
      cases h
      obtain ⟨proper, descending, -⟩ := readRows_eq_ok hrows
      rw [Bool.not_eq_true, Bool.not_eq_false', List.contains_iff_mem] at known
      exact ⟨known, rows, rfl, by omega, proper, descending⟩

end EarthBins.RowTable
