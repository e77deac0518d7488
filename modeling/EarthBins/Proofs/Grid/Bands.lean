/-
The rows of a grid as bands of latitude.

Without rounding, the latitudes that belong to a row are those between two
borders: the one to the row before it and the one to the row behind it.
The first row is open to the north and the last one to the south, so that
the bands cover all latitudes, those beyond the poles and the infinite ones
among them. In a layout the border of two rows lies half way between their
centers and belongs to the northern row; in a regular grid borders are
evenly spaced and belong to the southern row.

# The search for the nearest row

The rows at or north of a latitude are the first ones (`NorthRows`), for
latitudes descend from row to row. Where all rows or none are, the search
ends at the last or the first row; otherwise the last row at or north of
the latitude and the one behind it are the candidates, and comparing the
distances of their centers is comparing with the border between them.
-/
import EarthBins.Proofs.Grid.Centers
import EarthBins.Proofs.Scalar.Order

namespace EarthBins

open Exact

-- ================================================ comparing latitudes

namespace Exact

variable {x : ℝ} {y : Exact}

/-- A number other than NaN is compared with a real number among the
extended real numbers. -/
theorem real_le_iff (hy : y ≠ nan) : real x ≤ y ↔ (x : EReal) ≤ y.extended :=
  le_iff.trans ⟨fun h => h.2.2, fun h => ⟨real_ne_nan x, hy, h⟩⟩

theorem le_real_iff (hy : y ≠ nan) : y ≤ real x ↔ y.extended ≤ (x : EReal) :=
  le_iff.trans ⟨fun h => h.2.2, fun h => ⟨hy, real_ne_nan x, h⟩⟩

theorem real_lt_iff (hy : y ≠ nan) : real x < y ↔ (x : EReal) < y.extended :=
  lt_iff.trans ⟨fun h => h.2.2, fun h => ⟨real_ne_nan x, hy, h⟩⟩

theorem lt_real_iff (hy : y ≠ nan) : y < real x ↔ y.extended < (x : EReal) :=
  lt_iff.trans ⟨fun h => h.2.2, fun h => ⟨hy, real_ne_nan x, h⟩⟩

/-- A number between two real numbers is one. -/
theorem exists_real_of_between {a b : ℝ} (low : (a : EReal) < y.extended)
    (high : y.extended ≤ (b : EReal)) (hy : y ≠ nan) : ∃ z, y = real z := by
  cases y with
  | nan => exact absurd rfl hy
  | infinite negative =>
      cases negative with
      | true => exact absurd low not_lt_bot
      | false => exact absurd (EReal.coe_lt_top b) high.not_gt
  | real z => exact ⟨z, rfl⟩

open Classical in
/-- An infinity stays what it is when it is divided by a positive number. -/
theorem infinite_div_real (negative : Bool) (positive : 0 < x) :
    infinite negative / real x = infinite negative := by
  show infinite (negative != decide (x < 0)) = _
  rw [decide_eq_false positive.not_gt, Bool.bne_false]

end Exact

-- ============================================================= layouts

namespace RowLayout

variable {rows : List (Nat × ℝ)} {r s k : Nat} {lat : Exact} {x : ℝ}

/-- The center latitude of a row, zero for a row outside the layout. -/
def centerAt (rows : List (Nat × ℝ)) (r : Nat) : ℝ :=
  (rows[r]?).elim 0 Prod.snd

/-- The latitude half way between the centers of a row and the next. -/
noncomputable def border (rows : List (Nat × ℝ)) (r : Nat) : ℝ :=
  (centerAt rows r + centerAt rows (r + 1)) / (2 : ℕ)

theorem centerAt_eq (h : r < rows.length) : centerAt rows r = rows[r].2 := by
  rw [centerAt, List.getElem?_eq_getElem h, Option.elim_some]

theorem centerAt_lt
    (descends : rows.Pairwise fun north south => south.2 < north.2)
    (before : r < s) (h : s < rows.length) :
    centerAt rows s < centerAt rows r := by
  rw [centerAt_eq h, centerAt_eq (before.trans h)]
  exact List.pairwise_iff_getElem.mp descends r s _ h before

/-- Borders descend as centers do. -/
theorem border_le
    (descends : rows.Pairwise fun north south => south.2 < north.2)
    (before : r ≤ s) (h : s + 1 < rows.length) :
    border rows s ≤ border rows r := by
  rcases Nat.lt_or_eq_of_le before with before | rfl
  · have := centerAt_lt descends before (Nat.lt_of_succ_lt h)
    have := centerAt_lt descends (Nat.succ_lt_succ before) h
    unfold border
    linarith
  · exact le_refl _

/-- The border of two rows lies between their centers. -/
theorem border_between
    (descends : rows.Pairwise fun north south => south.2 < north.2)
    (h : r + 1 < rows.length) :
    centerAt rows (r + 1) < border rows r
      ∧ border rows r < centerAt rows r := by
  have := centerAt_lt descends (Nat.lt_succ_self r) h
  unfold border
  constructor
  · linarith
  · linarith

theorem getElem?_ofReal (h : r < rows.length) :
    (ofReal rows).rows[r]? = some ⟨rows[r].1, real (centerAt rows r),
      start (rows.map fun row => (row.1, real row.2)) r⟩ := by
  rw [centerAt_eq h]
  exact row?_ofReal h

theorem numRows_ofReal (rows : List (Nat × ℝ)) :
    (ofReal rows).numRows = rows.length := by
  rw [ofReal, numRows_ofRows, List.length_map]

/-- Whether the rows at or north of a latitude are the first `k`. -/
def NorthRows (rows : List (Nat × ℝ)) (lat : Exact) (k : Nat) : Prop :=
  Leading (fun row => decide (lat ≤ row.centerLat)) (ofReal rows).rows k

theorem NorthRows.iff (north : NorthRows rows lat k) (h : r < rows.length) :
    lat ≤ real (centerAt rows r) ↔ r < k := by
  rw [← north r, getElem?_ofReal h, Option.any_some, decide_eq_true_eq]

theorem NorthRows.le_length (north : NorthRows rows lat k) :
    k ≤ rows.length := by
  rw [← numRows_ofReal]
  exact Leading.le_size north

/-- A row north of one that is at or north of a latitude is so as well. -/
theorem exists_northRows
    (descends : rows.Pairwise fun north south => south.2 < north.2)
    (lat : Exact) : ∃ k, NorthRows rows lat k := by
  refine exists_leading fun i j before pass => ?_
  by_cases h : j < rows.length
  · rw [getElem?_ofReal h, Option.any_some, decide_eq_true_eq] at pass
    rw [getElem?_ofReal (before.trans h), Option.any_some,
      decide_eq_true_eq]
    have number := (Exact.le_iff.mp pass).1
    rw [le_real_iff number] at pass ⊢
    exact pass.trans
      (EReal.coe_le_coe_iff.mpr (centerAt_lt descends before h).le)
  · have none : (ofReal rows).rows[j]? = none :=
      row?_ofReal_eq_none (Nat.not_lt.mp h)
    rw [none] at pass
    cases pass

theorem nearestRow_of_north_zero (north : NorthRows rows lat 0) :
    (ofReal rows).nearestRow lat = 0 := by
  unfold nearestRow
  dsimp only
  rw [partitionPoint_of_leading north]
  by_cases h : 0 < rows.length
  · rw [getElem?_ofReal h]
    rfl
  · have none : (ofReal rows).rows[0]? = none :=
      row?_ofReal_eq_none (Nat.not_lt.mp h)
    rw [none]
    show (ofReal rows).numRows - 1 = 0
    rw [numRows_ofReal]
    omega

theorem nearestRow_of_north_all (north : NorthRows rows lat rows.length) :
    (ofReal rows).nearestRow lat = rows.length - 1 := by
  have none : (ofReal rows).rows[rows.length]? = none :=
    row?_ofReal_eq_none (le_refl _)
  unfold nearestRow
  dsimp only
  rw [partitionPoint_of_leading north, none, numRows_ofReal]
  cases (ofReal rows).rows[rows.length - 1]? with
  | none => rfl
  | some row => rfl

/-- Between the centers of two rows the border decides. -/
theorem nearestRow_of_north_succ (h : k + 1 < rows.length)
    (north : NorthRows rows (real x) (k + 1)) :
    (ofReal rows).nearestRow (real x)
      = if border rows k ≤ x then k else k + 1 := by
  unfold nearestRow
  dsimp only
  rw [partitionPoint_of_leading north, Nat.add_sub_cancel,
    getElem?_ofReal (Nat.lt_of_succ_lt h), getElem?_ofReal h]
  dsimp only
  rw [if_neg (Nat.succ_ne_zero k)]
  refine if_congr ?_ rfl rfl
  rw [real_sub, real_sub, real_le]
  unfold border
  constructor
  · intro nearer
    linarith
  · intro nearer
    linarith

/-- NaN is at or south of nothing, and so in the first row. -/
theorem nearestRow_nan (rows : List (Nat × ℝ)) :
    (ofReal rows).nearestRow nan = 0 := by
  refine nearestRow_of_north_zero fun i => ?_
  refine iff_of_false ?_ (Nat.not_lt_zero i)
  cases (ofReal rows).rows[i]? with
  | none => exact Bool.false_ne_true
  | some row =>
      rw [Option.any_some, decide_eq_true_eq]
      exact fun le => (Exact.le_iff.mp le).1 rfl

/-- A latitude at or south of a center is south of the border north of
that center. -/
theorem lt_border
    (descends : rows.Pairwise fun north south => south.2 < north.2)
    (h : r + 1 < rows.length) (le : lat ≤ real (centerAt rows (r + 1))) :
    lat < real (border rows r) := by
  have number := (Exact.le_iff.mp le).1
  rw [le_real_iff number] at le
  rw [lt_real_iff number]
  exact le.trans_lt (EReal.coe_lt_coe_iff.mpr (border_between descends h).1)

/-- A latitude north of a center is north of the border south of that
center. -/
theorem border_le_of_not_le
    (descends : rows.Pairwise fun north south => south.2 < north.2)
    (h : r + 1 < rows.length) (number : lat ≠ nan)
    (north : ¬ lat ≤ real (centerAt rows r)) :
    real (border rows r) ≤ lat := by
  rw [le_real_iff number, not_le] at north
  rw [real_le_iff number]
  exact (EReal.coe_lt_coe_iff.mpr (border_between descends h).2).le.trans
    north.le

/-- Whether a latitude lies in the band of a row: south of the border to
the row before it, and not south of the border to the row behind it. -/
structure InBand (rows : List (Nat × ℝ)) (r : Nat) (lat : Exact) : Prop where
  inside : r < rows.length
  south : 0 < r → lat < real (border rows (r - 1))
  north : r + 1 < rows.length → real (border rows r) ≤ lat

/-- A latitude lies in the band of the row nearest to it. -/
theorem nearestRow_inBand
    (descends : rows.Pairwise fun north south => south.2 < north.2)
    (nonempty : 0 < rows.length) (number : lat ≠ nan) :
    InBand rows ((ofReal rows).nearestRow lat) lat := by
  obtain ⟨k, north⟩ := exists_northRows descends lat
  rcases k with _ | k
  · rw [nearestRow_of_north_zero north]
    refine ⟨nonempty, nofun, fun h => ?_⟩
    refine border_le_of_not_le descends h number ?_
    rw [north.iff nonempty]
    exact Nat.lt_irrefl 0
  rcases Nat.lt_or_eq_of_le north.le_length with inside | all
  · -- The latitude lies between two centers, so it is a real number.
    have low := mt (north.iff inside).mp (Nat.lt_irrefl (k + 1))
    have high := (north.iff (Nat.lt_of_succ_lt inside)).mpr
      (Nat.lt_succ_self k)
    obtain ⟨x, rfl⟩ := exists_real_of_between
      (not_le.mp (mt (le_real_iff number).mpr low))
      ((le_real_iff number).mp high) number
    rw [nearestRow_of_north_succ inside north]
    split
    · rename_i nearer
      refine ⟨Nat.lt_of_succ_lt inside, fun positive => ?_,
        fun _ => (real_le _ _).mpr nearer⟩
      obtain ⟨k, rfl⟩ := Nat.exists_eq_succ_of_ne_zero positive.ne'
      exact lt_border descends (Nat.lt_of_succ_lt inside) high
    · rename_i farther
      exact ⟨inside, fun _ => (real_lt _ _).mpr (not_le.mp farther),
        fun h => border_le_of_not_le descends h number low⟩
  · rw [all] at north
    rw [nearestRow_of_north_all north, ← all, Nat.add_sub_cancel]
    refine ⟨by omega, fun positive => ?_, fun h => by omega⟩
    obtain ⟨k, rfl⟩ := Nat.exists_eq_succ_of_ne_zero positive.ne'
    have inside : k + 1 < rows.length := by omega
    exact lt_border descends inside ((north.iff inside).mpr (by omega))

/-- The bin of a position, counted from the columns of all rows before. -/
theorem binOf_ofReal (lat lon : Exact)
    (inside : (ofReal rows).nearestRow lat < rows.length) :
    (ofReal rows).binOf lat lon
      = start (rows.map fun row => (row.1, real row.2))
          ((ofReal rows).nearestRow lat)
        + Longitude.column lon rows[(ofReal rows).nearestRow lat].1 := by
  unfold binOf
  rw [row?_ofReal inside]

end RowLayout

-- ======================================================= regular grids

namespace RegularGrid

variable {lat : Exact} {x : ℝ}

/-- The northern edge of a row. -/
noncomputable def edge (g : RegularGrid) (r : Nat) : ℝ :=
  90 - r * (180 / g.numRows)

theorem height_pos (g : RegularGrid) : 0 < 180 / (g.numRows : ℝ) := by
  have rows : 0 < (g.numRows : ℝ) := by
    exact_mod_cast Nat.lt_of_lt_of_le Nat.zero_lt_two g.two_le
  positivity

theorem edge_lt_iff (g : RegularGrid) {r s : Nat} :
    g.edge s < g.edge r ↔ r < s := by
  unfold edge
  rw [sub_lt_sub_iff_left, mul_lt_mul_iff_left₀ g.height_pos, Nat.cast_lt]

theorem edge_le_iff (g : RegularGrid) {r s : Nat} :
    g.edge s ≤ g.edge r ↔ r ≤ s := by
  rw [← not_lt, g.edge_lt_iff, Nat.not_lt]

/-- Whether a latitude lies in the band of a row: not north of the northern
edge of the row, and north of that of the row behind it. -/
structure InBand (g : RegularGrid) (r : Nat) (lat : Exact) : Prop where
  inside : r < g.numRows
  south : 0 < r → lat ≤ real (g.edge r)
  north : r + 1 < g.numRows → real (g.edge (r + 1)) < lat

theorem resolution_real (g : RegularGrid) :
    (g.resolution : Exact) = real (180 / g.numRows) := by
  have nonzero : (g.numRows : ℝ) ≠ 0 := by
    have := g.two_le
    exact_mod_cast (by omega : g.numRows ≠ 0)
  unfold resolution
  rw [numeral_eq, ofNat_eq, real_div _ _ nonzero]
  norm_num

theorem rowOf_real (g : RegularGrid) (x : ℝ) :
    g.rowOf (real x)
      = min ⌊(90 - x) / (180 / g.numRows)⌋₊ (g.numRows - 1) := by
  unfold rowOf
  rw [resolution_real, numeral_eq, real_sub, real_div _ _ g.height_pos.ne',
    toNat_real]
  norm_num

/-- Infinite latitudes belong to the outermost rows. -/
theorem rowOf_infinite (g : RegularGrid) (short : g.numRows < 2 ^ 31)
    (negative : Bool) :
    g.rowOf (infinite negative) = if negative then g.numRows - 1 else 0 := by
  have quotient : (90 - infinite negative : Exact) / g.resolution
      = infinite (!negative) := by
    rw [resolution_real]
    exact infinite_div_real _ g.height_pos
  unfold rowOf
  rw [quotient]
  cases negative with
  | true =>
      show min (2 ^ 64 - 1) (g.numRows - 1) = g.numRows - 1
      omega
  | false => exact Nat.zero_min _

/-- NaN is dropped to zero, and so in the first row. -/
theorem rowOf_nan (g : RegularGrid) : g.rowOf (nan : Exact) = 0 := by
  unfold rowOf
  rw [resolution_real]
  exact Nat.zero_min _

/-- A latitude lies in the band of its row. -/
theorem rowOf_inBand (g : RegularGrid) (short : g.numRows < 2 ^ 31)
    (number : lat ≠ nan) : g.InBand (g.rowOf lat) lat := by
  have rows := g.two_le
  cases lat with
  | nan => exact absurd rfl number
  | infinite negative =>
      rw [g.rowOf_infinite short]
      cases negative with
      | true =>
          refine ⟨Nat.sub_one_lt_of_lt rows, fun _ => ?_, fun h => ?_⟩
          · exact (le_real_iff number).mpr bot_le
          · exact absurd h (by rw [if_pos rfl]; omega)
      | false =>
          refine ⟨Nat.zero_lt_of_lt rows, nofun, fun _ => ?_⟩
          exact (real_lt_iff number).mpr (EReal.coe_lt_top _)
  | real x =>
      rw [rowOf_real]
      refine ⟨by omega, fun positive => ?_, fun h => ?_⟩
      · have reached : min ⌊(90 - x) / (180 / g.numRows)⌋₊ (g.numRows - 1)
            ≤ ⌊(90 - x) / (180 / (g.numRows : ℝ))⌋₊ := Nat.min_le_left _ _
        rw [Nat.le_floor_iff' positive.ne', le_div_iff₀ g.height_pos]
          at reached
        rw [real_le]
        unfold edge
        linarith
      · rw [Nat.min_eq_left (by omega)]
        have passed := Nat.lt_floor_add_one ((90 - x) / (180 / g.numRows))
        rw [div_lt_iff₀ g.height_pos] at passed
        rw [real_lt]
        unfold edge
        push_cast
        linarith

end RegularGrid

end EarthBins
