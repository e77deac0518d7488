/-
The rows of an equal-area grid taper toward both poles alike.

Without rounding, the center latitude of a row is opposite to that of the
row equally far from the other pole. Its columns are the cosine of the
latitude, scaled to the equator and rounded, and the cosine does not see the
sign of the latitude and falls toward the poles. So columns mirror at the
equator and become fewer northwards and southwards.

# Mirrored bins

Where columns mirror, so do running sums: the bins before a row are as many
as the bins behind its mirror image (`start_mirror`). Counted from the last
bin, a bin is therefore in the mirror image of its row (`rowOfBin_mirror`).
-/
import EarthBins.Proofs.Grid.Centers

namespace EarthBins

open Exact Real

-- ======================================================== mirrored rows

namespace RowLayout

variable {α : Type} {rows : List (Nat × α)}

/-- The bins before a row are as many as those behind its mirror image. -/
theorem start_mirror
    (mirror : (rows.map Prod.fst).reverse = rows.map Prod.fst) (r : Nat) :
    start rows (rows.length - r) + start rows r = (ofRows rows).numBins := by
  have length : (rows.map Prod.fst).length = rows.length :=
    List.length_map _
  rw [numBins_ofRows, start, start, List.map_take, List.map_take]
  generalize rows.map Prod.fst = columns at mirror length
  have behind : (columns.take r).sum
      = (columns.drop (rows.length - r)).sum := by
    conv_lhs => rw [← mirror]
    rw [List.take_reverse, List.sum_reverse, length]
  rw [behind, List.sum_take_add_sum_drop]

/-- Counted from the last bin, a bin is in the mirror image of its row. -/
theorem rowOfBin_mirror
    (mirror : (rows.map Prod.fst).reverse = rows.map Prod.fst) {bin : Nat}
    (h : bin < (ofRows rows).numBins) :
    (ofRows rows).rowOfBin ((ofRows rows).numBins - 1 - bin)
      = rows.length - 1 - (ofRows rows).rowOfBin bin := by
  obtain ⟨r, hr, low, high⟩ := exists_row_of_bin h
  have before := start_mirror mirror r
  have behind := start_mirror mirror (r + 1)
  have next : rows.length - 1 - r + 1 = rows.length - r := by omega
  have same : rows.length - (r + 1) = rows.length - 1 - r := by omega
  rw [same] at behind
  rw [rowOfBin_ofRows hr low high]
  refine rowOfBin_ofRows (by omega) (by omega) ?_
  rw [next]
  omega

variable [Scalar α]

theorem fst_centerOf {l : RowLayout α} {bin : Nat} {row : Row α}
    (h : l.row? (l.rowOfBin bin) = some row) :
    (l.centerOf bin).1 = row.centerLat := by
  rw [centerOf, h]

end RowLayout

-- ================================================================ rounding

/-- Rounding takes the nearest number, and of two the one away from zero. -/
theorem roundNat_real {x : ℝ} (nonneg : 0 ≤ x) :
    (Scalar.roundNat (real x) : ℤ) = round x := by
  have whole := Nat.floor_le nonneg
  have next := Nat.lt_floor_add_one x
  rw [round_eq, eq_comm, Int.floor_eq_iff, Scalar.roundNat, half_eq,
    toNat_real, ofNat_eq, real_sub]
  by_cases up : real (1 / 2) ≤ real (x - ⌊x⌋₊)
  · rw [if_pos up]
    rw [real_le] at up
    push_cast
    constructor
    · linarith
    · linarith
  · rw [if_neg up]
    rw [real_le, not_le] at up
    push_cast
    constructor
    · linarith
    · linarith

theorem round_mono {x y : ℝ} (le : x ≤ y) : round x ≤ round y := by
  rw [round_eq, round_eq]
  gcongr

-- ============================================================== latitudes

namespace EqualArea

/-- Center latitude of a row, in degrees; a rational number. -/
noncomputable def latitude (rows row : Nat) : ℝ :=
  ((90 - (row + 1 / 2) * (180 / rows) : ℚ) : ℝ)

/-- Columns of a row before they are rounded: those of the equator, scaled
by the cosine of the latitude. -/
noncomputable def girth (rows row : Nat) : ℝ :=
  (2 * rows : ℕ) * cos (latitude rows row * (π / (180 : ℕ)))

theorem latitude_eq (rows row : Nat) :
    latitude rows row = 90 - (row + 1 / 2) * (180 / rows) := by
  rw [latitude]
  push_cast
  rfl

theorem girth_eq (rows row : Nat) :
    girth rows row = 2 * rows * cos (latitude rows row * (π / 180)) := by
  rw [girth]
  push_cast
  rfl

variable {rows r s : Nat}

theorem centerLat_real (h : r < rows) :
    (centerLat rows r : Exact) = real (latitude rows r) := by
  have nonzero : (rows : ℝ) ≠ 0 := by
    exact_mod_cast (Nat.zero_lt_of_lt h).ne'
  simp [centerLat, latitude_eq, nonzero]

theorem latitude_lt (positive : 0 < rows) (h : r < s) :
    latitude rows s < latitude rows r := by
  have height : (0 : ℝ) < 180 / rows := by positivity
  have apart : (r : ℝ) < s := by exact_mod_cast h
  rw [latitude_eq, latitude_eq]
  gcongr

/-- Rows equally far from the poles have opposite latitudes. -/
theorem latitude_mirror (h : r < rows) :
    latitude rows (rows - 1 - r) = -latitude rows r := by
  have nonzero : (rows : ℝ) ≠ 0 := by
    exact_mod_cast (Nat.zero_lt_of_lt h).ne'
  have mirror : ((rows - 1 - r : Nat) : ℝ) = rows - 1 - r := by
    rw [Nat.cast_sub (by omega), Nat.cast_sub (by omega), Nat.cast_one]
  rw [latitude_eq, latitude_eq, mirror]
  field_simp
  ring

theorem latitude_lt_ninety (h : r < rows) : latitude rows r < 90 := by
  have positive : (0 : ℝ) < rows := by exact_mod_cast Nat.zero_lt_of_lt h
  have height : 0 < ((r : ℝ) + 1 / 2) * (180 / rows) := by positivity
  rw [latitude_eq]
  linarith

/-- The rows of the northern half lie north of the equator. -/
theorem latitude_nonneg (h : r < rows / 2) : 0 ≤ latitude rows r := by
  have positive : (0 : ℝ) < rows := by
    exact_mod_cast (show 0 < rows by omega)
  have north : 2 * (r : ℝ) + 1 ≤ rows := by
    exact_mod_cast (show 2 * r + 1 ≤ rows by omega)
  have part : ((r : ℝ) + 1 / 2) * (180 / rows) ≤ 90 := by
    rw [← mul_div_assoc, div_le_iff₀ positive]
    linarith
  rw [latitude_eq]
  linarith

-- ================================================================ columns

theorem girth_mirror (h : r < rows) :
    girth rows (rows - 1 - r) = girth rows r := by
  rw [girth_eq, latitude_mirror h, neg_mul, cos_neg, girth_eq]

theorem girth_nonneg (h : r < rows) : 0 ≤ girth rows r := by
  have north := latitude_lt_ninety h
  have south := latitude_lt_ninety (show rows - 1 - r < rows by omega)
  rw [latitude_mirror h] at south
  have cosine : 0 ≤ cos (latitude rows r * (π / 180)) := by
    refine cos_nonneg_of_neg_pi_div_two_le_of_le ?_ ?_
    · nlinarith [pi_pos]
    · nlinarith [pi_pos]
  rw [girth_eq]
  positivity

theorem girth_le (rows r : Nat) : girth rows r ≤ 2 * rows := by
  have top := cos_le_one (latitude rows r * (π / 180))
  rw [girth_eq]
  nlinarith [Nat.cast_nonneg (α := ℝ) rows]

/-- Toward the equator the northern rows become wider. -/
theorem girth_mono (le : r ≤ s) (north : s < rows / 2) :
    girth rows r ≤ girth rows s := by
  have high := latitude_lt_ninety (show r < rows by omega)
  have low := latitude_nonneg north
  have south : latitude rows s ≤ latitude rows r := by
    rcases le.lt_or_eq with lt | rfl
    · exact (latitude_lt (by omega) lt).le
    · exact le_rfl
  have cosine : cos (latitude rows r * (π / 180))
      ≤ cos (latitude rows s * (π / 180)) := by
    refine cos_le_cos_of_nonneg_of_le_pi ?_ ?_ ?_
    · positivity
    · nlinarith [pi_pos]
    · gcongr
  rw [girth_eq, girth_eq]
  gcongr

/-- The columns of a row, rounded to the nearest number. -/
theorem columns_eq (h : r < rows) :
    (columns Exact rows r : ℤ) = max (round (girth rows r)) 1 := by
  have nonneg := girth_nonneg h
  have scaled : (2 * Scalar.ofNat rows
      * Scalar.cos (Scalar.toRadians (centerLat rows r)) : Exact)
      = real (girth rows r) := by
    rw [centerLat_real h, Scalar.toRadians, numeral_eq, numeral_eq]
    show real _ * _ * Scalar.cos (_ * (real π / _)) = _
    rw [real_div _ _ (by norm_num), real_mul, cos_real, ofNat_eq, real_mul,
      real_mul, girth_eq]
    norm_num
  rw [columns, scaled, Nat.cast_max, roundNat_real nonneg, Nat.cast_one]

theorem columns_mirror (h : r < rows) :
    columns Exact rows (rows - 1 - r) = columns Exact rows r := by
  have mirrored := columns_eq (show rows - 1 - r < rows by omega)
  rw [girth_mirror h, ← columns_eq h] at mirrored
  exact_mod_cast mirrored

theorem columns_le (h : r < rows) : columns Exact rows r ≤ 2 * rows := by
  have top := round_mono (girth_le rows r)
  have whole : round (2 * (rows : ℝ)) = (2 * rows : ℕ) := by
    rw [← round_natCast (α := ℝ)]
    push_cast
    rfl
  rw [whole] at top
  have fits := max_le top (show (1 : ℤ) ≤ (2 * rows : ℕ) by omega)
  rw [← columns_eq h] at fits
  exact_mod_cast fits

theorem columns_mono (le : r ≤ s) (north : s < rows / 2) :
    columns Exact rows r ≤ columns Exact rows s := by
  have wider := max_le_max (round_mono (girth_mono le north))
    (le_refl (1 : ℤ))
  rw [← columns_eq (by omega), ← columns_eq (by omega)] at wider
  exact_mod_cast wider

-- ================================================================= layout

/-- The rows of the grid, with real latitudes. -/
noncomputable def table (rows : Nat) : List (Nat × ℝ) :=
  (List.range rows).map fun r => (columns Exact rows r, latitude rows r)

theorem layout_eq (rows : Nat) :
    (layout rows : RowLayout Exact) = .ofReal (table rows) := by
  unfold layout RowLayout.ofReal table
  rw [List.map_map]
  refine congrArg RowLayout.ofRows (List.map_congr_left fun r hr => ?_)
  rw [centerLat_real (List.mem_range.mp hr)]
  rfl

theorem length_table (rows : Nat) : (table rows).length = rows := by
  simp [table]

theorem numRows_layout (rows : Nat) :
    (layout rows : RowLayout Exact).numRows = rows := by
  rw [layout, RowLayout.numRows_ofRows, List.length_map, List.length_range]

/-- A row of the grid is one of as many as were asked for, and has the
columns and the latitude of its place. -/
theorem row?_layout_eq_some {row : Row Exact}
    (h : (layout rows : RowLayout Exact).row? r = some row) :
    r < rows ∧ row.columns = columns Exact rows r
      ∧ row.centerLat = real (latitude rows r) := by
  have inside : r < rows := by
    by_contra outside
    rw [layout_eq, RowLayout.row?_ofReal_eq_none
      (by rw [length_table]; omega)] at h
    cases h
  rw [layout_eq, RowLayout.row?_ofReal (by rwa [length_table])] at h
  cases h
  simp [table, inside]

theorem columnsAt_layout (h : r < rows) :
    (layout rows : RowLayout Exact).columnsAt r = columns Exact rows r := by
  rw [layout, RowLayout.columnsAt_ofRows (by simpa using h)]
  simp

/-- Read from the south, the columns of the rows are the same. -/
theorem reverse_columns (rows : Nat) :
    ((List.range rows).map (columns Exact rows)).reverse
      = (List.range rows).map (columns Exact rows) := by
  refine List.ext_getElem (by simp) fun r hr _ => ?_
  have inside : r < rows := by simpa using hr
  simp [columns_mirror inside]

end EqualArea

/-- Whether the rows of a layout taper toward both poles alike. -/
structure RowLayout.Tapers (l : RowLayout Exact) : Prop where
  /-- A row lies south of the rows before it. -/
  southward : ∀ r s north south, r < s → l.row? r = some north →
    l.row? s = some south → south.centerLat < north.centerLat
  /-- Rows equally far from the poles have opposite latitudes and equally
  many columns. -/
  mirrored : ∀ r row image, l.row? r = some row →
    l.row? (l.numRows - 1 - r) = some image →
      image.centerLat = -row.centerLat ∧ image.columns = row.columns
  /-- No row is empty or longer than the equator. -/
  bounded : ∀ r row, l.row? r = some row →
    1 ≤ row.columns ∧ row.columns ≤ 2 * l.numRows
  /-- Northern rows become wider toward the equator. -/
  widens : ∀ r s north south, r ≤ s → s < l.numRows / 2 →
    l.row? r = some north → l.row? s = some south →
      north.columns ≤ south.columns
  /-- Half of the bins are in the northern rows. -/
  halves : l.numBins
    = 2 * ((List.range (l.numRows / 2)).map l.columnsAt).sum
  /-- Bins equally far from the first and the last have opposite center
  latitudes. -/
  opposite : ∀ bin < l.numBins,
    (l.centerOf (l.numBins - 1 - bin)).1 = -(l.centerOf bin).1

namespace EqualArea

variable {rows r : Nat}

theorem exists_row (h : r < rows) :
    ∃ row, (layout rows : RowLayout Exact).row? r = some row := by
  rw [layout_eq, RowLayout.row?_ofReal (by rwa [length_table])]
  exact ⟨_, rfl⟩

theorem mirrored_layout {row image : Row Exact}
    (h : (layout rows : RowLayout Exact).row? r = some row)
    (h' : (layout rows : RowLayout Exact).row? (rows - 1 - r) = some image) :
    image.centerLat = -row.centerLat ∧ image.columns = row.columns := by
  obtain ⟨inside, columns, lat⟩ := row?_layout_eq_some h
  obtain ⟨-, columns', lat'⟩ := row?_layout_eq_some h'
  rw [columns, columns', lat, lat', latitude_mirror inside, real_neg]
  exact ⟨rfl, columns_mirror inside⟩

/-- Bins equally far from the first and the last are in rows equally far
from the poles. -/
theorem rowOfBin_layout_mirror {bin : Nat}
    (h : bin < (layout rows : RowLayout Exact).numBins) :
    (layout rows : RowLayout Exact).rowOfBin bin < rows
    ∧ (layout rows : RowLayout Exact).rowOfBin
        ((layout rows : RowLayout Exact).numBins - 1 - bin)
      = rows - 1 - (layout rows : RowLayout Exact).rowOfBin bin := by
  obtain ⟨inside, -⟩ := RowLayout.rowOfBin_holds h
  have mirrored := RowLayout.rowOfBin_mirror ?_ h
  · rw [List.length_map, List.length_range] at inside mirrored
    exact ⟨inside, mirrored⟩
  · rw [List.map_map]
    exact reverse_columns rows

theorem numBins_layout (even : rows % 2 = 0) :
    (layout rows : RowLayout Exact).numBins
      = 2 * ((List.range (rows / 2)).map (columns Exact rows)).sum := by
  have mirrored := @RowLayout.start_mirror Exact ((List.range rows).map
    fun row => (columns Exact rows row, centerLat rows row))
    (by rw [List.map_map]; exact reverse_columns rows) (rows / 2)
  have half : rows - rows / 2 = rows / 2 := by omega
  have short : min (rows / 2) rows = rows / 2 := by omega
  rw [List.length_map, List.length_range, half, ← Nat.two_mul,
    RowLayout.start, ← List.map_take, List.take_range, short, List.map_map]
    at mirrored
  exact mirrored.symm

theorem tapers_layout (even : rows % 2 = 0) :
    (layout rows : RowLayout Exact).Tapers := by
  constructor
  case southward =>
    intro r s north south before hnorth hsouth
    obtain ⟨inside, -, lat⟩ := row?_layout_eq_some hnorth
    obtain ⟨-, -, lat'⟩ := row?_layout_eq_some hsouth
    rw [lat, lat', real_lt]
    exact latitude_lt (Nat.zero_lt_of_lt inside) before
  case mirrored =>
    intro r row image hrow himage
    rw [numRows_layout] at himage
    exact mirrored_layout hrow himage
  case bounded =>
    intro r row hrow
    obtain ⟨inside, columns, -⟩ := row?_layout_eq_some hrow
    rw [columns, numRows_layout]
    exact ⟨Nat.le_max_right _ 1, columns_le inside⟩
  case widens =>
    intro r s north south le half hnorth hsouth
    obtain ⟨-, columns, -⟩ := row?_layout_eq_some hnorth
    obtain ⟨-, columns', -⟩ := row?_layout_eq_some hsouth
    rw [numRows_layout] at half
    rw [columns, columns']
    exact columns_mono le half
  case halves =>
    rw [numBins_layout even, numRows_layout]
    congr 2
    refine List.map_congr_left fun r hr => ?_
    have inside := List.mem_range.mp hr
    exact (columnsAt_layout (by omega)).symm
  case opposite =>
    intro bin hbin
    obtain ⟨inside, mirror⟩ := rowOfBin_layout_mirror hbin
    obtain ⟨row, hrow⟩ := exists_row inside
    obtain ⟨image, himage⟩ := exists_row (show rows - 1
      - (layout rows : RowLayout Exact).rowOfBin bin < rows by omega)
    rw [RowLayout.fst_centerOf hrow,
      RowLayout.fst_centerOf (mirror ▸ himage)]
    exact (mirrored_layout hrow himage).1

/-- The rows of an equal-area grid, computed without rounding except that of
the column counts. A row has the columns of the equator times the cosine of
its latitude, rounded, and at least one; and the rows taper toward both poles
alike, in their latitudes, their columns and the numbers of their bins. -/
theorem ofRows?_tapers (even : rows % 2 = 0) (two_le : 2 ≤ rows) :
    ∃ l : RowLayout Exact, ofRows? rows = .ok l ∧ l.numRows = rows
      ∧ (∀ r < rows, ∃ row, l.row? r = some row
        ∧ row.centerLat = real (90 - (r + 1 / 2) * (180 / rows))
        ∧ (row.columns : ℤ) = max (round (2 * rows
          * cos ((90 - (r + 1 / 2) * (180 / rows)) * (π / 180)))) 1)
      ∧ l.Tapers := by
  refine ⟨layout rows, if_pos ⟨even, two_le⟩, numRows_layout rows, ?_,
    tapers_layout even⟩
  intro r inside
  obtain ⟨row, hrow⟩ := exists_row inside
  obtain ⟨-, columns, lat⟩ := row?_layout_eq_some hrow
  refine ⟨row, hrow, by rw [lat, latitude_eq], ?_⟩
  rw [columns, columns_eq inside, girth_eq, latitude_eq]

/-- Two rows of three columns each. -/
theorem ofRows?_tapers_two : 2 % 2 = 0 ∧ 2 ≤ 2
    ∧ ∃ l : RowLayout Exact, ofRows? 2 = .ok l ∧ l.Tapers
      ∧ ∃ row, l.row? 0 = some row ∧ row.centerLat = real 45
        ∧ row.columns = 3 := by
  obtain ⟨l, made, -, shape, tapers⟩ :=
    @ofRows?_tapers 2 (by decide) (by decide)
  obtain ⟨row, hrow, lat, columns⟩ := shape 0 (by decide)
  have center : (90 : ℝ) - ((0 : ℕ) + 1 / 2) * (180 / (2 : ℕ)) = 45 := by
    norm_num
  have quarter : (45 : ℝ) * (π / 180) = π / 4 := by ring
  have three : round (2 * ((2 : ℕ) : ℝ) * (√2 / 2)) = 3 := by
    have low : (5 / 4 : ℝ) ≤ √2 := Real.le_sqrt_of_sq_le (by norm_num)
    have high : √2 < (7 / 4 : ℝ) :=
      (Real.sqrt_lt' (by norm_num)).mpr (by norm_num)
    rw [round_eq_iff, Set.mem_Ico]
    push_cast
    constructor
    · linarith
    · linarith
  rw [center] at lat columns
  rw [quarter, cos_pi_div_four, three] at columns
  exact ⟨by decide, by decide, l, made, tapers, row, hrow, lat,
    by exact_mod_cast columns⟩

end EqualArea

end EarthBins
