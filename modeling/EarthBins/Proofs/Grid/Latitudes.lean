/-
Stored center latitudes, and the bins found from them.

The center latitudes of a layout are 64-bit numbers. A table of rows is
checked to descend where it is read, but the other two families compute
their latitudes, and rounding must not make two rows meet. It cannot: a
latitude is off by a few units in its 53rd place, or for the equal-area
grid by a small part of the height of a row besides, and rows are farther
apart than that.

Read as the numbers they stand for, the latitudes of every grid that can be
built or read then descend strictly, and in exact arithmetic every bin is
found again from its center (`Grid.binOf_centerOf`).
-/
import EarthBins.Proofs.Grid.Centers
import EarthBins.Proofs.Grid.Location
import EarthBins.Proofs.Scalar.Rounding

namespace EarthBins

open Binary64 Exact Outcome Scalar

-- ===================================================== exact readings

/-- A layout with its center latitudes as the numbers they stand for. -/
noncomputable def RowLayout.exactly (l : RowLayout Float) :
    RowLayout Exact where
  rows := l.rows.map fun row =>
    ⟨row.columns, ofFloat row.centerLat, row.firstBin⟩
  numBins := l.numBins

/-- A grid with its center latitudes as the numbers they stand for. -/
noncomputable def Grid.exactly : Grid Float → Grid Exact
  | regular g => regular g
  | reducedGaussian n l => reducedGaussian n l.exactly
  | equalArea l => equalArea l.exactly

namespace RowLayout

theorem place_exactly (first : Nat) (rows : List (Nat × Float)) :
    (place first rows).map (fun row =>
        ⟨row.columns, ofFloat row.centerLat, row.firstBin⟩)
      = place first (rows.map fun row => (row.1, ofFloat row.2)) := by
  induction rows generalizing first with
  | nil => rfl
  | cons row rest ih =>
      unfold place
      rw [List.map_cons, ih]
      rfl

theorem exactly_ofRows (rows : List (Nat × Float)) :
    (ofRows rows).exactly
      = ofRows (rows.map fun row => (row.1, ofFloat row.2)) := by
  unfold exactly ofRows
  rw [List.map_toArray, place_exactly, List.foldr_map]

/-- Rows with columns and with real latitudes that descend. -/
theorem isDescending_exactly {rows : List (Nat × Float)}
    (columns : ∀ row ∈ rows, 1 ≤ row.1)
    (real : ∀ row ∈ rows, IsReal row.2)
    (descends : rows.Pairwise fun north south =>
      value south.2 < value north.2) :
    (ofRows rows).exactly.IsDescending := by
  refine ⟨rows.map fun row => (row.1, value row.2), ?_, ?_, ?_⟩
  · rw [exactly_ofRows]
    unfold ofReal
    rw [List.map_map]
    congr 1
    refine List.map_congr_left fun row hrow => ?_
    rw [real row hrow]
    rfl
  · intro row hrow
    obtain ⟨row', hrow', rfl⟩ := List.mem_map.mp hrow
    exact columns row' hrow'
  · exact List.pairwise_map.mpr descends

end RowLayout

/-- What descends from one to the next descends throughout. -/
theorem pairwise_of_isChain {β γ : Type} [Preorder γ] (f : β → γ)
    {l : List β} (h : l.IsChain fun x y => f y < f x) :
    l.Pairwise fun x y => f y < f x := by
  have images : (l.map f).IsChain (· > ·) := (List.isChain_map f).mpr h
  exact List.pairwise_map.mp (List.isChain_iff_pairwise.mp images)

-- ===================================================== equal-area grids

namespace EqualArea

/-- The height of a row is off by its rounding at most. -/
theorem height_near {rows : Nat} (h : 2 ≤ rows) (h' : rows < 2 ^ 32) :
    Near 8 (180 / ofNat rows) (180 / rows) := by
  obtain ⟨nreal, nvalue⟩ := value_ofNat (n := 180) (by decide)
  obtain ⟨real, same⟩ := value_ofNat (n := rows) (by omega)
  have two : (2 : ℝ) ≤ rows := by exact_mod_cast h
  have near := div_near (k := 8) (by decide) nreal real
    (by rw [same]; linarith)
    (by
      rw [nvalue, same, abs_of_pos (by positivity),
        div_lt_iff₀ (by linarith)]
      push_cast
      linarith)
  rw [nvalue, same] at near
  exact_mod_cast near

/-- The middle of a row, in rows from the north. -/
theorem middle_near {row : Nat} (h : row < 2 ^ 32) :
    Near 33 (ofNat row + half) (row + 1 / 2) := by
  obtain ⟨real, same⟩ := value_ofNat (n := row) (by omega)
  obtain ⟨hreal, hvalue⟩ := value_half
  have short : (row : ℝ) + 1 ≤ 2 ^ 32 := by exact_mod_cast h
  have near := add_near (k := 33) (by decide) real hreal (by
    rw [same, hvalue, abs_of_pos (by positivity)]
    norm_num
    linarith)
  rwa [same, hvalue] at near

variable {rows : Nat}

theorem height_bounds (h : 2 ≤ rows) (h' : rows < 2 ^ 32) :
    IsReal (180 / ofNat rows)
      ∧ 1 / 2 ^ 26 < value (180 / ofNat rows)
      ∧ rows * value (180 / ofNat rows) ≤ 181 := by
  obtain ⟨real, near⟩ := height_near h h'
  have two : (2 : ℝ) ≤ rows := by exact_mod_cast h
  have short : (rows : ℝ) ≤ 2 ^ 32 := by exact_mod_cast h'.le
  have unit : twoPow (8 - 53) = 1 / 2 ^ 45 := by norm_num [twoPow]
  have low : (180 : ℝ) / 2 ^ 32 ≤ 180 / rows := by gcongr
  rw [unit, abs_le] at near
  refine ⟨real, by linarith, ?_⟩
  calc rows * value (180 / ofNat rows)
      ≤ rows * (180 / rows + 1 / 2 ^ 45) := by
        gcongr
        linarith
    _ = 180 + rows / 2 ^ 45 := by field_simp
    _ ≤ 181 := by linarith

/-- The distance of a row from the pole is off by its rounding, and by a
small part of the height of a row. -/
theorem distance_near (h : 2 ≤ rows) (h' : rows < 2 ^ 32) {row : Nat}
    (hr : row < rows) :
    IsReal ((ofNat row + half) * (180 / ofNat rows))
      ∧ |value ((ofNat row + half) * (180 / ofNat rows))
          - (row + 1 / 2) * value (180 / ofNat rows)|
        ≤ value (180 / ofNat rows) / 2 ^ 20 + 1 / 2 ^ 45
      ∧ |value ((ofNat row + half) * (180 / ofNat rows))| ≤ 182 := by
  obtain ⟨hreal, low, high⟩ := height_bounds h h'
  obtain ⟨mreal, mnear⟩ := middle_near (Nat.lt_trans hr h')
  have unit : twoPow (8 - 53) = 1 / 2 ^ 45 := by norm_num [twoPow]
  have unit' : twoPow (33 - 53) = 1 / 2 ^ 20 := by norm_num [twoPow]
  have inside : (row : ℝ) + 1 ≤ rows := by exact_mod_cast hr
  have first : (0 : ℝ) ≤ row := Nat.cast_nonneg row
  rw [unit', abs_le] at mnear
  generalize (180 / ofNat rows : Float) = height at *
  generalize (ofNat row + half : Float) = middle at *
  have positive : 0 < value height := by linarith
  have off : |(value middle - (row + 1 / 2)) * value height|
      ≤ value height / 2 ^ 20 := by
    rw [abs_mul, abs_of_pos positive, div_eq_inv_mul (value height)]
    refine mul_le_mul_of_nonneg_right ?_ positive.le
    rw [abs_le]
    constructor
    · linarith
    · linarith
  have top : value middle * value height ≤ 181 :=
    le_trans (mul_le_mul_of_nonneg_right (by linarith) positive.le) high
  have bottom : 0 ≤ value middle * value height :=
    mul_nonneg (by linarith) positive.le
  obtain ⟨real, near⟩ := mul_near (k := 8) (by decide) mreal hreal (by
    rw [abs_of_nonneg bottom]
    linarith)
  rw [unit, abs_le] at near
  rw [abs_le] at off
  refine ⟨real, ?_, ?_⟩
  · rw [abs_le]
    constructor
    · linarith
    · linarith
  · rw [abs_le]
    constructor
    · linarith
    · linarith

/-- So is the center latitude. -/
theorem centerLat_near (h : 2 ≤ rows) (h' : rows < 2 ^ 32) {row : Nat}
    (hr : row < rows) :
    IsReal (centerLat rows row)
      ∧ |value (centerLat rows row)
          - (90 - (row + 1 / 2) * value (180 / ofNat rows))|
        ≤ value (180 / ofNat rows) / 2 ^ 20 + 1 / 2 ^ 43 := by
  obtain ⟨dreal, dnear, short⟩ := distance_near h h' hr
  obtain ⟨nreal, nvalue⟩ := value_ofNat (n := 90) (by decide)
  have unit : twoPow (9 - 53) = 1 / 2 ^ 44 := by norm_num [twoPow]
  rw [abs_le] at dnear short
  obtain ⟨real, near⟩ := sub_near (k := 9) (by decide) nreal dreal (by
    rw [nvalue, abs_lt]
    push_cast
    constructor
    · linarith
    · linarith)
  rw [unit, abs_le, nvalue] at near
  push_cast at near
  refine ⟨real, ?_⟩
  show |value (Float.ofNat 90 - (ofNat row + half) * (180 / ofNat rows))
    - _| ≤ _
  rw [abs_le]
  constructor
  · linarith
  · linarith

/-- A row lies south of the rows before it. -/
theorem value_centerLat_lt (h : 2 ≤ rows) (h' : rows < 2 ^ 32)
    {north south : Nat} (lt : north < south) (hs : south < rows) :
    value (centerLat rows south) < value (centerLat rows north) := by
  obtain ⟨-, tall, -⟩ := height_bounds h h'
  obtain ⟨-, nnear⟩ := centerLat_near h h' (Nat.lt_trans lt hs)
  obtain ⟨-, snear⟩ := centerLat_near h h' hs
  have apart : (north : ℝ) + 1 ≤ south := by exact_mod_cast lt
  have apart := mul_le_mul_of_nonneg_right apart
    (show 0 ≤ value (180 / ofNat rows) by linarith)
  rw [abs_le] at nnear snear
  linarith

theorem isDescending_of_ofRows? (h' : rows < 2 ^ 32) {l : RowLayout Float}
    (h : ofRows? rows = .ok l) : l.exactly.IsDescending := by
  unfold ofRows? at h
  split at h
  · rename_i valid
    cases h
    refine RowLayout.isDescending_exactly ?_ ?_ ?_
    · intro row hrow
      obtain ⟨r, -, rfl⟩ := List.mem_map.mp hrow
      exact Nat.le_max_right _ 1
    · intro row hrow
      obtain ⟨r, hr, rfl⟩ := List.mem_map.mp hrow
      exact (centerLat_near valid.2 h' (List.mem_range.mp hr)).1
    · refine List.pairwise_map.mpr (List.pairwise_lt_range.imp_of_mem ?_)
      intro north south _ hs lt
      exact value_centerLat_lt valid.2 h' lt (List.mem_range.mp hs)
  · cases h

end EqualArea

-- ============================================== reduced Gaussian grids

namespace Gaussian

/-- The northern rows of the known resolutions descend toward the equator,
and none lies on it. -/
theorem northern_of_mem : ∀ known ∈ resolutions,
    (known.2.IsChain fun north south => south.2 < north.2)
    ∧ ∀ row ∈ known.2, 0 < row.2 ∧ row.2 ≤ 90000000 := by
  decide +kernel

/-- A latitude is off by its rounding at most. -/
theorem degrees_near {micro : Nat} (h : micro ≤ 90000000) :
    Near 8 (degrees micro) (micro / 1000000) := by
  obtain ⟨real, same⟩ := value_ofNat (n := micro) (by omega)
  obtain ⟨mreal, mvalue⟩ := value_ofNat (n := 1000000) (by decide)
  have short : (micro : ℝ) ≤ 90000000 := by exact_mod_cast h
  have million : value (Float.ofNat 1000000) = 1000000 := by
    rw [mvalue]
    norm_num
  have near := div_near (k := 8) (by decide) real mreal
    (by rw [million]; norm_num)
    (by
      rw [million, same, abs_of_nonneg (by positivity),
        div_lt_iff₀ (by norm_num)]
      norm_num
      linarith)
  rwa [million, same] at near

theorem value_degrees_lt {north south : Nat} (lt : south < north)
    (h : north ≤ 90000000) :
    value (degrees south) < value (degrees north) := by
  obtain ⟨-, nnear⟩ := degrees_near h
  obtain ⟨-, snear⟩ := degrees_near (Nat.le_trans lt.le h)
  have unit : twoPow (8 - 53) = 1 / 2 ^ 45 := by norm_num [twoPow]
  have apart : (south : ℝ) + 1 ≤ north := by exact_mod_cast lt
  rw [unit, abs_le] at nnear snear
  linarith

theorem value_degrees_pos {micro : Nat} (positive : 0 < micro)
    (h : micro ≤ 90000000) : 0 < value (degrees micro) := by
  obtain ⟨-, near⟩ := degrees_near h
  have unit : twoPow (8 - 53) = 1 / 2 ^ 45 := by norm_num [twoPow]
  have one : (1 : ℝ) ≤ micro := by exact_mod_cast positive
  rw [unit, abs_le] at near
  linarith

/-- The rows of both hemispheres descend. -/
theorem pairwise_reflected {northern : List (Nat × Nat)}
    (descends : northern.IsChain fun north south => south.2 < north.2)
    (range : ∀ row ∈ northern, 0 < row.2 ∧ row.2 ≤ 90000000) :
    (reflected northern).Pairwise fun north south =>
      value south.2 < value north.2 := by
  have all := pairwise_of_isChain Prod.snd descends
  refine List.pairwise_append.mpr ⟨?_, ?_, ?_⟩
  · refine List.pairwise_map.mpr (all.imp_of_mem ?_)
    intro north south hn _ lt
    exact value_degrees_lt lt (range north hn).2
  · rw [List.pairwise_map, List.pairwise_reverse]
    refine all.imp_of_mem ?_
    intro north south hn hs lt
    obtain ⟨nreal, -⟩ := degrees_near (range north hn).2
    obtain ⟨sreal, -⟩ := degrees_near (range south hs).2
    dsimp only
    rw [(value_neg nreal).2, (value_neg sreal).2, neg_lt_neg_iff]
    exact value_degrees_lt lt (range north hn).2
  · intro north hnorth south hsouth
    obtain ⟨row, hrow, rfl⟩ := List.mem_map.mp hnorth
    obtain ⟨row', hrow', rfl⟩ := List.mem_map.mp hsouth
    obtain ⟨low, high⟩ := range row hrow
    obtain ⟨low', high'⟩ := range row' (List.mem_reverse.mp hrow')
    have := value_degrees_pos low high
    have := value_degrees_pos low' high'
    dsimp only
    rw [(value_neg (degrees_near high').1).2]
    linarith

theorem isReal_of_mem_reflected {northern : List (Nat × Nat)}
    (range : ∀ row ∈ northern, 0 < row.2 ∧ row.2 ≤ 90000000) :
    ∀ row ∈ reflected northern, IsReal row.2 := by
  intro placed hplaced
  rcases List.mem_append.mp hplaced with hplaced | hplaced
  · obtain ⟨row, hrow, rfl⟩ := List.mem_map.mp hplaced
    exact (degrees_near (range row hrow).2).1
  · obtain ⟨row, hrow, rfl⟩ := List.mem_map.mp hplaced
    have high := (range row (List.mem_reverse.mp hrow)).2
    exact (value_neg (degrees_near high).1).1

theorem isDescending_of_ofRows? {rows : Nat} {g : GaussianGrid}
    (h : ofRows? rows = .ok g) : g.layout.exactly.IsDescending := by
  unfold ofRows? at h
  split at h
  · rename_i found
    cases h
    have known := List.mem_of_find?_eq_some found
    obtain ⟨descends, range⟩ := northern_of_mem _ known
    exact RowLayout.isDescending_exactly
      (one_le_of_mem_reflected (filled_of_mem _ known).2)
      (isReal_of_mem_reflected range) (pairwise_reflected descends range)
  · cases h

end Gaussian

namespace RowTable

/-- A latitude between the poles is a real number. -/
theorem isReal_of_inRange {lat : Float} (h : inRange lat = true) :
    IsReal lat := by
  obtain ⟨low, high⟩ := Bool.and_eq_true_iff.mp h
  obtain ⟨north, -⟩ := value_ofNat (n := 90) (by decide)
  obtain ⟨south, -⟩ := value_neg north
  exact isReal_of_between south north (of_decide_eq_true low)
    (of_decide_eq_true high)

theorem isDescending_of_read {hemisphereRows : Nat} {text : String}
    {g : GaussianGrid} (h : read hemisphereRows text = .ok g) :
    g.layout.exactly.IsDescending := by
  obtain ⟨-, rows, layout, -, proper, descending⟩ := read_eq_ok h
  have real : ∀ row ∈ rows, IsReal row.2 := fun row hrow =>
    isReal_of_inRange (proper row hrow).2
  have columns : ∀ row ∈ rows, 1 ≤ row.1 := fun row hrow =>
    (proper row hrow).1.1
  have chain : rows.IsChain fun north south =>
      value south.2 < value north.2 := by
    refine List.IsChain.imp_of_mem_imp ?_ descending
    intro north south hnorth hsouth apart
    rw [← value_le_iff (real north hnorth) (real south hsouth)] at apart
    exact not_le.mp apart
  rw [layout]
  exact RowLayout.isDescending_exactly columns real
    (pairwise_of_isChain (fun row : Nat × Float => value row.2) chain)

end RowTable

-- ========================================================== round trips

namespace Grid

/-- Whether the rows of a grid have columns, and each lies south of the
rows before it. Those of a regular grid always do. -/
def IsDescending : Grid Exact → Prop
  | regular _ => True
  | reducedGaussian _ l => l.IsDescending
  | equalArea l => l.IsDescending

/-- Whether the columns of every row are counted in 32 bits. -/
def IsCounted {α : Type} (grid : Grid α) : Prop :=
  ∀ row columns, grid.columns row = .ok columns → columns < 2 ^ 32

end Grid

/-- A bin of a layout is found again from its center. -/
theorem RowLayout.IsDescending.binOf_center {l : RowLayout Exact}
    (descending : l.IsDescending) (counted : (Grid.equalArea l).IsCounted)
    {bin : Nat} (h : bin < l.numBins) :
    l.binOf (l.centerOf bin).1 (l.centerOf bin).2 = bin := by
  obtain ⟨rows, rfl, -, descends⟩ := descending
  refine RowLayout.binOf_center descends ?_ h
  intro row hrow
  obtain ⟨r, hr, rfl⟩ := List.mem_iff_getElem.mp hrow
  refine counted r _ ?_
  show orOutOfBounds (((ofReal rows).row? r).map Row.columns) = _
  rw [row?_ofReal hr]
  rfl

/-- A bin is found again from its center, for every grid whose latitudes
descend from row to row and every bin of it, as long as columns are counted
in 32 bits. All that is computed from the stored latitudes is computed
without rounding. The latitudes descend in every grid that can be built,
with up to `2 ^ 32` rows, and in every grid that can be read from a
table. -/
theorem Grid.binOf_centerOf :
    (∀ grid : Grid Exact, grid.IsDescending → grid.IsCounted →
      ∀ bin < grid.numBins,
        grid.binOf (grid.centerOf bin).1 (grid.centerOf bin).2 = bin)
    ∧ (∀ kind rows grid, rows < 2 ^ 32 → Grid.build kind rows = .ok grid →
      grid.exactly.IsDescending)
    ∧ ∀ hemisphereRows text g, RowTable.read hemisphereRows text = .ok g →
      (Grid.ofGaussian g).exactly.IsDescending := by
  refine ⟨?_, ?_, fun _ _ _ => RowTable.isDescending_of_read⟩
  · intro grid descending counted bin hbin
    cases grid with
    | regular g => exact g.binOf_center hbin
    | reducedGaussian n l => exact descending.binOf_center counted hbin
    | equalArea l => exact descending.binOf_center counted hbin
  · intro kind rows grid short h
    cases kind with
    | regular =>
        obtain ⟨g, -, rfl⟩ := map_eq_ok.mp h
        trivial
    | reducedGaussian =>
        obtain ⟨g, hg, rfl⟩ := map_eq_ok.mp h
        exact Gaussian.isDescending_of_ofRows? hg
    | equalArea =>
        obtain ⟨l, hl, rfl⟩ := map_eq_ok.mp h
        exact EqualArea.isDescending_of_ofRows? short hl

/-- One column at each pole, and two between. -/
noncomputable def exactDiamond : Grid Exact :=
  .equalArea (RowLayout.ofReal [(1, 60), (2, 0), (1, -60)])

/-- The eastern of the two columns is found from its center, and the
latitudes of a known resolution descend. -/
theorem Grid.binOf_centerOf_exactDiamond : exactDiamond.IsDescending
    ∧ exactDiamond.IsCounted ∧ 2 < exactDiamond.numBins
    ∧ exactDiamond.binOf (exactDiamond.centerOf 2).1
      (exactDiamond.centerOf 2).2 = 2
    ∧ ∃ grid, Grid.build .reducedGaussian 32 = .ok grid
      ∧ grid.exactly.IsDescending := by
  have descending : exactDiamond.IsDescending := by
    refine ⟨_, rfl, ?_, ?_⟩
    · simp
    · simp
  have counted : exactDiamond.IsCounted := by
    intro row columns h
    match row with
    | 0 =>
        cases h
        decide
    | 1 =>
        cases h
        decide
    | 2 =>
        cases h
        decide
    | row + 3 => cases h
  have inside : 2 < exactDiamond.numBins := by
    show 2 < 4
    decide
  exact ⟨descending, counted, inside,
    Grid.binOf_centerOf.1 exactDiamond descending counted 2 inside,
    _, rfl, Grid.binOf_centerOf.2.1 .reducedGaussian 32 _ (by decide) rfl⟩

end EarthBins
