/-
Settings that are stored as JSON and read again.

Settings with finite numbers are read back as they were stored, and no
others are, for an infinity and NaN are stored as `null`, which is no
number. What is read from any document has finite numbers, so it is read
back from then on: a document that leaves fields out or has an integer for
a fraction is replaced by one that states all of its fields.

# Shape of the argument

A part is written as an object whose names are all different, so each field
is found under its name. What a part is read from is said once for each part
(`ofJson?_eq_some`), and is used in both directions: with the fields that
were written it gives back the part, and with the fields of an arbitrary
document it says where the numbers of the part come from.
-/
import EarthBins.Proofs.Json.Stored

namespace EarthBins

open Json

-- ============================================================== values

namespace Json

theorem asWord?_integer (n : UInt32) :
    (integer n.toNat).asWord? = some n := by
  have short : n.toNat < UInt32.size := n.toNat_lt
  simp [asWord?, asNat?, short]

theorem asNumber?_stored_iff {x : Float} :
    (stored (real x)).asNumber? = some x ↔ Double.isFinite x = true := by
  rw [← stored_real_iff]
  constructor
  · intro read
    unfold stored at read ⊢
    split
    · rfl
    · rename_i infinite
      rw [if_neg infinite] at read
      cases read
  · intro kept
    rw [kept]
    rfl

theorem eq_list_of_asList? {j : Json} {items : List Json}
    (read : j.asList? = some items) : j = list items := by
  cases j with
  | list items =>
      cases read
      rfl
  | _ => cases read

theorem asTexts?_texts (names : List String) :
    (list (names.map text)).asTexts? = some names :=
  mapM_map_eq_some_iff.mpr fun _ _ => rfl

end Json

-- =========================================================== the parts

namespace Period

/-- Whether both numbers of a period are finite. -/
structure IsFinite (p : Period Float) : Prop where
  start : Double.isFinite p.startMjd = true
  length : Double.isFinite p.durationDays = true

theorem ofJson?_eq_some {j : Json} {p : Period Float} :
    ofJson? j = some p ↔ ∃ start length,
      j.fields? ["start_mjd", "duration_days"]
        = some [some start, some length]
      ∧ start.asNumber? = some p.startMjd
      ∧ length.asNumber? = some p.durationDays := by
  unfold ofJson?
  constructor
  · intro read
    obtain ⟨fields, hfields, read⟩ := Option.bind_eq_some_iff.mp read
    split at read
    · rename_i start length
      obtain ⟨s, hs, read⟩ := Option.bind_eq_some_iff.mp read
      obtain ⟨l, hl, read⟩ := Option.bind_eq_some_iff.mp read
      cases read
      exact ⟨start, length, hfields, hs, hl⟩
    · cases read
  · rintro ⟨start, length, hfields, hs, hl⟩
    simp only [hfields, hs, hl, Option.bind_eq_bind, Option.bind_some]
    rfl

/-- The numbers of a period that is read are finite. -/
theorem isFinite_of_ofJson? {j : Json} {p : Period Float}
    (value : IsValue j) (read : ofJson? j = some p) : p.IsFinite := by
  obtain ⟨start, length, hfields, hstart, hlength⟩ :=
    ofJson?_eq_some.mp read
  constructor
  · exact (value.of_fields hfields (by simp)).isFinite_of_asNumber? hstart
  · exact (value.of_fields hfields (by simp)).isFinite_of_asNumber? hlength

theorem ofJson?_stored_iff {p : Period Float} :
    ofJson? (stored p.toJson) = some p ↔ p.IsFinite := by
  have written : (stored p.toJson).fields? ["start_mjd", "duration_days"]
      = some [some (stored (real p.startMjd)),
        some (stored (real p.durationDays))] :=
    fields?_object rfl (by decide)
  rw [ofJson?_eq_some, written]
  constructor
  · rintro ⟨start, length, same, hstart, hlength⟩
    cases same
    exact ⟨asNumber?_stored_iff.mp hstart, asNumber?_stored_iff.mp hlength⟩
  · rintro ⟨hstart, hlength⟩
    exact ⟨_, _, rfl, asNumber?_stored_iff.mpr hstart,
      asNumber?_stored_iff.mpr hlength⟩

end Period

namespace GridChoice

theorem ofJson?_eq_some {j : Json} {g : GridChoice} :
    ofJson? j = some g ↔ ∃ kind rows,
      j.fields? ["kind", "rows"] = some [kind, some rows]
      ∧ orDefault kind GridKind.ofJson? .reducedGaussian = some g.kind
      ∧ rows.asWord? = some g.rows := by
  unfold ofJson?
  constructor
  · intro read
    obtain ⟨fields, hfields, read⟩ := Option.bind_eq_some_iff.mp read
    split at read
    · rename_i kind rows
      obtain ⟨k, hk, read⟩ := Option.bind_eq_some_iff.mp read
      obtain ⟨r, hr, read⟩ := Option.bind_eq_some_iff.mp read
      cases read
      exact ⟨kind, rows, hfields, hk, hr⟩
    · cases read
  · rintro ⟨kind, rows, hfields, hk, hr⟩
    simp only [hfields, hk, hr, Option.bind_eq_bind, Option.bind_some]
    rfl

theorem ofJson?_stored (g : GridChoice) :
    ofJson? (stored g.toJson) = some g := by
  have written : (stored g.toJson).fields? ["kind", "rows"]
      = some [some (text g.kind.name), some (integer g.rows.toNat)] :=
    fields?_object rfl (by decide)
  refine ofJson?_eq_some.mpr
    ⟨_, _, written, ?_, asWord?_integer g.rows⟩
  show GridKind.ofName? g.kind.name = some g.kind
  cases g.kind <;> rfl

/-- A grid whose document names no family is a reduced Gaussian one. -/
theorem kind_of_absent {members : List (String × Json)} {g : GridChoice}
    (read : ofJson? (object members) = some g)
    (absent : "kind" ∉ members.map (·.1)) : g.kind = .reducedGaussian := by
  obtain ⟨kind, rows, hfields, hkind, -⟩ := ofJson?_eq_some.mp read
  have found : ["kind", "rows"].mapM (member members)
      = some [kind, some rows] := hfields
  obtain ⟨field, rest, hfield, -, same⟩ := mapM_eq_some.mp found
  cases same
  exact eq_default_of_absent hfield hkind absent

end GridChoice

namespace StatisticSpec

/-- Whether the number of a statistic, if it has one, is finite. -/
def IsFinite : StatisticSpec Float → Prop
  | average _ weightCoeff => Double.isFinite weightCoeff = true
  | _ => True

section

variable {members : List (String × Json)} {kind name : String}

/-- An average is read with the weight exponent that is given, zero where
none is. -/
theorem weightCoeff_of_ofMembers? {w : Float}
    (read : ofMembers? kind members = some (average name w)) :
    ∃ field, member members "weight_coeff" = some field
      ∧ orDefault field asNumber? 0 = some w := by
  unfold ofMembers? at read
  split at read
  all_goals simp [Option.bind_eq_some_iff] at read
  obtain ⟨-, -, -, field, hfield, hw⟩ := read
  exact ⟨field, hfield, hw⟩

/-- A percentile is read with the percentage that is given, ninety where
none is. -/
theorem percentage_of_ofMembers? {percentage : UInt32}
    (read : ofMembers? kind members = some (percentile name percentage)) :
    ∃ field, member members "percentage" = some field
      ∧ orDefault field asWord? defaultPercentage = some percentage := by
  unfold ofMembers? at read
  split at read
  all_goals simp [Option.bind_eq_some_iff] at read
  obtain ⟨-, -, -, field, hfield, hpercentage⟩ := read
  exact ⟨field, hfield, hpercentage⟩

end

/-- A statistic is read from named members in either form. -/
theorem exists_members_of_ofJson? {j : Json} {s : StatisticSpec Float}
    (value : IsValue j) (read : ofJson? j = some s) :
    ∃ kind members, ofMembers? kind members = some s
      ∧ ∀ m ∈ members, IsValue m.2 := by
  unfold ofJson? at read
  split at read
  · rename_i members
    simp only [Option.bind_eq_bind, Option.bind_eq_some_iff] at read
    obtain ⟨-, -, kind, -, read⟩ := read
    exact ⟨kind, members, read, isValue_object.mp value⟩
  · rename_i first items
    obtain ⟨kind, -, read⟩ := Option.bind_eq_some_iff.mp read
    unfold ofFields? at read
    extract_lets names at read
    split at read
    · cases read
    · refine ⟨kind, _, read, fun m hm => ?_⟩
      exact isValue_list.mp value _
        (List.mem_cons_of_mem _ (List.of_mem_zip hm).2)
  · cases read

/-- Whether a number that the document of a statistic leaves out has its
default. -/
def FillsIn (j : Json) (s : StatisticSpec Float) : Prop :=
  ∀ members, j = object members →
    (∀ name w, s = average name w → "weight_coeff" ∉ members.map (·.1) →
      w = 0)
    ∧ ∀ name percentage, s = percentile name percentage →
      "percentage" ∉ members.map (·.1) → percentage = defaultPercentage

theorem fillsIn_of_ofJson? {j : Json} {s : StatisticSpec Float}
    (read : ofJson? j = some s) : FillsIn j s := by
  rintro members rfl
  obtain ⟨_, -, read⟩ := Option.bind_eq_some_iff.mp read
  obtain ⟨kind, -, read⟩ := Option.bind_eq_some_iff.mp read
  refine ⟨?_, ?_⟩
  · rintro name w rfl absent
    obtain ⟨field, hfield, hw⟩ := weightCoeff_of_ofMembers? read
    exact eq_default_of_absent hfield hw absent
  · rintro name percentage rfl absent
    obtain ⟨field, hfield, hpercentage⟩ := percentage_of_ofMembers? read
    exact eq_default_of_absent hfield hpercentage absent

theorem isFinite_of_ofJson? {j : Json} {s : StatisticSpec Float}
    (value : IsValue j) (read : ofJson? j = some s) : s.IsFinite := by
  obtain ⟨kind, members, read, values⟩ :=
    exists_members_of_ofJson? value read
  cases s with
  | average name w =>
      obtain ⟨field, hfield, hw⟩ := weightCoeff_of_ofMembers? read
      rcases orDefault_eq_some.mp hw with ⟨-, rfl⟩ | ⟨v, rfl, hv⟩
      · exact Binary64.isFinite_ofNat (by decide : 0 < 2 ^ 64)
      · exact (values _ (mem_of_member hfield)).isFinite_of_asNumber? hv
  | _ => trivial

/-- A statistic is read back from its members if its number is finite. -/
theorem ofJson?_stored_iff {s : StatisticSpec Float} :
    ofJson? (stored s.toJson) = some s ↔ s.IsFinite := by
  cases s with
  | logNormal name =>
      simp [toJson, ofJson?, ofMembers?, required, member, asText?, IsFinite]
  | onMax key payload =>
      simp [toJson, ofJson?, ofMembers?, required, member, asText?, IsFinite,
        asTexts?_texts]
  | average name w =>
      simp [toJson, ofJson?, ofMembers?, required, member, asText?, IsFinite,
        orDefault, Option.bind_eq_some_iff, asNumber?_stored_iff]
  | extrema name =>
      simp [toJson, ofJson?, ofMembers?, required, member, asText?, IsFinite]
  | percentile name percentage =>
      simp [toJson, ofJson?, ofMembers?, required, member, asText?, IsFinite,
        orDefault, asWord?_integer]

end StatisticSpec

namespace Settings

/-- Whether all numbers of some settings are finite. -/
structure IsFinite (s : Settings) : Prop where
  statistics : ∀ spec ∈ s.statistics, spec.IsFinite
  period : ∀ p ∈ s.period, p.IsFinite

theorem ofJson?_eq_some {j : Json} {s : Settings} :
    ofJson? j = some s
      ↔ ∃ grid names statistics superSampling period parallel,
        j.fields? fieldNames
          = some [grid, names, statistics, superSampling, period, parallel]
        ∧ orDefault grid GridChoice.ofJson? {} = some s.grid
        ∧ orDefault names asTexts? [] = some s.variableNames
        ∧ orDefault statistics statisticsOfJson? [] = some s.statistics
        ∧ orDefault superSampling asWord? 1 = some s.superSampling
        ∧ orDefault period periodOfJson? none = some s.period
        ∧ orDefault parallel asBool? true = some s.parallel := by
  unfold ofJson?
  constructor
  · intro read
    obtain ⟨fields, hfields, read⟩ := Option.bind_eq_some_iff.mp read
    split at read
    · rename_i grid names statistics superSampling period parallel
      simp only [Option.bind_eq_bind, Option.bind_eq_some_iff,
        Option.pure_def, Option.some.injEq] at read
      obtain ⟨g, hg, n, hn, st, hst, u, hu, p, hp, b, hb, rfl⟩ := read
      exact ⟨grid, names, statistics, superSampling, period, parallel,
        hfields, hg, hn, hst, hu, hp, hb⟩
    · cases read
  · rintro ⟨grid, names, statistics, superSampling, period, parallel,
      hfields, hg, hn, hst, hu, hp, hb⟩
    simp only [hfields, hg, hn, hst, hu, hp, hb, Option.bind_eq_bind,
      Option.bind_some]
    rfl

/-- A document that is an object has its fields as members. -/
theorem members_of_ofJson? {members : List (String × Json)} {s : Settings}
    (read : ofJson? (object members) = some s) :
    ∃ grid names statistics superSampling period parallel,
      (member members "grid" = some grid
        ∧ member members "variables" = some names
        ∧ member members "aggregators" = some statistics
        ∧ member members "super_sampling" = some superSampling
        ∧ member members "data_period" = some period
        ∧ member members "parallel" = some parallel)
      ∧ orDefault grid GridChoice.ofJson? {} = some s.grid
      ∧ orDefault names asTexts? [] = some s.variableNames
      ∧ orDefault statistics statisticsOfJson? [] = some s.statistics
      ∧ orDefault superSampling asWord? 1 = some s.superSampling
      ∧ orDefault period periodOfJson? none = some s.period
      ∧ orDefault parallel asBool? true = some s.parallel := by
  obtain ⟨grid, names, statistics, superSampling, period, parallel,
    hfields, hread⟩ := ofJson?_eq_some.mp read
  refine ⟨grid, names, statistics, superSampling, period, parallel, ?_,
    hread⟩
  have found : fieldNames.mapM (member members)
      = some [grid, names, statistics, superSampling, period, parallel] :=
    hfields
  simp only [fieldNames, mapM_eq_some] at found
  simpa using found

theorem statisticsOfJson?_stored_iff {specs : List (StatisticSpec Float)} :
    statisticsOfJson? (stored (list (specs.map StatisticSpec.toJson)))
        = some specs
      ↔ ∀ spec ∈ specs, spec.IsFinite := by
  rw [stored_list, List.map_map]
  refine mapM_map_eq_some_iff.trans ?_
  exact forall₂_congr fun spec _ => StatisticSpec.ofJson?_stored_iff

/-- A period as a field. -/
def periodJson : Option (Period Float) → Json
  | some p => p.toJson
  | none => .null

/-- A period is read where one is given. -/
theorem ofJson?_of_periodOfJson? {j : Json} {p : Period Float}
    (read : periodOfJson? j = some (some p)) :
    Period.ofJson? j = some p := by
  unfold periodOfJson? at read
  split at read
  · cases read
  · obtain ⟨q, hq, same⟩ := Option.map_eq_some_iff.mp read
    cases same
    exact hq

theorem periodOfJson?_stored_iff {period : Option (Period Float)} :
    periodOfJson? (stored (periodJson period)) = some period
      ↔ ∀ p ∈ period, p.IsFinite := by
  cases period with
  | none => exact iff_of_true rfl nofun
  | some p =>
      show some <$> Period.ofJson? (stored p.toJson) = some (some p) ↔ _
      simp [Period.ofJson?_stored_iff]

/-- Settings are read back as they were stored if their numbers are
finite. -/
theorem ofJson?_stored_iff {s : Settings} :
    ofJson? (stored s.toJson) = some s ↔ s.IsFinite := by
  have written : (stored s.toJson).fields? fieldNames
      = some [some (stored s.grid.toJson),
        some (stored (list (s.variableNames.map text))),
        some (stored (list (s.statistics.map StatisticSpec.toJson))),
        some (integer s.superSampling.toNat),
        some (stored (periodJson s.period)), some (bool s.parallel)] :=
    fields?_object rfl (by decide)
  rw [ofJson?_eq_some, written]
  constructor
  · rintro ⟨grid, names, statistics, superSampling, period, parallel, same,
      -, -, hstatistics, -, hperiod, -⟩
    cases same
    exact ⟨statisticsOfJson?_stored_iff.mp hstatistics,
      periodOfJson?_stored_iff.mp hperiod⟩
  · rintro ⟨hstatistics, hperiod⟩
    refine ⟨_, _, _, _, _, _, rfl, GridChoice.ofJson?_stored s.grid, ?_,
      statisticsOfJson?_stored_iff.mpr hstatistics,
      asWord?_integer s.superSampling,
      periodOfJson?_stored_iff.mpr hperiod, rfl⟩
    show (stored (list (s.variableNames.map text))).asTexts? = _
    rw [stored_list, List.map_map, stored_comp_text, asTexts?_texts]

-- ============================================================ documents

variable {j : Json} {s : Settings}

/-- The numbers that are read from a document are finite. -/
theorem isFinite_of_ofJson? (value : IsValue j)
    (read : ofJson? j = some s) : s.IsFinite := by
  obtain ⟨grid, names, statistics, superSampling, period, parallel, hfields,
    -, -, hstatistics, -, hperiod, -⟩ := ofJson?_eq_some.mp read
  constructor
  · intro spec hspec
    rcases orDefault_eq_some.mp hstatistics with ⟨-, none⟩ | ⟨v, rfl, hv⟩
    · rw [none] at hspec
      cases hspec
    · obtain ⟨items, hitems, hspecs⟩ := Option.bind_eq_some_iff.mp hv
      obtain ⟨item, hitem, hread⟩ := exists_of_mem_mapM hspecs hspec
      obtain rfl := eq_list_of_asList? hitems
      have listed := value.of_fields hfields (v := list items) (by simp)
      exact StatisticSpec.isFinite_of_ofJson?
        (isValue_list.mp listed item hitem) hread
  · intro p hp
    rcases orDefault_eq_some.mp hperiod with ⟨-, none⟩ | ⟨v, rfl, hv⟩
    · rw [none] at hp
      cases hp
    · rw [Option.mem_def.mp hp] at hv
      exact Period.isFinite_of_ofJson?
        (value.of_fields hfields (by simp)) (ofJson?_of_periodOfJson? hv)

/-- Whether a document states every field of its settings, of its grid and
of its statistics. -/
def Complete (j : Json) : Prop :=
  ∃ grid names statistics superSampling period parallel,
    j.fields? fieldNames
      = some [some grid, some names, some (list statistics),
          some superSampling, some period, some parallel]
    ∧ (∃ kind rows,
      grid.fields? ["kind", "rows"] = some [some kind, some rows])
    ∧ ∀ item ∈ statistics, ∃ (kind : String) (values : List Json),
      item.fields? ("type" :: StatisticSpec.fieldNames kind)
        = some (some (text kind) :: values.map some)

theorem complete_stored (s : Settings) : Complete (stored s.toJson) := by
  refine ⟨stored s.grid.toJson, stored (list (s.variableNames.map text)),
    (s.statistics.map StatisticSpec.toJson).map stored,
    integer s.superSampling.toNat, stored (periodJson s.period),
    bool s.parallel, ?_, ?_, ?_⟩
  · rw [← stored_list]
    exact fields?_object rfl (by decide)
  · exact ⟨text s.grid.kind.name, integer s.grid.rows.toNat,
      fields?_object rfl (by decide)⟩
  · intro item hitem
    rw [List.map_map] at hitem
    obtain ⟨spec, -, rfl⟩ := List.mem_map.mp hitem
    cases spec with
    | logNormal name =>
        exact ⟨"average_log_normal", [text name],
          fields?_object rfl (by decide)⟩
    | onMax key payload =>
        exact ⟨"on_max_set", [text key, stored (list (payload.map text))],
          fields?_object rfl (by decide)⟩
    | average name w =>
        exact ⟨"average", [text name, stored (real w)],
          fields?_object rfl (by decide)⟩
    | extrema name =>
        exact ⟨"min_max", [text name], fields?_object rfl (by decide)⟩
    | percentile name percentage =>
        exact ⟨"percentile", [text name, integer percentage.toNat],
          fields?_object rfl (by decide)⟩

/-- Whether the fields that a document leaves out have their defaults: those
of the settings, the family of the grid, and of each statistic the exponent
of its weight or its percentage. -/
structure FillsIn (members : List (String × Json)) (s : Settings) : Prop where
  settings : ∀ name ∈ fieldNames, name ∉ members.map (·.1) →
    (stored s.toJson).fields? [name]
      = (stored ({} : Settings).toJson).fields? [name]
  grid : ∀ grid, ("grid", object grid) ∈ members →
    "kind" ∉ grid.map (·.1) → s.grid.kind = .reducedGaussian
  statistics : ∀ items, ("aggregators", list items) ∈ members →
    List.Forall₂ StatisticSpec.FillsIn items s.statistics

theorem fillsIn_of_ofJson? {members : List (String × Json)}
    (read : ofJson? (object members) = some s) : FillsIn members s := by
  obtain ⟨grid, names, statistics, superSampling, period, parallel, found,
    hgrid, hnames, hstatistics, hsuper, hperiod, hparallel⟩ :=
    members_of_ofJson? read
  obtain ⟨fgrid, fnames, fstatistics, fsuper, fperiod, fparallel⟩ := found
  constructor
  · intro name hname absent
    simp only [fieldNames, List.mem_cons, List.not_mem_nil, or_false] at hname
    rcases hname with rfl | rfl | rfl | rfl | rfl | rfl
    · have same := eq_default_of_absent fgrid hgrid absent
      simp [toJson, fields?, member, same]
    · have same := eq_default_of_absent fnames hnames absent
      simp [toJson, fields?, member, same]
    · have same := eq_default_of_absent fstatistics hstatistics absent
      simp [toJson, fields?, member, same]
    · have same := eq_default_of_absent fsuper hsuper absent
      simp [toJson, fields?, member, same]
    · have same := eq_default_of_absent fperiod hperiod absent
      simp [toJson, fields?, member, same]
    · have same := eq_default_of_absent fparallel hparallel absent
      simp [toJson, fields?, member, same]
  · intro g hg absent
    obtain rfl := eq_some_of_mem fgrid hg
    exact GridChoice.kind_of_absent hgrid absent
  · intro items hitems
    obtain rfl := eq_some_of_mem fstatistics hitems
    have read : items.mapM StatisticSpec.ofJson? = some s.statistics :=
      hstatistics
    exact (forall₂_of_mapM read).imp fun _ _ =>
      StatisticSpec.fillsIn_of_ofJson?

/-- Settings are read back from the document they are stored in just when
all of their numbers are finite. What is read from any document, whatever it
leaves out or has in addition, is read back from the document it is stored
in: one that states every field, with the default for each that was left
out. -/
theorem reads_back :
    (∀ s : Settings, ofJson? (stored s.toJson) = some s ↔ s.IsFinite)
    ∧ ∀ (j : Json) (s : Settings), IsValue j → ofJson? j = some s →
      ofJson? (stored s.toJson) = some s
      ∧ Complete (stored s.toJson)
      ∧ ∀ members, j = object members → FillsIn members s := by
  refine ⟨fun s => ofJson?_stored_iff, fun j s value read => ⟨?_, ?_, ?_⟩⟩
  · exact ofJson?_stored_iff.mpr (isFinite_of_ofJson? value read)
  · exact complete_stored s
  · rintro members rfl
    exact fillsIn_of_ofJson? read

/-- A document that leaves out what has a default, names a field that there
is not and has integers for fractions. -/
def sparse : Json :=
  .object [("title", .text "swath"),
    ("aggregators", .list [
      .object [("variable", .text "sst"), ("type", .text "average")],
      .object [("type", .text "average"), ("variable", .text "sst"),
        ("weight_coeff", .integer 1)],
      .object [("type", .text "percentile"), ("variable", .text "sst")]]),
    ("data_period", .object [("start_mjd", .integer 60000),
      ("duration_days", .real 0.5)]),
    ("grid", .object [("rows", .integer 48)])]

/-- What is read from it. -/
def sparseSettings : Settings where
  grid := ⟨.reducedGaussian, 48⟩
  statistics := [.average "sst" 0, .average "sst" (Decimal.ofInteger 1),
    .percentile "sst" 90]
  period := some ⟨Decimal.ofInteger 60000, 0.5⟩

/-- The settings of the sparse document are read back, and so are the
default ones, but not those with an infinite weight exponent. -/
theorem reads_back_sparse :
    IsValue sparse ∧ ofJson? sparse = some sparseSettings
    ∧ ofJson? (stored sparseSettings.toJson) = some sparseSettings
    ∧ ofJson? (stored ({} : Settings).toJson) = some {}
    ∧ ofJson? (stored ({ statistics := [.average "sst" Double.infinity] }
        : Settings).toJson)
      ≠ some { statistics := [.average "sst" Double.infinity] } := by
  have value : IsValue sparse := by
    have half : Double.isFinite 0.5 = true := by decide
    simp [sparse, integerRange, half]
  have read : ofJson? sparse = some sparseSettings := rfl
  refine ⟨value, read, (reads_back.2 sparse _ value read).1,
    (reads_back.1 {}).mpr ⟨nofun, nofun⟩, mt (reads_back.1 _).mp ?_⟩
  rintro ⟨finite, -⟩
  have infinite : Double.isFinite Double.infinity = true :=
    finite _ (List.mem_singleton.mpr rfl)
  exact absurd infinite (by decide)

end Settings

end EarthBins
