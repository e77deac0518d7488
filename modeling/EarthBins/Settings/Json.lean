/-
Settings and their parts as JSON.

A part is an object with one member per field. Members of other names are
ignored; a member that occurs twice is an error, and so is one of the
wrong type. Where a number may have a fraction an integer will do, not the
other way round. All members of the settings have defaults; `null` stands
only for an absent period.

A part may also be written as the list of its fields in order, without the
last ones if those have defaults. The name of a grid family or role may be
written as the single member of an object, over `null`. Of a statistic the
member `type` chooses the kind; in a list it comes before the fields.
-/
import EarthBins.Feature.Vector
import EarthBins.Json
import EarthBins.Settings

namespace EarthBins

namespace Json

/-- The fields of a part, from an object or from the list of the fields in
order. -/
def fields? (names : List String) : Json → Option (List (Option Json))
  | object members => names.mapM (member members)
  | list items =>
    if names.length < items.length then none
    else some ((List.range names.length).map (items[·]?))
  | _ => none

/-- A name out of a fixed set. -/
def choice? {β : Type} (ofName? : String → Option β) : Json → Option β
  | text name => ofName? name
  | object [(name, null)] => ofName? name
  | _ => none

/-- A field with a default. -/
def orDefault {β : Type} (field : Option Json) (read : Json → Option β)
    (default : β) : Option β :=
  match field with
  | none => some default
  | some j => read j

end Json

namespace Role

/-- A role. -/
def ofJson? (j : Json) : Option Role := j.choice? Role.ofName?

/-- A role as JSON. -/
def toJson (r : Role) : Json := .text r.name

end Role

namespace FeatureSchema

/-- A schema. -/
def ofJson? (j : Json) : Option FeatureSchema := do
  let [some role, some names] ← j.fields? ["role", "names"] | none
  return ⟨← Role.ofJson? role, ← names.asTexts?⟩

/-- A schema as JSON. -/
def toJson (s : FeatureSchema) : Json :=
  .object [("role", s.role.toJson), ("names", .list (s.names.map .text))]

end FeatureSchema

namespace FeatureVector

/-- A vector: a list of numbers. -/
def ofJson? (j : Json) : Option (FeatureVector Float) := do
  (← j.asList?).mapM Json.asNumber?

/-- A vector as JSON. -/
def toJson (v : FeatureVector Float) : Json := .list (v.map .real)

end FeatureVector

namespace Period

/-- A period. -/
def ofJson? (j : Json) : Option (Period Float) := do
  let [some start, some length] ←
    j.fields? ["start_mjd", "duration_days"] | none
  return ⟨← start.asNumber?, ← length.asNumber?⟩

/-- A period as JSON. -/
def toJson (p : Period Float) : Json :=
  .object [("start_mjd", .real p.startMjd),
    ("duration_days", .real p.durationDays)]

end Period

namespace GridKind

/-- A grid family. -/
def ofJson? (j : Json) : Option GridKind := j.choice? GridKind.ofName?

/-- A grid family as JSON. -/
def toJson (k : GridKind) : Json := .text k.name

end GridKind

namespace GridChoice

/-- A grid choice. The number of rows has no default of its own. -/
def ofJson? (j : Json) : Option GridChoice := do
  let [kind, some rows] ← j.fields? ["kind", "rows"] | none
  return ⟨← Json.orDefault kind GridKind.ofJson? .reducedGaussian,
    ← rows.asWord?⟩

/-- A grid choice as JSON. -/
def toJson (g : GridChoice) : Json :=
  .object [("kind", g.kind.toJson), ("rows", .integer g.rows.toNat)]

end GridChoice

namespace StatisticSpec

/-- Percentage where none is given: the ninetieth percentile. -/
def defaultPercentage : UInt32 := 90

/-- A statistic of the kind named, from the members of its object. -/
def ofMembers? (kind : String) (members : List (String × Json)) :
    Option (StatisticSpec Float) := do
  match kind with
  | "average_log_normal" =>
    return .logNormal (← (← Json.required members "variable").asText?)
  | "on_max_set" =>
    return .onMax (← (← Json.required members "on_max").asText?)
      (← (← Json.required members "set").asTexts?)
  | "average" =>
    return .average (← (← Json.required members "variable").asText?)
      (← Json.orDefault (← Json.member members "weight_coeff")
        Json.asNumber? 0)
  | "min_max" =>
    return .extrema (← (← Json.required members "variable").asText?)
  | "percentile" =>
    return .percentile (← (← Json.required members "variable").asText?)
      (← Json.orDefault (← Json.member members "percentage")
        Json.asWord? defaultPercentage)
  | _ => none

/-- The names of the fields of a kind, in order. -/
def fieldNames : String → List String
  | "on_max_set" => ["on_max", "set"]
  | "average" => ["variable", "weight_coeff"]
  | "percentile" => ["variable", "percentage"]
  | _ => ["variable"]

/-- A statistic of the kind named, from its fields in order. -/
def ofFields? (kind : String) (items : List Json) :
    Option (StatisticSpec Float) :=
  let names := fieldNames kind
  if names.length < items.length then none
  else ofMembers? kind (names.zip items)

/-- A statistic. -/
def ofJson? : Json → Option (StatisticSpec Float)
  | .object members => do
    ofMembers? (← (← Json.required members "type").asText?) members
  | .list (kind :: items) => do ofFields? (← kind.asText?) items
  | _ => none

/-- A statistic as JSON, with all its members. -/
def toJson : StatisticSpec Float → Json
  | logNormal name =>
    .object [("type", .text "average_log_normal"), ("variable", .text name)]
  | onMax key payload =>
    .object [("type", .text "on_max_set"), ("on_max", .text key),
      ("set", .list (payload.map .text))]
  | average name weightCoeff =>
    .object [("type", .text "average"), ("variable", .text name),
      ("weight_coeff", .real weightCoeff)]
  | extrema name =>
    .object [("type", .text "min_max"), ("variable", .text name)]
  | percentile name percentage =>
    .object [("type", .text "percentile"), ("variable", .text name),
      ("percentage", .integer percentage.toNat)]

end StatisticSpec

namespace Settings

/-- The names of the fields, in order. -/
def fieldNames : List String :=
  ["grid", "variables", "aggregators", "super_sampling", "data_period",
    "parallel"]

/-- A list of statistics. -/
def statisticsOfJson? (j : Json) : Option (List (StatisticSpec Float)) := do
  (← j.asList?).mapM StatisticSpec.ofJson?

/-- A period or `null` for none. -/
def periodOfJson? : Json → Option (Option (Period Float))
  | .null => some none
  | j => some <$> Period.ofJson? j

/-- Settings. -/
def ofJson? (j : Json) : Option Settings := do
  let [grid, names, statistics, superSampling, period, parallel] ←
    j.fields? fieldNames | none
  let default : Settings := {}
  return {
    grid := ← Json.orDefault grid GridChoice.ofJson? default.grid
    variableNames :=
      ← Json.orDefault names Json.asTexts? default.variableNames
    statistics :=
      ← Json.orDefault statistics statisticsOfJson? default.statistics
    superSampling :=
      ← Json.orDefault superSampling Json.asWord? default.superSampling
    period := ← Json.orDefault period periodOfJson? default.period
    parallel := ← Json.orDefault parallel Json.asBool? default.parallel }

/-- Settings as JSON, with all their fields. -/
def toJson (s : Settings) : Json :=
  .object [("grid", s.grid.toJson),
    ("variables", .list (s.variableNames.map .text)),
    ("aggregators", .list (s.statistics.map StatisticSpec.toJson)),
    ("super_sampling", .integer s.superSampling.toNat),
    ("data_period", match s.period with
      | some period => period.toJson
      | none => .null),
    ("parallel", .bool s.parallel)]

end Settings

end EarthBins
