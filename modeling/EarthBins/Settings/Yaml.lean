/-
Settings as a YAML document.

The document is a mapping with one entry per field; entries of other names
are ignored, and a field given twice is an error. No document, or an empty
one, means the default settings. The parts are mappings as well.

The type of a field decides how its scalar is read: text may be written
in any way, also plainly where it looks like a number, whereas numbers and
truth values have to be plain. A list may be left out, which makes it
empty; a written null is none. Only the period may be null.

Statistics are read without that knowledge: their scalars mean what they
mean on their own, so a name that looks like a number has to stand in
quotes there. A key that is a number without a minus sign counts the
fields of the statistic, and a statistic may be the sequence of its kind
and its fields. All of a statistic is read, also what is ignored in the
end, so it must not nest too deeply.
-/
import EarthBins.Settings.Json
import EarthBins.Yaml.Resolve

namespace EarthBins

namespace Yaml.Node

/-- The name that a key gives. -/
def keyName? : Node → Option String
  | .scalar text _ => some text
  | _ => none

/-- The value under a name: `none` if there are several. -/
def valueOf? (entries : List (String × Node)) (name : String) :
    Option (Option Node) :=
  match entries.filter (·.1 == name) with
  | [] => some none
  | [(_, value)] => some (some value)
  | _ => none

/-- The fields of a part. -/
def fields? (names : List String) (n : Node) :
    Option (List (Option Node)) := do
  let entries ← match n with
    | .mapping entries => some entries
    | _ => if n.isBlank then some [] else none
  let named ← entries.mapM fun (key, value) => return (← key.keyName?, value)
  names.mapM (valueOf? named)

/-- A field with a default. -/
def orDefault {β : Type} (field : Option Node) (read : Node → Option β)
    (default : β) : Option β :=
  match field with
  | none => some default
  | some n => read n

/-- Text, however it is written. -/
def asText? : Node → Option String
  | .scalar text _ => some text
  | _ => none

/-- A plain scalar, read by its type. -/
def asPlain? {β : Type} (read : String → Option β) : Node → Option β
  | .scalar text true => read text
  | _ => none

/-- An unsigned integer of at most 32 bits. -/
def asWord? (n : Node) : Option UInt32 := do
  let k ← n.asPlain? natural?
  if k < UInt32.size then some (UInt32.ofNat k) else none

/-- A list; one that was left out is empty. -/
def asList? (n : Node) : Option (List Node) :=
  match n with
  | .sequence items => some items
  | _ => if n.isBlank then some [] else none

/-- Whether a node stands for an absent value. -/
def isAbsent : Node → Bool
  | .scalar text plain => plain && (text.isEmpty || isNull text)
  | _ => false

end Yaml.Node

open Yaml (Node)

namespace GridChoice

/-- A grid choice. -/
def ofNode? (n : Node) : Option GridChoice := do
  let [kind, some rows] ← n.fields? ["kind", "rows"] | none
  let readKind (n : Node) := n.asText?.bind GridKind.ofName?
  return ⟨← Node.orDefault kind readKind .reducedGaussian, ← rows.asWord?⟩

end GridChoice

namespace Period

/-- A period, or none. -/
def ofNode? (n : Node) : Option (Option (Period Float)) :=
  if n.isAbsent then some none
  else do
    let [some start, some length] ←
      n.fields? ["start_mjd", "duration_days"] | none
    return some ⟨← start.asPlain? Yaml.real?, ← length.asPlain? Yaml.real?⟩

end Period

namespace StatisticSpec

/-- How deep the collections of a statistic nest at most: with the list of
statistics and the settings around it there are 128 levels. -/
def maxDepth : Nat := 126

/-- The name of a field by its key. A number beyond the last field names
none. -/
def memberName? (names : List String) : Node → Option String
  | .scalar written false => some written
  | .scalar written true => do
    match ← Yaml.resolve? written with
    | .text name => some name
    | .integer n =>
      if written.startsWith "-" then none else some (names.getD n.toNat "")
    | _ => none
  | _ => none

/-- Whether a key is that of the kind. -/
def isTypeKey (key : Node) : Bool := key.asText? == some "type"

/-- A statistic. -/
def ofNode? (n : Node) : Option (StatisticSpec Float) := do
  if maxDepth < n.depth then none
  match n with
  | .mapping entries =>
    let (types, others) := entries.partition (isTypeKey ·.1)
    let [(_, type)] := types | none
    let kind ← type.asText?
    let names := fieldNames kind
    let members ← others.mapM fun (key, value) =>
      return (← memberName? names key, ← value.meaning?)
    ofMembers? kind members
  | .sequence (type :: items) =>
    ofFields? (← type.asText?) (← items.mapM Node.meaning?)
  | _ => none

end StatisticSpec

namespace Settings

/-- Settings from the root of a document. -/
def ofNode? (n : Node) : Option Settings := do
  let [grid, names, statistics, superSampling, period, parallel] ←
    n.fields? fieldNames | none
  let default : Settings := {}
  let texts (n : Node) := n.asList?.bind (·.mapM Node.asText?)
  let specs (n : Node) := n.asList?.bind (·.mapM StatisticSpec.ofNode?)
  return {
    grid := ← Node.orDefault grid GridChoice.ofNode? default.grid
    variableNames := ← Node.orDefault names texts default.variableNames
    statistics := ← Node.orDefault statistics specs default.statistics
    superSampling :=
      ← Node.orDefault superSampling Node.asWord? default.superSampling
    period := ← Node.orDefault period Period.ofNode? default.period
    parallel := ← Node.orDefault parallel (·.asPlain? Yaml.truth?)
      default.parallel }

/-- Settings from the text of a document. -/
def ofYaml (text : String) : Except Error Settings :=
  let settings? := match Node.read? text with
    | some none => some ({} : Settings)
    | some (some root) => ofNode? root
    | none => none
  match settings? with
  | some settings => .ok settings
  | none => .error (.settings .unreadableDocument)

end Settings

end EarthBins
