/-
JSON values as documents keep them.

A document has no number for an infinity or NaN. A value that is stored has
`null` in their place (`stored`), and it is written with the same text as
before. What is read from a document has only finite numbers (`IsValue`),
its integers are of at most 64 bits, and the parts that typed data asks it
for are such values again.
-/
import EarthBins.Json.Reading
import EarthBins.Json.Writing
import EarthBins.Proofs.Scalar.Finite
import EarthBins.Settings.Json
import Mathlib.Data.List.Basic

namespace EarthBins.Json

-- ================================================================ lists

section

variable {α β : Type}

/-- A list is read item by item. -/
theorem mapM_eq_some {f : α → Option β} {a : α} {as : List α}
    {bs : List β} :
    (a :: as).mapM f = some bs
      ↔ ∃ b rest, f a = some b ∧ as.mapM f = some rest ∧ bs = b :: rest := by
  simp only [List.mapM_cons, Option.bind_eq_bind, Option.bind_eq_some_iff,
    Option.pure_def, Option.some.injEq, eq_comm (a := bs)]
  constructor
  · rintro ⟨b, hb, rest, hrest, same⟩
    exact ⟨b, rest, hb, hrest, same⟩
  · rintro ⟨b, rest, hb, hrest, same⟩
    exact ⟨b, hb, rest, hrest, same⟩

theorem forall₂_of_mapM {f : α → Option β} {as : List α} {bs : List β}
    (read : as.mapM f = some bs) :
    List.Forall₂ (fun a b => f a = some b) as bs := by
  induction as generalizing bs with
  | nil =>
      cases read
      exact .nil
  | cons a as ih =>
      obtain ⟨b, rest, here, below, rfl⟩ := mapM_eq_some.mp read
      exact .cons here (ih below)

/-- What is read from a list is read from one of its items. -/
theorem exists_of_mem_mapM {f : α → Option β} {as : List α} {bs : List β}
    (read : as.mapM f = some bs) {b : β} (hb : b ∈ bs) :
    ∃ a ∈ as, f a = some b := by
  induction as generalizing bs with
  | nil =>
      cases read
      cases hb
  | cons a as ih =>
      obtain ⟨b', rest, here, below, rfl⟩ := mapM_eq_some.mp read
      rcases List.mem_cons.mp hb with rfl | hb
      · exact ⟨a, List.mem_cons_self, here⟩
      · obtain ⟨a', ha', found⟩ := ih below hb
        exact ⟨a', List.mem_cons_of_mem _ ha', found⟩

theorem mapM_eq_some_map {f : α → Option β} {g : α → β} {as : List α}
    (each : ∀ a ∈ as, f a = some (g a)) : as.mapM f = some (as.map g) := by
  induction as with
  | nil => rfl
  | cons a as ih =>
      obtain ⟨here, below⟩ := List.forall_mem_cons.mp each
      exact mapM_eq_some.mpr ⟨_, _, here, ih below, rfl⟩

/-- A list that was written item by item is read back where each of its
items is. -/
theorem mapM_map_eq_some_iff {f : β → Option α} {g : α → β} {as : List α} :
    (as.map g).mapM f = some as ↔ ∀ a ∈ as, f (g a) = some a := by
  induction as with
  | nil => simp
  | cons a as ih =>
      rw [List.map_cons, mapM_eq_some, List.forall_mem_cons, ← ih]
      constructor
      · rintro ⟨b, rest, here, below, same⟩
        cases same
        exact ⟨here, below⟩
      · rintro ⟨here, below⟩
        exact ⟨a, as, here, below, rfl⟩

end

-- ======================================================= what is stored

mutual

/-- A value as it is stored. -/
def stored : Json → Json
  | null => null
  | bool b => bool b
  | integer n => integer n
  | real x => if Double.isFinite x then real x else null
  | text s => text s
  | list items => list (storedItems items)
  | object members => object (storedMembers members)

def storedItems : List Json → List Json
  | [] => []
  | j :: rest => stored j :: storedItems rest

def storedMembers : List (String × Json) → List (String × Json)
  | [] => []
  | (name, j) :: rest => (name, stored j) :: storedMembers rest

end

theorem storedItems_eq_map (items : List Json) :
    storedItems items = items.map stored := by
  induction items with
  | nil => rfl
  | cons j rest ih => rw [storedItems, ih, List.map_cons]

theorem storedMembers_eq_map (members : List (String × Json)) :
    storedMembers members = members.map fun m => (m.1, stored m.2) := by
  induction members with
  | nil => rfl
  | cons m rest ih => rw [storedMembers, ih, List.map_cons]

@[simp]
theorem stored_null : stored null = null :=
  rfl

@[simp]
theorem stored_bool (b : Bool) : stored (bool b) = bool b :=
  rfl

@[simp]
theorem stored_integer (n : Int) : stored (integer n) = integer n :=
  rfl

@[simp]
theorem stored_text (s : String) : stored (text s) = text s :=
  rfl

@[simp]
theorem stored_comp_text : stored ∘ text = text :=
  rfl

@[simp]
theorem stored_list (items : List Json) :
    stored (list items) = list (items.map stored) := by
  rw [stored, storedItems_eq_map]

@[simp]
theorem stored_object (members : List (String × Json)) :
    stored (object members)
      = object (members.map fun m => (m.1, stored m.2)) := by
  rw [stored, storedMembers_eq_map]

/-- A real number is stored as it is if it is finite. -/
theorem stored_real_iff {x : Float} :
    stored (real x) = real x ↔ Double.isFinite x = true := by
  unfold stored
  split
  · rename_i finite
    exact iff_of_true rfl finite
  · rename_i infinite
    exact iff_of_false nofun infinite

mutual

/-- Storing a value changes nothing about its text. -/
theorem write_stored : ∀ j : Json, write (stored j) = write j
  | null | bool _ | integer _ | text _ => rfl
  | real x => by
      unfold stored
      split
      · rfl
      · rename_i infinite
        rw [write, write, realText, if_neg infinite]
  | list items => by
      rw [stored, write, write, writeItems_stored]
  | object members => by
      rw [stored, write, write, writeMembers_stored]

theorem writeItems_stored :
    ∀ items : List Json, writeItems (storedItems items) = writeItems items
  | [] => rfl
  | j :: rest => by
      rw [storedItems, writeItems, writeItems, write_stored j,
        writeItems_stored rest]

theorem writeMembers_stored : ∀ members : List (String × Json),
    writeMembers (storedMembers members) = writeMembers members
  | [] => rfl
  | (name, j) :: rest => by
      rw [storedMembers, writeMembers, writeMembers, write_stored j,
        writeMembers_stored rest]

end

-- ============================================================== members

section

variable {members : List (String × Json)} {names : List String}
  {name : String} {j : Json}

/-- A member is one of the values of its object. -/
theorem mem_of_member (found : member members name = some (some j)) :
    (name, j) ∈ members := by
  unfold member at found
  split at found
  · cases found
  · rename_i foundName value single
    cases found
    have kept : (foundName, j) ∈ members.filter (·.1 == name) := by
      rw [single]
      exact List.mem_singleton.mpr rfl
    obtain ⟨mem, same⟩ := List.mem_filter.mp kept
    rwa [← beq_iff_eq.mp same]
  · cases found

theorem filter_eq_nil_of_absent (absent : name ∉ members.map (·.1)) :
    members.filter (·.1 == name) = [] := by
  rw [List.filter_eq_nil_iff]
  intro m hm same
  exact absent (List.mem_map.mpr ⟨m, hm, beq_iff_eq.mp same⟩)

/-- A member of another name is not found. -/
theorem eq_none_of_absent {field : Option Json}
    (found : member members name = some field)
    (absent : name ∉ members.map (·.1)) : field = none := by
  rw [member, filter_eq_nil_of_absent absent] at found
  exact (Option.some.inj found).symm

/-- What is found under a name is the only member of the name. -/
theorem eq_some_of_mem {field : Option Json}
    (found : member members name = some field) (mem : (name, j) ∈ members) :
    field = some j := by
  have kept : (name, j) ∈ members.filter (·.1 == name) :=
    List.mem_filter.mpr ⟨mem, beq_self_eq_true name⟩
  unfold member at found
  split at found
  · rename_i empty
    rw [empty] at kept
    cases kept
  · rename_i single
    rw [single] at kept
    cases List.mem_singleton.mp kept
    exact (Option.some.inj found).symm
  · cases found

/-- A member is found where all names are different. -/
theorem member_of_mem (distinct : (members.map (·.1)).Nodup)
    (mem : (name, j) ∈ members) : member members name = some (some j) := by
  have single : members.filter (·.1 == name) = [(name, j)] := by
    induction members with
    | nil => cases mem
    | cons m rest ih =>
        obtain ⟨fresh, distinct⟩ := List.nodup_cons.mp distinct
        rcases List.mem_cons.mp mem with rfl | mem
        · rw [List.filter_cons, if_pos (beq_self_eq_true name),
            filter_eq_nil_of_absent fresh]
        · have other : ¬ (m.1 == name) = true := fun same =>
            fresh (List.mem_map.mpr ⟨_, mem, (beq_iff_eq.mp same).symm⟩)
          rw [List.filter_cons, if_neg other, ih distinct mem]
  rw [member, single]

/-- An object with different names gives all of its fields. -/
theorem fields?_object (same : members.map (·.1) = names)
    (distinct : names.Nodup) :
    (object members).fields? names
      = some (members.map fun m => some m.2) := by
  subst same
  show (members.map (·.1)).mapM (member members) = _
  rw [List.mapM_map]
  exact mapM_eq_some_map fun m hm => member_of_mem distinct hm

end

-- ========================================================= what is read

/-- The values that a document can hold: no number is infinite or NaN, and
what is an integer has at most 64 bits. -/
inductive IsValue : Json → Prop
  | null : IsValue null
  | bool (b : Bool) : IsValue (bool b)
  | integer {n : Int} (low : integerRange.1 ≤ n)
      (high : n ≤ integerRange.2) : IsValue (integer n)
  | real {x : Float} (finite : Double.isFinite x = true) : IsValue (real x)
  | text (s : String) : IsValue (text s)
  | list {items : List Json} (each : ∀ j ∈ items, IsValue j) :
      IsValue (list items)
  | object {members : List (String × Json)}
      (each : ∀ m ∈ members, IsValue m.2) : IsValue (object members)

variable {members : List (String × Json)} {items : List Json}
  {name : String} {names : List String} {j v : Json}

@[simp]
theorem isValue_integer {n : Int} : IsValue (integer n)
    ↔ integerRange.1 ≤ n ∧ n ≤ integerRange.2 := by
  constructor
  · rintro ⟨⟩
    exact ⟨‹_›, ‹_›⟩
  · rintro ⟨low, high⟩
    exact .integer low high

@[simp]
theorem isValue_real {x : Float} :
    IsValue (real x) ↔ Double.isFinite x = true := by
  constructor
  · rintro ⟨⟩
    assumption
  · exact .real

@[simp]
theorem isValue_text (s : String) : IsValue (text s) :=
  .text s

@[simp]
theorem isValue_list : IsValue (list items) ↔ ∀ j ∈ items, IsValue j := by
  constructor
  · rintro ⟨⟩
    assumption
  · exact .list

@[simp]
theorem isValue_object :
    IsValue (object members) ↔ ∀ m ∈ members, IsValue m.2 := by
  constructor
  · rintro ⟨⟩
    assumption
  · exact .object

/-- A number that is read is finite. -/
theorem IsValue.isFinite_of_asNumber? (value : IsValue j) {x : Float}
    (read : j.asNumber? = some x) : Double.isFinite x = true := by
  cases j with
  | integer n =>
      cases read
      obtain ⟨low, high⟩ := isValue_integer.mp value
      have low : -9223372036854775808 ≤ n := low
      have high : n ≤ 18446744073709551615 := high
      exact Binary64.isFinite_ofInteger (by omega) (by omega)
  | real x =>
      cases read
      exact isValue_real.mp value
  | _ => cases read

/-- A field with a default is given, or it has the default. -/
theorem orDefault_eq_some {β : Type} {field : Option Json}
    {read : Json → Option β} {default b : β} :
    orDefault field read default = some b
      ↔ (field = none ∧ b = default) ∨ ∃ v, field = some v ∧ read v = some b
    := by
  cases field with
  | none => simp [orDefault, eq_comm]
  | some v => simp [orDefault]

/-- A field that is left out has its default. -/
theorem eq_default_of_absent {β : Type} {field : Option Json}
    {read : Json → Option β} {default b : β}
    (found : member members name = some field)
    (given : orDefault field read default = some b)
    (absent : name ∉ members.map (·.1)) : b = default := by
  rw [eq_none_of_absent found absent] at given
  exact (Option.some.inj given).symm

/-- The fields of a part are values of its document. -/
theorem IsValue.of_fields (value : IsValue j) {fields : List (Option Json)}
    (read : j.fields? names = some fields) (mem : some v ∈ fields) :
    IsValue v := by
  cases j with
  | object members =>
      obtain ⟨name, -, found⟩ :=
        exists_of_mem_mapM read mem
      exact isValue_object.mp value _ (mem_of_member found)
  | list items =>
      rw [fields?] at read
      split at read
      · cases read
      · cases read
        obtain ⟨i, -, found⟩ := List.mem_map.mp mem
        exact isValue_list.mp value _ (List.mem_of_getElem? found)
  | _ => cases read

end EarthBins.Json
