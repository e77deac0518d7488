/-
The scratch storage of a bin is a typed map.

Any calls on a storage, in any order, answer what a map from names to
values of several types answers: storing replaces, whatever was there;
looking and changing in place see a value of the asked type only; taking
removes what it sees and otherwise does nothing. What a report shows of a
storage is its bin and the names in use, in order, and so says nothing of
how the storage came about.

# The relation

`EntryTypes` is a family of types of values with the entries they are kept
as; no two of its types share an entry. `Holds` relates a storage to a
map: under every name is the entry of what the map has there. What each
operation does to the entries is said once (`getElem?_put`,
`getElem?_take?`), every call preserves the relation and answers alike
(`call_holds`), and so do all calls one after the other (`calls_holds`).
-/
import EarthBins.Feature.Scratch
import Mathlib.Data.List.Sort

namespace EarthBins

-- ==================================================== types of values

/-- A type of values, and the entries that keep its values. -/
structure EntryType (α β : Type) where
  entry : β → Entry α
  view : Entry α → Option β
  view_eq_some : ∀ {e x}, view e = some x ↔ e = entry x

/-- Types of values that no entry confuses. -/
structure EntryTypes (α : Type) {τ : Type} (Value : τ → Type) where
  type : ∀ t, EntryType α (Value t)
  apart : ∀ {t u}, t ≠ u → ∀ x, (type t).view ((type u).entry x) = none

namespace EntryType

variable {α β : Type}

@[simp] theorem view_entry (T : EntryType α β) (x : β) :
    T.view (T.entry x) = some x :=
  T.view_eq_some.mpr rfl

/-- Lists of numbers. -/
def numbers : EntryType α (Array α) where
  entry := .numbers
  view := Entry.numbers?
  view_eq_some {e _} := by cases e <;> simp [Entry.numbers?]

/-- Counts. -/
def count : EntryType α Nat where
  entry := .count
  view := Entry.count?
  view_eq_some {e _} := by cases e <;> simp [Entry.count?]

/-- Texts. -/
def text : EntryType α String where
  entry := .text
  view := Entry.text?
  view_eq_some {e _} := by cases e <;> simp [Entry.text?]

end EntryType

/-- The types of values that statistics put away. -/
inductive StoredType where
  | numbers
  | count
  | text
  deriving DecidableEq

/-- The values of a stored type. -/
def StoredType.Value (α : Type) : StoredType → Type
  | numbers => Array α
  | count => Nat
  | text => String

namespace EntryTypes

variable {α τ : Type} {Value : τ → Type}

/-- The three types of values that statistics put away. -/
def stored (α : Type) : EntryTypes α (StoredType.Value α) where
  type
    | .numbers => .numbers
    | .count => .count
    | .text => .text
  apart {t u} h x := by
    cases t <;> cases u <;> first | exact absurd rfl h | rfl

section Boxed

variable [DecidableEq τ]

/-- The value in a box, if it is of the asked type. -/
def unbox (t : τ) : Sigma Value → Option (Value t)
  | ⟨u, x⟩ => if h : u = t then some (h ▸ x) else none

theorem unbox_eq_some {t : τ} {b : Sigma Value} {x : Value t} :
    unbox t b = some x ↔ b = ⟨t, x⟩ := by
  obtain ⟨u, y⟩ := b
  by_cases h : u = t
  · subst h
    simp [unbox]
  · simp [unbox, h]

/-- The value of an entry that is one box with a value of the asked
type. -/
def unboxEntry (t : τ) : Entry (Sigma Value) → Option (Value t)
  | .numbers ⟨[b]⟩ => unbox t b
  | _ => none

theorem unboxEntry_eq_some {t : τ} {e : Entry (Sigma Value)} {x : Value t} :
    unboxEntry t e = some x ↔ e = .numbers #[⟨t, x⟩] := by
  unfold unboxEntry
  split
  · simp [unbox_eq_some]
  · rename_i other
    exact ⟨nofun, fun h => (other ⟨t, x⟩ h).elim⟩

/-- Values of any types at all, each in a box that says its type. -/
def boxed (Value : τ → Type) : EntryTypes (Sigma Value) Value where
  type t :=
    { entry := fun x => .numbers #[⟨t, x⟩]
      view := unboxEntry t
      view_eq_some := unboxEntry_eq_some }
  apart h x := by simpa [unboxEntry, unbox] using Ne.symm h

end Boxed

/-- The entry of a value of any of the types. -/
def entryOf (types : EntryTypes α Value) (v : Sigma Value) : Entry α :=
  (types.type v.1).entry v.2

/-- The entry of a value is seen as that value and under no other type. -/
theorem view_entryOf (types : EntryTypes α Value) {t : τ} {v : Sigma Value}
    {x : Value t} :
    (types.type t).view (types.entryOf v) = some x ↔ v = ⟨t, x⟩ := by
  obtain ⟨u, y⟩ := v
  constructor
  · intro h
    by_cases hu : t = u
    · subst hu
      rw [entryOf, EntryType.view_entry] at h
      cases h
      rfl
    · rw [entryOf, types.apart hu] at h
      cases h
  · rintro ⟨⟩
    exact EntryType.view_entry _ x

end EntryTypes

-- =========================================================== the calls

/-- A call on a storage of values of several types. -/
inductive StorageCall {τ : Type} (Value : τ → Type) where
  | put (name : String) (t : τ) (x : Value t)
  | get (name : String) (t : τ)
  /-- Look at a value and leave another of its type in its place. -/
  | getMut (name : String) (t : τ) (change : Value t → Value t)
  | take (name : String) (t : τ)
  | contains (name : String)

/-- The name that a call is about. -/
def StorageCall.name {τ : Type} {Value : τ → Type} :
    StorageCall Value → String
  | put name _ _ | get name _ | getMut name _ _ | take name _
  | contains name => name

/-- What a call answers. -/
inductive StorageAnswer {τ : Type} (Value : τ → Type) where
  | done
  | found (t : τ) (x : Option (Value t))
  | present (b : Bool)

/-- A map from names to values of several types. -/
def TypedMap {τ : Type} (Value : τ → Type) : Type :=
  String → Option (Sigma Value)

namespace TypedMap

variable {τ : Type} [DecidableEq τ] {Value : τ → Type}

/-- The map without a name. -/
def empty : TypedMap Value := fun _ => none

/-- Put a value under a name, or take away what is there. -/
def set (m : TypedMap Value) (name : String) (v : Option (Sigma Value)) :
    TypedMap Value :=
  fun other => if name = other then v else m other

/-- The value under a name, if it is of the asked type. -/
def look (m : TypedMap Value) (name : String) (t : τ) : Option (Value t) :=
  (m name).bind (EntryTypes.unbox t)

theorem look_eq_some {m : TypedMap Value} {name : String} {t : τ}
    {x : Value t} : m.look name t = some x ↔ m name = some ⟨t, x⟩ := by
  cases hv : m name with
  | none => simp [look, hv]
  | some v => simp [look, hv, EntryTypes.unbox_eq_some]

/-- One call on a map. -/
def call (m : TypedMap Value) :
    StorageCall Value → StorageAnswer Value × TypedMap Value
  | .put name t x => (.done, m.set name (some ⟨t, x⟩))
  | .get name t => (.found t (m.look name t), m)
  | .getMut name t change =>
    match m.look name t with
    | some x =>
      (.found t (some x), m.set name (some ⟨t, change x⟩))
    | none => (.found t none, m)
  | .take name t =>
    match m.look name t with
    | some x => (.found t (some x), m.set name none)
    | none => (.found t none, m)
  | .contains name => (.present (m name).isSome, m)

/-- Calls one after the other, with their answers. -/
def calls (m : TypedMap Value) :
    List (StorageCall Value) → List (StorageAnswer Value) × TypedMap Value
  | [] => ([], m)
  | c :: rest =>
    let (answer, m) := m.call c
    let (answers, m) := calls m rest
    (answer :: answers, m)

end TypedMap

namespace Scratch

variable {α β τ : Type} {Value : τ → Type}

/-- Look at a value and leave another of its type in its place. -/
def modify (s : Scratch α) (T : EntryType α β) (name : String)
    (change : β → β) : Option β × Scratch α :=
  match s.get? T.view name with
  | some x => (some x, s.put name (T.entry (change x)))
  | none => (none, s)

/-- One call on a storage. -/
def call (types : EntryTypes α Value) (s : Scratch α) :
    StorageCall Value → StorageAnswer Value × Scratch α
  | .put name t x => (.done, s.put name ((types.type t).entry x))
  | .get name t => (.found t (s.get? (types.type t).view name), s)
  | .getMut name t change =>
    let (x, s) := s.modify (types.type t) name change
    (.found t x, s)
  | .take name t =>
    let (x, s) := s.take? (types.type t).view name
    (.found t x, s)
  | .contains name => (.present (s.contains name), s)

/-- Calls one after the other, with their answers. -/
def calls (types : EntryTypes α Value) (s : Scratch α) :
    List (StorageCall Value) → List (StorageAnswer Value) × Scratch α
  | [] => ([], s)
  | c :: rest =>
    let (answer, s) := s.call types c
    let (answers, s) := calls types s rest
    (answer :: answers, s)

-- ============================================= taking out, putting back

/-- Take an entry out before its type is known, and put it back if it is
not of the type that `view` accepts. -/
def takeOut (s : Scratch α) (view : Entry α → Option β) (name : String) :
    Option β × Scratch α :=
  match s.entries[name]? with
  | none => (none, s)
  | some e =>
    let rest := { s with entries := s.entries.erase name }
    match view e with
    | some x => (some x, rest)
    | none => (none, rest.put name e)

/-- An entry that was taken out and put back was never gone. -/
theorem erase_insert {m : Std.ExtTreeMap String (Entry α)} {name : String}
    {e : Entry α} (h : m[name]? = some e) :
    (m.erase name).insert name e = m := by
  refine Std.ExtTreeMap.ext_getElem? fun other => ?_
  by_cases hn : name = other
  · subst hn
    simp [h]
  · simp [Std.ExtTreeMap.getElem?_insert, Std.ExtTreeMap.getElem?_erase, hn]

theorem take?_eq_takeOut (s : Scratch α) (view : Entry α → Option β)
    (name : String) : s.take? view name = s.takeOut view name := by
  unfold take? takeOut get?
  cases he : s.entries[name]? with
  | none => rfl
  | some e =>
    cases hx : view e with
    | some x => simp [hx]
    | none => simp [hx, put, erase_insert he]

-- ===================================================== change in place

/-- Numbers grow in place. -/
theorem push_eq_modify (s : Scratch α) (name : String) (x : α) :
    s.push name x = (s.modify .numbers name (·.push x)).2 := by
  unfold push push? modify
  cases hx : s.get? Entry.numbers? name with
  | none => simp [EntryType.numbers, hx]
  | some xs => simp [EntryType.numbers, hx]

/-- Counts grow in place. -/
theorem increment_eq_modify (s : Scratch α) (name : String) :
    s.increment name = (s.modify .count name (· + 1)).2 := by
  unfold increment modify
  cases hx : s.get? Entry.count? name with
  | none => simp [EntryType.count, hx]
  | some n => simp [EntryType.count, hx]

-- ============================================ what is under every name

theorem getElem?_put (s : Scratch α) (name other : String) (e : Entry α) :
    (s.put name e).entries[other]?
      = if name = other then some e else s.entries[other]? := by
  simp [put, Std.ExtTreeMap.getElem?_insert]

theorem getElem?_take? (s : Scratch α) (view : Entry α → Option β)
    (name other : String) :
    (s.take? view name).2.entries[other]?
      = if name = other ∧ (s.get? view name).isSome then none
        else s.entries[other]? := by
  cases hx : s.get? view name with
  | none => simp [snd_take?_of_none hx]
  | some _ => simp [take?, hx, Std.ExtTreeMap.getElem?_erase]

/-- A call changes what is under its own name only. -/
theorem getElem?_call (types : EntryTypes α Value) (s : Scratch α)
    (c : StorageCall Value) {other : String} (h : c.name ≠ other) :
    (s.call types c).2.entries[other]? = s.entries[other]? := by
  cases c with
  | put name t x => exact (getElem?_put ..).trans (if_neg h)
  | get name t => rfl
  | getMut name t change =>
    simp only [call, modify]
    split
    · exact (getElem?_put ..).trans (if_neg h)
    · rfl
  | take name t =>
    exact (getElem?_take? ..).trans (if_neg fun hn => h hn.1)
  | contains name => rfl

/-- No call changes whose storage it is. -/
theorem bin_call (types : EntryTypes α Value) (s : Scratch α)
    (c : StorageCall Value) : (s.call types c).2.bin = s.bin := by
  cases c with
  | put name t x => rfl
  | get name t => rfl
  | getMut name t change =>
    simp only [call, modify]
    split <;> rfl
  | take name t =>
    simp only [call, take?]
    split <;> rfl
  | contains name => rfl

-- ========================================================= the relation

/-- A storage holds what a map has. -/
def Holds (types : EntryTypes α Value) (s : Scratch α)
    (m : TypedMap Value) : Prop :=
  ∀ name, s.entries[name]? = (m name).map types.entryOf

namespace Holds

variable {types : EntryTypes α Value} {s : Scratch α} {m : TypedMap Value}

theorem get?_eq_some (h : s.Holds types m) {name : String} {t : τ}
    {x : Value t} :
    s.get? (types.type t).view name = some x ↔ m name = some ⟨t, x⟩ := by
  unfold get?
  rw [h name]
  cases m name with
  | none => simp
  | some v => simp [types.view_entryOf]

theorem get?_eq [DecidableEq τ] (h : s.Holds types m) (name : String)
    (t : τ) : s.get? (types.type t).view name = m.look name t :=
  Option.ext fun _ => h.get?_eq_some.trans TypedMap.look_eq_some.symm

theorem contains_eq (h : s.Holds types m) (name : String) :
    s.contains name = (m name).isSome := by
  rw [contains, Std.ExtTreeMap.contains_eq_isSome_getElem?, h name,
    Option.isSome_map]

theorem put (h : s.Holds types m) (name : String) (t : τ) (x : Value t) :
    (s.put name ((types.type t).entry x)).Holds types
      (m.set name (some ⟨t, x⟩)) := by
  intro other
  rw [getElem?_put, h other, TypedMap.set]
  split
  · rfl
  · rfl

theorem take? (h : s.Holds types m) {name : String} {t : τ} {x : Value t}
    (hx : s.get? (types.type t).view name = some x) :
    (s.take? (types.type t).view name).2.Holds types
      (m.set name none) := by
  intro other
  rw [getElem?_take?, h other, TypedMap.set]
  by_cases hn : name = other
  · subst hn
    simp [hx]
  · simp [hn]

end Holds

theorem empty_holds (types : EntryTypes α Value) (bin : Nat) :
    (empty bin : Scratch α).Holds types TypedMap.empty := by
  intro name
  simp [empty, TypedMap.empty]

section Calls

variable [DecidableEq τ]

/-- A call on a storage answers what the same call on a map answers. -/
theorem call_holds {types : EntryTypes α Value} {s : Scratch α}
    {m : TypedMap Value} (h : s.Holds types m) (c : StorageCall Value) :
    (s.call types c).1 = (m.call c).1
      ∧ (s.call types c).2.Holds types (m.call c).2 := by
  cases c with
  | put name t x => exact ⟨rfl, h.put name t x⟩
  | get name t => exact ⟨congrArg _ (h.get?_eq name t), h⟩
  | getMut name t change =>
    simp only [call, modify, TypedMap.call, ← h.get?_eq]
    cases s.get? (types.type t).view name with
    | none => exact ⟨rfl, h⟩
    | some x => exact ⟨rfl, h.put name t (change x)⟩
  | take name t =>
    simp only [call, TypedMap.call, ← h.get?_eq, fst_take?]
    cases hx : s.get? (types.type t).view name with
    | none => exact ⟨rfl, (snd_take?_of_none hx).symm ▸ h⟩
    | some x => exact ⟨rfl, h.take? hx⟩
  | contains name => exact ⟨congrArg _ (h.contains_eq name), h⟩

/-- Calls on a storage answer what the same calls on a map answer. -/
theorem calls_holds {types : EntryTypes α Value}
    (cs : List (StorageCall Value)) {s : Scratch α} {m : TypedMap Value}
    (h : s.Holds types m) :
    (s.calls types cs).1 = (m.calls cs).1
      ∧ (s.calls types cs).2.Holds types (m.calls cs).2
      ∧ (s.calls types cs).2.bin = s.bin := by
  induction cs generalizing s m with
  | nil => exact ⟨rfl, h, rfl⟩
  | cons c rest ih =>
    obtain ⟨answer, held⟩ := call_holds h c
    obtain ⟨answers, held, bin⟩ := ih held
    refine ⟨?_, held, bin.trans (bin_call types s c)⟩
    simp only [calls, TypedMap.calls]
    rw [answer, answers]

end Calls

-- ============================================================= the text

/-- The text of a storage of a bin that has some names in use. -/
def shown (bin : Nat) (names : List String) : String :=
  s!"BinContext \x7b index: {bin}, keys: " ++ Text.quotedList names
    ++ " \x7d"

theorem names_ascending (s : Scratch α) : s.names.Pairwise (· < ·) :=
  s.entries.ordered_keys.imp compareOfLessAndEq_eq_lt.mp

theorem mem_names {s : Scratch α} {name : String} :
    name ∈ s.names ↔ s.contains name :=
  Std.ExtTreeMap.mem_keys.trans Std.ExtTreeMap.contains_iff_mem.symm

theorem text_eq_shown (s : Scratch α) : s.text = shown s.bin s.names :=
  rfl

/-- Storages that hold something under the same names list the same
names. -/
theorem Holds.names_eq {types : EntryTypes α Value} {s u : Scratch α}
    {m n : TypedMap Value} (hs : s.Holds types m) (hu : u.Holds types n)
    (same : ∀ name, (m name).isSome = (n name).isSome) :
    s.names = u.names :=
  s.names_ascending.eq_of_mem_iff u.names_ascending fun name => by
    rw [mem_names, mem_names, hs.contains_eq, hu.contains_eq, same]

/-- What a storage does, by what a map has. -/
structure AsMap (types : EntryTypes α Value) (s : Scratch α)
    (m : TypedMap Value) : Prop where
  /-- A value is seen under the name and the type the map has it. -/
  seen : ∀ name t x,
    s.get? (types.type t).view name = some x ↔ m name = some ⟨t, x⟩
  /-- Taking it gives it out and leaves nothing under the name. -/
  taken : ∀ name t x, m name = some ⟨t, x⟩ →
    (s.take? (types.type t).view name).1 = some x
      ∧ (s.take? (types.type t).view name).2.entries[name]? = none
  /-- Taking what is not there, or there as another type, gives nothing
  and leaves all of the storage as it was. -/
  refused : ∀ name t, (∀ x, m name ≠ some ⟨t, x⟩) →
    s.take? (types.type t).view name = (none, s)
  /-- A call changes nothing under another name than its own. -/
  separate : ∀ (c : StorageCall Value) other, c.name ≠ other →
    (s.call types c).2.entries[other]? = s.entries[other]?
  /-- A name is contained if the map has it, with a value of any type. -/
  contained : ∀ name, s.contains name = (m name).isSome
  /-- The text has the bin and the names the map has, in order. -/
  printed : ∃ names : List String, names.Pairwise (· < ·)
    ∧ (∀ name, name ∈ names ↔ (m name).isSome)
    ∧ s.text = shown s.bin names

/-- A storage that holds what a map has does what the map says. -/
theorem Holds.asMap {types : EntryTypes α Value} {s : Scratch α}
    {m : TypedMap Value} (h : s.Holds types m) : s.AsMap types m where
  seen _ _ _ := h.get?_eq_some
  taken name t x hm := by
    have hx := h.get?_eq_some.mpr hm
    refine ⟨(fst_take? ..).trans hx, ?_⟩
    rw [getElem?_take?, if_pos ⟨rfl, by simp [hx]⟩]
  refused name t hm := by
    have hx : s.get? (types.type t).view name = none :=
      Option.eq_none_iff_forall_ne_some.mpr fun x hx =>
        hm x (h.get?_eq_some.mp hx)
    exact Prod.ext ((fst_take? ..).trans hx) (snd_take?_of_none hx)
  separate c _ := getElem?_call types s c
  contained := h.contains_eq
  printed := ⟨s.names, s.names_ascending,
    fun name => by rw [mem_names, h.contains_eq], rfl⟩

end Scratch

open Scratch in
/-- The scratch storage is a typed map. Values of any types can be kept
in it. Whatever is called on an empty storage, in any order and with any
names and types, every call answers what it answers on a map from names to
values with their types, and afterwards the storage does what the map says
(`AsMap`). Two storages of a bin with the same names in use have the same
text, whatever was called on them.

An entry is taken out before its type is known and put back if it is of
another type; numbers and counts grow by a change in place. -/
theorem storage_typedMap :
    (∀ {τ : Type} [DecidableEq τ] (Value : τ → Type),
      Nonempty (EntryTypes (Sigma Value) Value))
    ∧ (∀ {α τ : Type} [DecidableEq τ] {Value : τ → Type}
        (types : EntryTypes α Value) (bin : Nat)
        (cs : List (StorageCall Value)),
      ((empty bin).calls types cs).1 = (TypedMap.empty.calls cs).1
      ∧ ((empty bin).calls types cs).2.bin = bin
      ∧ ((empty bin).calls types cs).2.AsMap types
          (TypedMap.empty.calls cs).2
      ∧ ∀ cs' : List (StorageCall Value),
          (∀ name, ((TypedMap.empty.calls cs).2 name).isSome
            = ((TypedMap.empty.calls cs').2 name).isSome) →
          ((empty bin).calls types cs).2.text
            = ((empty bin).calls types cs').2.text)
    ∧ (∀ {α β : Type} (s : Scratch α) (view : Entry α → Option β)
        (name : String), s.take? view name = s.takeOut view name)
    ∧ (∀ {α : Type} (s : Scratch α) (name : String) (x : α),
        s.push name x = (s.modify .numbers name (·.push x)).2)
    ∧ (∀ {α : Type} (s : Scratch α) (name : String),
        s.increment name = (s.modify .count name (· + 1)).2) := by
  refine ⟨fun Value => ⟨.boxed Value⟩, ?_, take?_eq_takeOut,
    push_eq_modify, increment_eq_modify⟩
  · intro α τ _ Value types bin cs
    obtain ⟨answers, held, hbin⟩ := calls_holds cs (empty_holds types bin)
    refine ⟨answers, hbin, held.asMap, fun cs' same => ?_⟩
    obtain ⟨-, held', hbin'⟩ := calls_holds cs' (empty_holds types bin)
    rw [text_eq_shown, text_eq_shown, held.names_eq held' same,
      hbin, hbin']

/-- Numbers that grow in place are not seen as a text, survive that they
are asked for as one, and are gone once they have been taken. -/
theorem storage_typedMap_numbers :
    ((Scratch.empty 42).calls (.stored Nat)
      [.get "values" .numbers, .put "values" .numbers (#[1, 2] : Array Nat),
        .getMut "values" .numbers fun xs : Array Nat => xs.push 3,
        .get "values" .text, .take "values" .text, .contains "values",
        .take "values" .numbers, .contains "values"]).1
      = [.found .numbers none, .done,
        .found .numbers (some (#[1, 2] : Array Nat)), .found .text none,
        .found .text none, .present true,
        .found .numbers (some (#[1, 2, 3] : Array Nat)), .present false] :=
  (storage_typedMap.2.1 (.stored Nat) 42 _).1.trans rfl

end EarthBins
