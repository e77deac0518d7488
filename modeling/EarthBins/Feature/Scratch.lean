/-
Keyed scratch storage of one bin during one phase.

Statistics hold nothing between two calls. What has to survive from one
observation or pass to the next and does not fit the feature vector is put
here under a name. An entry has one of three types; reading a name with
another type than the entry's finds nothing and changes nothing.

`get?` is the view of a storage; the lemmas below say what storing and taking
have to do with it.
-/
import EarthBins.Text.Quoted
import Std.Data.ExtTreeMap

namespace EarthBins

/-- A stored value. -/
inductive Entry (α : Type) where
  | numbers (xs : Array α)
  | count (n : Nat)
  | text (s : String)

namespace Entry

variable {α : Type}

/-- The numbers of an entry that holds numbers. -/
def numbers? : Entry α → Option (Array α)
  | numbers xs => some xs
  | _ => none

/-- The count of an entry that holds one. -/
def count? : Entry α → Option Nat
  | count n => some n
  | _ => none

/-- The text of an entry that holds one. -/
def text? : Entry α → Option String
  | text s => some s
  | _ => none

end Entry

/-- The scratch storage of a bin. -/
structure Scratch (α : Type) where
  /-- Number of the bin. -/
  bin : Nat
  entries : Std.ExtTreeMap String (Entry α)

namespace Scratch

variable {α β : Type}

/-- The empty storage of a bin. -/
def empty (bin : Nat) : Scratch α := ⟨bin, ∅⟩

/-- The entry under a name, if it is of the type that `view` accepts. -/
def get? (s : Scratch α) (view : Entry α → Option β) (name : String) :
    Option β := do
  view (← s.entries[name]?)

/-- Store an entry in place of any earlier one of its name. -/
def put (s : Scratch α) (name : String) (entry : Entry α) : Scratch α :=
  { s with entries := s.entries.insert name entry }

/-- Remove the entry under a name, if it is of the type that `view`
accepts; an entry of another type stays. -/
def take? (s : Scratch α) (view : Entry α → Option β) (name : String) :
    Option β × Scratch α :=
  match s.get? view name with
  | some b => (some b, { s with entries := s.entries.erase name })
  | none => (none, s)

/-- Whether there is an entry of any type under a name. -/
def contains (s : Scratch α) (name : String) : Bool :=
  s.entries.contains name

/-- Append a number to the numbers under a name, if there are such. -/
def push? (s : Scratch α) (name : String) (x : α) : Option (Scratch α) := do
  let xs ← s.get? Entry.numbers? name
  return s.put name (.numbers (xs.push x))

/-- Append a number to the numbers under a name, if there are such. -/
def push (s : Scratch α) (name : String) (x : α) : Scratch α :=
  (s.push? name x).getD s

/-- Add one to the count under a name, if there is one. -/
def increment (s : Scratch α) (name : String) : Scratch α :=
  match s.get? Entry.count? name with
  | some n => s.put name (.count (n + 1))
  | none => s

/-- The names in use, in order. -/
def names (s : Scratch α) : List String := s.entries.keys

/-- The storage as reports show it: the bin and the names in use. -/
def text (s : Scratch α) : String :=
  s!"BinContext \x7b index: {s.bin}, keys: "
    ++ Text.quotedList s.names ++ " \x7d"

/-- An entry is seen under its own name and changes no other. -/
theorem get?_put (s : Scratch α) (view : Entry α → Option β)
    (name other : String) (entry : Entry α) :
    (s.put name entry).get? view other
      = if name = other then view entry else s.get? view other := by
  by_cases h : name = other
  · simp [get?, put, h]
  · simp [get?, put, Std.ExtTreeMap.getElem?_insert, h]

/-- Taking answers what looking answers. -/
theorem fst_take? (s : Scratch α) (view : Entry α → Option β)
    (name : String) : (s.take? view name).1 = s.get? view name := by
  unfold take?
  split <;> simp_all

/-- Taking something that is not there changes nothing. -/
theorem snd_take?_of_none {s : Scratch α} {view : Entry α → Option β}
    {name : String} (h : s.get? view name = none) :
    (s.take? view name).2 = s := by
  simp [take?, h]

end Scratch

end EarthBins
