/-
JSON values.

Numbers come in two forms. `integer` holds a number written without point
or exponent that fits 64 bits, signed or unsigned; `real` holds every other
number as the nearest 64-bit one. The distinction is part of the data: an
integer may stand where a real is expected, and not the other way round.

An object is the list of its members in order of writing. A reader of
typed data asks for a member by name with `member`, which reports a name
that occurs twice as an error of its own.
-/
import EarthBins.Decimal.Reading

namespace EarthBins

/-- A JSON value. -/
inductive Json where
  | null
  | bool (b : Bool)
  | integer (n : Int)
  | real (x : Float)
  | text (s : String)
  | list (items : List Json)
  | object (members : List (String × Json))
  deriving Inhabited

namespace Json

/-- The member of an object under a name: `none` if the name occurs more
than once, `some none` if it does not occur. -/
def member (members : List (String × Json)) (name : String) :
    Option (Option Json) :=
  match members.filter (·.1 == name) with
  | [] => some none
  | [(_, value)] => some (some value)
  | _ => none

/-- A member that has to be there. -/
def required (members : List (String × Json)) (name : String) :
    Option Json := do
  (← member members name)

/-- A text. -/
def asText? : Json → Option String
  | text s => some s
  | _ => none

/-- A truth value. -/
def asBool? : Json → Option Bool
  | bool b => some b
  | _ => none

/-- A natural number. -/
def asNat? : Json → Option Nat
  | integer n => if 0 ≤ n then some n.toNat else none
  | _ => none

/-- An unsigned integer of at most 32 bits. -/
def asWord? (j : Json) : Option UInt32 := do
  let n ← j.asNat?
  if n < UInt32.size then some (UInt32.ofNat n) else none

/-- A number; an integer stands for the nearest one. -/
def asNumber? : Json → Option Float
  | integer n => some (Decimal.ofInteger n)
  | real x => some x
  | _ => none

/-- A list. -/
def asList? : Json → Option (List Json)
  | list items => some items
  | _ => none

/-- A list of texts. -/
def asTexts? (j : Json) : Option (List String) := do
  (← j.asList?).mapM asText?

end Json

end EarthBins
