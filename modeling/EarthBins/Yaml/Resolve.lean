/-
What plain scalars mean.

A plain scalar is null, a truth value, an integer, a real number, or else
text. The spellings are those of the core schema. Integers may be written
in base sixteen, eight or two. A number that begins with a zero before
further digits is text where nothing else is asked for.

Integers have 64 bits. One that needs more, up to 128 bits, is an error
where the meaning decides the type, and a real number beyond that.
-/
import EarthBins.Json
import EarthBins.Yaml.Node

namespace EarthBins.Yaml

/-- Whether a plain scalar is a written null. -/
def isNull (s : String) : Bool :=
  ["null", "Null", "NULL", "~"].contains s

/-- The truth value of a plain scalar. -/
def truth? (s : String) : Option Bool :=
  if ["true", "True", "TRUE"].contains s then some true
  else if ["false", "False", "FALSE"].contains s then some false
  else none

/-- Whether a character is a sign. -/
def isSign (c : Char) : Bool := c == '+' || c == '-'

/-- Whether a number begins with a zero before further digits. -/
def hasLeadingZero (cs : List Char) : Bool :=
  let unsigned := match cs with
    | c :: rest => if isSign c then rest else cs
    | [] => []
  match unsigned with
  | '0' :: c :: rest => (c :: rest).all Char.isDigit
  | _ => false

/-- A natural number in a base. -/
def inBase? (base : Nat) (cs : List Char) : Option Nat :=
  if cs.isEmpty then none
  else cs.foldlM (fun n c => do
    let digit ← hexValue? c
    if digit < base then some (base * n + digit) else none) 0

/-- A natural number in base ten or behind the mark of another base. -/
def magnitude? (cs : List Char) : Option Nat :=
  match cs with
  | '0' :: 'x' :: digits => inBase? 16 digits
  | '0' :: 'o' :: digits => inBase? 8 digits
  | '0' :: 'b' :: digits => inBase? 2 digits
  | _ => if hasLeadingZero cs then none else inBase? 10 cs

/-- The integer of a plain scalar, of any size. -/
def integer? (s : String) : Option Int :=
  match s.toList with
  | '+' :: cs => (magnitude? cs).map Int.ofNat
  | '-' :: cs => (magnitude? cs).map fun n => -(n : Int)
  | cs => (magnitude? cs).map Int.ofNat

/-- The natural number of a plain scalar. -/
def natural? (s : String) : Option Nat :=
  match s.toList with
  | '-' :: _ => none
  | _ => (integer? s).map Int.toNat

/-- The real number of a plain scalar. A number too large for 64 bits is
none. -/
def real? (s : String) : Option Float :=
  let (positive, cs) := match s.toList with
    | '+' :: rest => (true, rest)
    | cs => (false, cs)
  let body := String.ofList cs
  if positive && (cs.head?).any isSign then none
  else if [".inf", ".Inf", ".INF"].contains body then some Double.infinity
  else if ["-.inf", "-.Inf", "-.INF"].contains s then
    some (-Double.infinity)
  else if [".nan", ".NaN", ".NAN"].contains s then some Double.nan
  else match Decimal.number? cs with
    | some x => if Double.isFinite x then some x else none
    | none => none

/-- Whether an integer fits a signed or unsigned number of so many
bits. -/
def fitsBits (bits : Nat) (n : Int) : Bool :=
  decide (-Int.pow 2 (bits - 1) ≤ n) && decide (n < Int.pow 2 bits)

/-- What a plain scalar means on its own. -/
def resolve? (s : String) : Option Json :=
  if s.isEmpty || isNull s then some .null
  else match truth? s with
    | some b => some (.bool b)
    | none =>
      let otherwise :=
        if hasLeadingZero s.toList then Json.text s
        else match real? s with
          | some x => .real x
          | none => .text s
      match integer? s with
      | some n =>
        if fitsBits 64 n then some (.integer n)
        else if fitsBits 128 n then none
        else some otherwise
      | none => some otherwise

mutual

/-- What a node means on its own. A key that is no text is named by what
was written. -/
def Node.meaning? : Node → Option Json
  | .scalar text plain => if plain then resolve? text else some (.text text)
  | .sequence items => Json.list <$> meanings? items
  | .mapping entries => Json.object <$> entryMeanings? entries

/-- What the items of a sequence mean. -/
def meanings? : List Node → Option (List Json)
  | [] => some []
  | item :: rest => do return (← item.meaning?) :: (← meanings? rest)

/-- What the entries of a mapping mean. -/
def entryMeanings? : List (Node × Node) → Option (List (String × Json))
  | [] => some []
  | (key, value) :: rest => do
    let _ ← key.meaning?
    let name := match key with
      | .scalar text _ => text
      | _ => ""
    return (name, ← value.meaning?) :: (← entryMeanings? rest)

end

end EarthBins.Yaml
