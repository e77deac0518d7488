/-
Writing JSON text, without white space between its parts.

A real number has the fewest digits that read back. It is written around a
plain decimal point, with at least one digit behind it, when its first
digit's exponent lies between -5 and 15, and with an exponent otherwise;
there is no JSON number for an infinity or NaN, so `null` stands for them.
-/
import EarthBins.Decimal.Layout
import EarthBins.Json

namespace EarthBins.Json

/-- Real numbers in JSON text. Of two shortest decimals equally near the
one with the even last digit is taken. -/
def numberLayout : Decimal.Layout :=
  { positional := fun exponent => decide (-5 ≤ exponent ∧ exponent ≤ 15)
    pointZero := true
    plus := true
    tie := .toEven }

/-- A real number. -/
def realText (x : Float) : String :=
  if Double.isFinite x then numberLayout.finite x else "null"

/-- Two lower-case hexadecimal digits. -/
def hex2 (n : Nat) : List Char :=
  Nat.toDigits 16 (n / 16) ++ Nat.toDigits 16 (n % 16)

/-- A character inside a JSON string. -/
def stringChar (c : Char) : List Char :=
  match c with
  | '"' => ['\\', '"']
  | '\\' => ['\\', '\\']
  | '\n' => ['\\', 'n']
  | '\r' => ['\\', 'r']
  | '\t' => ['\\', 't']
  | '\x08' => ['\\', 'b']
  | '\x0c' => ['\\', 'f']
  | _ => if c.toNat < 0x20 then ['\\', 'u', '0', '0'] ++ hex2 c.toNat else [c]

/-- A JSON string. -/
def stringText (s : String) : String :=
  String.ofList ('"' :: (s.toList.flatMap stringChar ++ ['"']))

mutual

/-- The text of a value. -/
def write : Json → String
  | null => "null"
  | bool b => if b then "true" else "false"
  | integer n => toString n
  | real x => realText x
  | text s => stringText s
  | list items => "[" ++ ",".intercalate (writeItems items) ++ "]"
  | object members =>
    "\x7b" ++ ",".intercalate (writeMembers members) ++ "\x7d"

/-- The texts of the items of a list. -/
def writeItems : List Json → List String
  | [] => []
  | j :: rest => write j :: writeItems rest

/-- The texts of the members of an object. -/
def writeMembers : List (String × Json) → List String
  | [] => []
  | (name, j) :: rest =>
    (stringText name ++ ":" ++ write j) :: writeMembers rest

end

end EarthBins.Json
