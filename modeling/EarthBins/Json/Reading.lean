/-
Reading JSON text.

The reader follows the grammar by descent on a list of characters; each
function takes what it recognises off the front and returns the rest. Its
fuel is the number of characters, which no nesting exceeds.

A number without point and exponent is an integer when it fits 64 bits,
with one exception: `-0` is the real number negative zero. When a name
occurs twice in an object the later member replaces the earlier one.
-/
import EarthBins.Json
import EarthBins.Text.Blank

namespace EarthBins.Json

/-- The text after leading JSON white space. -/
def skip (cs : List Char) : List Char :=
  cs.dropWhile fun c => c == ' ' || c == '\n' || c == '\r' || c == '\t'

/-- A word at the front of the text. -/
def word? (w : String) (cs : List Char) : Option (List Char) :=
  let word := w.toList
  if cs.take word.length == word then some (cs.drop word.length) else none

/-- The value of a hexadecimal digit. -/
def hexDigit? (c : Char) : Option Nat :=
  if c.isDigit then some (c.toNat - '0'.toNat)
  else if 'a' ≤ c ∧ c ≤ 'f' then some (c.toNat - 'a'.toNat + 10)
  else if 'A' ≤ c ∧ c ≤ 'F' then some (c.toNat - 'A'.toNat + 10)
  else none

/-- Four hexadecimal digits at the front of the text. -/
def hex4? : List Char → Option (Nat × List Char)
  | a :: b :: c :: d :: rest => do
    let high := 16 * (← hexDigit? a) + (← hexDigit? b)
    let low := 16 * (← hexDigit? c) + (← hexDigit? d)
    return (256 * high + low, rest)
  | _ => none

/-- The character behind `\u`, where two escapes can stand for one
character beyond the sixteen-bit range. -/
def unicodeEscape? (cs : List Char) : Option (Char × List Char) := do
  let (first, rest) ← hex4? cs
  if 0xD800 ≤ first ∧ first < 0xDC00 then
    let '\\' :: 'u' :: rest := rest | none
    let (second, rest) ← hex4? rest
    if 0xDC00 ≤ second ∧ second < 0xE000 then
      let code := 0x10000 + (first - 0xD800) * 0x400 + (second - 0xDC00)
      return (Char.ofNat code, rest)
    else none
  else if 0xDC00 ≤ first ∧ first < 0xE000 then none
  else return (Char.ofNat first, rest)

/-- The character behind a backslash. -/
def escape? : List Char → Option (Char × List Char)
  | '"' :: rest => some ('"', rest)
  | '\\' :: rest => some ('\\', rest)
  | '/' :: rest => some ('/', rest)
  | 'b' :: rest => some ('\x08', rest)
  | 'f' :: rest => some ('\x0c', rest)
  | 'n' :: rest => some ('\n', rest)
  | 'r' :: rest => some ('\r', rest)
  | 't' :: rest => some ('\t', rest)
  | 'u' :: rest => unicodeEscape? rest
  | _ => none

/-- The characters up to the closing quote. -/
def chars? : Nat → List Char → List Char → Option (List Char × List Char)
  | 0, _, _ => none
  | fuel + 1, acc, cs =>
    match cs with
    | '"' :: rest => some (acc.reverse, rest)
    | '\\' :: rest => do
      let (c, rest) ← escape? rest
      chars? fuel (c :: acc) rest
    | c :: rest =>
      if c.toNat < 0x20 then none else chars? fuel (c :: acc) rest
    | [] => none

/-- Whether a row of digits has no needless zero in front. -/
def properWhole : List Char → Bool
  | [] => false
  | ['0'] => true
  | c :: _ => c != '0'

/-- Smallest and largest integers that a number without point and exponent
is kept as. -/
def integerRange : Int × Int := (-9223372036854775808, 18446744073709551615)

/-- A number without point and exponent. -/
def wholeNumber (negative : Bool) (n : Nat) : Json :=
  let value : Int := if negative then -(n : Int) else n
  if negative && n == 0 then real Double.negativeZero
  else if integerRange.1 ≤ value ∧ value ≤ integerRange.2 then integer value
  else real (Decimal.ofDecimal negative n 0)

/-- A number at the front of the text. -/
def number? (cs : List Char) : Option (Json × List Char) := do
  let (negative, cs) := match cs with
    | '-' :: rest => (true, rest)
    | _ => (false, cs)
  let whole := cs.takeWhile Char.isDigit
  let rest := cs.dropWhile Char.isDigit
  if !properWhole whole then none
  let (fraction?, rest) := match rest with
    | '.' :: r => (some (r.takeWhile Char.isDigit), r.dropWhile Char.isDigit)
    | _ => (none, rest)
  if fraction? == some [] then none
  let fraction := fraction?.getD []
  let (exponent?, rest) := match rest with
    | c :: r =>
      if c == 'e' || c == 'E' then
        let (minus, digits) := Decimal.signed r
        (some (minus, digits.takeWhile Char.isDigit),
          digits.dropWhile Char.isDigit)
      else (none, rest)
    | [] => (none, rest)
  let mantissa ← Decimal.natural? (whole ++ fraction)
  match exponent? with
  | some (minus, digits) =>
    let n ← Decimal.natural? digits
    let e : Int := if minus then -(n : Int) else n
    return (real (Decimal.ofDecimal negative mantissa (e - fraction.length)),
      rest)
  | none =>
    if fraction?.isSome then
      return (real (Decimal.ofDecimal negative mantissa
        (-(fraction.length : Int))), rest)
    else return (wholeNumber negative mantissa, rest)

/-- An object with one more member; a member of the same name is
replaced. -/
def insert (members : List (String × Json)) (name : String) (value : Json) :
    List (String × Json) :=
  if members.any (·.1 == name) then
    members.map fun m => if m.1 == name then (name, value) else m
  else members ++ [(name, value)]

mutual

/-- A value at the front of the text. -/
def value? : Nat → List Char → Option (Json × List Char)
  | 0, _ => none
  | fuel + 1, cs =>
    match skip cs with
    | '\x7b' :: rest =>
      match skip rest with
      | '\x7d' :: rest => some (object [], rest)
      | rest => members? fuel [] rest
    | '[' :: rest =>
      match skip rest with
      | ']' :: rest => some (list [], rest)
      | rest => items? fuel [] rest
    | '"' :: rest => do
      let (s, rest) ← chars? (rest.length + 1) [] rest
      return (text (String.ofList s), rest)
    | 't' :: rest => (word? "rue" rest).map fun r => (bool true, r)
    | 'f' :: rest => (word? "alse" rest).map fun r => (bool false, r)
    | 'n' :: rest => (word? "ull" rest).map fun r => (null, r)
    | cs => number? cs

/-- The rest of a list behind its bracket or a comma. -/
def items? : Nat → List Json → List Char → Option (Json × List Char)
  | 0, _, _ => none
  | fuel + 1, acc, cs => do
    let (item, rest) ← value? fuel cs
    match skip rest with
    | ',' :: rest => items? fuel (item :: acc) rest
    | ']' :: rest => return (list (item :: acc).reverse, rest)
    | _ => none

/-- The rest of an object behind its brace or a comma. -/
def members? : Nat → List (String × Json) → List Char →
    Option (Json × List Char)
  | 0, _, _ => none
  | fuel + 1, acc, cs => do
    let '"' :: rest := skip cs | none
    let (name, rest) ← chars? (rest.length + 1) [] rest
    let ':' :: rest := skip rest | none
    let (value, rest) ← value? fuel rest
    let acc := insert acc (String.ofList name) value
    match skip rest with
    | ',' :: rest => members? fuel acc rest
    | '\x7d' :: rest => return (object acc, rest)
    | _ => none

end

/-- The value that a whole text denotes. -/
def read? (s : String) : Option Json :=
  let cs := s.toList
  match value? (2 * cs.length + 2) cs with
  | some (j, rest) => if (skip rest).isEmpty then some j else none
  | none => none

end EarthBins.Json
