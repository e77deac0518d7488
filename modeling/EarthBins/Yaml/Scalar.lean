/-
The scalars of a YAML document as they are written.

A plain scalar runs up to a colon that ends a word, a comment, a line that
is indented too little, or, inside brackets, a bracket or comma. A scalar
in single quotes knows one escape, the doubled quote. A scalar in double
quotes has escapes with a backslash, among them one for a line end, which
then leaves no trace. All three may run over several lines and are folded
where they do.

The readers recurse on a bound for the number of characters left; it goes
down by one with every character or gap that is read.
-/
import EarthBins.Yaml.Cursor

namespace EarthBins.Yaml

/-- A scalar that was read: the place behind it, and its text, last
character first. -/
abbrev ScalarText := Cursor × List Char

/-- Characters that end a plain scalar inside brackets. -/
def isFlowIndicator (c : Char) : Bool :=
  c == ',' || c == '[' || c == ']' || c == '\x7b' || c == '\x7d'

/-- Whether a colon inside brackets stands where it could mean two
things. -/
def ambiguousColon : List Char → Bool
  | ':' :: c :: _ => c == '?' || isFlowIndicator c
  | _ => false

/-- Read a plain scalar. `least` is the smallest column of its further
lines, `pending` the gap before the next word. The gap behind the scalar
is returned as well. -/
def readPlain (inFlow : Bool) (least : Nat) :
    Nat → Cursor → List Char → Gap → Option (ScalarText × Gap)
  | 0, _, _, _ => none
  | fuel + 1, c, text, pending =>
    match c.rest with
    | [] => some ((c, text), pending)
    | x :: after =>
      if isBlank x || isBreak x then do
        let (c, gap) ← Gap.read least (fuel + 1) c {}
        let outside := !inFlow && decide (c.column < least)
        if outside || c.atAnyMarker || c.rest.head? == some '#' then
          some ((c, text), gap)
        else readPlain inFlow least fuel c text gap
      else if inFlow && ambiguousColon c.rest then none
      else if (x == ':' && endsWord after)
          || (inFlow && isFlowIndicator x) then
        some ((c, text), pending)
      else
        readPlain inFlow least fuel c.skip
          (x :: pending.text.reverse ++ text) {}

/-- Read the rest of a scalar in single quotes. -/
def readSingle : Nat → Cursor → List Char → Option ScalarText
  | 0, _, _ => none
  | fuel + 1, c, text =>
    if c.atAnyMarker then none
    else match c.rest with
      | [] => none
      | '\'' :: '\'' :: _ => readSingle fuel (c.skipMany 2) ('\'' :: text)
      | '\'' :: _ => some (c.skip, text)
      | x :: _ =>
        if isBlank x || isBreak x then do
          let (c, gap) ← Gap.read 0 (fuel + 1) c {}
          readSingle fuel c (gap.text.reverse ++ text)
        else readSingle fuel c.skip (x :: text)

/-- The value of a hexadecimal digit. -/
def hexValue? (c : Char) : Option Nat :=
  if c.isDigit then some (c.toNat - '0'.toNat)
  else if 'a' ≤ c ∧ c ≤ 'f' then some (c.toNat - 'a'.toNat + 10)
  else if 'A' ≤ c ∧ c ≤ 'F' then some (c.toNat - 'A'.toNat + 10)
  else none

/-- The character with the number that `count` hexadecimal digits give. -/
def numbered? (count : Nat) (cs : List Char) : Option (Nat × Char) := do
  let digits := cs.take count
  if digits.length < count then none
  let n ← digits.foldlM (fun n d => return 16 * n + (← hexValue? d)) 0
  if h : n.isValidChar then some (count + 2, Char.ofNatAux n h) else none

/-- The character of an escape behind its backslash, and the length of the
whole escape. -/
def escaped? : List Char → Option (Nat × Char)
  | '0' :: _ => some (2, '\x00')
  | 'a' :: _ => some (2, '\x07')
  | 'b' :: _ => some (2, '\x08')
  | 't' :: _ | '\t' :: _ => some (2, '\t')
  | 'n' :: _ => some (2, '\n')
  | 'v' :: _ => some (2, '\x0b')
  | 'f' :: _ => some (2, '\x0c')
  | 'r' :: _ => some (2, '\r')
  | 'e' :: _ => some (2, '\x1b')
  | ' ' :: _ => some (2, ' ')
  | '"' :: _ => some (2, '"')
  | '/' :: _ => some (2, '/')
  | '\\' :: _ => some (2, '\\')
  | 'N' :: _ => some (2, '\u0085')
  | '_' :: _ => some (2, '\u00a0')
  | 'L' :: _ => some (2, '\u2028')
  | 'P' :: _ => some (2, '\u2029')
  | 'x' :: cs => numbered? 2 cs
  | 'u' :: cs => numbered? 4 cs
  | 'U' :: cs => numbered? 8 cs
  | _ => none

/-- Read the rest of a scalar in double quotes. -/
def readDouble : Nat → Cursor → List Char → Option ScalarText
  | 0, _, _ => none
  | fuel + 1, c, text =>
    if c.atAnyMarker then none
    else match c.rest with
      | [] => none
      | '"' :: _ => some (c.skip, text)
      | '\\' :: after =>
        if (after.head?).any isBreak then do
          let start := c.skip.skipBreak
          let (c, gap) ← Gap.read 0 (fuel + 1) start { broken := true }
          readDouble fuel c (gap.text.reverse ++ text)
        else do
          let (length, x) ← escaped? after
          readDouble fuel (c.skipMany length) (x :: text)
      | x :: _ =>
        if isBlank x || isBreak x then do
          let (c, gap) ← Gap.read 0 (fuel + 1) c {}
          readDouble fuel c (gap.text.reverse ++ text)
        else readDouble fuel c.skip (x :: text)

end EarthBins.Yaml
