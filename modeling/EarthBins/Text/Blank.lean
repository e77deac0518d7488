/-
White space, and lines of text.

A character is blank when it has the property `White_Space`: the ASCII
blanks with the vertical ones, next-line, no-break space, and the spaces
and separators of general punctuation.
-/

namespace EarthBins.Text

/-- Closed ranges of the blank characters. -/
def blankRanges : List (Nat × Nat) := [
    (0x09, 0x0D), (0x20, 0x20), (0x85, 0x85), (0xA0, 0xA0),
    (0x1680, 0x1680), (0x2000, 0x200A), (0x2028, 0x2029),
    (0x202F, 0x202F), (0x205F, 0x205F), (0x3000, 0x3000)
  ]

/-- Whether a character is white space. -/
def isBlank (c : Char) : Bool :=
  blankRanges.any fun (first, last) => first ≤ c.toNat && c.toNat ≤ last

/-- A text without the white space at its two ends. -/
def trim (cs : List Char) : List Char :=
  ((cs.dropWhile isBlank).reverse.dropWhile isBlank).reverse

/-- The pieces of a text between the occurrences of a separator: one more
than there are separators. -/
def splitOn (separator : Char) : List Char → List (List Char)
  | [] => [[]]
  | c :: rest =>
    if c = separator then [] :: splitOn separator rest
    else match splitOn separator rest with
      | piece :: pieces => (c :: piece) :: pieces
      | [] => [[c]]

/-- A line without a carriage return at its end. -/
def dropReturn (cs : List Char) : List Char :=
  match cs.reverse with
  | '\r' :: rest => rest.reverse
  | _ => cs

/-- The lines of a text. A line feed ends a line, so a last line feed
begins no further one; a carriage return before it belongs to the line
end. -/
def lines (cs : List Char) : List (List Char) :=
  let pieces := splitOn '\n' cs
  let ended := pieces.dropLast.map dropReturn
  match pieces.getLast? with
  | some (c :: rest) => ended ++ [c :: rest]
  | _ => ended

/-- ASCII letters in lower case, all else as it is. It tells words that
consist of ASCII letters other than `k` apart exactly as full case folding
does: the Kelvin sign is the only other character whose lower-case form is
an ASCII letter, and that letter is `k`. -/
def lowerCase (s : String) : String := s.map Char.toLower

end EarthBins.Text
