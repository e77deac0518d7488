/-
A place in the text of a YAML document.

Layout matters in YAML, so the reader knows line and column wherever it
is. Before anything is read the three ways to end a line that stand for a
plain line feed are replaced by one; two further separators end a line
and stay what they are. Blanks are spaces and tabs.

`Gap` is the white space between two words of a scalar. A gap inside a
line stands for itself. One that contains line ends is folded: the first
line end becomes a space, unless more follow, which then stand for
themselves.
-/

namespace EarthBins.Yaml

/-- The text with every carriage return, pair of carriage return and line
feed, and next-line character replaced by a line feed. -/
def unifyBreaks : List Char → List Char
  | [] => []
  | '\r' :: '\n' :: rest => '\n' :: unifyBreaks rest
  | c :: rest =>
    (if c == '\r' || c == '\u0085' then '\n' else c) :: unifyBreaks rest

/-- Whether a character may stand in a document at all. -/
def isPrintable (c : Char) : Bool :=
  let n := c.toNat
  n == 0x09 || n == 0x0A || n == 0x0D || (0x20 ≤ n && n ≤ 0x7E)
    || n == 0x85 || (0xA0 ≤ n && n ≤ 0xD7FF)
    || (0xE000 ≤ n && n ≤ 0xFFFD) || 0x10000 ≤ n

/-- Whether a character ends a line. -/
def isBreak (c : Char) : Bool :=
  c == '\n' || c == '\u2028' || c == '\u2029'

/-- Whether a character is a space or a tab. -/
def isBlank (c : Char) : Bool := c == ' ' || c == '\t'

/-- Whether a word ends here: at a blank, a line end, or the end. -/
def endsWord : List Char → Bool
  | [] => true
  | c :: _ => isBlank c || isBreak c

/-- A place in a text. All counts start from zero. -/
structure Cursor where
  rest : List Char
  index : Nat := 0
  line : Nat := 0
  column : Nat := 0

namespace Cursor

/-- The place behind the next character of the line. -/
def skip (c : Cursor) : Cursor :=
  { c with
    rest := c.rest.drop 1
    index := c.index + 1
    column := c.column + 1 }

/-- The place behind the next `n` characters of the line. -/
def skipMany (c : Cursor) (n : Nat) : Cursor :=
  { c with
    rest := c.rest.drop n
    index := c.index + n
    column := c.column + n }

/-- The place behind a line end. -/
def skipBreak (c : Cursor) : Cursor :=
  { c with
    rest := c.rest.drop 1
    index := c.index + 1
    line := c.line + 1
    column := 0 }

/-- The place at the end of the line. -/
def skipToBreak (c : Cursor) : Cursor :=
  c.skipMany (c.rest.takeWhile (!isBreak ·)).length

/-- Whether a line begins here with three times `mark` as a word. -/
def atMarker (c : Cursor) (mark : Char) : Bool :=
  c.column == 0 && c.rest.take 3 == [mark, mark, mark]
    && endsWord (c.rest.drop 3)

/-- Whether a line begins here with a mark between documents. -/
def atAnyMarker (c : Cursor) : Bool := c.atMarker '-' || c.atMarker '.'

end Cursor

/-- White space between two words, gathered from the front. -/
structure Gap where
  /-- The blanks of a gap without a line end, last one first. -/
  blanks : List Char := []
  /-- Whether the gap reaches over a line end. -/
  broken : Bool := false
  /-- The first line end, unless it is to be dropped. -/
  first : Option Char := none
  /-- Further line ends, last one first. -/
  more : List Char := []

namespace Gap

/-- What a gap stands for. -/
def text (g : Gap) : List Char :=
  if g.broken then
    match g.first with
    | some '\n' => if g.more.isEmpty then [' '] else g.more.reverse
    | some c => c :: g.more.reverse
    | none => g.more.reverse
  else g.blanks.reverse

/-- Read the white space at a place, at most `fuel` characters. Behind a
line end a tab before the column `least` is an error. -/
def read (least : Nat) : Nat → Cursor → Gap → Option (Cursor × Gap)
  | 0, c, g => some (c, g)
  | fuel + 1, c, g =>
    match c.rest with
    | x :: _ =>
      if isBreak x then
        let g := if g.broken then { g with more := x :: g.more }
          else { broken := true, first := some x }
        read least fuel c.skipBreak g
      else if isBlank x then
        if g.broken then
          if x == '\t' && decide (c.column < least) then none
          else read least fuel c.skip g
        else read least fuel c.skip { g with blanks := x :: g.blanks }
      else some (c, g)
    | [] => some (c, g)

end Gap

end EarthBins.Yaml
