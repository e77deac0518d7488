/-
Text in double quotes, as lists of names show it in messages.

A quote and a backslash are escaped by a backslash, the usual control
characters by their letter, and every other character without a glyph by
its code point in hexadecimal; an apostrophe needs no escape. What is left
stands as it is.
-/
import EarthBins.Text.Hidden

namespace EarthBins.Text

/-- A character by its code point, in lower-case hexadecimal without
padding. -/
def byNumber (c : Char) : List Char :=
  ['\\', 'u', '\x7b'] ++ Nat.toDigits 16 c.toNat ++ ['\x7d']

/-- A character as it stands inside double quotes. -/
def quoteChar (c : Char) : List Char :=
  match c with
  | '"' => ['\\', '"']
  | '\\' => ['\\', '\\']
  | '\n' => ['\\', 'n']
  | '\r' => ['\\', 'r']
  | '\t' => ['\\', 't']
  | '\x00' => ['\\', '0']
  | _ =>
    if c.toNat < 0x20 then byNumber c
    else if c.toNat < 0x7F then [c]
    else if isHidden c then byNumber c
    else [c]

/-- A text in double quotes. -/
def quoted (s : String) : String :=
  String.ofList ('"' :: (s.toList.flatMap quoteChar ++ ['"']))

/-- Items in square brackets, separated by commas. -/
def bracketed (items : List String) : String :=
  "[" ++ ", ".intercalate items ++ "]"

/-- A list of names, each in double quotes. -/
def quotedList (names : List String) : String :=
  bracketed (names.map quoted)

end EarthBins.Text
