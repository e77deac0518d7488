/-
The tokens of a YAML document.

Tokens make the layout explicit: every block collection, whose extent is
given by indentation, begins and ends with a token of its own, as
collections in brackets do.

# Keys

That something is a key shows only at the colon behind it. So whatever
could be a key is remembered with the place of its token: one candidate
for the block context and one for each open bracket. At the colon the key
token is inserted there, preceded by the start of a block mapping where
the key is indented deeper than the block around it. A key and its colon
stand on one line, at most 1024 characters apart. A candidate in the very
column of a block mapping has to be a key; when it turns out not to be
one, the document is malformed.

# Order marks

A line may begin with the mark of the byte order, which is white space
there and takes up a column like any other character: what follows it
stands in the second column. Everywhere else the mark is text.
-/
import EarthBins.Yaml.Scalar

namespace EarthBins.Yaml

/-- A token. -/
inductive Token where
  | documentStart
  | documentEnd
  | blockSequenceStart
  | blockMappingStart
  | blockEnd
  | flowSequenceStart
  | flowSequenceEnd
  | flowMappingStart
  | flowMappingEnd
  | blockEntry
  | flowEntry
  | key
  | value
  | scalar (text : String) (plain : Bool)
  deriving DecidableEq, Repr

/-- Something that will be a key if a colon follows. -/
structure Candidate where
  /-- Whether it has to be a key. -/
  required : Bool
  /-- Number of tokens before it. -/
  token : Nat
  index : Nat
  line : Nat
  column : Nat

/-- How far a document was read. -/
structure Lexer where
  cursor : Cursor
  /-- Columns of the open block collections, innermost first. -/
  indents : List Nat := []
  /-- The candidate of the block context, behind those of the open
  brackets, innermost first. -/
  candidates : List (Option Candidate) := [none]
  /-- Whether a key may begin here. -/
  keyAllowed : Bool := true
  tokens : Array Token := #[]

namespace Lexer

/-- Whether a bracket is open. -/
def inFlow (l : Lexer) : Bool := !(l.candidates.drop 1).isEmpty

/-- One more token. -/
def emit (l : Lexer) (t : Token) : Lexer :=
  { l with tokens := l.tokens.push t }

/-- A token in the middle of those before. -/
def insert (l : Lexer) (place : Nat) (t : Token) : Lexer :=
  { l with tokens := l.tokens.insertIdxIfInBounds place t }

/-- One token of one character. -/
def emitOne (l : Lexer) (t : Token) : Lexer :=
  { l with cursor := l.cursor.skip, tokens := l.tokens.push t }

/-- Give up the innermost candidate. -/
def dropCandidate (l : Lexer) : Option Lexer :=
  match l.candidates with
  | some c :: outer =>
    if c.required then none else some { l with candidates := none :: outer }
  | _ => some l

/-- Remember that a key may begin here. -/
def addCandidate (l : Lexer) : Option Lexer :=
  if l.keyAllowed then do
    let l ← l.dropCandidate
    let here : Candidate :=
      { required := !l.inFlow && l.indents.head? == some l.cursor.column
        token := l.tokens.size
        index := l.cursor.index
        line := l.cursor.line
        column := l.cursor.column }
    return { l with candidates := some here :: l.candidates.drop 1 }
  else some l

/-- The innermost candidate, if a colon here makes it a key. It is an error
if one that has to be a key is out of reach. -/
def keyCandidate (l : Lexer) : Option (Option Candidate) :=
  match l.candidates with
  | some c :: _ =>
    if c.line == l.cursor.line && l.cursor.index ≤ c.index + 1024 then
      some (some c)
    else if c.required then none
    else some none
  | _ => some none

/-- Whether a block collection in a column is a new one. -/
def opensBlock (l : Lexer) (column : Nat) : Bool :=
  !l.inFlow && l.indents.head?.all (· < column)

/-- Open a block collection in a column, if it is a new one, with a start
token at the given place. -/
def openBlock (l : Lexer) (column place : Nat) (start : Token) : Lexer :=
  if l.opensBlock column then
    { l.insert place start with indents := column :: l.indents }
  else l

/-- End the open block collections that `closes` picks, innermost
first. -/
def closeBlocks (closes : Nat → Bool) : List Nat → Array Token →
    List Nat × Array Token
  | [], tokens => ([], tokens)
  | column :: outer, tokens =>
    if closes column then closeBlocks closes outer (tokens.push .blockEnd)
    else (column :: outer, tokens)

/-- End the block collections that are indented deeper than this place. -/
def dedent (l : Lexer) : Lexer :=
  if l.inFlow then l
  else
    let (indents, tokens) :=
      closeBlocks (l.cursor.column < ·) l.indents l.tokens
    { l with indents := indents, tokens := tokens }

/-- End all block collections. -/
def dedentAll (l : Lexer) : Lexer :=
  if l.inFlow then l
  else
    let (indents, tokens) := closeBlocks (fun _ => true) l.indents l.tokens
    { l with indents := indents, tokens := tokens }

/-- The mark of the byte order. -/
def orderMark : Char := '\uFEFF'

/-- Whether a character is white space here. The order mark is at the
beginning of a line; tabs are not where a key may begin in the block
context. -/
def isSpace (l : Lexer) (c : Char) : Bool :=
  c == ' ' || (c == '\t' && (l.inFlow || !l.keyAllowed))
    || (c == orderMark && l.cursor.column == 0)

/-- Skip white space and comments. -/
def skipSpace : Nat → Lexer → Lexer
  | 0, l => l
  | fuel + 1, l =>
    match l.cursor.rest with
    | [] => l
    | c :: _ =>
      if l.isSpace c then
        skipSpace fuel { l with cursor := l.cursor.skip }
      else if c == '#' then
        skipSpace fuel { l with cursor := l.cursor.skipToBreak }
      else if isBreak c then
        skipSpace fuel
          { l with
            cursor := l.cursor.skipBreak
            keyAllowed := l.keyAllowed || !l.inFlow }
      else l

/-- A mark between documents. -/
def documentMark (l : Lexer) (t : Token) : Option Lexer := do
  let l ← l.dedentAll.dropCandidate
  return { l.emit t with
    cursor := l.cursor.skipMany 3
    keyAllowed := false }

/-- An opening bracket. -/
def openFlow (l : Lexer) (t : Token) : Option Lexer := do
  let l ← l.addCandidate
  return { l.emitOne t with
    candidates := none :: l.candidates
    keyAllowed := true }

/-- A closing bracket. Without an open one the block context is left as it
is. -/
def closeFlow (l : Lexer) (t : Token) : Option Lexer := do
  let l ← l.dropCandidate
  let outer := if l.inFlow then l.candidates.drop 1 else l.candidates
  return { l.emitOne t with candidates := outer, keyAllowed := false }

/-- A comma inside brackets. -/
def flowEntry (l : Lexer) : Option Lexer := do
  let l ← l.dropCandidate
  return { l.emitOne .flowEntry with keyAllowed := true }

/-- A dash in front of an item. -/
def blockEntry (l : Lexer) : Option Lexer := do
  if !l.inFlow && !l.keyAllowed then none
  let l := l.openBlock l.cursor.column l.tokens.size .blockSequenceStart
  let l ← l.dropCandidate
  return { l.emitOne .blockEntry with keyAllowed := true }

/-- A question mark in front of a key. -/
def explicitKey (l : Lexer) : Option Lexer := do
  if !l.inFlow && !l.keyAllowed then none
  let l := l.openBlock l.cursor.column l.tokens.size .blockMappingStart
  let l ← l.dropCandidate
  return { l.emitOne .key with keyAllowed := !l.inFlow }

/-- A colon in front of a value. -/
def value (l : Lexer) : Option Lexer := do
  match ← l.keyCandidate with
  | some c =>
    let l := l.insert c.token .key
    let l := l.openBlock c.column c.token .blockMappingStart
    return { l.emitOne .value with
      candidates := none :: l.candidates.drop 1
      keyAllowed := false }
  | none =>
    if !l.inFlow && !l.keyAllowed then none
    let l := { l with candidates := none :: l.candidates.drop 1 }
    let l := l.openBlock l.cursor.column l.tokens.size .blockMappingStart
    return { l.emitOne .value with keyAllowed := !l.inFlow }

/-- A scalar in quotes. -/
def quotedScalar (l : Lexer) (fuel : Nat) (single : Bool) :
    Option Lexer := do
  let l ← l.addCandidate
  let (cursor, text) ←
    if single then readSingle fuel l.cursor.skip []
    else readDouble fuel l.cursor.skip []
  let token := Token.scalar (String.ofList text.reverse) false
  return { l.emit token with cursor := cursor, keyAllowed := false }

/-- A plain scalar. A key may begin behind one that ends with its line. -/
def plainScalar (l : Lexer) (fuel : Nat) : Option Lexer := do
  let l ← l.addCandidate
  let least := match l.indents with
    | column :: _ => column + 1
    | [] => 0
  let ((cursor, text), gap) ←
    readPlain l.inFlow least fuel l.cursor [] {}
  let token := Token.scalar (String.ofList text.reverse) true
  return { l.emit token with cursor := cursor, keyAllowed := gap.broken }

/-- Whether a plain scalar cannot begin with a character. -/
def isIndicator (c : Char) : Bool :=
  "-?:,[]\x7b\x7d#&*!|>'\"%@`".toList.contains c

/-- The next token. Anchors, aliases, tags, directives and block scalars
are no part of the documents read here. -/
def next (l : Lexer) (fuel : Nat) (c : Char) (after : List Char) :
    Option Lexer :=
  if l.cursor.atMarker '-' then l.documentMark .documentStart
  else if l.cursor.atMarker '.' then l.documentMark .documentEnd
  else match c with
    | '[' => l.openFlow .flowSequenceStart
    | '\x7b' => l.openFlow .flowMappingStart
    | ']' => l.closeFlow .flowSequenceEnd
    | '\x7d' => l.closeFlow .flowMappingEnd
    | ',' => l.flowEntry
    | '\'' => l.quotedScalar fuel true
    | '"' => l.quotedScalar fuel false
    | '-' => if endsWord after then l.blockEntry else l.plainScalar fuel
    | '?' =>
      if l.inFlow || endsWord after then l.explicitKey
      else l.plainScalar fuel
    | ':' =>
      if l.inFlow || endsWord after then l.value else l.plainScalar fuel
    | _ =>
      if isIndicator c || isBlank c then none else l.plainScalar fuel

/-- Read tokens up to the end. Every token takes a character or more, so
one more than the number of characters left is enough fuel, for what a
single token needs as well. -/
def run : Nat → Lexer → Option (Array Token)
  | 0, _ => none
  | fuel + 1, l =>
    let l := (skipSpace (fuel + 1) l).dedent
    match l.cursor.rest with
    | [] => (l.dedentAll.dropCandidate).map Lexer.tokens
    | c :: after => (l.next (fuel + 1) c after).bind (run fuel)

end Lexer

/-- The tokens of a document. -/
def tokens? (text : String) : Option (List Token) :=
  let cs := text.toList
  if cs.all isPrintable then
    let cs := unifyBreaks cs
    (Lexer.run (cs.length + 1) { cursor := { rest := cs } }).map
      Array.toList
  else none

end EarthBins.Yaml
