/-
A YAML document as a tree.

A node is a scalar, a sequence or a mapping; of a scalar it is known
whether it was written plainly or in quotes, since only plain scalars can
be anything but text. Where a value, an item or a key is left out, an
empty plain scalar stands in its place.

The functions of the grammar take the tokens of one construct off the
front and return the rest. An item that consists of a key and a value
inside square brackets is a mapping of one entry. Items of a block
sequence that are the value of a key need no deeper indentation, so such a
sequence has no start and end tokens.
-/
import EarthBins.Yaml.Token

namespace EarthBins.Yaml

/-- A node of a document. -/
inductive Node where
  | scalar (text : String) (plain : Bool)
  | sequence (items : List Node)
  | mapping (entries : List (Node × Node))
  deriving Inhabited

namespace Node

/-- What stands where nothing was written. -/
def blank : Node := .scalar "" true

/-- Whether a node was left out or could as well have been. -/
def isBlank : Node → Bool
  | .scalar "" true => true
  | _ => false

mutual

/-- How many collections are nested in a node, itself included. -/
def depth : Node → Nat
  | .scalar _ _ => 0
  | .sequence items => depthOfItems items + 1
  | .mapping entries => depthOfEntries entries + 1

/-- The greatest depth among items. -/
def depthOfItems : List Node → Nat
  | [] => 0
  | item :: rest => max item.depth (depthOfItems rest)

/-- The greatest depth among keys and values. -/
def depthOfEntries : List (Node × Node) → Nat
  | [] => 0
  | (key, value) :: rest =>
    max (max key.depth value.depth) (depthOfEntries rest)

end

end Node

/-- A construct that was read, and the tokens behind it. -/
abbrev Parsed (β : Type) := β × List Token

/-- Where a node stands. -/
inductive Place where
  /-- In the block context. -/
  | block
  /-- Behind a key or colon in the block context, where items may follow
  without deeper indentation. -/
  | blockPair
  /-- Inside brackets. -/
  | flow
  deriving DecidableEq

mutual

/-- A node. -/
def parseNode : Nat → Place → List Token → Option (Parsed Node)
  | 0, _, _ => none
  | fuel + 1, place, tokens =>
    match tokens with
    | .scalar text plain :: rest => some (.scalar text plain, rest)
    | .flowSequenceStart :: rest => do
      let (items, rest) ← parseFlowItems fuel true rest
      return (.sequence items, rest)
    | .flowMappingStart :: rest => do
      let (entries, rest) ← parseFlowEntries fuel true rest
      return (.mapping entries, rest)
    | .blockSequenceStart :: rest =>
      if place = .flow then none
      else do
        let (items, rest) ← parseBlockItems fuel rest
        return (.sequence items, rest)
    | .blockMappingStart :: rest =>
      if place = .flow then none
      else do
        let (entries, rest) ← parseBlockEntries fuel rest
        return (.mapping entries, rest)
    | .blockEntry :: rest =>
      if place = .blockPair then do
        let (items, rest) ← parsePairItems fuel (.blockEntry :: rest)
        return (.sequence items, rest)
      else none
    | _ => none

/-- A node, or nothing in front of one of the tokens in `ends`. -/
def parseOptional : Nat → Place → List Token → List Token →
    Option (Parsed Node)
  | 0, _, _, _ => none
  | fuel + 1, place, ends, tokens =>
    match tokens with
    | t :: _ =>
      if ends.contains t then some (.blank, tokens)
      else parseNode fuel place tokens
    | [] => none

/-- The items of a block sequence up to its end. -/
def parseBlockItems : Nat → List Token →
    Option (Parsed (List Node))
  | 0, _ => none
  | fuel + 1, tokens =>
    match tokens with
    | .blockEntry :: rest => do
      let (item, rest) ←
        parseOptional fuel .block [.blockEntry, .blockEnd] rest
      let (items, rest) ← parseBlockItems fuel rest
      return (item :: items, rest)
    | .blockEnd :: rest => some ([], rest)
    | _ => none

/-- The items of a block sequence that has no end token. -/
def parsePairItems : Nat → List Token →
    Option (Parsed (List Node))
  | 0, _ => none
  | fuel + 1, tokens =>
    match tokens with
    | .blockEntry :: rest => do
      let (item, rest) ← parseOptional fuel .block
        [.blockEntry, .key, .value, .blockEnd] rest
      let (items, rest) ← parsePairItems fuel rest
      return (item :: items, rest)
    | _ => some ([], tokens)

/-- The entries of a block mapping up to its end. -/
def parseBlockEntries : Nat → List Token →
    Option (Parsed (List (Node × Node)))
  | 0, _ => none
  | fuel + 1, tokens =>
    match tokens with
    | .blockEnd :: rest => some ([], rest)
    | .key :: rest => do
      let (key, rest) ← parseOptional fuel .blockPair
        [.key, .value, .blockEnd] rest
      let (value, rest) ← parseBlockValue fuel rest
      let (entries, rest) ← parseBlockEntries fuel rest
      return ((key, value) :: entries, rest)
    | _ => none

/-- The value of an entry of a block mapping. -/
def parseBlockValue : Nat → List Token → Option (Parsed Node)
  | 0, _ => none
  | fuel + 1, tokens =>
    match tokens with
    | .value :: rest =>
      parseOptional fuel .blockPair [.key, .value, .blockEnd] rest
    | _ => some (.blank, tokens)

/-- The items between square brackets up to the closing one. -/
def parseFlowItems : Nat → Bool → List Token →
    Option (Parsed (List Node))
  | 0, _, _ => none
  | fuel + 1, isFirst, tokens => do
    if let .flowSequenceEnd :: rest := tokens then return ([], rest)
    let tokens ← if isFirst then some tokens
      else match tokens with
        | .flowEntry :: rest => some rest
        | _ => none
    match tokens with
    | .flowSequenceEnd :: rest => return ([], rest)
    | .key :: rest =>
      let (pair, rest) ← parseFlowPair fuel rest
      let (items, rest) ← parseFlowItems fuel false rest
      return (.mapping [pair] :: items, rest)
    | _ =>
      let (item, rest) ← parseNode fuel .flow tokens
      let (items, rest) ← parseFlowItems fuel false rest
      return (item :: items, rest)

/-- A key and a value between square brackets. A question mark with nothing
behind it swallows the token that follows. -/
def parseFlowPair : Nat → List Token →
    Option (Parsed (Node × Node))
  | 0, _ => none
  | fuel + 1, tokens => do
    let (key, rest) ← match tokens with
      | .value :: rest | .flowEntry :: rest | .flowSequenceEnd :: rest =>
        some (Node.blank, rest)
      | _ => parseNode fuel .flow tokens
    let (value, rest) ← parseFlowValue fuel .flowSequenceEnd rest
    return ((key, value), rest)

/-- The value of an entry inside brackets. -/
def parseFlowValue : Nat → Token → List Token → Option (Parsed Node)
  | 0, _, _ => none
  | fuel + 1, close, tokens =>
    match tokens with
    | .value :: rest => parseOptional fuel .flow [.flowEntry, close] rest
    | _ => some (.blank, tokens)

/-- The entries between braces up to the closing one. -/
def parseFlowEntries : Nat → Bool → List Token →
    Option (Parsed (List (Node × Node)))
  | 0, _, _ => none
  | fuel + 1, isFirst, tokens => do
    if let .flowMappingEnd :: rest := tokens then return ([], rest)
    let tokens ← if isFirst then some tokens
      else match tokens with
        | .flowEntry :: rest => some rest
        | _ => none
    match tokens with
    | .flowMappingEnd :: rest => return ([], rest)
    | .key :: rest =>
      let (key, rest) ← parseOptional fuel .flow
        [.value, .flowEntry, .flowMappingEnd] rest
      let (value, rest) ← parseFlowValue fuel .flowMappingEnd rest
      let (entries, rest) ← parseFlowEntries fuel false rest
      return ((key, value) :: entries, rest)
    | _ =>
      let (key, rest) ← parseNode fuel .flow tokens
      let (entries, rest) ← parseFlowEntries fuel false rest
      return ((key, .blank) :: entries, rest)

end

/-- The content of a document behind its start mark, and what follows. -/
def parseContent (fuel : Nat) (tokens : List Token) : Option (Parsed Node) :=
  match tokens with
  | [] | .documentStart :: _ | .documentEnd :: _ => some (.blank, tokens)
  | _ => parseNode fuel .block tokens

namespace Node

/-- The root of the only document among some tokens: `none` inside if there
is no document at all. A second document is an error. -/
def ofTokens? (tokens : List Token) : Option (Option Node) := do
  let fuel := 4 * tokens.length + 4
  let (root, rest) ← match tokens with
    | [] => return none
    | .documentStart :: rest => parseContent fuel rest
    | _ => parseNode fuel .block tokens
  if rest.all (· == .documentEnd) then return some root else none

/-- The root of the document that a text holds. -/
def read? (text : String) : Option (Option Node) := do
  ofTokens? (← tokens? text)

end Node

end EarthBins.Yaml
