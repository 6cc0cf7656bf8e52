import InputChain.Config.Yaml.Layout
import InputChain.Config.Yaml.Node

/-!
# The document of some tokens

A node is recognized by its first token. A node that is left out is an empty text.

* `Yaml.Draft`, `Yaml.Composing`: takes nodes off the front of the tokens.
* `Yaml.nodeWith`: a node, with all that is in it.
* `Yaml.Document.ofTokens`, `Yaml.Document.ofText`.
-/

namespace InputChain.Yaml

/-- What is left of the tokens, and what is known from those in front. -/
structure Draft where
  tokens : List Token
  /-- The numbers of the anchors by their names. -/
  anchors : List (String × Nat) := []
  /-- What handles stand for in front of a tag. -/
  handles : List (String × Bytes) := []

/-- Takes something off the front of the tokens. -/
abbrev Composing := StateT Draft (Except Fault)

/-- The next token, which stays. -/
def nextToken : Composing Token := do
  return (← get).tokens.headD .streamEnd

/-- Passes over a token. -/
def skipToken : Composing Unit :=
  modify fun draft => { draft with tokens := draft.tokens.tail }

/-! ## Anchors and tags -/

/-- Numbers by names, with the number of a name changed, or added behind the others. -/
def renumber (name : String) (number : Nat) : List (String × Nat) → List (String × Nat)
  | [] => [(name, number)]
  | (known, earlier) :: rest =>
    if known = name then (name, number) :: rest
    else (known, earlier) :: renumber name number rest

/-- Gives an anchor its number: how many names are known in front of it. A name that is known already
is from here on the name of the new anchor. -/
def setAnchor : Option String → Composing (Option Nat)
  | none => return none
  | some name => do
    let draft ← get
    let number := draft.anchors.length
    set { draft with anchors := renumber name number draft.anchors }
    return some number

/-- The bytes of a text without other characters than those of ASCII. -/
def asciiBytes (text : String) : Bytes :=
  text.toList.map fun c => c.toNat.toUInt8

/-- The front of the tags of the language itself. -/
def ownTags : Bytes :=
  asciiBytes "tag:yaml.org,2002:"

/-- What handles stand for unless the document says otherwise. -/
def ownHandles : List (String × Bytes) :=
  [("!", asciiBytes "!"), ("!!", ownTags)]

/-- What stands in front of a node. -/
structure Properties where
  anchor : Option String := none
  tag : Option Bytes := none

/-- A tag in full. -/
def fullTag (handle : String) (suffix : Bytes) : Composing Bytes := do
  if handle = "" then return suffix
  match ((← get).handles ++ ownHandles).lookup handle with
  | some front => return front ++ suffix
  | none => throw .malformed

/-- Takes what stands in front of a node: an anchor and a tag, in either order. -/
def properties : Composing Properties := do
  match ← nextToken with
  | .anchor name =>
    skipToken
    match ← nextToken with
    | .tag handle suffix =>
      skipToken
      return ⟨some name, some (← fullTag handle suffix)⟩
    | _ => return ⟨some name, none⟩
  | .tag handle suffix =>
    skipToken
    match ← nextToken with
    | .anchor name =>
      skipToken
      return ⟨some name, some (← fullTag handle suffix)⟩
    | _ => return ⟨none, some (← fullTag handle suffix)⟩
  | _ => return {}

/-! ## Nodes -/

/-- The node that is left out. -/
def emptyNode : Node :=
  .scalar none none true ""

/-- Where a node stands, as far as that decides what it can be. -/
inductive Position where
  /-- Between brackets. -/
  | inFlow
  | inBlock
  /-- In an entry of a mapping without brackets, where a sequence may have the column of the mapping. -/
  | inEntry
  deriving DecidableEq, Repr

mutual

/-- Takes a node. -/
def nodeWith : (fuel : Nat) → Position → Composing Node
  | 0, _ => throw .malformed
  | fuel + 1, position => do
    if let .alias name ← nextToken then
      skipToken
      match (← get).anchors.lookup name with
      | some anchor => return .alias anchor
      | none => throw (.unknownAnchor name)
    let properties ← properties
    match ← nextToken with
    | .scalar isPlain text =>
      skipToken
      return .scalar (← setAnchor properties.anchor) properties.tag isPlain text
    | .flowSequenceStart =>
      skipToken
      return .sequence (← setAnchor properties.anchor) (← flowItems fuel true)
    | .flowMappingStart =>
      skipToken
      return .mapping (← setAnchor properties.anchor) (← flowEntries fuel true)
    | token =>
      if token = .blockSequenceStart ∧ position ≠ .inFlow then
        skipToken
        return .sequence (← setAnchor properties.anchor) (← blockItems fuel)
      else if token = .blockMappingStart ∧ position ≠ .inFlow then
        skipToken
        return .mapping (← setAnchor properties.anchor) (← blockEntries fuel)
      else if token = .blockEntry ∧ position = .inEntry then
        return .sequence (← setAnchor properties.anchor) (← entryItems fuel)
      else if properties.anchor.isSome ∨ properties.tag.isSome then
        return .scalar (← setAnchor properties.anchor) properties.tag true ""
      else throw .malformed

/-- Takes a node unless one of these tokens is next. -/
def nodeUnless : (fuel : Nat) → Position → List Token → Composing Node
  | 0, _, _ => throw .malformed
  | fuel + 1, position, ends => do
    if (← nextToken) ∈ ends then return emptyNode else nodeWith fuel position

/-- Takes the items left in a sequence of its own column. -/
def blockItems : (fuel : Nat) → Composing (List Node)
  | 0 => throw .malformed
  | fuel + 1 => do
    match ← nextToken with
    | .blockEntry =>
      skipToken
      let item ← nodeUnless fuel .inBlock [.blockEntry, .blockEnd]
      return item :: (← blockItems fuel)
    | .blockEnd =>
      skipToken
      return []
    | _ => throw .malformed

/-- Takes the items left in a sequence of the column of the mapping that it is in. -/
def entryItems : (fuel : Nat) → Composing (List Node)
  | 0 => throw .malformed
  | fuel + 1 => do
    match ← nextToken with
    | .blockEntry =>
      skipToken
      let item ← nodeUnless fuel .inBlock [.blockEntry, .key, .value, .blockEnd]
      return item :: (← entryItems fuel)
    | _ => return []

/-- Takes the entries left in a mapping without brackets. -/
def blockEntries : (fuel : Nat) → Composing (List (Node × Node))
  | 0 => throw .malformed
  | fuel + 1 => do
    match ← nextToken with
    | .key =>
      skipToken
      let key ← nodeUnless fuel .inEntry [.key, .value, .blockEnd]
      let value ← valueUnless fuel .inEntry [.key, .value, .blockEnd]
      return (key, value) :: (← blockEntries fuel)
    | .blockEnd =>
      skipToken
      return []
    | _ => throw .malformed

/-- Takes the value of an entry, if its mark is next and none of these tokens is behind that. -/
def valueUnless : (fuel : Nat) → Position → List Token → Composing Node
  | 0, _, _ => throw .malformed
  | fuel + 1, position, ends => do
    if (← nextToken) = .value then
      skipToken
      nodeUnless fuel position ends
    else return emptyNode

/-- Takes the items left in a sequence in brackets. An entry of a mapping may be an item. -/
def flowItems : (fuel : Nat) → (isFirst : Bool) → Composing (List Node)
  | 0, _ => throw .malformed
  | fuel + 1, isFirst => do
    if (← nextToken) = .flowSequenceEnd then
      skipToken
      return []
    unless isFirst do
      if (← nextToken) ≠ .flowEntry then throw .malformed
      skipToken
    match ← nextToken with
    | .key =>
      skipToken
      let item ← flowPair fuel
      return item :: (← flowItems fuel false)
    | .flowSequenceEnd =>
      skipToken
      return []
    | _ =>
      let item ← nodeWith fuel .inFlow
      return item :: (← flowItems fuel false)

/-- Takes an entry of a mapping that is an item of a sequence. Its key cannot be left out: the token in
the place of one is lost. -/
def flowPair : (fuel : Nat) → Composing Node
  | 0 => throw .malformed
  | fuel + 1 => do
    let key ←
      if (← nextToken) ∈ [Token.value, .flowEntry, .flowSequenceEnd] then do
        skipToken
        pure emptyNode
      else nodeWith fuel .inFlow
    let value ← valueUnless fuel .inFlow [.flowEntry, .flowSequenceEnd]
    return .mapping none [(key, value)]

/-- Takes the entries left in a mapping in brackets. -/
def flowEntries : (fuel : Nat) → (isFirst : Bool) → Composing (List (Node × Node))
  | 0, _ => throw .malformed
  | fuel + 1, isFirst => do
    if (← nextToken) = .flowMappingEnd then
      skipToken
      return []
    unless isFirst do
      if (← nextToken) ≠ .flowEntry then throw .malformed
      skipToken
    match ← nextToken with
    | .key =>
      skipToken
      let key ← nodeUnless fuel .inFlow [.value, .flowEntry, .flowMappingEnd]
      let value ← valueUnless fuel .inFlow [.flowEntry, .flowMappingEnd]
      return (key, value) :: (← flowEntries fuel false)
    | .flowMappingEnd =>
      skipToken
      return []
    | _ =>
      let key ← nodeWith fuel .inFlow
      return (key, emptyNode) :: (← flowEntries fuel false)

end

/-- Takes a node. Every token is the beginning of at most two nodes. -/
def node : Composing Node := do
  nodeWith (4 * (← get).tokens.length + 4) .inBlock

/-! ## Documents -/

/-- Takes the directives in front of a document, and tells whether there are any. -/
def directives : (fuel : Nat) → (hasVersion : Bool) → Composing Bool
  | 0, _ => return false
  | fuel + 1, hasVersion => do
    match ← nextToken with
    | .version major minor =>
      if hasVersion ∨ major ≠ 1 ∨ (minor ≠ 1 ∧ minor ≠ 2) then throw .malformed
      skipToken
      discard (directives fuel true)
      return true
    | .handle handle front =>
      let draft ← get
      if (draft.handles.lookup handle).isSome then throw .malformed
      set { draft with handles := draft.handles ++ [(handle, front)] }
      skipToken
      discard (directives fuel hasVersion)
      return true
    | _ => return false

/-- The tokens that end a document, or that a document begins with. -/
def isBetweenDocuments : Token → Bool
  | .version _ _ => true
  | .handle _ _ => true
  | .documentStart => true
  | .documentEnd => true
  | .streamEnd => true
  | _ => false

/-- Takes the node of a document behind the mark of its start, if there is one. -/
def rootNode : Composing (Option Node) := do
  let hasDirectives ← directives ((← get).tokens.length) false
  match ← nextToken with
  | .documentStart =>
    skipToken
    if isBetweenDocuments (← nextToken) then return some emptyNode else return some (← node)
  | .streamEnd => if hasDirectives then throw .malformed else return none
  | _ => if hasDirectives then throw .malformed else return some (← node)

/-- The document of some tokens, which must be a single one. -/
def Document.ofTokens (tokens : List Token) : Except Fault Document := do
  let (root, draft) ← rootNode.run { tokens }
  match draft.tokens.dropWhile (· = .documentEnd) with
  | [.streamEnd] => return ⟨root⟩
  | _ => throw .severalDocuments

/-- The document of a text. -/
def Document.ofText (text : String) : Except Fault Document := do
  Document.ofTokens (← Token.ofText text)

end InputChain.Yaml
