import InputChain.Config.Yaml.Block
import InputChain.Config.Yaml.Plain
import InputChain.Config.Yaml.Property
import InputChain.Config.Yaml.Quoted

/-!
# The tokens of a text

Outside brackets the columns of a text show its structure: a collection lasts as long as its lines
begin at its column or behind it. A key is recognized only by the colon behind it, so wherever one may
begin the place is noted, and the colon puts the token of a key there. Such a key ends in its line and
has at most 1024 bytes.

* `Yaml.KeyPlace`, `Yaml.Layout`: what is known at a place of a text.
* `Yaml.step`: the next token.
* `Yaml.Token.ofText`: all tokens of a text.
-/

namespace InputChain.Yaml

/-- A place where a key may have begun. -/
structure KeyPlace where
  /-- The number of tokens in front. -/
  tokens : Nat
  /-- The number of bytes in front. -/
  offset : Nat
  line : Nat
  column : Nat
  /-- Whether there must be a key, as nothing else can stand at the column of its collection. -/
  isRequired : Bool

/-- What is known at a place of a text. -/
structure Layout where
  tokens : Array Token := #[]
  /-- The columns of the collections around the place that are not in brackets, innermost first. -/
  columns : List Nat := []
  /-- Whether a key may begin here. -/
  allowsKey : Bool := true
  /-- Where a key may have begun within the innermost brackets. -/
  keyPlace : Option KeyPlace := none
  /-- Where keys may have begun around each pair of brackets, innermost first. -/
  outerKeyPlaces : List (Option KeyPlace) := []

/-- Whether a place is in brackets. -/
def Layout.inFlow (layout : Layout) : Bool :=
  !layout.outerKeyPlaces.isEmpty

/-- The least column at which something can stand that belongs to the innermost collection. -/
def Layout.leastColumn (layout : Layout) : Nat :=
  match layout.columns with
  | [] => 0
  | column :: _ => column + 1

/-- Goes forward in the text and learns its tokens. -/
abbrev Laying := StateT Layout Reading

/-- The place in the text. -/
def place : Laying Place :=
  getThe Place

/-- Adds a token. -/
def emit (token : Token) : Laying Unit :=
  modify fun layout => { layout with tokens := layout.tokens.push token }

/-- Says whether a key may begin behind what has just been taken. -/
def allowKey (allows : Bool) : Laying Unit :=
  modify fun layout => { layout with allowsKey := allows }

/-! ## Collections without brackets -/

/-- Begins a collection at a column, unless one does already. Its token goes in front of the tokens from
number `before` on. -/
def openBlock (column before : Nat) (token : Token) : Laying Unit :=
  modify fun layout =>
    if layout.inFlow ∨ column < layout.leastColumn then layout
    else
      { layout with
        columns := column :: layout.columns
        tokens := layout.tokens.insertIdxIfInBounds before token }

/-- Ends the collections at columns of which `ends` is true. -/
def closeBlocks (ends : Nat → Bool) : Laying Unit :=
  modify fun layout =>
    if layout.inFlow then layout
    else
      { layout with
        columns := layout.columns.dropWhile ends
        tokens := layout.tokens ++ (layout.columns.takeWhile ends).map fun _ => Token.blockEnd }

/-! ## Places of keys -/

/-- Gives up the place where a key may have begun. -/
def dropKeyPlace : Laying Unit := do
  if (← get).keyPlace.any KeyPlace.isRequired then throw Fault.malformed
  modify fun layout => { layout with keyPlace := none }

/-- Notes that a key may begin here, if it may. -/
def noteKeyPlace : Laying Unit := do
  let layout ← get
  if layout.allowsKey then
    dropKeyPlace
    let here ← place
    modify fun layout => { layout with
      keyPlace := some {
        tokens := layout.tokens.size
        offset := here.offset
        line := here.line
        column := here.column
        isRequired := !layout.inFlow && layout.columns.head? == some here.column } }

/-- The most bytes of a key. -/
def mostKeyBytes : Nat := 1024

/-- Gives up the places of keys that would go over the line or be too long. -/
def dropOldKeyPlaces : Laying Unit := do
  let here ← place
  let isOld (keyPlace : KeyPlace) : Bool :=
    keyPlace.line < here.line || keyPlace.offset + mostKeyBytes < here.offset
  let layout ← get
  if (layout.keyPlace :: layout.outerKeyPlaces).any fun keyPlace? =>
      keyPlace?.any fun keyPlace => isOld keyPlace && keyPlace.isRequired then
    throw Fault.malformed
  let drop (keyPlace? : Option KeyPlace) : Option KeyPlace := keyPlace?.filter (!isOld ·)
  set { layout with
    keyPlace := drop layout.keyPlace, outerKeyPlaces := layout.outerKeyPlaces.map drop }

/-! ## Tokens -/

/-- Passes over blanks, comments and ends of lines. A tab may not stand where a key may begin, unless in
brackets. A mark of the byte order may stand at the front of each line. -/
def toNextToken : (fuel : Nat) → Laying Unit
  | 0 => return
  | fuel + 1 => do
    if (← place).column = 0 ∧ (← peek) = some '\uFEFF' then advance
    let layout ← get
    let passesTabs := layout.inFlow || !layout.allowsKey
    discard (takeWhile fun c => c == ' ' || (passesTabs && c == '\t'))
    if (← peek) = some '#' then discard (takeWhile (!isBreak ·))
    if (← takeBreak) ≠ [] then
      unless layout.inFlow do allowKey true
      toNextToken fuel

/-- The end of the text. -/
def streamEnd : Laying Unit := do
  closeBlocks fun _ => true
  dropKeyPlace
  emit .streamEnd

/-- A line with a directive. -/
def directiveLine : Laying Unit := do
  closeBlocks fun _ => true
  dropKeyPlace
  allowKey false
  emit (← directive)

/-- The start or the end of a document. -/
def documentMarker (token : Token) : Laying Unit := do
  closeBlocks fun _ => true
  dropKeyPlace
  allowKey false
  advance
  advance
  advance
  emit token

/-- An opening bracket. -/
def openFlow (token : Token) : Laying Unit := do
  noteKeyPlace
  modify fun layout => { layout with
    keyPlace := none, outerKeyPlaces := layout.keyPlace :: layout.outerKeyPlaces }
  allowKey true
  advance
  emit token

/-- A closing bracket. -/
def closeFlow (token : Token) : Laying Unit := do
  dropKeyPlace
  modify fun layout => { layout with
    keyPlace := layout.outerKeyPlaces.head?.join, outerKeyPlaces := layout.outerKeyPlaces.tail }
  allowKey false
  advance
  emit token

/-- A comma between brackets. -/
def flowEntry : Laying Unit := do
  dropKeyPlace
  allowKey true
  advance
  emit .flowEntry

/-- Begins a collection here, where that is possible. -/
def openBlockHere (token : Token) : Laying Unit := do
  let layout ← get
  unless layout.inFlow do
    unless layout.allowsKey do throw Fault.malformed
    openBlock (← place).column layout.tokens.size token

/-- The mark of an item. -/
def blockEntry : Laying Unit := do
  openBlockHere .blockSequenceStart
  dropKeyPlace
  allowKey true
  advance
  emit .blockEntry

/-- The mark of a key. -/
def keyMark : Laying Unit := do
  openBlockHere .blockMappingStart
  dropKeyPlace
  allowKey (!(← get).inFlow)
  advance
  emit .key

/-- The mark of a value. If a key may have begun, it has. -/
def valueMark : Laying Unit := do
  let layout ← get
  match layout.keyPlace with
  | some keyPlace =>
    set { layout with
      tokens := layout.tokens.insertIdxIfInBounds keyPlace.tokens .key
      keyPlace := none }
    openBlock keyPlace.column keyPlace.tokens .blockMappingStart
    allowKey false
  | none =>
    openBlockHere .blockMappingStart
    allowKey (!layout.inFlow)
  advance
  emit .value

/-- A token that a key may begin with. -/
def content (token : Reading Token) : Laying Unit := do
  noteKeyPlace
  allowKey false
  emit (← token)

/-- A text as a block of lines. -/
def blockText (folds : Bool) : Laying Unit := do
  dropKeyPlace
  allowKey true
  let text ← block folds (← get).columns.head?
  emit (.scalar false text)

/-- A text without quotes. -/
def plainText : Laying Unit := do
  noteKeyPlace
  allowKey false
  let layout ← get
  let (text, isBroken) ← plain layout.inFlow layout.leastColumn
  if isBroken then allowKey true
  emit (.scalar true text)

/-- The characters that a text without quotes cannot begin with. -/
def marks : List Char :=
  ['-', '?', ':', ',', '[', ']', '\x7b', '\x7d', '#', '&', '*', '!', '|', '>', '\'', '"', '%', '@', '\x60']

/-- Whether a text without quotes can begin with a character in front of another. -/
def beginsPlain (inFlow : Bool) (c : Char) (next : Option Char) : Bool :=
  !(isBlank c || isBreak c || marks.contains c) || (c == '-' && !next.any isBlank) ||
    (!inFlow && (c == '?' || c == ':') && !endsWord next)

/-- The token that begins with a character. -/
def tokenAt (c : Char) : Laying Unit := do
  let next ← peekAt 1
  let inFlow := (← get).inFlow
  if (← place).column = 0 ∧ c = '%' then directiveLine
  else if ← isMarkerOf '-' then documentMarker .documentStart
  else if ← isMarkerOf '.' then documentMarker .documentEnd
  else
    match c with
    | '[' => openFlow .flowSequenceStart
    | '\x7b' => openFlow .flowMappingStart
    | ']' => closeFlow .flowSequenceEnd
    | '\x7d' => closeFlow .flowMappingEnd
    | ',' => flowEntry
    | '*' => content (.alias <$> anchorName)
    | '&' => content (.anchor <$> anchorName)
    | '!' =>
      content tag
      let after ← peek
      unless endsWord after ∨ inFlow ∧ after = some ',' do throw Fault.malformed
    | '\'' => content (.scalar false <$> quoted '\'')
    | '"' => content (.scalar false <$> quoted '"')
    | _ =>
      if c = '-' ∧ endsWord next then blockEntry
      else if c = '?' ∧ (inFlow ∨ endsWord next) then keyMark
      else if c = ':' ∧ (inFlow ∨ endsWord next) then valueMark
      else if c = '|' ∧ ¬ inFlow then blockText false
      else if c = '>' ∧ ¬ inFlow then blockText true
      else if beginsPlain inFlow c next then plainText
      else throw Fault.malformed

/-- The next token, and whether there is another. In front of it there are no more than `fuel` ends of
lines. -/
def step (fuel : Nat) : Laying Bool := do
  toNextToken fuel
  dropOldKeyPlaces
  let column := (← place).column
  closeBlocks (column < ·)
  match ← peek with
  | none =>
    streamEnd
    return false
  | some c =>
    tokenAt c
    return true

/-- All tokens from here on. -/
def steps : (fuel : Nat) → Laying Unit
  | 0 => throw Fault.malformed
  | fuel + 1 => do
    if ← step fuel then steps fuel

/-- All tokens of a text. -/
def Token.ofText (text : String) : Except Fault (List Token) := do
  let chars := text.toList
  if ¬ chars.all isAllowed then throw .forbiddenChar
  let ((_, layout), _) ← (steps (chars.length + 1) |>.run {}).run { rest := chars }
  return layout.tokens.toList

end InputChain.Yaml
