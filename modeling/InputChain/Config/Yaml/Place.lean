import InputChain.Text.Hex

/-!
# Reading YAML from its text

What a character of a YAML document means depends on where it stands: at the front of a line, how far
from it, and behind what.

* `Yaml.Fault`: what can be wrong with a document.
* `Yaml.isBreak`, `Yaml.isBlank`, `Yaml.isAllowed`: classes of characters.
* `Yaml.Place`, `Yaml.Reading`: a place in the text, and steps forward from it.
-/

namespace InputChain.Yaml

/-- What can be wrong with a document. -/
inductive Fault where
  /-- The text has a character that no document may have. -/
  | forbiddenChar
  /-- The text is no YAML. -/
  | malformed
  /-- No node in front has this anchor. -/
  | unknownAnchor (name : String)
  /-- Too many nodes stand for others. -/
  | tooManyAliases
  /-- Something follows the first document. -/
  | severalDocuments
  /-- The document is no description. -/
  | mismatch
  deriving DecidableEq, Repr

/-! ## Characters -/

/-- Whether a character ends a line. -/
def isBreak (c : Char) : Bool :=
  c == '\n' || c == '\r' || c == '\x85' || c == '\u2028' || c == '\u2029'

/-- Whether a character is a blank within a line. -/
def isBlank (c : Char) : Bool :=
  c == ' ' || c == '\t'

/-- Whether a character is a letter, a digit, or a mark that counts as one in a name. -/
def isNameChar (c : Char) : Bool :=
  c.isAlphanum || c == '_' || c == '-'

/-- The characters that a document may have. -/
def allowedRanges : List (Nat × Nat) :=
  [(0x09, 0x0A), (0x0D, 0x0D), (0x20, 0x7E), (0x85, 0x85), (0xA0, 0xD7FF), (0xE000, 0xFFFD),
    (0x10000, 0x10FFFF)]

/-- Whether a document may have a character. -/
def isAllowed (c : Char) : Bool :=
  allowedRanges.any fun range => range.1 ≤ c.toNat && c.toNat ≤ range.2

/-- Whether a line ends here: the next character ends it, or there is none. -/
def endsLine : Option Char → Bool
  | some c => isBreak c
  | none => true

/-- Whether a word ends here: the next character is a blank or ends the line, or there is none. -/
def endsWord : Option Char → Bool
  | some c => isBlank c || isBreak c
  | none => true

/-! ## Places -/

/-- A place in a text. -/
structure Place where
  /-- The characters from here on. -/
  rest : List Char
  /-- The number of bytes in front. -/
  offset : Nat := 0
  /-- The number of lines in front. -/
  line : Nat := 0
  /-- The number of characters in front in the same line. -/
  column : Nat := 0

/-- Goes forward in the text. -/
abbrev Reading := StateT Place (Except Fault)

/-- The character so many characters ahead, which stays. -/
def peekAt (n : Nat) : Reading (Option Char) := do
  return (← get).rest[n]?

/-- The next character, which stays. -/
def peek : Reading (Option Char) :=
  peekAt 0

/-- The place behind so many more characters of the same line. -/
def Place.forward (place : Place) (count : Nat) : Place :=
  { place with
    rest := place.rest.drop count
    offset := place.offset + (String.ofList (place.rest.take count)).utf8ByteSize
    column := place.column + count }

/-- Passes over a character within a line. -/
def advance : Reading Unit :=
  modify (·.forward 1)

/-- Takes the characters in front that are of a class, within a line. -/
def takeWhile (isIn : Char → Bool) : Reading (List Char) := do
  let place ← get
  let taken := place.rest.takeWhile isIn
  set (place.forward taken.length)
  return taken

/-- Takes the end of a line, if it is next. Those of ASCII and the next-line character all stand for
the same one. -/
def takeBreak : Reading (List Char) := do
  let place ← get
  let beyond (count : Nat) : Place :=
    { place.forward count with line := place.line + 1, column := 0 }
  match place.rest with
  | '\r' :: '\n' :: _ =>
    set (beyond 2)
    return ['\n']
  | c :: _ =>
    if isBreak c then
      set (beyond 1)
      return [if c = '\u2028' ∨ c = '\u2029' then c else '\n']
    else return []
  | [] => return []

/-- Whether three of these characters stand alone at the front of the line. -/
def isMarkerOf (c : Char) : Reading Bool := do
  let place ← get
  return place.column == 0 && [c, c, c].isPrefixOf place.rest && endsWord place.rest[3]?

/-- Whether the mark of the start or the end of a document is next. -/
def isMarker : Reading Bool := do
  return (← isMarkerOf '-') || (← isMarkerOf '.')

/-- Passes over blanks and a comment, which must be all that is left of the line. -/
def endOfLine : Reading Unit := do
  discard (takeWhile isBlank)
  if (← peek) = some '#' then discard (takeWhile (!isBreak ·))
  if ¬ endsLine (← peek) then throw .malformed
  discard takeBreak

/-- A bound on how often something can be taken off the front. -/
def bound : Reading Nat := do
  return (← get).rest.length + 1

end InputChain.Yaml
