import InputChain.Config.Yaml.Place
import InputChain.Config.Yaml.Token

/-!
# Names, tags and directives

* `Yaml.anchorName`: the name of an anchor or of an alias.
* `Yaml.tag`: a tag, which is a handle and a suffix.
* `Yaml.directive`: a line that says something about the document behind it.
-/

namespace InputChain.Yaml

/-- Takes the name behind the mark of an anchor or an alias. -/
def anchorName : Reading String := do
  advance
  let name ← takeWhile isNameChar
  let next ← peek
  if name = [] ∨ ¬ (endsWord next ∨ next.any (· ∈ ['?', ':', ',', ']', '\x7d', '%', '@', '\x60'])) then
    throw .malformed
  return String.ofList name

/-! ## Tags -/

/-- The marks that may stand in a tag. -/
def tagMarks : List Char :=
  [';', '/', '?', ':', '@', '&', '=', '+', '$', '.', '!', '~', '*', '\'', '(', ')']

/-- How many bytes a character has in UTF-8 that begins with this byte. -/
def widthOfLead? (byte : Nat) : Option Nat :=
  if byte < 0x80 then some 1
  else if byte < 0xC0 then none
  else if byte < 0xE0 then some 2
  else if byte < 0xF0 then some 3
  else if byte < 0xF8 then some 4
  else none

/-- Takes a byte that is written as a number. -/
def numberedByte : Reading Nat := do
  match (← get).rest with
  | '%' :: high :: low :: _ =>
    match hexValue? [high, low] with
    | some byte =>
      advance
      advance
      advance
      return byte
    | none => throw .malformed
  | _ => throw .malformed

/-- Takes the bytes of a character behind its first, each written as a number. -/
def numberedTail : (count : Nat) → Reading Bytes
  | 0 => return []
  | count + 1 => do
    let byte ← numberedByte
    if byte < 0x80 ∨ 0xC0 ≤ byte then throw .malformed
    return byte.toUInt8 :: (← numberedTail count)

/-- Takes the bytes of a character, each written as a number. -/
def numberedBytes : Reading Bytes := do
  let lead ← numberedByte
  match widthOfLead? lead with
  | some width => return lead.toUInt8 :: (← numberedTail (width - 1))
  | none => throw .malformed

/-- Takes the characters of a tag. Where its end is marked, brackets and commas may stand in it. -/
def tagBytesFrom (isEnclosed : Bool) : (fuel : Nat) → Reading Bytes
  | 0 => return []
  | fuel + 1 => do
    match ← peek with
    | none => return []
    | some c =>
      if c = '%' then return (← numberedBytes) ++ (← tagBytesFrom isEnclosed fuel)
      else if isNameChar c ∨ c ∈ tagMarks ∨ isEnclosed ∧ c ∈ [',', '[', ']'] then
        advance
        return c.toNat.toUInt8 :: (← tagBytesFrom isEnclosed fuel)
      else return []

/-- The bytes of a tag, which a zero byte ends. -/
def beforeZero (bytes : Bytes) : Bytes :=
  bytes.takeWhile (· != 0)

/-- Takes the characters of a tag, of which there must be one. -/
def tagBytes (isEnclosed : Bool) : Reading Bytes := do
  match ← tagBytesFrom isEnclosed (← bound) with
  | [] => throw .malformed
  | bytes => return beforeZero bytes

/-- Takes a mark, letters, and another mark if there is one. -/
def tagHandle : Reading (List Char) := do
  if (← peek) ≠ some '!' then throw .malformed
  advance
  let name ← takeWhile isNameChar
  if (← peek) = some '!' then
    advance
    return '!' :: name ++ ['!']
  else return '!' :: name

/-- Whether this is a handle with a mark at each end. -/
def isFullHandle (handle : List Char) : Bool :=
  1 < handle.length && handle.getLast? == some '!'

/-- Takes a tag: in full between angle brackets, or as a handle and a suffix. Without a second mark the
handle is the first mark alone, and the mark on its own is a tag without a handle. -/
def tag : Reading Token := do
  let token ←
    if (← peekAt 1) = some '<' then do
      advance
      advance
      let suffix ← tagBytes true
      if (← peek) ≠ some '>' then throw .malformed
      advance
      pure (Token.tag "" suffix)
    else do
      let handle ← tagHandle
      if isFullHandle handle then pure (.tag (String.ofList handle) (← tagBytes false))
      else do
        let front := (handle.drop 1).map fun c => c.toNat.toUInt8
        match beforeZero (front ++ (← tagBytesFrom false (← bound))) with
        | [] => pure (.tag "" [0x21])
        | suffix => pure (.tag "!" suffix)
  return token

/-! ## Directives -/

/-- The most digits of a number of a version. -/
def mostDigits : Nat := 9

/-- Takes a number of a version. -/
def versionNumber : Reading Nat := do
  let digits ← takeWhile Char.isDigit
  if digits = [] ∨ mostDigits < digits.length then throw .malformed
  return digits.foldl (fun value c => value * 10 + (c.toNat - '0'.toNat)) 0

/-- Takes a directive: the version of the language, or what a handle stands for. -/
def directive : Reading Token := do
  advance
  let name ← takeWhile isNameChar
  if ¬ endsWord (← peek) then throw .malformed
  discard (takeWhile isBlank)
  let token ←
    if name = ['Y', 'A', 'M', 'L'] then do
      let major ← versionNumber
      if (← peek) ≠ some '.' then throw .malformed
      advance
      pure (Token.version major (← versionNumber))
    else if name = ['T', 'A', 'G'] then do
      let handle ← tagHandle
      if handle ≠ ['!'] ∧ ¬ isFullHandle handle then throw .malformed
      if ¬ (← peek).any isBlank then throw .malformed
      discard (takeWhile isBlank)
      let front ← tagBytes true
      if ¬ endsWord (← peek) then throw .malformed
      pure (.handle (String.ofList handle) front)
    else throw .malformed
  endOfLine
  return token

end InputChain.Yaml
