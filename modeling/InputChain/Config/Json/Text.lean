import InputChain.Config.Json.Fault
import InputChain.Text.Hex
import InputChain.Text.Reading

/-!
# Reading JSON from its text

The text is read once, from front to back, and the first fault in it is the fault of the document.

* `Json.Reading`: takes something off the front of the text.
* `Json.text`, `Json.number`, `Json.literal`: a text, a number, a name.
* `Json.nextItem`, `Json.endSequence`, `Json.nextKey`, `Json.endMap`: the steps through a sequence or
  a map.
-/

namespace InputChain.Json

open Reading (peek advance takeWhile)

/-- Takes something off the front of the text. -/
abbrev Reading := InputChain.Reading Fault

/-- Takes a character. -/
def take : Reading Char := do
  match ← peek with
  | none => throw .ended
  | some c =>
    advance
    return c

/-- The characters that mean nothing between the parts of a document. -/
def isSpace (c : Char) : Bool :=
  c == ' ' || c == '\n' || c == '\t' || c == '\r'

/-- The next character that means something, which stays. -/
def look : Reading (Option Char) := do
  discard (takeWhile isSpace)
  peek

/-- Takes the rest of a name that is known by its first character. -/
def literal (rest : List Char) : Reading Unit :=
  rest.forM fun expected => do
    if (← take) != expected then throw .malformed

/-! ## Texts -/

/-- Takes four hexadecimal digits. The text has ended only if fewer than four bytes are left. -/
def hexFour : Reading Nat := do
  let left ← get
  match left.take 4, hexValue? (left.take 4) with
  | [_, _, _, _], some value =>
    set (left.drop 4)
    return value
  | front, _ =>
    if (String.ofList front).utf8ByteSize < 4 then throw .ended else throw .malformed

/-- Takes what follows the mark of a numbered character. A character beyond four digits is written as
two halves, and neither half may stand alone. -/
def numberedChar : Reading Char := do
  let first ← hexFour
  if 0xDC00 ≤ first ∧ first ≤ 0xDFFF then throw .malformed
  else if first < 0xD800 ∨ 0xDBFF < first then return Char.ofNat first
  else
    if (← take) != '\\' then throw .malformed
    if (← take) != 'u' then throw .malformed
    let second ← hexFour
    if second < 0xDC00 ∨ 0xDFFF < second then throw .malformed
    return Char.ofNat ((first - 0xD800) * 0x400 + (second - 0xDC00) + 0x10000)

/-- The character that a letter stands for behind a backslash. -/
def escaped? : Char → Option Char
  | '"' => some '"'
  | '\\' => some '\\'
  | '/' => some '/'
  | 'b' => some '\x08'
  | 'f' => some '\x0c'
  | 'n' => some '\n'
  | 'r' => some '\r'
  | 't' => some '\t'
  | _ => none

/-- Takes what is left of a text behind the characters `front`, which are in reverse. -/
def textFrom : (fuel : Nat) → (front : List Char) → Reading String
  | 0, _ => throw .ended
  | fuel + 1, front => do
    match ← take with
    | '"' => return String.ofList front.reverse
    | '\\' =>
      let letter ← take
      if letter = 'u' then textFrom fuel ((← numberedChar) :: front)
      else
        match escaped? letter with
        | some c => textFrom fuel (c :: front)
        | none => throw .malformed
    | c => if c < ' ' then throw .malformed else textFrom fuel (c :: front)

/-- Takes a text behind its first quotation mark. -/
def text : Reading String := do
  textFrom ((← get).length + 1) []

/-! ## Numbers -/

/-- Takes the digits in front. -/
def digits : Reading (List Char) :=
  takeWhile Char.isDigit

/-- The greatest whole number that is kept as such. -/
def maxInteger : Nat := Nat.pow 2 64 - 1

/-- Adds digits to a whole number for as long as it can be kept: the number, and the digits that are
left over. -/
def absorb : Nat → List Char → Nat × List Char
  | value, [] => (value, [])
  | value, c :: rest =>
    let next := value * 10 + (c.toNat - '0'.toNat)
    if maxInteger < next then (value, c :: rest) else absorb next rest

/-- The greatest power of ten that is a number of its own. -/
def maxPower : Nat := 308

/-- A power of ten. -/
def powerOfTen (n : Nat) : Float :=
  Float.ofScientific 1 false n

/-- A number divided by a power of ten, by no power greater than the greatest at once. -/
def scaleDown (value : Float) (n : Nat) : Float :=
  if n ≤ maxPower then value / powerOfTen n
  else if value == 0 then value
  else scaleDown (value / powerOfTen maxPower) (n - maxPower)
  termination_by n
  decreasing_by simp only [maxPower] at *; omega

/-- A whole number times a power of ten, unless that is out of range. -/
def scale? (significand : Nat) (exponent : Int) : Option Float :=
  let value := significand.toUInt64.toFloat
  if exponent < 0 then some (scaleDown value (-exponent).toNat)
  else if exponent ≤ maxPower then
    let scaled := value * powerOfTen exponent.toNat
    if scaled.isInf then none else some scaled
  else if significand = 0 then some value
  else none

/-- The greatest exponent that is looked at. -/
def maxExponent : Nat := Nat.pow 2 31 - 1

/-- A number with a sign. -/
def signed (isNegative : Bool) (value : Float) : Found :=
  .floating (if isNegative then -value else value)

/-- Takes an exponent, if there is one, and makes the number. -/
def scaled (isNegative : Bool) (significand : Nat) (exponent : Int) : Reading Found := do
  let finish (exponent : Int) : Reading Found :=
    match scale? significand exponent with
    | some value => return signed isNegative value
    | none => throw .malformed
  match ← peek with
  | some 'e' | some 'E' =>
    advance
    let isDown := (← peek) == some '-'
    if isDown ∨ (← peek) == some '+' then advance
    let first ← take
    if ¬ first.isDigit then throw .malformed
    let size := (first :: (← digits)).foldl (fun n c => n * 10 + (c.toNat - '0'.toNat)) 0
    if maxExponent < size then
      if significand ≠ 0 ∧ ¬ isDown then throw .malformed else return signed isNegative 0
    else finish (if isDown then exponent - size else exponent + size)
  | _ => finish exponent

/-- Takes a number behind its sign. A whole number that cannot be kept, like the zero with a minus
sign, is a floating one. -/
def number (isNegative : Bool) : Reading Found := do
  let first ← take
  if ¬ first.isDigit then throw .malformed
  let whole ← digits
  if first = '0' ∧ whole ≠ [] then throw .malformed
  let (significand, left) := absorb 0 (first :: whole)
  match ← peek with
  | some '.' =>
    advance
    let fraction ← digits
    if fraction = [] then
      if (← peek).isNone then throw .ended else throw .malformed
    let (significand, unused) := absorb significand fraction
    scaled isNegative significand (left.length - (fraction.length - unused.length : Nat))
  | some 'e' | some 'E' => scaled isNegative significand left.length
  | _ =>
    if left ≠ [] then scaled isNegative significand left.length
    else if ¬ isNegative then return .integer significand
    else if significand = 0 ∨ Nat.pow 2 63 < significand then
      return signed true significand.toUInt64.toFloat
    else return .integer (-significand)

/-! ## Sequences and maps -/

/-- Goes to the next item of a sequence, if there is one. -/
def nextItem (isFirst : Bool) : Reading Bool := do
  match ← look with
  | none => throw .ended
  | some ']' => return false
  | some c =>
    if isFirst then return true
    else if c != ',' then throw .malformed
    else
      advance
      match ← look with
      | none => throw .ended
      | some ']' => throw .malformed
      | some _ => return true

/-- Leaves a sequence of which no more is wanted. -/
def endSequence : Reading Unit := do
  match ← look with
  | none => throw .ended
  | some ']' => advance
  | some _ => throw .malformed

/-- Takes the next key of a map, if there is one. -/
def nextKey (isFirst : Bool) : Reading (Option String) := do
  match ← look with
  | none => throw .ended
  | some '}' => return none
  | some c =>
    if ¬ isFirst then
      if c != ',' then throw .malformed
      advance
    match ← look with
    | none => throw .ended
    | some '"' =>
      advance
      return some (← text)
    | some _ => throw .malformed

/-- Takes the colon behind a key. -/
def colon : Reading Unit := do
  match ← look with
  | none => throw .ended
  | some ':' => advance
  | some _ => throw .malformed

/-- Leaves a map. -/
def endMap : Reading Unit := do
  match ← look with
  | none => throw .ended
  | some '}' => advance
  | some _ => throw .malformed

end InputChain.Json
