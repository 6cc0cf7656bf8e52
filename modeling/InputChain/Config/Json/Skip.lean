import InputChain.Config.Json.Text

/-!
# Passing over a JSON value

A value that a description has no use for is passed over. It has to be well-formed, but its numbers
may be out of range and its texts need not be possible.

* `Json.skipValue`.
-/

namespace InputChain.Json

open Reading (peek advance)

/-- Passes over what is left of a text. -/
def skipTextFrom : (fuel : Nat) → Reading Unit
  | 0 => throw .ended
  | fuel + 1 => do
    match ← take with
    | '"' => return
    | '\\' =>
      let letter ← take
      if letter = 'u' then discard hexFour
      else if (escaped? letter).isNone then throw .malformed
      skipTextFrom fuel
    | c => if c < ' ' then throw .malformed else skipTextFrom fuel

/-- Passes over a text behind its first quotation mark. -/
def skipText : Reading Unit := do
  skipTextFrom ((← get).length + 1)

/-- Passes over digits, of which there must be one. -/
def skipDigits : Reading Unit := do
  if (← digits) = [] then throw .malformed

/-- Passes over an exponent, if there is one. -/
def skipExponent : Reading Unit := do
  match ← peek with
  | some 'e' | some 'E' =>
    advance
    match ← peek with
    | some '+' | some '-' => advance
    | _ => pure ()
    skipDigits
  | _ => return

/-- Passes over a number behind its sign. -/
def skipNumber : Reading Unit := do
  match ← digits with
  | [] => throw .malformed
  | first :: rest =>
    if first = '0' ∧ rest ≠ [] then throw .malformed
    if (← peek) = some '.' then
      advance
      skipDigits
    skipExponent

mutual

/-- Passes over a value. -/
def skipValueWith : (fuel : Nat) → Reading Unit
  | 0 => throw .ended
  | fuel + 1 => do
    match ← look with
    | none => throw .ended
    | some c =>
      if c.isDigit then skipNumber
      else
        advance
        match c with
        | 'n' => literal ['u', 'l', 'l']
        | 't' => literal ['r', 'u', 'e']
        | 'f' => literal ['a', 'l', 's', 'e']
        | '-' => skipNumber
        | '"' => skipText
        | '[' => skipItems fuel true
        | '{' => skipEntries fuel true
        | _ => throw .malformed

/-- Passes over the items left in a sequence. -/
def skipItems : (fuel : Nat) → (isFirst : Bool) → Reading Unit
  | 0, _ => throw .ended
  | fuel + 1, isFirst => do
    if ← nextItem isFirst then
      skipValueWith fuel
      skipItems fuel false
    else advance

/-- Passes over the entries left in a map. -/
def skipEntries : (fuel : Nat) → (isFirst : Bool) → Reading Unit
  | 0, _ => throw .ended
  | fuel + 1, isFirst => do
    match ← look with
    | none => throw .ended
    | some '}' => advance
    | some c =>
      if ¬ isFirst then
        if c != ',' then throw .malformed
        advance
      match ← look with
      | none => throw .ended
      | some '"' =>
        advance
        skipText
        colon
        skipValueWith fuel
        skipEntries fuel false
      | some _ => throw .malformed

end

/-- Passes over a value. Each part of it takes a character of the text. -/
def skipValue : Reading Unit := do
  skipValueWith (2 * (← get).length + 2)

end InputChain.Json
