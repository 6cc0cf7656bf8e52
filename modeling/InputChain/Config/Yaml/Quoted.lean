import InputChain.Config.Yaml.Fold

/-!
# Texts in quotes

Between single quotes a quote is written twice. Between double quotes a backslash changes what
follows it; at the end of a line it takes away the end of the line.

* `Yaml.quoted`: takes a text in quotes.
-/

namespace InputChain.Yaml

/-- Takes the character of a number with so many hexadecimal digits. -/
def numberedChar (count : Nat) : Reading Char := do
  let digits := (← get).rest.take count
  match if digits.length = count then hexValue? digits >>= charOfNumber? else none with
  | none => throw .malformed
  | some c =>
    for _ in digits do advance
    return c

/-- The character that a letter stands for behind a backslash. -/
def escaped? : Char → Option Char
  | '0' => some '\x00'
  | 'a' => some '\x07'
  | 'b' => some '\x08'
  | 't' | '\t' => some '\t'
  | 'n' => some '\n'
  | 'v' => some '\x0b'
  | 'f' => some '\x0c'
  | 'r' => some '\r'
  | 'e' => some '\x1b'
  | ' ' => some ' '
  | '"' => some '"'
  | '/' => some '/'
  | '\\' => some '\\'
  | 'N' => some '\x85'
  | '_' => some '\xa0'
  | 'L' => some '\u2028'
  | 'P' => some '\u2029'
  | _ => none

/-- Takes what a backslash changes, behind it. -/
def escapedChar : Reading Char := do
  let letter ← peek
  advance
  match letter with
  | some 'x' => numberedChar 2
  | some 'u' => numberedChar 4
  | some 'U' => numberedChar 8
  | letter =>
    match letter >>= escaped? with
    | some c => return c
    | none => throw .malformed

/-- Takes the characters up to a blank, the end of the line or the quote, and tells whether the end of
the line has been taken away. -/
def quotedWord (quote : Char) : (fuel : Nat) → Reading (List Char × Bool)
  | 0 => return ([], false)
  | fuel + 1 => do
    let next ← peekAt 1
    let goOn (c : Char) : Reading (List Char × Bool) := do
      let (rest, isJoined) ← quotedWord quote fuel
      return (c :: rest, isJoined)
    match ← peek with
    | none => return ([], false)
    | some c =>
      if isBlank c || isBreak c then return ([], false)
      else if c = quote then
        if quote = '\'' ∧ next = some quote then
          advance
          advance
          goOn quote
        else return ([], false)
      else if quote = '"' ∧ c = '\\' then
        advance
        if next.any isBreak then
          discard takeBreak
          return ([], true)
        else goOn (← escapedChar)
      else
        advance
        goOn c

/-- Takes what is left of a text behind its first quote. The marks of documents may not stand in
it. -/
def quotedFrom (quote : Char) : (fuel : Nat) → Reading (List Char)
  | 0 => throw .malformed
  | fuel + 1 => do
    if (← isMarker) ∨ (← peek) = none then throw .malformed
    let (word, isJoined) ← quotedWord quote fuel
    if (← peek) = some quote then
      advance
      return word
    else
      let gap ← gapFrom 0 fuel { isBroken := isJoined }
      return word ++ gap.fold ++ (← quotedFrom quote fuel)

/-- Takes a text in quotes. -/
def quoted (quote : Char) : Reading String := do
  advance
  return String.ofList (← quotedFrom quote (← bound))

end InputChain.Yaml
